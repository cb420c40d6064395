import TopoExec.Lib.Accepts
import TopoExec.Graph.Template

/-! # Nodes of a graph document

The tree that the YAML library hands to the loader, and the loader's accessors over it.
The library itself is not modelled: how it reads a document, how it converts a scalar and
how it prints a node are the functions of a `YamlLibrary`.

Aliases only share nodes that nobody writes to, so a document is a tree. Of yaml-cpp's
nodes the accessors assume what the library documents:

* a key may occur twice in a mapping, and a subscript finds the first entry whose key is a
  scalar with that text;
* a subscript of a mapping without the key, of a null and of a sequence is an undefined
  node, which tests false; a null value tests as `IsNull`;
* a subscript of a scalar throws `BadSubscript`;
* `as<std::string>()` of a null is the text `null`, and of a sequence or a mapping it
  throws, as every other conversion does of what is no scalar;
* `output[key] = value` replaces the first entry of the key, or appends one.
-/

namespace TopoExec

/-- `YAML::Node`. -/
inductive YamlNode where
  | null
  | scalar (text : String)
  | sequence (items : List YamlNode)
  | map (entries : List (YamlNode × YamlNode))

/-- What the loader throws: an `std::invalid_argument` of its own, or an exception of the
library with a text of the library. -/
inductive LoadError where
  | invalidArgument (message : String)
  | yaml
deriving DecidableEq, Repr

/-- `load` is `none` where `YAML::Load` throws, and a conversion where `as` throws.
`double` values are taken to be finite. -/
structure YamlLibrary where
  load : List UInt8 → Option YamlNode
  aliasReferences : List UInt8 → Nat
  intOf : String → Option Int
  doubleOf : String → Option Rat
  boolOf : String → Option Bool
  emit : YamlNode → String

/-- The checks that the expansion shares. -/
def orInvalid {α : Type} (check : Except String α) : Except LoadError α :=
  check.mapError LoadError.invalidArgument

def invalid {α : Type} (message : String) : Except LoadError α :=
  .error (.invalidArgument message)

namespace YamlNode

def isMap : YamlNode → Bool
  | .map _ => true
  | _ => false

def isSequence : YamlNode → Bool
  | .sequence _ => true
  | _ => false

/-- `as<std::string>()`. -/
def asString : YamlNode → Except LoadError String
  | .null => .ok "null"
  | .scalar text => .ok text
  | .sequence _ => .error .yaml
  | .map _ => .error .yaml

/-- A conversion of a scalar. -/
def convert {α : Type} (conversion : String → Option α) : YamlNode → Except LoadError α
  | .scalar text => ((conversion text).map .ok).getD (.error .yaml)
  | _ => .error .yaml

def isKey (key : String) : YamlNode → Bool
  | .scalar text => text = key
  | _ => false

def lookup (key : String) (entries : List (YamlNode × YamlNode)) : Option YamlNode :=
  (entries.find? fun entry => entry.1.isKey key).map Prod.snd

/-- `node[key]` together with the test `!child || child.IsNull()` that follows it. A
scalar has no subscripts. -/
def field (key : String) : YamlNode → Except LoadError (Option YamlNode)
  | .null => .ok none
  | .scalar _ => .error .yaml
  | .sequence _ => .ok none
  | .map entries =>
      .ok (match lookup key entries with
        | none => none
        | some .null => none
        | some child => some child)

/-- `output[key] = value`. -/
def assign (key : String) (value : YamlNode) : List (YamlNode × YamlNode) →
    List (YamlNode × YamlNode)
  | [] => [(.scalar key, value)]
  | entry :: rest =>
      if entry.1.isKey key then (entry.1, value) :: rest else entry :: assign key value rest

end YamlNode

/-! ## Accessors -/

def requireMap (node : YamlNode) (context : String) :
    Except LoadError (List (YamlNode × YamlNode)) :=
  match node with
  | .map entries => .ok entries
  | _ => invalid (context ++ " must be a mapping")

def requireSequence (node : YamlNode) (context : String) : Except LoadError (List YamlNode) :=
  match node with
  | .sequence items => .ok items
  | _ => invalid (context ++ " must be a sequence")

def requireNode (node : YamlNode) (key context : String) : Except LoadError YamlNode := do
  match ← node.field key with
  | none => invalid (context ++ "." ++ key ++ " is required")
  | some child => return child

def requireString (node : YamlNode) (key context : String) : Except LoadError String := do
  (← requireNode node key context).asString

def optionalString (node : YamlNode) (key : String) (fallback : String := "") :
    Except LoadError String := do
  match ← node.field key with
  | none => return fallback
  | some child => child.asString

/-- `optional_int`, `optional_double` and `optional_bool`: a failed conversion is
reported by the loader. -/
def optionalScalar {α : Type} (conversion : String → Option α) (kind : String) (node : YamlNode)
    (key : String) (fallback : α) : Except LoadError α := do
  match ← node.field key with
  | none => return fallback
  | some child =>
      match child.convert conversion with
      | .ok value => return value
      | .error _ => invalid ("field " ++ key ++ " must be " ++ kind)

def optionalInt (library : YamlLibrary) (node : YamlNode) (key : String) (fallback : Int := 0) :
    Except LoadError Int :=
  optionalScalar library.intOf "an integer" node key fallback

def optionalDouble (library : YamlLibrary) (node : YamlNode) (key : String) (fallback : Rat := 0) :
    Except LoadError Rat :=
  optionalScalar library.doubleOf "a number" node key fallback

def optionalBool (library : YamlLibrary) (node : YamlNode) (key : String)
    (fallback : Bool := false) : Except LoadError Bool :=
  optionalScalar library.boolOf "a boolean (true/false)" node key fallback

/-- A sequence of values under a key, none of them if the key is not there. -/
def optionalVector {α : Type} (value : YamlNode → Except LoadError α) (node : YamlNode)
    (key context : String) : Except LoadError (List α) := do
  match ← node.field key with
  | none => return []
  | some child => (← requireSequence child (context ++ "." ++ key)).mapM value

def optionalStringVector (node : YamlNode) (key context : String) :
    Except LoadError (List String) :=
  optionalVector YamlNode.asString node key context

def optionalIntVector (library : YamlLibrary) (node : YamlNode) (key context : String) :
    Except LoadError (List Int) :=
  optionalVector (YamlNode.convert library.intOf) node key context

def rejectUnknownFields (node : YamlNode) (context : String) (allowed : List String) :
    Except LoadError Unit :=
  match node with
  | .null => .ok ()
  | _ => do
      let entries ← requireMap node context
      entries.forM fun entry => do
        let key ← entry.1.asString
        Check.refuse (key ∉ allowed)
          (.invalidArgument ("unexpected field " ++ context ++ "." ++ key))

/-! ## Limits -/

/-- `GraphInputLimits` with all its fields. -/
structure LoaderLimits extends TemplateLimits where
  maxGraphInputBytes : Nat := 1024 * 1024
  maxLanes : Nat := 256
  maxComponents : Nat := 4096
  maxEdges : Nat := 8192
  maxCompositeLoops : Nat := 1024
  maxConfigDepth : Nat := 8
  maxConfigValueBytes : Nat := 4096
  maxYamlAliasCount : Nat := 32
deriving DecidableEq, Repr

def enforceLimit (value limit : Nat) (context : String) : Except LoadError Unit :=
  Check.refuse (limit < value)
    (.invalidArgument (context ++ " exceeds limit " ++ toString limit))

end TopoExec
