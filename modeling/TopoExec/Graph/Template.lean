import TopoExec.Graph.Subgraph
import TopoExec.Lib.OrderedMap
import TopoExec.Lib.Text

/-! # Template parameters

`substitute_placeholders` walks over a value with a cursor and writes the values of the
parameters in place of their names. `templateSplit` says in one pass where the names
stand, and `TemplateSplit.substitute` what the loop makes of them.

The loader has checked that its input is UTF-8, so that values are strings of characters.
A brace is a byte of its own there: positions are counted in characters, sizes in bytes.
-/

namespace TopoExec

/-- The limits of identifiers, and the one of strings. -/
structure TemplateLimits extends GraphInputLimits where
  maxStringBytes : Nat := 4096
deriving DecidableEq, Repr

/-- `value.find(word, start)`, for a start in the value. -/
def findFrom (word value : List Char) (start : Nat) : Option Nat :=
  (Text.firstIndex word (value.drop start)).map (start + ·)

def openBraces : List Char := ['{', '{']

def closeBraces : List Char := ['}', '}']

theorem openBraces_length : openBraces.length = 2 := rfl

theorem closeBraces_length : closeBraces.length = 2 := rfl

/-- A word is found between the start and the end of the text. -/
theorem findFrom_bounds {word value : List Char} {start position : Nat}
    (h : findFrom word value start = some position) :
    start ≤ position ∧ position + word.length ≤ max start value.length := by
  obtain ⟨i, hi, rfl⟩ := Option.map_eq_some_iff.1 h
  have hle := Text.firstIndex_le hi
  rw [List.length_drop] at hle
  omega

section

variable (limits : TemplateLimits)

def enforceStringLimit (value context : String) : Except String Unit :=
  if limits.maxStringBytes < value.utf8ByteSize then
    .error (context ++ " length exceeds limit " ++ toString limits.maxStringBytes)
  else .ok ()

variable (value : List Char) (parameters : OrderedMap String String) (context : String)

/-- The lookup of a name in the loop body. -/
def parameterValue (name : String) : Except String String := do
  let _ ← checkedIdentifier limits.toGraphInputLimits name (context ++ " parameter")
  match parameters.find name with
  | none => throw (context ++ " references missing template parameter " ++ name)
  | some found => return found

/-- The loop. -/
def substituteLoop (cursor : Nat) (output : List Char) : Except String (List Char) :=
  if cursor < value.length then
    match _hopen : findFrom openBraces value cursor with
    | none => .ok (output ++ value.drop cursor)
    | some opened =>
        match _hclose : findFrom closeBraces value (opened + 2) with
        | none => .error (context ++ " has an unterminated template parameter")
        | some closed =>
            let name := String.ofList ((value.drop (opened + 2)).take (closed - opened - 2))
            match parameterValue limits parameters context name with
            | .error message => .error message
            | .ok found =>
                substituteLoop (closed + 2)
                  (output ++ (value.drop cursor).take (opened - cursor) ++ found.toList)
  else .ok output
termination_by value.length - cursor
decreasing_by
  have hopened := findFrom_bounds _hopen
  have hclosed := findFrom_bounds _hclose
  omega

end

def substitutePlaceholders (limits : TemplateLimits) (value : String)
    (parameters : OrderedMap String String) (context : String) : Except String String := do
  let output ← substituteLoop limits value.toList parameters context 0 []
  enforceStringLimit limits (String.ofList output) context
  return String.ofList output

/-! ## The reference -/

/-- A value taken apart: the texts with the names that follow them, and the text after
the last name. If the value is unterminated, a `{{` without `}}` follows that text. -/
structure TemplateSplit where
  placeholders : List (List Char × String) := []
  rest : List Char := []
  unterminated : Bool := false
deriving DecidableEq, Repr

/-- What is left is shorter by the word: the measure of the split. -/
theorem splitFirst_length {word value before after : List Char}
    (h : Text.splitFirst word value = some (before, after)) :
    after.length + word.length ≤ value.length := by
  rw [Text.splitFirst_eq] at h
  obtain ⟨i, hi, hparts⟩ := Option.map_eq_some_iff.1 h
  have hle := Text.firstIndex_le hi
  rw [← (Prod.mk.inj hparts).2, List.length_drop]
  omega

/-- At the leftmost `{{`, and the next `}}` after it, and so on with what is left. -/
def templateSplit (value : List Char) : TemplateSplit :=
  match _hopen : Text.splitFirst openBraces value with
  | none => { rest := value }
  | some (text, opened) =>
      match _hclose : Text.splitFirst closeBraces opened with
      | none => { rest := text, unterminated := true }
      | some (name, left) =>
          let split := templateSplit left
          { split with placeholders := (text, String.ofList name) :: split.placeholders }
termination_by value.length
decreasing_by
  have hopened := splitFirst_length _hopen
  have hclosed := splitFirst_length _hclose
  have htwo := openBraces_length
  omega

namespace TemplateSplit

section

variable (limits : TemplateLimits) (parameters : OrderedMap String String) (context : String)

/-- The texts and the values of the parameters, one after the other. -/
def insertParameters : List (List Char × String) → Except String (List Char)
  | [] => .ok []
  | (text, name) :: placeholders => do
      let found ← parameterValue limits parameters context name
      let inserted ← insertParameters placeholders
      return text ++ found.toList ++ inserted

def fill (split : TemplateSplit) : Except String (List Char) := do
  let inserted ← insertParameters limits parameters context split.placeholders
  if split.unterminated then throw (context ++ " has an unterminated template parameter")
  return inserted ++ split.rest

/-- The reference substitution. -/
def substitute (split : TemplateSplit) : Except String String := do
  let output ← split.fill limits parameters context
  enforceStringLimit limits (String.ofList output) context
  return String.ofList output

/-- The text of the result, where a name without a value counts as empty. -/
def render (split : TemplateSplit) : String :=
  String.ofList (split.placeholders.flatMap (fun placeholder =>
    placeholder.1 ++ ((parameters.find placeholder.2).getD "").toList) ++ split.rest)

/-- What the substitution fails on. -/
def Fails (split : TemplateSplit) : Prop :=
  split.unterminated = true ∨
    (∃ placeholder ∈ split.placeholders,
      placeholder.2 = "" ∨ limits.maxIdentifierBytes < placeholder.2.utf8ByteSize) ∨
    (∃ placeholder ∈ split.placeholders, parameters.find placeholder.2 = none) ∨
    limits.maxStringBytes < (split.render parameters).utf8ByteSize

end

end TemplateSplit

/-! ## The loop against the reference -/

/-- `find` from a position splits the text that is left there. -/
theorem splitFirst_of_findFrom {word value : List Char} {start position : Nat}
    (h : findFrom word value start = some position) :
    Text.splitFirst word (value.drop start) =
      some ((value.drop start).take (position - start), value.drop (position + word.length)) := by
  obtain ⟨i, hi, rfl⟩ := Option.map_eq_some_iff.1 h
  rw [Text.splitFirst_eq, hi, Option.map_some, List.drop_drop, Nat.add_sub_cancel_left,
    Nat.add_assoc]

/-- `npos` means that the text that is left does not contain the word. -/
theorem splitFirst_of_findFrom_none {word value : List Char} {start : Nat}
    (h : findFrom word value start = none) : Text.splitFirst word (value.drop start) = none := by
  rw [Text.splitFirst_eq, Option.map_eq_none_iff.1 h, Option.map_none]

/-- A text without braces is kept. -/
theorem templateSplit_plain {value : List Char} (h : Text.splitFirst openBraces value = none) :
    templateSplit value = { rest := value } := by
  rw [templateSplit]
  split
  · rfl
  · rename_i hopen
    rw [h] at hopen
    cases hopen

/-- An opened placeholder that is not closed ends the split. -/
theorem templateSplit_unterminated {value text opened : List Char}
    (hopen : Text.splitFirst openBraces value = some (text, opened))
    (hclose : Text.splitFirst closeBraces opened = none) :
    templateSplit value = { rest := text, unterminated := true } := by
  rw [templateSplit]
  split
  · rename_i h
    rw [hopen] at h
    cases h
  · rename_i h
    rw [hopen] at h
    cases h
    split
    · rfl
    · rename_i h
      rw [hclose] at h
      cases h

/-- The first placeholder is split off, and the rest is split the same way. -/
theorem templateSplit_placeholder {value text opened name left : List Char}
    (hopen : Text.splitFirst openBraces value = some (text, opened))
    (hclose : Text.splitFirst closeBraces opened = some (name, left)) :
    templateSplit value =
      { templateSplit left with
        placeholders := (text, String.ofList name) :: (templateSplit left).placeholders } := by
  rw [templateSplit]
  split
  · rename_i h
    rw [hopen] at h
    cases h
  · rename_i h
    rw [hopen] at h
    cases h
    split
    · rename_i h
      rw [hclose] at h
      cases h
    · rename_i h
      rw [hclose] at h
      cases h
      rfl

section

variable (limits : TemplateLimits) (parameters : OrderedMap String String) (context : String)

/-- The first placeholder comes first, also in what fails. -/
theorem fill_cons (text : List Char) (name : String) (split : TemplateSplit) :
    ({ split with placeholders := (text, name) :: split.placeholders } : TemplateSplit).fill
        limits parameters context =
      match parameterValue limits parameters context name with
      | .error message => .error message
      | .ok found =>
          (split.fill limits parameters context).map (text ++ found.toList ++ ·) := by
  simp only [TemplateSplit.fill, TemplateSplit.insertParameters]
  cases parameterValue limits parameters context name with
  | error message => rfl
  | ok found =>
      cases TemplateSplit.insertParameters limits parameters context split.placeholders with
      | error message => rfl
      | ok inserted =>
          cases split.unterminated with
          | true => rfl
          | false =>
              change Except.ok (text ++ found.toList ++ inserted ++ split.rest) =
                Except.ok (text ++ found.toList ++ (inserted ++ split.rest))
              rw [List.append_assoc]

/-- From any position on, the loop appends what the reference makes of the rest. -/
theorem substituteLoop_eq (value : List Char) (cursor : Nat) (output : List Char) :
    substituteLoop limits value parameters context cursor output =
      ((templateSplit (value.drop cursor)).fill limits parameters context).map (output ++ ·) := by
  fun_induction substituteLoop limits value parameters context cursor output with
  | case1 cursor output hlt hopen =>
      rw [templateSplit_plain (splitFirst_of_findFrom_none hopen)]
      rfl
  | case2 cursor output hlt opened hopen hclose =>
      rw [templateSplit_unterminated (splitFirst_of_findFrom hopen)
        (splitFirst_of_findFrom_none hclose)]
      rfl
  | case3 cursor output hlt opened hopen closed hclose name message hvalue =>
      rw [templateSplit_placeholder (splitFirst_of_findFrom hopen) (splitFirst_of_findFrom hclose),
        fill_cons, ← Nat.sub_sub, openBraces_length, hvalue]
      rfl
  | case4 cursor output hlt opened hopen closed hclose name found hvalue ih =>
      rw [templateSplit_placeholder (splitFirst_of_findFrom hopen) (splitFirst_of_findFrom hclose),
        fill_cons, ← Nat.sub_sub, openBraces_length, closeBraces_length, hvalue, ih]
      cases (templateSplit (value.drop (closed + 2))).fill limits parameters context with
      | error message => rfl
      | ok inserted => simp [Except.map]
  | case5 cursor output hge =>
      rw [List.drop_eq_nil_of_le (Nat.le_of_not_lt hge), templateSplit_plain rfl]
      change Except.ok output = Except.ok (output ++ [])
      rw [List.append_nil]

/-- The loop of the source substitutes what the split says. -/
theorem substitutePlaceholders_eq_substitute (value : String) :
    substitutePlaceholders limits value parameters context =
      (templateSplit value.toList).substitute limits parameters context := by
  rw [substitutePlaceholders, TemplateSplit.substitute, substituteLoop_eq, List.drop_zero]
  cases (templateSplit value.toList).fill limits parameters context <;> rfl

/-! ## When the reference fails -/

/-- A name passes when it is not empty and not too long. -/
theorem enforceIdentifierLimit_eq_ok_iff (limits : GraphInputLimits) (value context : String) :
    enforceIdentifierLimit limits value context = .ok () ↔
      value ≠ "" ∧ value.utf8ByteSize ≤ limits.maxIdentifierBytes := by
  rw [enforceIdentifierLimit]
  split_ifs with hempty hlong
  · simp [hempty]
  · simp only [false_iff]
    omega
  · simp only [true_iff]
    exact ⟨hempty, by omega⟩

/-- A placeholder has a value when its name passes and is a parameter. -/
theorem parameterValue_eq_ok_iff (name found : String) :
    parameterValue limits parameters context name = .ok found ↔
      (name ≠ "" ∧ name.utf8ByteSize ≤ limits.maxIdentifierBytes) ∧
        parameters.find name = some found := by
  rw [parameterValue, ← enforceIdentifierLimit_eq_ok_iff _ _ (context ++ " parameter"),
    checkedIdentifier]
  cases enforceIdentifierLimit limits.toGraphInputLimits name (context ++ " parameter") with
  | error message =>
      constructor
      · intro h
        cases h
      · rintro ⟨h, -⟩
        cases h
  | ok checked =>
      cases parameters.find name with
      | none =>
          constructor
          · intro h
            cases h
          · rintro ⟨-, h⟩
            cases h
      | some value =>
          constructor
          · intro h
            cases h
            exact ⟨rfl, rfl⟩
          · rintro ⟨-, h⟩
            cases h
            rfl

/-- A name that the loop can replace. -/
def TemplateSplit.Known (name : String) : Prop :=
  (name ≠ "" ∧ name.utf8ByteSize ≤ limits.maxIdentifierBytes) ∧ parameters.find name ≠ none

/-- By induction on the placeholders. -/
theorem insertParameters_eq_ok_iff (placeholders : List (List Char × String))
    (output : List Char) :
    TemplateSplit.insertParameters limits parameters context placeholders = .ok output ↔
      (∀ placeholder ∈ placeholders, TemplateSplit.Known limits parameters placeholder.2) ∧
      output = placeholders.flatMap (fun placeholder =>
        placeholder.1 ++ ((parameters.find placeholder.2).getD "").toList) := by
  induction placeholders generalizing output with
  | nil =>
      constructor
      · intro h
        cases h
        exact ⟨fun _ hmem => absurd hmem List.not_mem_nil, rfl⟩
      · rintro ⟨-, rfl⟩
        rfl
  | cons placeholder placeholders ih =>
      obtain ⟨text, name⟩ := placeholder
      rw [TemplateSplit.insertParameters, bind_eq_ok, List.forall_mem_cons]
      constructor
      -- the first placeholder that has no value ends the loop, so here all of them have one
      · rintro ⟨found, hfound, h⟩
        obtain ⟨inserted, hinserted, h⟩ := bind_eq_ok.1 h
        cases h
        obtain ⟨hname, hfind⟩ := (parameterValue_eq_ok_iff ..).1 hfound
        obtain ⟨hrest, rfl⟩ := (ih inserted).1 hinserted
        refine ⟨⟨⟨hname, by simp [hfind]⟩, hrest⟩, ?_⟩
        rw [List.flatMap_cons, hfind, Option.getD_some]
      · rintro ⟨⟨⟨hname, hknown⟩, hrest⟩, rfl⟩
        obtain ⟨found, hfind⟩ := Option.ne_none_iff_exists'.1 hknown
        refine ⟨found, (parameterValue_eq_ok_iff ..).2 ⟨hname, hfind⟩, bind_eq_ok.2
          ⟨_, (ih _).2 ⟨hrest, rfl⟩, ?_⟩⟩
        rw [List.flatMap_cons, hfind, Option.getD_some]
        rfl

/-- A split is filled when it is closed and all its names are known. -/
theorem fill_eq_ok_iff (split : TemplateSplit) (output : List Char) :
    split.fill limits parameters context = .ok output ↔
      split.unterminated = false ∧
        (∀ placeholder ∈ split.placeholders,
          TemplateSplit.Known limits parameters placeholder.2) ∧
        String.ofList output = split.render parameters := by
  rw [TemplateSplit.fill, bind_eq_ok, TemplateSplit.render]
  constructor
  · rintro ⟨inserted, hinserted, h⟩
    obtain ⟨hknown, rfl⟩ := (insertParameters_eq_ok_iff ..).1 hinserted
    cases hunterminated : split.unterminated with
    | true =>
        rw [hunterminated] at h
        cases h
    | false =>
        rw [hunterminated] at h
        cases h
        exact ⟨rfl, hknown, rfl⟩
  · rintro ⟨hunterminated, hknown, houtput⟩
    refine ⟨_, (insertParameters_eq_ok_iff ..).2 ⟨hknown, rfl⟩, ?_⟩
    rw [hunterminated, String.ofList_injective houtput]
    rfl

/-- The conditions of failure, denied. -/
theorem not_fails_iff (split : TemplateSplit) :
    ¬ split.Fails limits parameters ↔
      split.unterminated = false ∧
        (∀ placeholder ∈ split.placeholders,
          TemplateSplit.Known limits parameters placeholder.2) ∧
        (split.render parameters).utf8ByteSize ≤ limits.maxStringBytes := by
  unfold TemplateSplit.Fails TemplateSplit.Known
  push Not
  constructor
  · rintro ⟨hunterminated, hnames, hfound, hsize⟩
    exact ⟨by simpa using hunterminated,
      fun placeholder hmem => ⟨hnames placeholder hmem, hfound placeholder hmem⟩, hsize⟩
  · rintro ⟨hunterminated, hknown, hsize⟩
    exact ⟨by simpa using hunterminated, fun placeholder hmem => (hknown placeholder hmem).1,
      fun placeholder hmem => (hknown placeholder hmem).2, hsize⟩

/-- A substitution succeeds when it does not fail, and then gives the rendered text. -/
theorem substitute_eq_ok_iff (split : TemplateSplit) (result : String) :
    split.substitute limits parameters context = .ok result ↔
      ¬ split.Fails limits parameters ∧ result = split.render parameters := by
  rw [TemplateSplit.substitute, bind_eq_ok, not_fails_iff]
  constructor
  · rintro ⟨output, houtput, h⟩
    obtain ⟨hunterminated, hknown, hrender⟩ := (fill_eq_ok_iff ..).1 houtput
    rw [hrender, enforceStringLimit] at h
    by_cases hsize : limits.maxStringBytes < (split.render parameters).utf8ByteSize
    · rw [if_pos hsize] at h
      cases h
    · rw [if_neg hsize] at h
      cases h
      exact ⟨⟨hunterminated, hknown, Nat.le_of_not_lt hsize⟩, rfl⟩
  · rintro ⟨⟨hunterminated, hknown, hsize⟩, rfl⟩
    have hrender : String.ofList (split.render parameters).toList = split.render parameters :=
      String.ofList_toList
    refine ⟨(split.render parameters).toList,
      (fill_eq_ok_iff ..).2 ⟨hunterminated, hknown, hrender⟩, ?_⟩
    rw [hrender, enforceStringLimit, if_neg (Nat.not_lt.2 hsize)]
    rfl

/-- A text that contains no open braces is kept. -/
theorem templateSplit_of_no_open {value : String} (h : ¬ openBraces <:+: value.toList) :
    templateSplit value.toList = { rest := value.toList } := by
  apply templateSplit_plain
  rw [Text.splitFirst_eq, Text.firstIndex_eq_none_iff.2 h, Option.map_none]

/-! ## The substitution -/

/-- The substitution is the reference one, it fails on exactly what the reference names,
else it returns the text with the values in the places of the names, and without a `{{`
this is the value itself. -/
theorem substitutePlaceholders_spec (value : String) :
    substitutePlaceholders limits value parameters context =
        (templateSplit value.toList).substitute limits parameters context ∧
      ((∃ message, substitutePlaceholders limits value parameters context = .error message) ↔
        (templateSplit value.toList).Fails limits parameters) ∧
      (∀ result, substitutePlaceholders limits value parameters context = .ok result ↔
        ¬ (templateSplit value.toList).Fails limits parameters ∧
          result = (templateSplit value.toList).render parameters) ∧
      (openBraces <:+: value.toList ∨
        substitutePlaceholders limits value parameters context =
          (enforceStringLimit limits value context).map fun _ => value) := by
  have hok : ∀ result, substitutePlaceholders limits value parameters context = .ok result ↔
      ¬ (templateSplit value.toList).Fails limits parameters ∧
        result = (templateSplit value.toList).render parameters := by
    intro result
    rw [substitutePlaceholders_eq_substitute, substitute_eq_ok_iff]
  refine ⟨substitutePlaceholders_eq_substitute .., ?_, hok, ?_⟩
  · constructor
    · rintro ⟨message, hmessage⟩
      by_contra hnot
      have hresult := (hok _).2 ⟨hnot, rfl⟩
      rw [hmessage] at hresult
      cases hresult
    · intro hfails
      -- a call either fails or returns, so the second part is the third one the other way round
      cases hresult : substitutePlaceholders limits value parameters context with
      | error message => exact ⟨message, rfl⟩
      | ok result => exact absurd hfails ((hok result).1 hresult).1
  · by_cases hopen : openBraces <:+: value.toList
    · exact Or.inl hopen
    · right
      -- without braces the value is the text behind the last placeholder
      rw [substitutePlaceholders_eq_substitute, templateSplit_of_no_open hopen]
      change (do enforceStringLimit limits (String.ofList value.toList) context
                 return String.ofList value.toList) = _
      rw [String.ofList_toList]
      cases enforceStringLimit limits value context <;> rfl

end

end TopoExec
