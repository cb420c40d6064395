import Mathlib.Data.String.Basic
import TopoExec.Lib.OrderedMap

/-! # The plugin loader

`load_plugin` opens a shared library, checks its manifest and lets it register its components.
What the dynamic linker answers and what the code of the library does is a `PluginLibrary`: its
register function makes calls of the registry, as it likes after what it finds there, and
returns or throws. A call of the registry that throws changes nothing.

`dlopen` gives a library that is open the handle that it has, and counts its references: the
library goes when `dlclose` was called as often as `dlopen`. A factory knows the handle of the
library that its code is in.
-/

namespace TopoExec

namespace Plugin

/-! ## The component registry -/

structure ComponentRegistration where
  type : String
  componentApiVersion : String := "1"
  runtimeMinVersion : String := "0.1.0"
  staticRegistration : Bool := true
  realtimeAllowed : Bool := false
  dryRunSafe : Bool := true
deriving DecidableEq, Repr

/-- The code of a factory, and the library that it is in. -/
structure ComponentFactory where
  library : Option Nat := none
  code : String
deriving DecidableEq, Repr

/-- The two maps have the same types. -/
structure ComponentRegistry where
  registrations : OrderedMap String ComponentRegistration
  factories : OrderedMap String ComponentFactory
  paired : ∀ type, (factories.find type).isSome = (registrations.find type).isSome
deriving DecidableEq

namespace ComponentRegistry

theorem paired_insert {registrations : OrderedMap String ComponentRegistration}
    {factories : OrderedMap String ComponentFactory}
    (h : ∀ type, (factories.find type).isSome = (registrations.find type).isSome)
    (key : String) (registration : ComponentRegistration) (factory : ComponentFactory)
    (type : String) : ((factories.insert key factory).find type).isSome =
      ((registrations.insert key registration).find type).isSome := by
  rw [OrderedMap.find_insert, OrderedMap.find_insert]
  split_ifs
  · rfl
  · exact h type

theorem paired_erase {registrations : OrderedMap String ComponentRegistration}
    {factories : OrderedMap String ComponentFactory}
    (h : ∀ type, (factories.find type).isSome = (registrations.find type).isSome)
    (key type : String) : ((factories.erase key).find type).isSome =
      ((registrations.erase key).find type).isSome := by
  rw [OrderedMap.find_erase, OrderedMap.find_erase]
  split_ifs
  · rfl
  · exact h type

def empty : ComponentRegistry := ⟨.empty, .empty, fun _ => rfl⟩

variable (registry : ComponentRegistry)

def contains (type : String) : Bool := (registry.registrations.find type).isSome

/-- A factory may be empty. -/
def registerComponent (registration : ComponentRegistration)
    (factory : Option ComponentFactory) : Except String (Bool × ComponentRegistry) :=
  if registration.type = "" then .error "component type must not be empty"
  else
    match factory with
    | none => .error "component factory must not be empty"
    | some factory =>
        if registry.contains registration.type then .ok (false, registry)
        else
          .ok (true,
            { registrations := registry.registrations.insert registration.type registration
              factories := registry.factories.insert registration.type factory
              paired := paired_insert registry.paired _ _ _ })

def unregister (type : String) : Bool × ComponentRegistry :=
  (registry.contains type,
    { registrations := registry.registrations.erase type
      factories := registry.factories.erase type
      paired := paired_erase registry.paired _ })

def metadata (type : String) : Option ComponentRegistration := registry.registrations.find type

/-- The factory that is called. -/
def create (type : String) : Except String ComponentFactory :=
  match registry.factories.find type with
  | none => .error ("component type is not registered: " ++ type)
  | some factory => .ok factory

def types : List String := registry.registrations.entries.map Prod.fst

end ComponentRegistry

/-! ## What a library answers -/

structure PluginComponentDescriptorView where
  type : Option String
  componentApiVersion : Option String
  realtimeAllowed : Bool
  dryRunSafe : Bool
deriving DecidableEq, Repr

/-- The texts may be null pointers, and so may the array of the components. -/
structure PluginManifestView where
  pluginId : Option String
  pluginApiVersion : Option String
  schemaVersion : Option String
  componentCount : Nat
  components : Option (Nat → PluginComponentDescriptorView)

inductive RegistryCall where
  | register (registration : ComponentRegistration) (code : Option String)
  | unregister (type : String)
deriving DecidableEq, Repr

/-- How the register function ends. -/
inductive Ending where
  | returned (ok : Bool)
  | threw (what : String)
  | threwOther
deriving DecidableEq, Repr

/-- `openError` is the text of `dlerror` where `dlopen` fails, `handle` is what it returns else;
a symbol may be missing with an error or be null without one, and the manifest may be null. -/
structure PluginLibrary where
  openError : Option (Option String) := none
  handle : Nat := 0
  manifestError : Option String := none
  manifestSymbol : Option (Option PluginManifestView)
  registerError : Option String := none
  registerSymbol : Option (ComponentRegistry → List RegistryCall × Ending)

/-! ## Results -/

structure PluginManifest where
  pluginId : String := ""
  pluginApiVersion : String := ""
  schemaVersion : String := ""
  components : List ComponentRegistration := []
deriving DecidableEq, Repr

structure PluginLoadOptions where
  requiredPluginApiVersion : String := "0"
  requiredSchemaVersion : String := "1"
  requireDeclaredComponents : Bool := true
  closeOnDestroy : Bool := false
deriving DecidableEq, Repr

structure PluginLoadError where
  code : String
  message : String
deriving DecidableEq, Repr

structure PluginLoadResult where
  ok : Bool := false
  manifest : PluginManifest := {}
  registeredComponents : List String := []
  errors : List PluginLoadError := []
deriving DecidableEq, Repr

structure LoadedPlugin where
  handle : Option Nat := none
  result : PluginLoadResult := {}
  closeOnDestroy : Bool := false
deriving DecidableEq, Repr

/-- What a move leaves behind. The texts and the lists may hold anything; here they are empty. -/
def LoadedPlugin.movedFrom (plugin : LoadedPlugin) : LoadedPlugin :=
  { result := { ok := plugin.result.ok } }

/-! ## The manifest -/

def safeCString (value : Option String) : String := value.getD ""

def copyComponent (component : PluginComponentDescriptorView) : ComponentRegistration :=
  let version := safeCString component.componentApiVersion
  { type := safeCString component.type
    componentApiVersion := if version = "" then "1" else version
    runtimeMinVersion := "0.1.0"
    staticRegistration := false
    realtimeAllowed := component.realtimeAllowed
    dryRunSafe := component.dryRunSafe }

def copyManifest (view : PluginManifestView) : PluginManifest × List PluginLoadError :=
  let manifest : PluginManifest :=
    { pluginId := safeCString view.pluginId
      pluginApiVersion := safeCString view.pluginApiVersion
      schemaVersion := safeCString view.schemaVersion }
  match view.components with
  | none =>
      if view.componentCount > 0 then
        (manifest, [⟨"manifest.components", "component descriptors pointer is required"⟩])
      else (manifest, [])
  | some components =>
      ({ manifest with
          components := (List.range view.componentCount).map fun index =>
            copyComponent (components index) },
        [])

/-- One error, if something is not as it has to be. -/
def require (condition : Bool) (code message : String) : List PluginLoadError :=
  if condition then [] else [⟨code, message⟩]

def validateManifestShape (manifest : PluginManifest) : List PluginLoadError :=
  require (manifest.pluginId ≠ "") "manifest.plugin_id" "plugin_id is required" ++
    require (manifest.pluginApiVersion ≠ "") "manifest.plugin_api_version"
      "plugin_api_version is required" ++
    require (manifest.schemaVersion ≠ "") "manifest.schema_version" "schema_version is required" ++
    require (!manifest.components.isEmpty) "manifest.components"
      "at least one component must be declared" ++
    manifest.components.flatMap fun component =>
      require (component.type ≠ "") "manifest.component.type" "component type is required"

def versionErrors (manifest : PluginManifest) (options : PluginLoadOptions) :
    List PluginLoadError :=
  require (manifest.pluginApiVersion = options.requiredPluginApiVersion) "version.plugin_api"
      "plugin_api_version mismatch" ++
    require (manifest.schemaVersion = options.requiredSchemaVersion) "version.schema"
      "schema_version mismatch"

/-! ## Registering -/

/-- A call that the code of that library makes, or with no library the program itself. -/
def RegistryCall.exec (library : Option Nat) (registry : ComponentRegistry) :
    RegistryCall → ComponentRegistry
  | .register registration code =>
      match registry.registerComponent registration
          (code.map fun code => { library, code }) with
      | .ok result => result.2
      | .error _ => registry
  | .unregister type => (registry.unregister type).2

/-- The registry after the register function of the library with that handle. -/
def runRegister (handle : Nat) (registry : ComponentRegistry)
    (registerFunction : ComponentRegistry → List RegistryCall × Ending) : ComponentRegistry :=
  (registerFunction registry).1.foldl (RegistryCall.exec (some handle)) registry

/-- `rollback_registered`. -/
def rollbackRegistered (beforeTypes : List String) (registry : ComponentRegistry) :
    ComponentRegistry :=
  registry.types.foldl
    (fun registry type =>
      if type ∈ beforeTypes then registry else (registry.unregister type).2) registry

/-- The errors about what was registered, and the types that are new. -/
def registeredResult (manifest : PluginManifest) (options : PluginLoadOptions)
    (beforeTypes : List String) (registry : ComponentRegistry) : PluginLoadResult :=
  let added := registry.types.filter fun type => type ∉ beforeTypes
  let undeclared := added.flatMap fun type =>
    require (!options.requireDeclaredComponents ||
        manifest.components.any fun component => component.type = type)
      "register.undeclared_component" ("plugin registered undeclared component " ++ type)
  let missing := manifest.components.flatMap fun component =>
    require (registry.contains component.type) "register.missing_component"
      ("plugin did not register declared component " ++ component.type)
  { ok := (undeclared ++ missing).isEmpty
    manifest
    registeredComponents := added
    errors := undeclared ++ missing }

/-! ## The host -/

/-- The program that loads plugins: its registry, the `dlopen` and the `dlclose` calls in their
order, the references that are open, a handle once for each, and the `LoadedPlugin` objects. -/
structure PluginHost where
  registry : ComponentRegistry := .empty
  dlopens : List Nat := []
  opened : List Nat := []
  closed : List Nat := []
  plugins : List LoadedPlugin := []

namespace PluginHost

def dlopen (host : PluginHost) (handle : Nat) : PluginHost :=
  { host with dlopens := host.dlopens ++ [handle], opened := host.opened ++ [handle] }

/-- A `dlclose` takes one reference away. -/
def closeHandle (host : PluginHost) (handle : Nat) : PluginHost :=
  { host with opened := host.opened.erase handle, closed := host.closed ++ [handle] }

/-- A load that fails after the library was opened. -/
def refuse (host : PluginHost) (handle : Nat) (manifest : PluginManifest)
    (errors : List PluginLoadError) : LoadedPlugin × PluginHost :=
  ({ result := { manifest, errors } }, host.closeHandle handle)

/-- `load_plugin` from the call of the register function on. -/
def registerPlugin (host : PluginHost) (handle : Nat) (manifest : PluginManifest)
    (options : PluginLoadOptions)
    (registerFunction : ComponentRegistry → List RegistryCall × Ending) :
    LoadedPlugin × PluginHost :=
  let beforeTypes := host.registry.types
  let registered := runRegister handle host.registry registerFunction
  let rolledBack := { host with registry := rollbackRegistered beforeTypes registered }
  match (registerFunction host.registry).2 with
  | .threw what =>
      rolledBack.refuse handle manifest
        [⟨"register.threw", "plugin register function threw: " ++ what⟩]
  | .threwOther =>
      rolledBack.refuse handle manifest
        [⟨"register.threw", "plugin register function threw a non-standard exception"⟩]
  | .returned false =>
      rolledBack.refuse handle manifest
        [⟨"register.failed", "plugin register function returned false"⟩]
  | .returned true =>
      ({ handle := some handle
         result := registeredResult manifest options beforeTypes registered
         closeOnDestroy := options.closeOnDestroy },
        { host with registry := registered })

/-- `load_plugin` on a platform with `dlopen`. -/
def loadPlugin (host : PluginHost) (library : PluginLibrary) (options : PluginLoadOptions) :
    LoadedPlugin × PluginHost :=
  match library.openError with
  | some error =>
      ({ result := { errors := [⟨"dlopen", error.getD "failed to open plugin"⟩] } }, host)
  | none =>
      let handle := library.handle
      let host := host.dlopen handle
      match library.manifestError, library.manifestSymbol with
      | none, some none =>
          host.refuse handle {} [⟨"manifest.null", "plugin manifest function returned null"⟩]
      | none, some (some view) =>
          let (manifest, copyErrors) := copyManifest view
          let errors := copyErrors ++ validateManifestShape manifest ++
            versionErrors manifest options
          if errors ≠ [] then host.refuse handle manifest errors
          else
            match library.registerError, library.registerSymbol with
            | none, some registerFunction =>
                host.registerPlugin handle manifest options registerFunction
            | error, _ =>
                host.refuse handle manifest
                  [⟨"symbol.register", error.getD "missing register symbol"⟩]
      | error, _ =>
          host.refuse handle {} [⟨"symbol.manifest", error.getD "missing manifest symbol"⟩]

/-- What is closed by `LoadedPlugin::reset`, which the destructor and the move assignment call. -/
def reset (host : PluginHost) (plugin : LoadedPlugin) : PluginHost :=
  match plugin.handle with
  | some handle => if plugin.closeOnDestroy then host.closeHandle handle else host
  | none => host

end PluginHost

end Plugin

end TopoExec
