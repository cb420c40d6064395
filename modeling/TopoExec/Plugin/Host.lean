import TopoExec.Lib.Transition
import TopoExec.Plugin.Loader

/-! # Hosts of plugins

A program loads plugins, calls the registry itself, and lets its `LoadedPlugin` objects be
moved and destroyed, in any order. What one `dlopen` gave is closed once at the most, a load that
fails leaves the registry as it was, and a factory in the registry has its code in a library that
is open. The last two need what the documentation asks for: a register function registers and
does nothing else, and a plugin closes its library only after its factories are gone.
-/

namespace TopoExec

namespace Plugin

/-! ## What the register function can do -/

namespace ComponentRegistry

variable {registry registry' registry'' : ComponentRegistry} {library : Option Nat}

/-- A type is registered exactly when it has a factory. -/
theorem contains_eq_isSome (registry : ComponentRegistry) (type : String) :
    (registry.factories.find type).isSome = registry.contains type := registry.paired type

/-- The types are those registered. -/
theorem mem_types {type : String} : type ∈ registry.types ↔ registry.contains type = true := by
  simp only [types, List.mem_map, contains, Option.isSome_iff_exists]
  constructor
  · rintro ⟨⟨key, value⟩, hmem, rfl⟩
    exact ⟨value, (OrderedMap.find_eq_some _ _ _).mpr hmem⟩
  · rintro ⟨value, hfind⟩
    exact ⟨(type, value), (OrderedMap.find_eq_some _ _ _).mp hfind, rfl⟩

/-- A type that is not registered has neither metadata nor a factory. -/
theorem not_contains {type : String} (h : registry.contains type = false) :
    registry.metadata type = none ∧ registry.factories.find type = none := by
  constructor
  · simpa [contains, metadata] using h
  · rw [← contains_eq_isSome] at h
    simpa using h

/-- To create a component is to call the factory of its type. -/
theorem create_eq_ok {type : String} {factory : ComponentFactory} :
    registry.create type = .ok factory ↔ registry.factories.find type = some factory := by
  unfold create
  cases registry.factories.find type <;> simp

/-- A type is found as before, with the same factory. -/
def SameAt (registry registry' : ComponentRegistry) (type : String) : Prop :=
  registry'.metadata type = registry.metadata type ∧
    registry'.factories.find type = registry.factories.find type

theorem SameAt.contains {type : String} (h : SameAt registry registry' type) :
    registry'.contains type = registry.contains type := congrArg Option.isSome h.1

/-- Registries that agree at every type are one. -/
theorem eq_of_sameAt (h : ∀ type, SameAt registry registry' type) : registry' = registry := by
  have hregistrations := OrderedMap.ext_find fun type => (h type).1
  have hfactories := OrderedMap.ext_find fun type => (h type).2
  cases registry
  cases registry'
  cases hregistrations
  cases hfactories
  rfl

/-- Every type is as it was, or it is new and its code is in that library. -/
def Gained (library : Option Nat) (registry registry' : ComponentRegistry) : Prop :=
  ∀ type, SameAt registry registry' type ∨
    (registry.contains type = false ∧
      ∃ factory, registry'.factories.find type = some factory ∧ factory.library = library)

theorem Gained.refl (library : Option Nat) (registry : ComponentRegistry) :
    Gained library registry registry := fun _ => .inl ⟨rfl, rfl⟩

/-- What is gained in two parts is gained by the whole. -/
theorem Gained.trans (h : Gained library registry registry')
    (h' : Gained library registry' registry'') : Gained library registry registry'' := by
  intro type
  rcases h' type with hsame' | ⟨hnew', hfactory'⟩
  · rcases h type with hsame | ⟨hnew, hfactory⟩
    · exact .inl ⟨hsame'.1.trans hsame.1, hsame'.2.trans hsame.2⟩
    · exact .inr ⟨hnew, by rwa [hsame'.2]⟩
  · -- a type that the second part adds is not one that the first part has added
    rcases h type with hsame | ⟨_, factory, hfind, _⟩
    · exact .inr ⟨hsame.contains.symm.trans hnew', hfactory'⟩
    · rw [← contains_eq_isSome, hfind] at hnew'
      cases hnew'

/-- Registering adds one type or changes nothing. -/
theorem register_gained (registration : ComponentRegistration) (code : Option String) :
    Gained library registry ((RegistryCall.register registration code).exec library registry) := by
  simp only [RegistryCall.exec, registerComponent]
  by_cases hempty : registration.type = ""
  · rw [if_pos hempty]
    exact Gained.refl library registry
  · rw [if_neg hempty]
    cases code with
    | none => exact Gained.refl library registry
    | some code =>
        simp only [Option.map_some]
        by_cases hcontains : registry.contains registration.type = true
        · rw [if_pos hcontains]
          exact Gained.refl library registry
        · rw [if_neg hcontains]
          intro type
          by_cases htype : registration.type = type
          · refine .inr ⟨by simpa [← htype] using hcontains, ⟨library, code⟩, ?_, rfl⟩
            rw [OrderedMap.find_insert, if_pos htype]
          · refine .inl ⟨?_, ?_⟩
            · rw [metadata, OrderedMap.find_insert, if_neg htype, metadata]
            · rw [OrderedMap.find_insert, if_neg htype]

end ComponentRegistry

open Plugin.ComponentRegistry

variable {registry registered : ComponentRegistry} {library : Option Nat}

def RegistryCall.isRegister : RegistryCall → Bool
  | .register _ _ => true
  | .unregister _ => false

/-- The register function takes no type out of the registry. -/
def PluginLibrary.OnlyRegisters (library : PluginLibrary) : Prop :=
  ∀ registerFunction, library.registerSymbol = some registerFunction →
    ∀ registry, ∀ call ∈ (registerFunction registry).1, call.isRegister = true

/-- Calls that only register take nothing away. -/
theorem exec_calls_gained {calls : List RegistryCall}
    (h : ∀ call ∈ calls, call.isRegister = true) (registry : ComponentRegistry) :
    Gained library registry (calls.foldl (RegistryCall.exec library) registry) := by
  induction calls generalizing registry with
  | nil => exact Gained.refl library registry
  | cons call calls ih =>
      rw [List.forall_mem_cons] at h
      obtain ⟨hcall, hcalls⟩ := h
      cases call with
      | register registration code =>
          exact (register_gained registration code).trans (ih hcalls _)
      | unregister type => cases hcall

def sampleRegistration : ComponentRegistration :=
  { type := "topoexec.plugins.SampleEcho", staticRegistration := false }

/-- The plugin that the tests load. Its register function returns what the registry returns, so
it fails where the type is registered already. -/
def samplePlugin : PluginLibrary where
  manifestSymbol := some (some
    { pluginId := some "topoexec.sample_plugin"
      pluginApiVersion := some "0"
      schemaVersion := some "1"
      componentCount := 1
      components := some fun _ => ⟨some sampleRegistration.type, some "1", false, true⟩ })
  registerSymbol := some fun registry =>
    ([.register sampleRegistration (some "SampleEchoComponent")],
      .returned (!registry.contains sampleRegistration.type))

theorem samplePlugin_onlyRegisters : samplePlugin.OnlyRegisters := by
  intro registerFunction hregister registry call hcall
  cases hregister
  rw [List.mem_singleton] at hcall
  rw [hcall]
  rfl

/-- Another library with that manifest. It registers a type of its own, and fails all the same. -/
def strayPlugin : PluginLibrary :=
  { samplePlugin with
    handle := 1
    registerSymbol := some fun _ =>
      ([.register { sampleRegistration with type := "stray" } (some "StrayComponent"),
        .register sampleRegistration (some "StrayEcho")], .threw "no device") }

theorem strayPlugin_onlyRegisters : strayPlugin.OnlyRegisters := by
  intro registerFunction hregister registry call hcall
  cases hregister
  simp only [List.mem_cons, List.not_mem_nil, or_false] at hcall
  rcases hcall with rfl | rfl <;> rfl

/-! ## The rollback -/

/-- Unregistering takes out its type and no other. -/
theorem find_unregister (registry : ComponentRegistry) (key type : String) :
    (registry.unregister key).2.metadata type =
        (if type = key then none else registry.metadata type) ∧
      (registry.unregister key).2.factories.find type =
        if type = key then none else registry.factories.find type :=
  ⟨OrderedMap.find_erase _ _ _, OrderedMap.find_erase _ _ _⟩

/-- The rollback takes out what was not there before, and no other type. -/
theorem find_foldl_unregister (beforeTypes types : List String) (registry : ComponentRegistry)
    (type : String) :
    let after := types.foldl (fun registry type =>
      if type ∈ beforeTypes then registry else (registry.unregister type).2) registry
    let gone := type ∈ types ∧ type ∉ beforeTypes
    after.metadata type = (if gone then none else registry.metadata type) ∧
      after.factories.find type = if gone then none else registry.factories.find type := by
  induction types generalizing registry with
  | nil => simp
  | cons first types ih =>
      simp only [List.foldl_cons, List.mem_cons]
      by_cases hbefore : first ∈ beforeTypes
      · -- a type from before is passed over
        have hgone : (type = first ∨ type ∈ types) ∧ type ∉ beforeTypes ↔
            type ∈ types ∧ type ∉ beforeTypes := by
          constructor
          · rintro ⟨rfl | hin, hnew⟩
            · exact absurd hbefore hnew
            · exact ⟨hin, hnew⟩
          · exact fun h => ⟨.inr h.1, h.2⟩
        simp only [if_pos hbefore, hgone]
        exact ih registry
      · obtain ⟨hmetadata, hfactory⟩ := ih (registry.unregister first).2
        simp only [if_neg hbefore]
        rw [hmetadata, hfactory, (find_unregister registry first type).1,
          (find_unregister registry first type).2]
        by_cases htype : type = first
        · -- it is erased now, and the rest of the loop puts nothing back
          simp [htype, hbefore]
        · simp [htype]

/-- The types that are new are taken out again. -/
theorem rollbackRegistered_gained (h : Gained library registry registered) :
    rollbackRegistered registry.types registered = registry := by
  apply eq_of_sameAt
  intro type
  obtain ⟨hmetadata, hfactory⟩ :=
    find_foldl_unregister registry.types registered.types registered type
  -- the registry after the loop, type by type
  rw [SameAt, rollbackRegistered, hmetadata, hfactory]
  simp only [mem_types]
  cases hbefore : registry.contains type with
  | true =>
      -- what was gained are other types
      rcases h type with hsame | ⟨hnew, _⟩
      · simpa [SameAt] using hsame
      · rw [hbefore] at hnew
        cases hnew
  | false =>
      -- a type that is new is taken out, and any other was never there
      have hnone := not_contains hbefore
      rw [hnone.1, hnone.2]
      cases hafter : registered.contains type with
      | true => simp
      | false => simpa using not_contains hafter

/-! ## What a load can do -/

namespace PluginHost

variable {host host' : PluginHost} {library : PluginLibrary} {options : PluginLoadOptions}
  {plugin : LoadedPlugin}

/-- The ways of a load: the library does not open, it is closed before its register function is
called or after its registrations are rolled back, or it stays open. -/
inductive Loads (host : PluginHost) (library : PluginLibrary) (options : PluginLoadOptions) :
    LoadedPlugin → PluginHost → Prop where
  | unopened {result : PluginLoadResult} (hok : result.ok = false) (herrors : result.errors ≠ []) :
      Loads host library options { result } host
  | refused {result : PluginLoadResult} (hok : result.ok = false) (herrors : result.errors ≠ []) :
      Loads host library options { result }
        ((host.dlopen library.handle).closeHandle library.handle)
  | rolledBack {result : PluginLoadResult}
      {registerFunction : ComponentRegistry → List RegistryCall × Ending}
      (hok : result.ok = false) (herrors : result.errors ≠ [])
      (hregister : library.registerSymbol = some registerFunction) :
      Loads host library options { result }
        (PluginHost.closeHandle
          { host.dlopen library.handle with
            registry := rollbackRegistered host.registry.types
              (runRegister library.handle host.registry registerFunction) }
          library.handle)
  | loaded {manifest : PluginManifest}
      {registerFunction : ComponentRegistry → List RegistryCall × Ending}
      (hregister : library.registerSymbol = some registerFunction) :
      Loads host library options
        { handle := some library.handle
          result := registeredResult manifest options host.registry.types
            (runRegister library.handle host.registry registerFunction)
          closeOnDestroy := options.closeOnDestroy }
        { host.dlopen library.handle with
          registry := runRegister library.handle host.registry registerFunction }

/-- A load ends in one of the listed ways. -/
theorem loadPlugin_loads (host : PluginHost) (library : PluginLibrary)
    (options : PluginLoadOptions) : Loads host library options
      (host.loadPlugin library options).1 (host.loadPlugin library options).2 := by
  unfold loadPlugin
  split
  · exact .unopened rfl (by simp)
  · split
    · exact .refused rfl (by simp)
    · dsimp only
      split_ifs with herrors
      · exact .refused rfl herrors
      · split
        · rename_i registerFunction _ hregister
          simp only [registerPlugin]
          split
          · exact .rolledBack rfl (by simp) hregister
          · exact .rolledBack rfl (by simp) hregister
          · exact .rolledBack rfl (by simp) hregister
          · exact .loaded hregister
        · exact .refused rfl (by simp)
    · exact .refused rfl (by simp)

/-- The reference of a load that fails is given back, also where the library was open before. -/
theorem count_opened_refused (host : PluginHost) (closed handle : Nat) :
    ((host.dlopen closed).closeHandle closed).opened.count handle = host.opened.count handle := by
  simp [dlopen, closeHandle, List.count_erase, List.count_append, List.count_singleton]

/-- What the library's function does to the registry, it gains. -/
theorem runRegister_gained {handle : Nat} (honly : library.OnlyRegisters)
    {registerFunction : ComponentRegistry → List RegistryCall × Ending}
    (hregister : library.registerSymbol = some registerFunction) (registry : ComponentRegistry) :
    Gained (some handle) registry (runRegister handle registry registerFunction) :=
  exec_calls_gained (honly registerFunction hregister registry) registry

theorem Loads.failed (h : Loads host library options plugin host')
    (honly : library.OnlyRegisters) (hfailed : plugin.handle = none) :
    plugin.result.ok = false ∧ plugin.result.errors ≠ [] ∧ host'.registry = host.registry ∧
      ∀ handle, host'.opened.count handle = host.opened.count handle := by
  cases h with
  | unopened hok herrors => exact ⟨hok, herrors, rfl, fun _ => rfl⟩
  | refused hok herrors => exact ⟨hok, herrors, rfl, count_opened_refused host _⟩
  | rolledBack hok herrors hregister =>
      refine ⟨hok, herrors, ?_, count_opened_refused host _⟩
      exact rollbackRegistered_gained (runRegister_gained honly hregister _)
  | loaded hregister => cases hfailed

/-- A load that gives no handle says why, and the registry is as it was; what was opened for it
is closed. -/
theorem loadPlugin_failed (host : PluginHost) (library : PluginLibrary)
    (options : PluginLoadOptions) (honly : library.OnlyRegisters)
    (hfailed : (host.loadPlugin library options).1.handle = none) :
    let (plugin, host') := host.loadPlugin library options
    plugin.result.ok = false ∧ plugin.result.errors ≠ [] ∧ host'.registry = host.registry ∧
      ∀ handle, host'.opened.count handle = host.opened.count handle :=
  (loadPlugin_loads host library options).failed honly hfailed

/-- After the sample plugin the stray one is loaded, which has registered a type before it
throws. -/
theorem loadPlugin_failed_stray :
    let host := (loadPlugin {} samplePlugin {}).2
    let (plugin, host') := host.loadPlugin strayPlugin {}
    plugin.result.ok = false ∧ plugin.result.errors ≠ [] ∧ host'.registry = host.registry ∧
      ∀ handle, host'.opened.count handle = host.opened.count handle :=
  loadPlugin_failed (loadPlugin {} samplePlugin {}).2 strayPlugin {} strayPlugin_onlyRegisters
    (by decide)

-- a register function that takes out a type, puts its own in its place and fails: the rollback
-- knows the type from before, and leaves a factory of the library that was closed
example :
    let swap : PluginLibrary :=
      { samplePlugin with
        handle := 1
        registerSymbol := some fun _ =>
          ([.unregister sampleRegistration.type, .register sampleRegistration (some "Other")],
            .returned false) }
    let host := (loadPlugin {} samplePlugin {}).2
    let host' := (host.loadPlugin swap {}).2
    host'.registry.create sampleRegistration.type = .ok ⟨some 1, "Other"⟩ ∧ host'.closed = [1] := by
  decide

/-- A requirement reports nothing exactly when it holds. -/
@[simp]
theorem require_eq_nil {condition : Bool} {code message : String} :
    require condition code message = [] ↔ condition = true := by
  cases condition <;> simp [require]

theorem Loads.ok (h : Loads host library options plugin host') (hok : plugin.result.ok = true) :
    plugin.handle = some library.handle ∧ host'.opened = host.opened ++ [library.handle] ∧
      plugin.result.errors = [] ∧
      (∀ component ∈ plugin.result.manifest.components,
        host'.registry.contains component.type = true) ∧
      (options.requireDeclaredComponents = true → ∀ type,
        host'.registry.contains type = true → host.registry.contains type = false →
          ∃ component ∈ plugin.result.manifest.components, component.type = type) := by
  cases h with
  | unopened hfalse _ => rw [hfalse] at hok; cases hok
  | refused hfalse _ => rw [hfalse] at hok; cases hok
  | rolledBack hfalse _ _ => rw [hfalse] at hok; cases hok
  | loaded hregister =>
      have herrors := List.isEmpty_iff.mp hok
      have hparts := herrors
      simp only [List.append_eq_nil_iff, List.flatMap_eq_nil_iff, require_eq_nil] at hparts
      obtain ⟨hundeclared, hmissing⟩ := hparts
      refine ⟨rfl, rfl, herrors, hmissing, ?_⟩
      intro hrequire type hafter hbefore
      have hnew : type ∉ host.registry.types := by simp [mem_types, hbefore]
      have hadded := hundeclared type
        (List.mem_filter.mpr ⟨mem_types.mpr hafter, by simpa using hnew⟩)
      simpa [hrequire, registeredResult] using hadded

/-- After a load that is ok one more reference to the library is open, and it is held. The
declared components are there, and with `require_declared_components` nothing else is new. -/
theorem loadPlugin_ok (host : PluginHost) (library : PluginLibrary)
    (options : PluginLoadOptions) (hok : (host.loadPlugin library options).1.result.ok = true) :
    let (plugin, host') := host.loadPlugin library options
    plugin.handle = some library.handle ∧ host'.opened = host.opened ++ [library.handle] ∧
      plugin.result.errors = [] ∧
      (∀ component ∈ plugin.result.manifest.components,
        host'.registry.contains component.type = true) ∧
      (options.requireDeclaredComponents = true → ∀ type,
        host'.registry.contains type = true → host.registry.contains type = false →
          ∃ component ∈ plugin.result.manifest.components, component.type = type) :=
  (loadPlugin_loads host library options).ok hok

theorem loadPlugin_ok_sample :
    let (plugin, host') := loadPlugin {} samplePlugin {}
    plugin.handle = some 0 ∧ host'.opened = [0] ∧ plugin.result.errors = [] ∧
      (∀ component ∈ plugin.result.manifest.components,
        host'.registry.contains component.type = true) ∧
      (({} : PluginLoadOptions).requireDeclaredComponents = true → ∀ type,
        host'.registry.contains type = true → ComponentRegistry.empty.contains type = false →
          ∃ component ∈ plugin.result.manifest.components, component.type = type) :=
  loadPlugin_ok {} samplePlugin {} (by decide)

/-! ## Programs with plugins -/

/-- A `LoadedPlugin` is called by its place in the list, where a new one is put at the end. -/
inductive HostAction where
  | load (library : PluginLibrary) (options : PluginLoadOptions)
  | call (call : RegistryCall)
  | moveConstruct (source : Nat)
  | moveAssign (target source : Nat)
  | destroy (index : Nat)

def load (host : PluginHost) (library : PluginLibrary) (options : PluginLoadOptions) :
    PluginHost :=
  let (plugin, host') := host.loadPlugin library options
  { host' with plugins := host'.plugins ++ [plugin] }

def step (host : PluginHost) : HostAction → Option PluginHost
  | .load library options => some (host.load library options)
  | .call call => some { host with registry := call.exec none host.registry }
  | .moveConstruct source =>
      host.plugins[source]?.map fun plugin =>
        { host with plugins := host.plugins.set source plugin.movedFrom ++ [plugin] }
  | .moveAssign target source =>
      match host.plugins[target]?, host.plugins[source]? with
      | some old, some plugin =>
          -- an object that is assigned to itself is left alone
          if target = source then some host
          else
            some { host.reset old with
              plugins := (host.plugins.set source plugin.movedFrom).set target plugin }
      | _, _ => none
  | .destroy index =>
      host.plugins[index]?.map fun plugin =>
        { host.reset plugin with plugins := host.plugins.eraseIdx index }

/-- The handles that `LoadedPlugin` objects hold, each as often as it is held. -/
def handlesOf (plugins : List LoadedPlugin) : List Nat := plugins.filterMap LoadedPlugin.handle

def held (host : PluginHost) : List Nat := handlesOf host.plugins

/-- A reference that `dlopen` gave is open or it was closed, and each object that holds a handle
has an open reference for itself. -/
structure Accounted (host : PluginHost) : Prop where
  once : ∀ handle, host.opened.count handle + host.closed.count handle =
    host.dlopens.count handle
  held : ∀ handle, host.held.count handle ≤ host.opened.count handle

/-- Nothing is open in a new host. -/
theorem accounted_empty : Accounted {} where
  once := fun _ => rfl
  held := fun _ => le_refl _

/-- The handles of a list of plugins come in its order. -/
theorem handlesOf_append (plugins : List LoadedPlugin) (plugin : LoadedPlugin) :
    handlesOf (plugins ++ [plugin]) = handlesOf plugins ++ plugin.handle.toList := by
  cases hhandle : plugin.handle <;> simp [handlesOf, hhandle]

theorem handlesOf_cons (plugin : LoadedPlugin) (plugins : List LoadedPlugin) :
    handlesOf (plugin :: plugins) = plugin.handle.toList ++ handlesOf plugins := by
  cases hhandle : plugin.handle <;> simp [handlesOf, hhandle]

/-- The handle of one object, and those of the others. -/
theorem handlesOf_perm {plugins : List LoadedPlugin} {index : Nat}
    (hindex : plugins[index]? = some plugin) :
    (handlesOf plugins).Perm (plugin.handle.toList ++ handlesOf (plugins.eraseIdx index)) := by
  obtain ⟨hlt, rfl⟩ := List.getElem?_eq_some_iff.mp hindex
  rw [← handlesOf_cons]
  exact (List.getElem_cons_eraseIdx_perm hlt).symm.filterMap LoadedPlugin.handle

/-- The object gives its handle away for another one. -/
theorem handlesOf_set_perm {plugins : List LoadedPlugin} {index : Nat}
    (hindex : plugins[index]? = some plugin) (new : LoadedPlugin) :
    (handlesOf (plugins.set index new)).Perm
      (new.handle.toList ++ handlesOf (plugins.eraseIdx index)) := by
  obtain ⟨hlt, rfl⟩ := List.getElem?_eq_some_iff.mp hindex
  have hnew : (plugins.set index new)[index]? = some new := by simp [hlt]
  simpa [List.eraseIdx_set_eq] using handlesOf_perm hnew

/-- A move takes the handle along: it is held as often as before. -/
theorem count_handlesOf_moveConstruct {plugins : List LoadedPlugin} {source : Nat}
    (hsource : plugins[source]? = some plugin) (handle : Nat) :
    (handlesOf (plugins.set source plugin.movedFrom ++ [plugin])).count handle =
      (handlesOf plugins).count handle := by
  rw [handlesOf_append, List.count_append, (handlesOf_set_perm hsource _).count_eq,
    (handlesOf_perm hsource).count_eq, List.count_append, List.count_append]
  simp [LoadedPlugin.movedFrom, Nat.add_comm]

/-- The handle that the target had is the one that nobody holds any more. -/
theorem count_handlesOf_moveAssign {plugins : List LoadedPlugin} {target source : Nat}
    {old : LoadedPlugin} (hne : target ≠ source) (htarget : plugins[target]? = some old)
    (hsource : plugins[source]? = some plugin) (handle : Nat) :
    (handlesOf ((plugins.set source plugin.movedFrom).set target plugin)).count handle +
      old.handle.toList.count handle = (handlesOf plugins).count handle := by
  have htarget' : (plugins.set source plugin.movedFrom)[target]? = some old := by
    rwa [List.getElem?_set_ne (Ne.symm hne)]
  have hset := (handlesOf_set_perm htarget' plugin).count_eq handle
  have hempty := (handlesOf_perm htarget').count_eq handle
  have hmoved := (handlesOf_set_perm hsource plugin.movedFrom).count_eq handle
  have hbefore := (handlesOf_perm hsource).count_eq handle
  -- the two objects, and all the others twice
  rw [List.count_append] at hset hempty hmoved hbefore
  have hnone : plugin.movedFrom.handle.toList.count handle = 0 := rfl
  omega

/-- A load opens one reference and keeps it, or closes it again. -/
theorem Accounted.load (h : Accounted host) (hloads : Loads host library options plugin host') :
    Accounted { host' with plugins := host'.plugins ++ [plugin] } := by
  constructor
  · intro handle
    have honce := h.once handle
    cases hloads with
    | unopened => exact honce
    | refused | rolledBack =>
        -- one `dlopen` more and one `dlclose` more
        have hopened := count_opened_refused host library.handle handle
        simp only [dlopen, closeHandle, List.count_append] at hopened ⊢
        omega
    | loaded =>
        simp only [dlopen, List.count_append]
        omega
  · intro handle
    have hheld := h.held handle
    rw [PluginHost.held] at hheld ⊢
    simp only [handlesOf_append, List.count_append]
    cases hloads with
    | unopened => simpa using hheld
    | refused | rolledBack =>
        have hopened := count_opened_refused host library.handle handle
        simpa [dlopen, closeHandle] using hheld.trans hopened.ge
    | loaded => simpa [dlopen, List.count_append] using hheld

/-- An object is reset that holds its handle no longer afterwards, and no other object gains
one. -/
theorem Accounted.reset (h : Accounted host) {plugins : List LoadedPlugin}
    (hplugins : ∀ handle, (handlesOf plugins).count handle + plugin.handle.toList.count handle =
      host.held.count handle) :
    Accounted { host.reset plugin with plugins := plugins } := by
  have hheld : ∀ other,
      (handlesOf plugins).count other + plugin.handle.toList.count other ≤
        host.opened.count other := fun other => (hplugins other).trans_le (h.held other)
  unfold PluginHost.reset
  cases hhandle : plugin.handle with
  | none => exact ⟨h.once, fun other => Nat.le_of_add_right_le (hheld other)⟩
  | some handle =>
      dsimp only
      split_ifs with hclose
      · -- the handle was held, so there is an open reference to take away
        rw [hhandle] at hheld
        constructor
        · intro other
          refine Eq.trans ?_ (h.once other)
          have hother := hheld other
          by_cases heq : handle = other
          · subst heq
            simp [closeHandle] at hother ⊢
            omega
          · simp [closeHandle, heq, List.count_append, List.count_erase]
        · intro other
          have hother := hheld other
          by_cases heq : handle = other
          · subst heq
            simp [closeHandle, PluginHost.held] at hother ⊢
            omega
          · simpa [closeHandle, PluginHost.held, heq, List.count_erase] using hother
      · -- the library stays open, and nobody holds that reference any more
        exact ⟨h.once, fun other => Nat.le_of_add_right_le (hheld other)⟩

/-- Every step keeps the references accounted for. -/
theorem Accounted.step {action : HostAction} (h : Accounted host)
    (hstep : host.step action = some host') : Accounted host' := by
  cases action with
  | load library options =>
      cases hstep
      exact h.load (loadPlugin_loads host library options)
  | call call =>
      cases hstep
      exact ⟨h.once, h.held⟩
  | moveConstruct source =>
      obtain ⟨plugin, hsource, rfl⟩ := Option.map_eq_some_iff.mp hstep
      refine ⟨h.once, fun handle => ?_⟩
      exact (count_handlesOf_moveConstruct hsource handle).trans_le (h.held handle)
  | moveAssign target source =>
      rw [PluginHost.step] at hstep
      split at hstep
      · rename_i old plugin htarget hsource
        split_ifs at hstep with hsame
        · cases hstep
          exact h
        · cases hstep
          exact h.reset fun handle => count_handlesOf_moveAssign hsame htarget hsource handle
      · cases hstep
  | destroy index =>
      obtain ⟨plugin, hindex, rfl⟩ := Option.map_eq_some_iff.mp hstep
      refine h.reset fun handle => ?_
      rw [PluginHost.held, (handlesOf_perm hindex).count_eq, List.count_append, Nat.add_comm]

/-- Whatever the libraries do and in whatever order they are loaded, moved and destroyed: of the
references that `dlopen` gave each is open or was closed once, and no more objects hold a handle
than there are references to it open. -/
theorem run_closes_once {actions : List HostAction}
    (hrun : Transition.run step {} actions = some host) (handle : Nat) :
    host.opened.count handle + host.closed.count handle = host.dlopens.count handle ∧
      host.held.count handle ≤ host.opened.count handle := by
  have h := Transition.run_keeps (I := Accounted) Accounted.step accounted_empty hrun
  exact ⟨h.once handle, h.held handle⟩

/-- The sample plugin is loaded twice, the second time after its type was taken out, so that two
objects hold one handle. One of them is assigned to the other, and both are destroyed. -/
def sampleActions : List HostAction :=
  [.load samplePlugin { closeOnDestroy := true }, .call (.unregister sampleRegistration.type),
    .load samplePlugin { closeOnDestroy := true }, .moveConstruct 0, .moveAssign 2 1, .destroy 2,
    .destroy 0]

theorem run_closes_once_sample :
    ∃ host, Transition.run step {} sampleActions = some host ∧
      host.dlopens = [0, 0] ∧ host.closed = [0, 0] ∧
      host.opened.count 0 + host.closed.count 0 = host.dlopens.count 0 ∧
      host.held.count 0 ≤ host.opened.count 0 := by
  have hcalls : (Transition.run step {} sampleActions).map
      (fun host => (host.dlopens, host.closed)) = some ([0, 0], [0, 0]) := by decide
  obtain ⟨host, hrun, hhost⟩ := Option.map_eq_some_iff.mp hcalls
  rw [Prod.mk.injEq] at hhost
  exact ⟨host, hrun, hhost.1, hhost.2, run_closes_once hrun 0⟩

/-! ## Where the factories are -/

/-- Where the object closes the last reference to its library, no factory of that library is left
in the registry. -/
def CarefulReset (host : PluginHost) (plugin : LoadedPlugin) : Prop :=
  ∀ handle, plugin.closeOnDestroy = true → plugin.handle = some handle →
    host.opened.count handle ≤ 1 →
      ∀ type factory, host.registry.create type = .ok factory → factory.library ≠ some handle

/-- What the documentation asks of a program: its libraries register and do nothing else, and
before a library goes its factories are gone. -/
def Careful (host : PluginHost) : HostAction → Prop
  | .load library _ => library.OnlyRegisters
  | .call _ | .moveConstruct _ => True
  | .moveAssign target source =>
      target ≠ source → ∀ old, host.plugins[target]? = some old → CarefulReset host old
  | .destroy index => ∀ plugin, host.plugins[index]? = some plugin → CarefulReset host plugin

/-- The states that a careful program comes to. -/
inductive Reached : PluginHost → Prop where
  | start : Reached {}
  | step {host host' : PluginHost} {action : HostAction} (h : Reached host)
      (hcareful : Careful host action) (hstep : host.step action = some host') : Reached host'

/-- The code of every factory is in the program or in a library that is open. -/
def Callable (host : PluginHost) : Prop :=
  ∀ type factory handle, host.registry.create type = .ok factory →
    factory.library = some handle → handle ∈ host.opened

/-- What a load registers has its code in the library it keeps open. -/
theorem Callable.load (h : Callable host) (honly : library.OnlyRegisters)
    (hloads : Loads host library options plugin host') :
    Callable { host' with plugins := host'.plugins ++ [plugin] } := by
  intro type factory handle hcreate hlibrary
  cases hloads with
  | unopened => exact h type factory handle hcreate hlibrary
  | refused =>
      have hopened := h type factory handle hcreate hlibrary
      rwa [← List.count_pos_iff, count_opened_refused, List.count_pos_iff]
  | rolledBack _ _ hregister =>
      -- after the rollback the registry is the one from before the load
      have hcreate' : host.registry.create type = .ok factory := by
        rwa [← rollbackRegistered_gained (runRegister_gained honly hregister host.registry)]
      have hopened := h type factory handle hcreate' hlibrary
      rw [← List.count_pos_iff] at hopened ⊢
      rwa [← count_opened_refused] at hopened
  | loaded hregister =>
      rw [create_eq_ok] at hcreate
      show handle ∈ host.opened ++ [library.handle]
      rw [List.mem_append, List.mem_singleton]
      rcases runRegister_gained honly hregister host.registry type with
        hsame | ⟨_, added, hfind, hadded⟩
      · rw [hsame.2, ← create_eq_ok] at hcreate
        exact .inl (h type factory handle hcreate hlibrary)
      · cases hfind.symm.trans hcreate
        exact .inr (Option.some.inj (hlibrary.symm.trans hadded))

/-- A call of the host registers code of its own. -/
theorem Callable.call (h : Callable host) (call : RegistryCall) :
    Callable { host with registry := call.exec none host.registry } := by
  intro type factory handle hcreate hlibrary
  rw [create_eq_ok] at hcreate
  cases call with
  | register registration code =>
      have hgained : Gained none host.registry _ := register_gained registration code
      rcases hgained type with hsame | ⟨_, added, hfind, hadded⟩
      · rw [hsame.2, ← create_eq_ok] at hcreate
        exact h type factory handle hcreate hlibrary
      · cases hfind.symm.trans hcreate
        -- a factory of the program itself is in no library
        cases hlibrary.symm.trans hadded
  | unregister key =>
      rw [RegistryCall.exec, (find_unregister host.registry key type).2] at hcreate
      split_ifs at hcreate
      exact h type factory handle (create_eq_ok.mpr hcreate) hlibrary

/-- A careful reset closes no library whose code is still registered. -/
theorem Callable.reset (h : Callable host) (hcareful : CarefulReset host plugin)
    (plugins : List LoadedPlugin) :
    Callable { host.reset plugin with plugins := plugins } := by
  unfold PluginHost.reset
  cases hhandle : plugin.handle with
  | none => exact h
  | some closed =>
      dsimp only
      split_ifs with hclose
      · intro type factory handle hcreate hlibrary
        have hopened := h type factory handle hcreate hlibrary
        by_cases hsame : handle = closed
        · -- a careful program has taken out the factories, or another reference is open
          subst hsame
          have hother : ¬ host.opened.count handle ≤ 1 := fun hlast =>
            hcareful handle hclose hhandle hlast type factory hcreate hlibrary
          have hleft : 0 < (host.opened.erase handle).count handle := by
            rw [List.count_erase_self]
            omega
          exact List.count_pos_iff.mp hleft
        · exact (List.mem_erase_of_ne hsame).mpr hopened
      · exact h

/-- Every careful step keeps the registered code in open libraries. -/
theorem Callable.step {action : HostAction} (h : Callable host) (hcareful : Careful host action)
    (hstep : host.step action = some host') : Callable host' := by
  cases action with
  | load library options =>
      cases hstep
      exact h.load hcareful (loadPlugin_loads host library options)
  | call call =>
      cases hstep
      exact h.call call
  | moveConstruct source =>
      obtain ⟨plugin, _, rfl⟩ := Option.map_eq_some_iff.mp hstep
      exact h
  | moveAssign target source =>
      rw [PluginHost.step] at hstep
      split at hstep
      · rename_i old plugin htarget hsource
        split_ifs at hstep with hsame
        · cases hstep
          exact h
        · cases hstep
          exact h.reset (hcareful hsame old htarget) _
      · cases hstep
  | destroy index =>
      obtain ⟨plugin, hindex, rfl⟩ := Option.map_eq_some_iff.mp hstep
      exact h.reset (hcareful plugin hindex) _

/-- By induction on the run. -/
theorem Reached.accounted (h : Reached host) : Accounted host := by
  induction h with
  | start => exact accounted_empty
  | step _ _ hstep ih => exact ih.step hstep

/-- By induction on the run. -/
theorem Reached.callable (h : Reached host) : Callable host := by
  induction h with
  | start => intro type factory handle hcreate; cases hcreate
  | step _ hcareful hstep ih => exact ih.step hcareful hstep

/-- In a careful program a factory that the registry finds has its code in a library that is
open: it was not closed as often as it was opened. -/
theorem no_factory_dangles (h : Reached host) {type : String} {factory : ComponentFactory}
    (hcreate : host.registry.create type = .ok factory) :
    ∀ handle, factory.library = some handle →
      handle ∈ host.opened ∧ host.closed.count handle < host.dlopens.count handle := by
  intro handle hlibrary
  have hopened := h.callable type factory handle hcreate hlibrary
  refine ⟨hopened, ?_⟩
  rw [← List.count_pos_iff] at hopened
  have honce := h.accounted.once handle
  omega

/-- The factory of the sample plugin, after the library of the stray one was closed. -/
theorem no_factory_dangles_sample :
    ∃ host factory, Reached host ∧ host.closed = [1] ∧
      host.registry.create sampleRegistration.type = .ok factory ∧
      ∀ handle, factory.library = some handle →
        handle ∈ host.opened ∧ host.closed.count handle < host.dlopens.count handle := by
  have hloaded : Reached (load {} samplePlugin {}) :=
    have hcareful : Careful {} (.load samplePlugin {}) := samplePlugin_onlyRegisters
    .step .start hcareful rfl
  have hreached : Reached ((load {} samplePlugin {}).load strayPlugin {}) :=
    have hcareful : Careful (load {} samplePlugin {}) (.load strayPlugin {}) :=
      strayPlugin_onlyRegisters
    .step hloaded hcareful rfl
  have hcreate : ((load {} samplePlugin {}).load strayPlugin {}).registry.create
      sampleRegistration.type = .ok ⟨some 0, "SampleEchoComponent"⟩ := by decide
  exact ⟨_, _, hreached, by decide, hcreate, no_factory_dangles hreached hcreate⟩

end PluginHost

end Plugin

end TopoExec
