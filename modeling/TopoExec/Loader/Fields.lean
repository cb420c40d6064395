import TopoExec.Loader.Load

/-! # Rewriting a document

Ways to change the fields of a mapping, and what the accessors of the loader see of the
change. A field that is not touched reads as before; which fields a mapping may have
depends on its keys alone.
-/

namespace TopoExec

namespace YamlNode

/-- Change the values under a key. -/
def modify (key : String) (f : YamlNode → YamlNode) : YamlNode → YamlNode
  | .map entries =>
      .map (entries.map fun entry => if entry.1.isKey key then (entry.1, f entry.2) else entry)
  | node => node

/-- Keep the fields whose keys are not in the list. -/
def without (keys : List String) (entries : List (YamlNode × YamlNode)) :
    List (YamlNode × YamlNode) :=
  entries.filter fun entry => keys.all fun key => !entry.1.isKey key

/-- The elements of the sequence under a key. -/
def itemsOf (key : String) (node : YamlNode) : List YamlNode :=
  match node.field key with
  | .ok (some (.sequence items)) => items
  | _ => []

/-- The text under a key. -/
def textOf (key : String) (node : YamlNode) : String :=
  match node.field key with
  | .ok (some (.scalar text)) => text
  | _ => ""

/-! ## Lookups -/

/-- A node stands for one key. -/
theorem isKey_eq {node : YamlNode} {key key' : String} (h : node.isKey key = true)
    (h' : node.isKey key' = true) : key = key' := by
  cases node with
  | scalar text =>
      have hkey : text = key := by simpa [isKey] using h
      have hkey' : text = key' := by simpa [isKey] using h'
      exact hkey.symm.trans hkey'
  | _ => simp [isKey] at h

/-- A modified value is found under its key. -/
theorem lookup_modify {key : String} (f : YamlNode → YamlNode)
    (entries : List (YamlNode × YamlNode)) :
    lookup key (entries.map fun entry =>
      if entry.1.isKey key then (entry.1, f entry.2) else entry) =
      (lookup key entries).map f := by
  induction entries with
  | nil => rfl
  | cons entry rest ih =>
      unfold lookup at ih ⊢
      by_cases hkey : entry.1.isKey key = true
      · simp [hkey]
      · simpa [List.find?_cons, hkey] using ih

/-- The other keys keep their values. -/
theorem lookup_modify_of_ne {key key' : String} (hne : key' ≠ key) (f : YamlNode → YamlNode)
    (entries : List (YamlNode × YamlNode)) :
    lookup key' (entries.map fun entry =>
      if entry.1.isKey key then (entry.1, f entry.2) else entry) =
      lookup key' entries := by
  induction entries with
  | nil => rfl
  | cons entry rest ih =>
      unfold lookup at ih ⊢
      by_cases hkey : entry.1.isKey key = true
      · have hkey' : entry.1.isKey key' = false := by
          by_contra h
          exact hne (isKey_eq (by simpa using h) hkey)
        simpa [List.find?_cons, hkey, hkey'] using ih
      · by_cases hkey' : entry.1.isKey key' = true
        · simp [hkey, hkey']
        · simpa [List.find?_cons, hkey, hkey'] using ih

/-- An assigned value is found under its key. -/
theorem lookup_assign (key : String) (value : YamlNode) (entries : List (YamlNode × YamlNode)) :
    lookup key (assign key value entries) = some value := by
  induction entries with
  | nil => simp [assign, lookup, isKey]
  | cons entry rest ih =>
      unfold assign
      unfold lookup at ih ⊢
      by_cases hkey : entry.1.isKey key = true
      · simp [hkey]
      · simpa [List.find?_cons, hkey] using ih

/-- The other keys keep their values. -/
theorem lookup_assign_of_ne {key key' : String} (hne : key' ≠ key) (value : YamlNode)
    (entries : List (YamlNode × YamlNode)) :
    lookup key' (assign key value entries) = lookup key' entries := by
  induction entries with
  | nil => simp [assign, lookup, isKey, Ne.symm hne]
  | cons entry rest ih =>
      unfold assign
      unfold lookup at ih ⊢
      by_cases hkey : entry.1.isKey key = true
      · have hkey' : entry.1.isKey key' = false := by
          by_contra h
          exact hne (isKey_eq (by simpa using h) hkey)
        simp [hkey, hkey']
      · by_cases hkey' : entry.1.isKey key' = true
        · simp [hkey, hkey']
        · simpa [List.find?_cons, hkey, hkey'] using ih

/-- Keys that stay keep their values. -/
theorem lookup_without {keys : List String} {key : String} (h : key ∉ keys)
    (entries : List (YamlNode × YamlNode)) :
    lookup key (without keys entries) = lookup key entries := by
  induction entries with
  | nil => rfl
  | cons entry rest ih =>
      unfold lookup without at ih ⊢
      by_cases hkept : (keys.all fun key => !entry.1.isKey key) = true
      · rw [List.filter_cons, if_pos hkept, List.find?_cons, List.find?_cons]
        split
        · rfl
        · exact ih
      · -- a field that is taken out is not the one that is looked up
        have hkey : entry.1.isKey key = false := by
          by_contra hkey
          apply hkept
          rw [List.all_eq_true]
          intro other hother
          rw [Bool.not_eq_true']
          by_contra hother'
          exact h (isKey_eq (by simpa using hkey) (by simpa using hother') ▸ hother)
        rw [List.filter_cons, if_neg hkept, List.find?_cons, hkey]
        exact ih

/-- A key that was taken out has no value. -/
theorem lookup_without_self {keys : List String} {key : String} (h : key ∈ keys)
    (entries : List (YamlNode × YamlNode)) : lookup key (without keys entries) = none := by
  unfold lookup without
  rw [Option.map_eq_none_iff, List.find?_eq_none]
  intro entry hentry hkey
  have hkept := (List.mem_filter.mp hentry).2
  rw [List.all_eq_true] at hkept
  have := hkept key h
  simp [hkey] at this

/-! ## Fields -/

/-- The other fields keep their values. -/
theorem field_modify_of_ne {key key' : String} (hne : key' ≠ key) (f : YamlNode → YamlNode)
    (node : YamlNode) : (node.modify key f).field key' = node.field key' := by
  cases node with
  | map entries => simp only [modify, field, lookup_modify_of_ne hne]
  | _ => rfl

/-- A field that is there, changed to a value that is there. -/
theorem field_modify {key : String} {f : YamlNode → YamlNode} {node child : YamlNode}
    (h : node.field key = .ok (some child)) (hchild : f child ≠ .null) :
    (node.modify key f).field key = .ok (some (f child)) := by
  cases node with
  | map entries =>
      simp only [modify, field, lookup_modify] at h ⊢
      cases hlookup : lookup key entries with
      | none => simp [hlookup] at h
      | some value =>
          rw [hlookup] at h
          have hvalue : value = child := by
            cases value <;> simp_all
          subst hvalue
          cases hf : f value <;> simp_all
  | scalar text => cases h
  | sequence items => cases h
  | null => cases h

/-- A field that is not there. -/
theorem field_modify_none {key : String} {f : YamlNode → YamlNode} {node : YamlNode}
    (h : node.field key = .ok none) (hnull : f .null = .null) :
    (node.modify key f).field key = .ok none := by
  cases node with
  | map entries =>
      simp only [modify, field, lookup_modify] at h ⊢
      cases hlookup : lookup key entries with
      | none => rfl
      | some value =>
          rw [hlookup] at h
          cases value with
          | null => simp [hnull]
          | _ => simp at h
  | scalar text => cases h
  | sequence items => rfl
  | null => rfl

end YamlNode

/-! ## Accessors -/

section

variable {node node' : YamlNode} {key : String}

/-- A required node depends on its field only. -/
theorem requireNode_congr (h : node'.field key = node.field key) (context : String) :
    requireNode node' key context = requireNode node key context := by
  unfold requireNode
  rw [h]

theorem requireString_congr (h : node'.field key = node.field key) (context : String) :
    requireString node' key context = requireString node key context := by
  unfold requireString
  rw [requireNode_congr h]

/-- A required node is there. -/
theorem requireNode_eq_ok {context : String} {child : YamlNode} :
    requireNode node key context = .ok child ↔ node.field key = .ok (some child) := by
  unfold requireNode
  rw [bind_eq_ok]
  constructor
  · rintro ⟨value, hfield, hvalue⟩
    cases value with
    | none => cases hvalue
    | some value =>
        cases hvalue
        exact hfield
  · intro hfield
    exact ⟨some child, hfield, rfl⟩

/-- What is required to be a map is one. -/
theorem requireMap_eq_ok {context : String} {entries : List (YamlNode × YamlNode)} :
    requireMap node context = .ok entries ↔ node = .map entries := by
  cases node <;> simp [requireMap, invalid]

/-- What is required to be a sequence is one. -/
theorem requireSequence_eq_ok {context : String} {items : List YamlNode} :
    requireSequence node context = .ok items ↔ node = .sequence items := by
  cases node <;> simp [requireSequence, invalid]

/-- Every key of a mapping is allowed. -/
theorem rejectUnknownFields_eq_ok {entries : List (YamlNode × YamlNode)} {context : String}
    {allowed : List String} :
    rejectUnknownFields (.map entries) context allowed = .ok () ↔
      ∀ entry ∈ entries, ∃ key ∈ allowed, entry.1.asString = .ok key := by
  change (entries.forM fun entry => do
    let key ← entry.1.asString
    Check.refuse (key ∉ allowed)
      (.invalidArgument ("unexpected field " ++ context ++ "." ++ key))) = .ok () ↔ _
  induction entries with
  | nil => simp [List.forM, pure, Except.pure]
  | cons entry rest ih =>
      rw [List.forall_mem_cons, ← ih]
      change ((do
        let key ← entry.1.asString
        Check.refuse (key ∉ allowed)
          (.invalidArgument ("unexpected field " ++ context ++ "." ++ key))) >>= fun _ => _) =
            .ok () ↔ _
      rw [bind_eq_ok]
      constructor
      · rintro ⟨_, hentry, hrest⟩
        obtain ⟨key, hkey, hallowed⟩ := bind_eq_ok.mp hentry
        have hmem := Check.refuse_eq_ok.mp hallowed
        exact ⟨⟨key, not_not.mp hmem, hkey⟩, hrest⟩
      · rintro ⟨⟨key, hallowed, hkey⟩, hrest⟩
        refine ⟨(), bind_eq_ok.mpr ⟨key, hkey, ?_⟩, hrest⟩
        exact Check.refuse_eq_ok.mpr (not_not.mpr hallowed)

end

/-- Changing values leaves the keys as they are. -/
theorem rejectUnknownFields_modify {key : String} {f : YamlNode → YamlNode} {node : YamlNode}
    {context : String} {allowed : List String}
    (h : rejectUnknownFields node context allowed = .ok ()) :
    rejectUnknownFields (node.modify key f) context allowed = .ok () := by
  cases node with
  | map entries =>
      rw [rejectUnknownFields_eq_ok] at h
      change rejectUnknownFields (.map _) context allowed = .ok ()
      rw [rejectUnknownFields_eq_ok]
      intro entry hentry
      obtain ⟨original, horiginal, rfl⟩ := List.mem_map.mp hentry
      obtain ⟨name, hallowed, hname⟩ := h original horiginal
      refine ⟨name, hallowed, ?_⟩
      split_ifs
      · exact hname
      · exact hname
  | _ => exact h

end TopoExec
