import Mathlib.Algebra.GroupWithZero.Nat
import Mathlib.Algebra.BigOperators.Group.List.Basic
import Mathlib.Data.List.Nodup
import Mathlib.Order.Lattice

/-! # Ordered maps

A map with keys in ascending order, as a list of entries that carries the proof of
its order. Iterating over the map is going through `entries`.
-/

structure OrderedMap (κ ν : Type) [LinearOrder κ] where
  entries : List (κ × ν)
  ascending : (entries.map Prod.fst).Pairwise (· < ·)
deriving DecidableEq

namespace OrderedMap

variable {κ ν : Type} [LinearOrder κ]

/-! ## Operations -/

theorem nil_ascending : (([] : List (κ × ν)).map Prod.fst).Pairwise (· < ·) := List.Pairwise.nil

def empty : OrderedMap κ ν := ⟨[], nil_ascending⟩

instance : Inhabited (OrderedMap κ ν) := ⟨empty⟩

/-- Put an entry at its place; an entry with the same key is replaced. -/
def put (key : κ) (value : ν) : List (κ × ν) → List (κ × ν)
  | [] => [(key, value)]
  | entry :: rest =>
      if key < entry.1 then (key, value) :: entry :: rest
      else if key = entry.1 then (key, value) :: rest
      else entry :: put key value rest

/-- A put adds its key and no other. -/
theorem mem_keys_put (key : κ) (value : ν) (entries : List (κ × ν)) (k : κ) :
    k ∈ (put key value entries).map Prod.fst ↔ k = key ∨ k ∈ entries.map Prod.fst := by
  induction entries with
  | nil => simp [put]
  | cons entry rest ih =>
      unfold put
      split_ifs with hlt heq
      · simp only [List.map_cons, List.mem_cons]
      · simp [heq]
      · rw [List.map_cons, List.mem_cons, ih, List.map_cons, List.mem_cons]
        exact or_left_comm

/-- A put keeps the keys ascending. -/
theorem put_ascending (key : κ) (value : ν) {entries : List (κ × ν)}
    (h : (entries.map Prod.fst).Pairwise (· < ·)) :
    ((put key value entries).map Prod.fst).Pairwise (· < ·) := by
  induction entries with
  | nil => simp [put]
  | cons entry rest ih =>
      rw [List.map_cons, List.pairwise_cons] at h
      unfold put
      split_ifs with hlt heq
      · rw [List.map_cons, List.pairwise_cons, List.map_cons, List.pairwise_cons]
        refine ⟨?_, h⟩
        intro k hk
        rcases List.mem_cons.mp hk with rfl | hin
        · exact hlt
        · exact hlt.trans (h.1 k hin)
      · rw [List.map_cons, List.pairwise_cons, heq]
        exact h
      · rw [List.map_cons, List.pairwise_cons]
        refine ⟨?_, ih h.2⟩
        intro k hk
        rcases (mem_keys_put key value rest k).mp hk with rfl | hin
        · exact lt_of_le_of_ne (not_lt.mp hlt) (Ne.symm heq)
        · exact h.1 k hin

def insert (m : OrderedMap κ ν) (key : κ) (value : ν) : OrderedMap κ ν :=
  ⟨put key value m.entries, put_ascending key value m.ascending⟩

def find (m : OrderedMap κ ν) (key : κ) : Option ν :=
  (m.entries.find? fun entry => entry.1 = key).map Prod.snd

def size (m : OrderedMap κ ν) : Nat := m.entries.length

/-- Insert the entries of a list one after the other. -/
def insertAll (m : OrderedMap κ ν) (entries : List (κ × ν)) : OrderedMap κ ν :=
  entries.foldl (fun m entry => m.insert entry.1 entry.2) m

/-! ## Lookups -/

theorem keys_nodup (m : OrderedMap κ ν) : (m.entries.map Prod.fst).Nodup :=
  m.ascending.imp fun h => h.ne

@[simp]
theorem find_empty (key : κ) : (empty : OrderedMap κ ν).find key = none := rfl

/-- A put is found under its key. -/
theorem find?_put (key : κ) (value : ν) (entries : List (κ × ν)) (k : κ) :
    (put key value entries).find? (fun entry => entry.1 = k) =
      if key = k then some (key, value) else entries.find? fun entry => entry.1 = k := by
  by_cases hk : key = k
  · rw [if_pos hk]
    induction entries with
    | nil => simp [put, hk]
    | cons entry rest ih =>
        unfold put
        split_ifs with hlt heq
        · simp [hk]
        · simp [hk]
        · have hne : entry.1 ≠ k := fun h => heq (hk.trans h.symm)
          rw [List.find?_cons_of_neg (by simpa using hne), ih]
  · rw [if_neg hk]
    induction entries with
    | nil => simp [put, hk]
    | cons entry rest ih =>
        unfold put
        split_ifs with hlt heq
        · rw [List.find?_cons_of_neg (by simpa using hk)]
        · have hne : entry.1 ≠ k := fun h => hk (heq.trans h)
          rw [List.find?_cons_of_neg (by simpa using hk),
            List.find?_cons_of_neg (by simpa using hne)]
        · rw [List.find?_cons, List.find?_cons, ih]

/-- What was inserted last is found. -/
theorem find_insert (m : OrderedMap κ ν) (key : κ) (value : ν) (k : κ) :
    (m.insert key value).find k = if key = k then some value else m.find k := by
  rw [find, insert, find?_put]
  split_ifs <;> rfl

/-- Inserting the values of a function. -/
theorem find_insertAll_map (m : OrderedMap κ ν) (keys : List κ) (f : κ → ν) (k : κ) :
    (m.insertAll (keys.map fun key => (key, f key))).find k =
      if k ∈ keys then some (f k) else m.find k := by
  induction keys generalizing m with
  | nil => rfl
  | cons key keys ih =>
      rw [List.map_cons, insertAll, List.foldl_cons, ← insertAll, ih, find_insert]
      by_cases hin : k ∈ keys
      · rw [if_pos hin, if_pos (List.mem_cons_of_mem _ hin)]
      · by_cases hk : key = k
        · simp [hk]
        · simp [hin, hk, Ne.symm hk]

/-- The entries of a map are its lookups. -/
theorem mem_entries (m : OrderedMap κ ν) (entry : κ × ν) :
    entry ∈ m.entries ↔ m.find entry.1 = some entry.2 := by
  constructor
  · intro hmem
    rw [find, Option.map_eq_some_iff]
    refine ⟨entry, ?_, rfl⟩
    cases hfind : m.entries.find? fun e => e.1 = entry.1 with
    | none =>
        have hnone := List.find?_eq_none.mp hfind entry hmem
        simp at hnone
    | some e =>
        have hin := List.mem_of_find?_eq_some hfind
        have hkey : e.1 = entry.1 := by simpa using List.find?_some hfind
        rw [List.inj_on_of_nodup_map m.keys_nodup hin hmem hkey]
  · intro h
    rw [find, Option.map_eq_some_iff] at h
    rcases h with ⟨e, hfind, hvalue⟩
    have hkey : e.1 = entry.1 := by simpa using List.find?_some hfind
    rw [← Prod.ext hkey hvalue]
    exact List.mem_of_find?_eq_some hfind

/-! ## Passes over a map -/

section

variable {ν' : Type}

omit [LinearOrder κ] in
/-- Filtering keeps the order of the keys. -/
theorem keys_filterMap_sublist (f : ν → Option ν') (entries : List (κ × ν)) :
    ((entries.filterMap fun entry => (f entry.2).map (entry.1, ·)).map Prod.fst).Sublist
      (entries.map Prod.fst) := by
  induction entries with
  | nil => exact List.Sublist.refl _
  | cons entry rest ih =>
      cases hf : f entry.2 with
      | none =>
          rw [List.filterMap_cons_none (by rw [hf]; rfl)]
          exact ih.cons _
      | some value =>
          rw [List.filterMap_cons_some (by rw [hf]; rfl)]
          exact ih.cons_cons _

/-- The map of the values that `f` gives, under the same keys. -/
def filterMap (f : ν → Option ν') (m : OrderedMap κ ν) : OrderedMap κ ν' where
  entries := m.entries.filterMap fun entry => (f entry.2).map (entry.1, ·)
  ascending := m.ascending.sublist (keys_filterMap_sublist f m.entries)

def map (f : ν → ν') (m : OrderedMap κ ν) : OrderedMap κ ν' :=
  m.filterMap fun value => some (f value)

theorem find_eq_some (m : OrderedMap κ ν) (key : κ) (value : ν) :
    m.find key = some value ↔ (key, value) ∈ m.entries := (mem_entries m (key, value)).symm

/-- A filtered map has the values that pass. -/
theorem find_filterMap (f : ν → Option ν') (m : OrderedMap κ ν) (key : κ) :
    (m.filterMap f).find key = (m.find key).bind f := by
  apply Option.ext
  intro value
  rw [find_eq_some, Option.bind_eq_some_iff, filterMap, List.mem_filterMap]
  constructor
  · rintro ⟨⟨k, v⟩, hmem, hmap⟩
    obtain ⟨value', hf, heq⟩ := Option.map_eq_some_iff.mp hmap
    obtain ⟨rfl, rfl⟩ := Prod.mk.inj heq
    exact ⟨v, (find_eq_some m k v).mpr hmem, hf⟩
  · rintro ⟨v, hfind, hf⟩
    exact ⟨(key, v), (find_eq_some m key v).mp hfind, by rw [hf]; rfl⟩

/-- A mapped map has the mapped values. -/
theorem find_map (f : ν → ν') (m : OrderedMap κ ν) (key : κ) :
    (m.map f).find key = (m.find key).map f := by
  rw [map, find_filterMap, Option.map_eq_bind]
  rfl

end

/-! ## Taking out an entry -/

def erase (m : OrderedMap κ ν) (key : κ) : OrderedMap κ ν where
  entries := m.entries.filter fun entry => entry.1 ≠ key
  ascending := m.ascending.sublist (List.filter_sublist.map Prod.fst)

/-- An erased key is not found, the others are. -/
theorem find_erase (m : OrderedMap κ ν) (key k : κ) :
    (m.erase key).find k = if k = key then none else m.find k := by
  apply Option.ext
  intro value
  rw [find_eq_some, erase, List.mem_filter, ← find_eq_some]
  by_cases hk : k = key <;> simp [hk]

/-- A map is known by its lookups. -/
theorem ext_find {m m' : OrderedMap κ ν} (h : ∀ key, m.find key = m'.find key) : m = m' := by
  have hmem : ∀ entry, entry ∈ m.entries ↔ entry ∈ m'.entries := by
    intro entry
    rw [mem_entries, mem_entries, h]
  have hnodup : ∀ m : OrderedMap κ ν, m.entries.Nodup := fun m => m.keys_nodup.of_map _
  have hperm := (List.perm_ext_iff_of_nodup (hnodup m) (hnodup m')).mpr hmem
  have hentries : m.entries = m'.entries := by
    refine hperm.eq_of_pairwise ?_ (List.pairwise_map.mp m.ascending)
      (List.pairwise_map.mp m'.ascending)
    intro a b _ _ hab hba
    exact absurd hab (lt_asymm hba)
  cases m
  cases m'
  cases hentries
  rfl

/-! ## Sums over a map -/

/-- The sum of a weight over the values. -/
def total (f : ν → Nat) (m : OrderedMap κ ν) : Nat := (m.entries.map fun entry => f entry.2).sum

/-- A put replaces one summand. -/
theorem sum_put (f : ν → Nat) (key : κ) (value : ν) {entries : List (κ × ν)}
    (h : (entries.map Prod.fst).Pairwise (· < ·)) :
    ((put key value entries).map fun entry => f entry.2).sum +
        (((entries.find? fun entry => entry.1 = key).map Prod.snd).map f).getD 0 =
      (entries.map fun entry => f entry.2).sum + f value := by
  induction entries with
  | nil => simp [put]
  | cons entry rest ih =>
      rw [List.map_cons, List.pairwise_cons] at h
      unfold put
      split_ifs with hlt heq
      · -- all the keys are larger, so the key is new
        have hnone : (entry :: rest).find? (fun e => e.1 = key) = none := by
          rw [List.find?_eq_none]
          intro e he
          have hle : entry.1 ≤ e.1 := by
            rcases List.mem_cons.mp he with rfl | hin
            · exact le_refl _
            · exact le_of_lt (h.1 e.1 (List.mem_map_of_mem hin))
          simpa using (hlt.trans_le hle).ne'
        rw [hnone]
        simp only [List.map_cons, List.sum_cons, Option.map_none, Option.getD_none]
        omega
      · rw [List.find?_cons_of_pos (by simpa using heq.symm)]
        simp only [List.map_cons, List.sum_cons, Option.map_some, Option.getD_some]
        omega
      · rw [List.find?_cons_of_neg (by simpa using Ne.symm heq)]
        have hrest := ih h.2
        simp only [List.map_cons, List.sum_cons]
        omega

/-- An insertion replaces the weight of one value. -/
theorem total_insert (f : ν → Nat) (m : OrderedMap κ ν) (key : κ) (value : ν) :
    (m.insert key value).total f + ((m.find key).map f).getD 0 = m.total f + f value :=
  sum_put f key value m.ascending

/-- The total of a mapped map. -/
theorem total_map {ν' : Type} (f : ν' → Nat) (g : ν → ν') (m : OrderedMap κ ν) :
    (m.map g).total f = m.total fun value => f (g value) := by
  show ((m.entries.filterMap (some ∘ fun entry => (entry.1, g entry.2))).map fun entry =>
    f entry.2).sum = _
  rw [List.filterMap_eq_map, List.map_map]
  rfl

end OrderedMap
