import Mathlib.Algebra.GroupWithZero.Nat
import Mathlib.Data.List.Sort
import Mathlib.Algebra.BigOperators.Group.List.Basic
import Mathlib.Order.Basic

/-! # Queues under keys

A `Bank` is a map from keys to queues in which a key comes into being with an
empty queue when it is first used, and which is iterated in the order of its
keys. `Flow before after carried dropped` says how one bank came from another by
taking messages off its queues: queue by queue, what was carried away, followed by
what is left, stands in the old queue in this order, and all that is missing was
dropped. Flows compose (`Flow.trans`), and the loops over a bank come with their
invariant rules.
-/

namespace Queues

/-- Queues under the keys in use. -/
structure Bank (κ α : Type) [LinearOrder κ] where
  keys : List κ
  queue : κ → List α
  sorted : keys.Pairwise (· < ·)
  absent : ∀ k, k ∉ keys → queue k = []

variable {κ α : Type} [LinearOrder κ]

namespace Bank

theorem nodup_keys (bank : Bank κ α) : bank.keys.Nodup := bank.sorted.imp ne_of_lt

def empty : Bank κ α where
  keys := []
  queue := fun _ => []
  sorted := List.Pairwise.nil
  absent := fun _ _ => rfl

/-- The keys after `bank[k]`. -/
def keysWith (keys : List κ) (k : κ) : List κ :=
  if k ∈ keys then keys else keys.orderedInsert (· ≤ ·) k

/-- A key is added when it is new. -/
theorem mem_keysWith {keys : List κ} {k k' : κ} : k' ∈ keysWith keys k ↔ k' = k ∨ k' ∈ keys := by
  unfold keysWith
  split_ifs with hk
  · constructor
    · exact Or.inr
    · rintro (rfl | h)
      · exact hk
      · exact h
  · rw [List.mem_orderedInsert]

/-- The keys stay ascending. -/
theorem sorted_keysWith {keys : List κ} (h : keys.Pairwise (· < ·)) (k : κ) :
    (keysWith keys k).Pairwise (· < ·) := by
  unfold keysWith
  split_ifs with hk
  · exact h
  · have hnd : (keys.orderedInsert (· ≤ ·) k).Nodup := by
      rw [(List.perm_orderedInsert _ k keys).nodup_iff]
      exact List.nodup_cons.mpr ⟨hk, h.imp ne_of_lt⟩
    have hle : (keys.orderedInsert (· ≤ ·) k).Pairwise (· ≤ ·) :=
      List.Pairwise.orderedInsert k keys (h.imp le_of_lt)
    exact (hle.and hnd).imp fun hab => lt_of_le_of_ne hab.1 hab.2

/-- `bank[k] = items`. -/
def set (bank : Bank κ α) (k : κ) (items : List α) : Bank κ α where
  keys := keysWith bank.keys k
  queue := Function.update bank.queue k items
  sorted := sorted_keysWith bank.sorted k
  absent := by
    intro k' hk'
    rw [mem_keysWith, not_or] at hk'
    rw [Function.update_of_ne hk'.1]
    exact bank.absent k' hk'.2

/-- The number of messages in all the queues. -/
def size (bank : Bank κ α) : Nat := (bank.keys.map fun k => (bank.queue k).length).sum

@[simp]
theorem queue_set (bank : Bank κ α) (k : κ) (items : List α) : (bank.set k items).queue k = items :=
  Function.update_self ..

theorem queue_set_of_ne (bank : Bank κ α) {k k' : κ} (h : k' ≠ k) (items : List α) :
    (bank.set k items).queue k' = bank.queue k' :=
  Function.update_of_ne h ..

theorem keys_set_of_mem {bank : Bank κ α} {k : κ} (h : k ∈ bank.keys) (items : List α) :
    (bank.set k items).keys = bank.keys :=
  if_pos h

/-- Setting a queue changes the size by its own. -/
theorem size_set_of_mem {bank : Bank κ α} {k : κ} (h : k ∈ bank.keys) (items : List α) :
    (bank.set k items).size + (bank.queue k).length = bank.size + items.length := by
  obtain ⟨before, after, hkeys⟩ := List.append_of_mem h
  have hnd : (before ++ k :: after).Nodup := hkeys ▸ bank.nodup_keys
  have hother : ∀ k' ∈ before ++ after, (bank.set k items).queue k' = bank.queue k' := by
    intro k' hk'
    refine bank.queue_set_of_ne ?_ items
    rintro rfl
    exact (List.nodup_cons.mp (List.nodup_middle.mp hnd)).1 hk'
  have hbefore : before.map (fun k' => ((bank.set k items).queue k').length) =
      before.map fun k' => (bank.queue k').length :=
    List.map_congr_left fun k' hk' => by rw [hother k' (List.mem_append_left _ hk')]
  have hafter : after.map (fun k' => ((bank.set k items).queue k').length) =
      after.map fun k' => (bank.queue k').length :=
    List.map_congr_left fun k' hk' => by rw [hother k' (List.mem_append_right _ hk')]
  unfold size
  rw [keys_set_of_mem h, hkeys]
  simp only [List.map_append, List.map_cons, List.sum_append, List.sum_cons, hbefore, hafter,
    queue_set]
  omega

/-- Assigning to one queue changes the number of messages by its length. -/
theorem size_set (bank : Bank κ α) (k : κ) (items : List α) :
    (bank.set k items).size + (bank.queue k).length = bank.size + items.length := by
  by_cases h : k ∈ bank.keys
  · exact size_set_of_mem h items
  · have hnone := bank.absent k h
    -- a new key adds its own queue and nothing else
    have hkeys : (bank.set k items).keys = bank.keys.orderedInsert (· ≤ ·) k := if_neg h
    have hperm := List.perm_orderedInsert (· ≤ ·) k bank.keys
    have hold : bank.keys.map (fun k' => ((bank.set k items).queue k').length) =
        bank.keys.map fun k' => (bank.queue k').length :=
      List.map_congr_left fun k' hk' => by
        rw [bank.queue_set_of_ne (by rintro rfl; exact h hk')]
    unfold size
    rw [hkeys, (hperm.map _).sum_eq, List.map_cons, List.sum_cons, hold, queue_set, hnone]
    simp
    omega

end Bank

/-! ## Flows -/

/-- The messages carried away from one queue. -/
def carriedOn (k : κ) (carried : List (κ × α)) : List α :=
  (carried.filter fun item => item.1 = k).map Prod.snd

/-- What is carried on a key, in two parts. -/
@[simp]
theorem carriedOn_append (k : κ) (carried carried' : List (κ × α)) :
    carriedOn k (carried ++ carried') = carriedOn k carried ++ carriedOn k carried' := by
  simp [carriedOn]

@[simp]
theorem carriedOn_nil (k : κ) : carriedOn k ([] : List (κ × α)) = [] := rfl

/-- Items carried on one key. -/
theorem carriedOn_map_self (k : κ) (items : List α) :
    carriedOn k (items.map fun item => (k, item)) = items := by
  induction items with
  | nil => rfl
  | cons item items ih => simpa [carriedOn] using ih

theorem carriedOn_map_of_ne {k k' : κ} (h : k' ≠ k) (items : List α) :
    carriedOn k' (items.map fun item => (k, item)) = [] := by
  simp [carriedOn, List.filter_map, Function.comp_def, Ne.symm h]

theorem carriedOn_of_forall {k : κ} {carried : List (κ × α)} (h : ∀ item ∈ carried, item.1 = k) :
    carriedOn k carried = carried.map Prod.snd := by
  unfold carriedOn
  rw [List.filter_eq_self.mpr fun item hitem => decide_eq_true (h item hitem)]

theorem carriedOn_eq_nil {k : κ} {carried : List (κ × α)} (h : ∀ item ∈ carried, item.1 ≠ k) :
    carriedOn k carried = [] := by
  unfold carriedOn
  rw [List.filter_eq_nil_iff.mpr fun item hitem => by simpa using h item hitem, List.map_nil]

/-- An item is carried on its key. -/
theorem mem_carriedOn {k : κ} {carried : List (κ × α)} {item : α} :
    item ∈ carriedOn k carried ↔ (k, item) ∈ carried := by
  simp [carriedOn]

/-- How `after` came from `before`. -/
structure Flow (before after : Bank κ α) (carried : List (κ × α)) (dropped : Nat) : Prop where
  order : ∀ k, (carriedOn k carried ++ after.queue k).Sublist (before.queue k)
  balance : after.size + carried.length + dropped = before.size

namespace Flow

variable {a b c : Bank κ α} {carried carried' : List (κ × α)} {dropped dropped' : Nat}

theorem refl (a : Bank κ α) : Flow a a [] 0 :=
  ⟨fun _ => List.Sublist.refl _, rfl⟩

/-- Flows one after the other: what they carry is joined, what they drop is added. -/
theorem trans (h : Flow a b carried dropped) (h' : Flow b c carried' dropped') :
    Flow a c (carried ++ carried') (dropped + dropped') := by
  constructor
  · intro k
    rw [carriedOn_append, List.append_assoc]
    exact ((h'.order k).append_left _).trans (h.order k)
  · have h1 := h.balance
    have h2 := h'.balance
    rw [List.length_append]
    omega

/-- Serve the messages `served` of one queue and drop others of it. -/
theorem serve {k : κ} {served rest : List α}
    (hsub : (served ++ rest).Sublist (a.queue k))
    (hcount : served.length + rest.length + dropped = (a.queue k).length) :
    Flow a (a.set k rest) (served.map fun item => (k, item)) dropped := by
  constructor
  · intro k'
    by_cases hk : k' = k
    · subst hk
      rw [carriedOn_map_self, Bank.queue_set]
      exact hsub
    · rw [carriedOn_map_of_ne hk, Bank.queue_set_of_ne _ hk]
      exact List.Sublist.refl _
  · have hsize := a.size_set k rest
    rw [List.length_map]
    omega

/-- Take the first message of a queue. -/
theorem take {k : κ} {item : α} {rest : List α} (h : a.queue k = item :: rest) :
    Flow a (a.set k rest) [(k, item)] 0 := by
  have hserve : Flow a (a.set k rest) ([item].map fun item => (k, item)) 0 :=
    serve (by rw [h]; exact List.Sublist.refl _) (by rw [h]; simp; omega)
  exact hserve

/-- Drop some messages of a queue. -/
theorem drop {k : κ} {rest : List α} (hsub : rest.Sublist (a.queue k))
    (hcount : rest.length + dropped = (a.queue k).length) : Flow a (a.set k rest) [] dropped := by
  have hserve : Flow a (a.set k rest) ([].map fun item => (k, item)) dropped :=
    serve hsub (by simpa using hcount)
  exact hserve

/-- Queues only get shorter. -/
theorem length_le (h : Flow a b carried dropped) (k : κ) :
    (b.queue k).length ≤ (a.queue k).length := by
  have := (h.order k).length_le
  rw [List.length_append] at this
  omega

end Flow

/-! ## What the messages have in common -/

section All

variable {P : α → Prop} {bank after : Bank κ α}

/-- Every message in the queues has the property. -/
def Bank.All (P : α → Prop) (bank : Bank κ α) : Prop := ∀ k, ∀ item ∈ bank.queue k, P item

/-- A queue of items with a property may replace another. -/
theorem Bank.All.set (h : bank.All P) {k : κ} {items : List α} (hitems : ∀ item ∈ items, P item) :
    (bank.set k items).All P := by
  intro k' item hitem
  by_cases hk : k' = k
  · subst hk
    rw [queue_set] at hitem
    exact hitems item hitem
  · rw [queue_set_of_ne _ hk] at hitem
    exact h k' item hitem

/-- A flow brings in nothing new. -/
theorem Flow.all {carried : List (κ × α)} {dropped : Nat} (h : Flow bank after carried dropped)
    (hall : bank.All P) : after.All P ∧ ∀ item ∈ carried, P item.2 := by
  constructor
  · intro k item hitem
    exact hall k item ((h.order k).subset (List.mem_append_right _ hitem))
  · intro item hitem
    have hcarried : item.2 ∈ carriedOn item.1 carried := mem_carriedOn.mpr hitem
    exact hall item.1 item.2 ((h.order item.1).subset (List.mem_append_left _ hcarried))

end All

/-! ## Loops over a bank -/

/-- `for (auto& [k, queue] : bank)`: the body replaces each queue and threads a
state. -/
def sweep {σ : Type} (body : κ → List α → σ → List α × σ) (bank : Bank κ α) (s : σ) :
    Bank κ α × σ :=
  bank.keys.foldl
    (fun acc k =>
      let result := body k (acc.1.queue k) acc.2
      (acc.1.set k result.1, result.2))
    (bank, s)

/-- The invariant of a sweep may speak about the keys already passed. -/
theorem sweep_rule {σ : Type} (body : κ → List α → σ → List α × σ) (bank : Bank κ α) (s : σ)
    {I : List κ → Bank κ α → σ → Prop}
    (hstep : ∀ done k bank' s', k ∉ done → I done bank' s' →
      I (done ++ [k]) (bank'.set k (body k (bank'.queue k) s').1)
        (body k (bank'.queue k) s').2)
    (hinit : I [] bank s) : I bank.keys (sweep body bank s).1 (sweep body bank s).2 := by
  have hfold : ∀ rest done bank' s', (done ++ rest).Nodup → I done bank' s' →
      let final := rest.foldl
        (fun (acc : Bank κ α × σ) k =>
          let result := body k (acc.1.queue k) acc.2
          (acc.1.set k result.1, result.2)) (bank', s')
      I (done ++ rest) final.1 final.2 := by
    intro rest
    induction rest with
    | nil =>
        intro done bank' s' _ h
        simpa using h
    | cons k rest ih =>
        intro done bank' s' hnd h
        have hk : k ∉ done := by
          intro hk
          exact List.disjoint_of_nodup_append hnd hk (by simp)
        have := ih (done ++ [k]) _ _ (by simpa using hnd) (hstep done k bank' s' hk h)
        simpa using this
  simpa [sweep] using hfold bank.keys [] bank s (by simpa using bank.nodup_keys) hinit

end Queues
