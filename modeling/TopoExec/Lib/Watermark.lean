import Mathlib.Logic.Function.Basic
import Mathlib.Tactic.Common
import TopoExec.Lib.History

/-! # Watermarks

Items with a stamp, a domain and a time, are scanned one after the other against a
watermark for each domain. An item is late if its time is below the watermark by more
than the lateness; an item that is not late is admitted and raises the watermark to its
time. The verdicts of a scan are a history: `Tracks` says that the watermarks are the
greatest times admitted in it, and `DropsLate` that an item is dropped iff an earlier
admitted one is too far ahead. A scan keeps both (`Tracks.scan`).
-/

namespace Watermark

open History

variable {α δ : Type} {stamp : α → Option (δ × Int)} {lateness : Int} {marks : δ → Option Int}
  {verdicts : List (α × Bool)} {item : α} {d : δ} {time mark : Int}

/-! ## Verdicts -/

/-- The items that are not dropped. -/
def admitted (verdicts : List (α × Bool)) : List α :=
  (verdicts.filter fun verdict => !verdict.2).map Prod.fst

def droppedCount (verdicts : List (α × Bool)) : Nat := verdicts.countP fun verdict => verdict.2

theorem mem_admitted : item ∈ admitted verdicts ↔ (item, false) ∈ verdicts := by
  simp [admitted]

@[simp]
theorem admitted_append (verdicts verdicts' : List (α × Bool)) :
    admitted (verdicts ++ verdicts') = admitted verdicts ++ admitted verdicts' := by
  simp [admitted]

@[simp]
theorem admitted_dropped (item : α) (verdicts : List (α × Bool)) :
    admitted ((item, true) :: verdicts) = admitted verdicts := rfl

@[simp]
theorem admitted_kept (item : α) (verdicts : List (α × Bool)) :
    admitted ((item, false) :: verdicts) = item :: admitted verdicts := rfl

/-- The watermarks are the greatest times of the items admitted. -/
structure Tracks (stamp : α → Option (δ × Int)) (verdicts : List (α × Bool))
    (marks : δ → Option Int) : Prop where
  attained : ∀ d mark, marks d = some mark → ∃ item ∈ admitted verdicts, stamp item = some (d, mark)
  bound : ∀ item ∈ admitted verdicts, ∀ d time, stamp item = some (d, time) →
    ∃ mark, marks d = some mark ∧ time ≤ mark

/-- An item admitted before is ahead of this one by more than the lateness. -/
def Overtaken (stamp : α → Option (δ × Int)) (lateness : Int) (earlier : List (α × Bool))
    (item : α) : Prop :=
  ∃ d time, stamp item = some (d, time) ∧
    ∃ other ∈ admitted earlier, ∃ time', stamp other = some (d, time') ∧ time + lateness < time'

/-- An item is dropped iff it is overtaken. -/
def DropsLate (stamp : α → Option (δ × Int)) (lateness : Int) (earlier : List (α × Bool))
    (verdict : α × Bool) : Prop :=
  verdict.2 = true ↔ Overtaken stamp lateness earlier verdict.1

/-- The item is too far below the watermark of its domain. -/
def Late (stamp : α → Option (δ × Int)) (lateness : Int) (marks : δ → Option Int) (item : α) :
    Prop :=
  ∃ found ∈ stamp item, ∃ mark ∈ marks found.1, found.2 < mark - lateness

instance (marks : δ → Option Int) (item : α) : Decidable (Late stamp lateness marks item) :=
  inferInstanceAs (Decidable (∃ _, _))

/-- Nothing was admitted, and there is no mark. -/
theorem tracks_empty : Tracks stamp [] fun _ => none := by
  constructor
  · intro d mark h
    cases h
  · intro item hitem
    exact absurd hitem List.not_mem_nil

/-- Where the watermarks are those of a history, lateness is about that history. -/
theorem Tracks.late_iff (h : Tracks stamp verdicts marks) :
    Late stamp lateness marks item ↔ Overtaken stamp lateness verdicts item := by
  constructor
  · rintro ⟨⟨d, time⟩, hstamp, mark, hmark, hlate⟩
    obtain ⟨other, hother, hstamped⟩ := h.attained d mark hmark
    exact ⟨d, time, hstamp, other, hother, mark, hstamped, by simp only at hlate; omega⟩
  · rintro ⟨d, time, hstamp, other, hother, time', hstamped, hahead⟩
    obtain ⟨mark, hmark, hle⟩ := h.bound other hother d time' hstamped
    exact ⟨(d, time), hstamp, mark, hmark, by simp only; omega⟩

/-- A dropped item leaves the watermarks alone. -/
theorem Tracks.dropped (h : Tracks stamp verdicts marks) (item : α) :
    Tracks stamp (verdicts ++ [(item, true)]) marks := by
  have hsame : admitted (verdicts ++ [(item, true)]) = admitted verdicts := by simp [admitted]
  constructor
  · rw [hsame]
    exact h.attained
  · rw [hsame]
    exact h.bound

/-! ## Raising -/

variable [DecidableEq δ]

/-- The watermarks after an item is admitted. -/
def raise (stamp : α → Option (δ × Int)) (marks : δ → Option Int) (item : α) : δ → Option Int :=
  match stamp item with
  | none => marks
  | some found =>
      if ∀ mark ∈ marks found.1, mark < found.2 then
        Function.update marks found.1 (some found.2)
      else marks

/-- A watermark afterwards is an old one or the time of the item. -/
theorem raise_cases (h : raise stamp marks item d = some mark) :
    marks d = some mark ∨ stamp item = some (d, mark) := by
  unfold raise at h
  cases hstamp : stamp item with
  | none =>
      rw [hstamp] at h
      exact Or.inl h
  | some found =>
      rw [hstamp] at h
      dsimp only at h
      split_ifs at h
      · by_cases hd : d = found.1
        · subst hd
          rw [Function.update_self] at h
          cases h
          exact Or.inr rfl
        · rw [Function.update_of_ne hd] at h
          exact Or.inl h
      · exact Or.inl h

/-- Marks only rise. -/
theorem raise_mono (stamp : α → Option (δ × Int)) (item : α) (h : marks d = some mark) :
    ∃ mark', raise stamp marks item d = some mark' ∧ mark ≤ mark' := by
  unfold raise
  cases stamp item with
  | none => exact ⟨mark, h, Int.le_refl _⟩
  | some found =>
      dsimp only
      split_ifs with hnew
      · by_cases hd : d = found.1
        · subst hd
          rw [Function.update_self]
          exact ⟨found.2, rfl, Int.le_of_lt (hnew mark h)⟩
        · rw [Function.update_of_ne hd]
          exact ⟨mark, h, Int.le_refl _⟩
      · exact ⟨mark, h, Int.le_refl _⟩

/-- After an item the mark is at least its time. -/
theorem raise_covers (h : stamp item = some (d, time)) :
    ∃ mark, raise stamp marks item d = some mark ∧ time ≤ mark := by
  unfold raise
  rw [h]
  dsimp only
  split_ifs with hnew
  · exact ⟨time, Function.update_self .., Int.le_refl _⟩
  · -- the watermark that is not below the time
    push Not at hnew
    obtain ⟨mark, hmark, hle⟩ := hnew
    refine ⟨mark, hmark, ?_⟩
    omega

/-- Taking an item raises the mark to the maximum. -/
theorem Tracks.takes (h : Tracks stamp verdicts marks) (item : α) :
    Tracks stamp (verdicts ++ [(item, false)]) (raise stamp marks item) := by
  have hmore : ∀ other, other ∈ admitted (verdicts ++ [(item, false)]) ↔
      other ∈ admitted verdicts ∨ other = item := by
    intro other
    simp [admitted]
  constructor
  · intro d mark hmark
    rcases raise_cases hmark with hold | hnew
    · obtain ⟨other, hother, hstamped⟩ := h.attained d mark hold
      exact ⟨other, (hmore other).mpr (Or.inl hother), hstamped⟩
    · exact ⟨item, (hmore item).mpr (Or.inr rfl), hnew⟩
  · intro other hother d time hstamped
    rcases (hmore other).mp hother with hold | rfl
    · obtain ⟨mark, hmark, hle⟩ := h.bound other hold d time hstamped
      obtain ⟨mark', hmark', hmono⟩ := raise_mono stamp item hmark
      exact ⟨mark', hmark', Int.le_trans hle hmono⟩
    · exact raise_covers hstamped

/-! ## Scans -/

/-- Each item with whether it is dropped, and the watermarks at the end. -/
def scan (stamp : α → Option (δ × Int)) (lateness : Int) (marks : δ → Option Int) :
    List α → List (α × Bool) × (δ → Option Int)
  | [] => ([], marks)
  | item :: items =>
      if Late stamp lateness marks item then
        let tail := scan stamp lateness marks items
        ((item, true) :: tail.1, tail.2)
      else
        let tail := scan stamp lateness (raise stamp marks item) items
        ((item, false) :: tail.1, tail.2)

/-- A late item is dropped and raises nothing. -/
theorem scan_late (h : Late stamp lateness marks item) (items : List α) :
    scan stamp lateness marks (item :: items) =
      ((item, true) :: (scan stamp lateness marks items).1,
        (scan stamp lateness marks items).2) := by
  rw [scan, if_pos h]

/-- A timely item is kept and raises the mark. -/
theorem scan_timely (h : ¬ Late stamp lateness marks item) (items : List α) :
    scan stamp lateness marks (item :: items) =
      ((item, false) :: (scan stamp lateness (raise stamp marks item) items).1,
        (scan stamp lateness (raise stamp marks item) items).2) := by
  rw [scan, if_neg h]

/-- Scanning goes on with the marks it has reached. -/
theorem scan_append (marks : δ → Option Int) (items items' : List α) :
    scan stamp lateness marks (items ++ items') =
      ((scan stamp lateness marks items).1 ++
          (scan stamp lateness (scan stamp lateness marks items).2 items').1,
        (scan stamp lateness (scan stamp lateness marks items).2 items').2) := by
  induction items generalizing marks with
  | nil => rfl
  | cons item items ih =>
      rw [List.cons_append]
      by_cases hlate : Late stamp lateness marks item
      · rw [scan_late hlate, scan_late hlate, ih]
        rfl
      · rw [scan_timely hlate, scan_timely hlate, ih]
        rfl

/-- The verdicts are about the items, in their order. -/
theorem scan_items (marks : δ → Option Int) (items : List α) :
    (scan stamp lateness marks items).1.map Prod.fst = items := by
  induction items generalizing marks with
  | nil => rfl
  | cons item items ih =>
      by_cases hlate : Late stamp lateness marks item
      · rw [scan_late hlate, List.map_cons, ih]
      · rw [scan_timely hlate, List.map_cons, ih]

/-- A verdict of a scan is about the watermarks at that point. -/
theorem scan_verdict {items : List α} {pre post : List (α × Bool)} {dropped : Bool}
    (h : (scan stamp lateness marks items).1 = pre ++ (item, dropped) :: post) :
    dropped = true ↔ Late stamp lateness (scan stamp lateness marks (pre.map Prod.fst)).2 item := by
  have hitems : (scan stamp lateness marks items).1.map Prod.fst = items := scan_items marks items
  rw [h, List.map_append, List.map_cons] at hitems
  rw [← hitems, scan_append] at h
  have hlength : (scan stamp lateness marks (pre.map Prod.fst)).1.length = pre.length := by
    rw [← List.length_map (f := Prod.fst), scan_items, List.length_map]
  -- the verdicts after those of `pre` begin with the one in question
  have htail := (List.append_inj h hlength).2
  by_cases hlate : Late stamp lateness (scan stamp lateness marks (pre.map Prod.fst)).2 item
  · rw [scan_late hlate, List.cons.injEq, Prod.mk.injEq] at htail
    exact iff_of_true htail.1.2.symm hlate
  · rw [scan_timely hlate, List.cons.injEq, Prod.mk.injEq] at htail
    rw [← htail.1.2]
    exact iff_of_false Bool.false_ne_true hlate

/-- By induction on the items: marks only rise. -/
theorem scan_mono (stamp : α → Option (δ × Int)) (lateness : Int) (items : List α)
    (h : marks d = some mark) :
    ∃ mark', (scan stamp lateness marks items).2 d = some mark' ∧ mark ≤ mark' := by
  induction items generalizing marks mark with
  | nil => exact ⟨mark, h, Int.le_refl _⟩
  | cons item items ih =>
      by_cases hlate : Late stamp lateness marks item
      · rw [scan_late hlate]
        exact ih h
      · rw [scan_timely hlate]
        obtain ⟨raised, hraised, hle⟩ := raise_mono stamp item h
        obtain ⟨mark', hmark', hle'⟩ := ih hraised
        exact ⟨mark', hmark', Int.le_trans hle hle'⟩

/-- A scan goes on with a history, its watermarks and what is dropped in it. -/
theorem Tracks.scan (h : Tracks stamp verdicts marks)
    (heach : Each (DropsLate stamp lateness) verdicts) (items : List α) :
    Tracks stamp (verdicts ++ (scan stamp lateness marks items).1)
        (Watermark.scan stamp lateness marks items).2 ∧
      Each (DropsLate stamp lateness)
        (verdicts ++ (Watermark.scan stamp lateness marks items).1) := by
  induction items generalizing verdicts marks with
  | nil => simpa [Watermark.scan] using ⟨h, heach⟩
  | cons item items ih =>
      by_cases hlate : Late stamp lateness marks item
      · rw [scan_late hlate, List.append_cons]
        refine ih (h.dropped item) (heach.append_one ?_)
        exact iff_of_true rfl (h.late_iff.mp hlate)
      · rw [scan_timely hlate, List.append_cons]
        refine ih (h.takes item) (heach.append_one ?_)
        exact iff_of_false Bool.false_ne_true (mt h.late_iff.mpr hlate)

end Watermark
