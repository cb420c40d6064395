import Mathlib.Data.List.Infix

/-! # Searching a text that is put together from pieces

Whether a word occurs in a text of the form `before ++ piece ++ after`, told from
the pieces. An occurrence can run over the seams, so this needs a reason why it
does not: a separator that the word does not have (`infix_separated_iff`), or that
no part of the word ends `before` or starts `after` (`infix_between_iff`).
-/

namespace Text

/-- Texts that end in different numbers are different. -/
theorem numbered_injective (base : String) :
    Function.Injective fun n : Nat => base ++ toString n := by
  intro n m h
  have hdigits : (toString n).toList = (toString m).toList := by
    have hlists := congrArg String.toList h
    simp only [String.toList_append] at hlists
    exact List.append_cancel_left hlists
  have hvalues := congrArg (fun digits => Nat.ofDigitChars 10 digits 0) hdigits
  simpa [Nat.toString_eq_ofList_toDigits] using hvalues

variable {α : Type} {word before piece after : List α} {c : α}

/-- A word without the letter `c` occurs on one side of it. -/
theorem infix_separated_iff (hc : c ∉ word) :
    word <:+: before ++ c :: after ↔ word <:+: before ∨ word <:+: after := by
  constructor
  · intro h
    rcases List.infix_append_iff.mp h with hbefore | hafter | ⟨left, right, rfl, hleft, hright⟩
    · exact Or.inl hbefore
    · rcases List.infix_cons_iff.mp hafter with hstart | hafter
      · cases word with
        | nil => exact Or.inl (List.nil_infix)
        | cons d word =>
            have hd : d = c := (List.cons_prefix_cons.mp hstart).1
            exact absurd (List.mem_cons_self ..) (hd ▸ hc)
      · exact Or.inr hafter
    · -- over the seam: what lies on the right is empty, as it would start with `c`
      cases right with
      | nil =>
          rw [List.append_nil]
          exact Or.inl hleft.isInfix
      | cons d right =>
          have hd : d = c := (List.cons_prefix_cons.mp hright).1
          exact absurd (List.mem_append_right _ (List.mem_cons_self ..)) (hd ▸ hc)
  · rintro (hbefore | hafter)
    · exact List.infix_append_of_infix_left hbefore
    · exact List.infix_append_of_infix_right (List.infix_cons hafter)

/-- The same for a separator of any positive length. -/
theorem infix_replicate_iff (hc : c ∉ word) (n : Nat) :
    word <:+: before ++ List.replicate (n + 1) c ++ after ↔
      word <:+: before ∨ word <:+: after := by
  induction n generalizing before with
  | zero =>
      rw [List.append_assoc]
      exact infix_separated_iff hc
  | succ n ih =>
      rw [List.replicate_succ, List.append_assoc, List.cons_append, infix_separated_iff hc]
      have hrest : word <:+: [] ++ List.replicate (n + 1) c ++ after ↔
          word <:+: [] ∨ word <:+: after := ih
      rw [List.nil_append] at hrest
      rw [hrest]
      constructor
      · rintro (h | h | h)
        · exact Or.inl h
        · rw [List.infix_nil.mp h]
          exact Or.inl List.nil_infix
        · exact Or.inr h
      · rintro (h | h)
        · exact Or.inl h
        · exact Or.inr (Or.inr h)

/-- No occurrence of the word lies in the surroundings of a piece, or over a seam. -/
def ClearOf (word before after : List α) : Prop :=
  ¬ word <:+: before ∧ ¬ word <:+: after ∧
    (∀ ending ∈ before.tails, ending ≠ [] → ¬ ending <+: word) ∧
    ∀ rest ∈ word.tails, rest ≠ [] → ¬ rest <+: after

instance [DecidableEq α] (word before after : List α) : Decidable (ClearOf word before after) :=
  inferInstanceAs (Decidable (_ ∧ _ ∧ _ ∧ _))

theorem infix_between_iff (h : ClearOf word before after) :
    word <:+: before ++ piece ++ after ↔ word <:+: piece := by
  obtain ⟨hbefore, hafter, hending, hrest⟩ := h
  constructor
  · intro hword
    rcases List.infix_append_iff_ne_nil.mp hword with
      hleft | hin | ⟨left, right, _, hne, rfl, _, hright⟩
    · rcases List.infix_append_iff_ne_nil.mp hleft with
        hin | hpiece | ⟨left, right, hne, _, rfl, hleft, _⟩
      · exact absurd hin hbefore
      · exact hpiece
      · have htail : left ∈ before.tails := (List.mem_tails left before).mpr hleft
        exact absurd (List.prefix_append left right) (hending left htail hne)
    · exact absurd hin hafter
    · have htail : right ∈ (left ++ right).tails :=
        (List.mem_tails right _).mpr (List.suffix_append left right)
      exact absurd hright (hrest right htail hne)
  · intro hpiece
    exact List.infix_append_of_infix_left (List.infix_append_of_infix_right hpiece)

/-! ## The first occurrence -/

section First

variable [DecidableEq α]

/-- Where `word` occurs first. -/
def firstIndex (word : List α) : List α → Option Nat
  | [] => if word = [] then some 0 else none
  | c :: rest => if word <+: c :: rest then some 0 else (firstIndex word rest).map (· + 1)

/-- What stands before the first occurrence of `word`, and what stands after it. -/
def splitFirst (word : List α) : List α → Option (List α × List α)
  | [] => if word = [] then some ([], []) else none
  | c :: rest =>
      if word <+: c :: rest then some ([], (c :: rest).drop word.length)
      else (splitFirst word rest).map fun parts => (c :: parts.1, parts.2)

theorem splitFirst_eq (word text : List α) :
    splitFirst word text =
      (firstIndex word text).map fun i => (text.take i, text.drop (i + word.length)) := by
  induction text with
  | nil =>
      rw [splitFirst, firstIndex]
      split <;> simp
  | cons c rest ih =>
      rw [splitFirst, firstIndex]
      split
      · simp
      · rw [ih, Option.map_map, Option.map_map]
        congr 1
        funext i
        have hdrop : i + 1 + word.length = i + word.length + 1 := by omega
        simp [hdrop]

theorem firstIndex_le {word text : List α} {i : Nat} (h : firstIndex word text = some i) :
    i + word.length ≤ text.length := by
  induction text generalizing i with
  | nil =>
      rw [firstIndex] at h
      split at h
      · rename_i hnil
        cases h
        simp [hnil]
      · cases h
  | cons c rest ih =>
      rw [firstIndex] at h
      split at h
      · rename_i hstart
        cases h
        rw [Nat.zero_add]
        exact hstart.length_le
      · obtain ⟨j, hj, rfl⟩ := Option.map_eq_some_iff.1 h
        have := ih hj
        simp only [List.length_cons]
        omega

theorem firstIndex_eq_none_iff {word text : List α} :
    firstIndex word text = none ↔ ¬ word <:+: text := by
  induction text with
  | nil =>
      rw [firstIndex, List.infix_nil]
      split <;> simp_all
  | cons c rest ih =>
      rw [firstIndex, List.infix_cons_iff]
      split
      · rename_i hstart
        simp [hstart]
      · rename_i hstart
        rw [Option.map_eq_none_iff, ih]
        simp [hstart]

end First

end Text
