import Mathlib.Algebra.Order.Group.Nat
import Mathlib.Data.List.Basic
import Mathlib.Data.Nat.Bitwise

/-! # UTF-8 input

`is_valid_utf8` decodes the input by hand, one sequence at a time. `utf8Step` is one round
of its loop, and `utf8Step_eq_some_iff` says that a round consumes exactly the encoding of
one scalar value.
-/

namespace TopoExec

/-! ## The decoder -/

/-- The number of continuation bytes that a lead byte asks for, and its payload. -/
def leadByte (byte : UInt8) : Option (Nat × UInt32) :=
  if byte &&& 0xE0 = 0xC0 then
    if byte &&& 0x1F = 0 then none else some (1, (byte &&& 0x1F).toUInt32)
  else if byte &&& 0xF0 = 0xE0 then some (2, (byte &&& 0x0F).toUInt32)
  else if byte &&& 0xF8 = 0xF0 then some (3, (byte &&& 0x07).toUInt32)
  else none

/-- The loop over the continuation bytes. -/
def addContinuations : UInt32 → List UInt8 → Option UInt32
  | codepoint, [] => some codepoint
  | codepoint, continuation :: rest =>
      if continuation &&& 0xC0 ≠ 0x80 then none
      else addContinuations ((codepoint <<< 6) ||| (continuation &&& 0x3F).toUInt32) rest

/-- The last check of a round. -/
def refusedCodepoint (needed : Nat) (codepoint : UInt32) : Bool :=
  (needed = 1 && codepoint < 0x80) || (needed = 2 && codepoint < 0x800) ||
    (needed = 3 && codepoint < 0x10000) || (0xD800 ≤ codepoint && codepoint ≤ 0xDFFF) ||
    0x10FFFF < codepoint

/-- One round of the loop: what is left of the text after it, if the round does not return
false. -/
def utf8Step : List UInt8 → Option (List UInt8)
  | [] => none
  | byte :: rest =>
      if byte ≤ 0x7F then some rest
      else
        match leadByte byte with
        | none => none
        | some (needed, codepoint) =>
            if rest.length < needed then none
            else
              match addContinuations codepoint (rest.take needed) with
              | none => none
              | some codepoint =>
                  if refusedCodepoint needed codepoint then none else some (rest.drop needed)

/-- A step takes bytes away: the measure of the loop. -/
theorem utf8Step_length {text rest : List UInt8} (h : utf8Step text = some rest) :
    rest.length < text.length := by
  cases text with
  | nil => cases h
  | cons byte tail =>
      rw [utf8Step] at h
      split at h
      · cases h
        exact Nat.lt_succ_self _
      · split at h
        · cases h
        · split at h
          · cases h
          · split at h
            · cases h
            · split at h
              · cases h
              · cases h
                simp only [List.length_drop, List.length_cons]
                omega

def isValidUtf8 (text : List UInt8) : Bool :=
  if text.isEmpty then true
  else
    match _hstep : utf8Step text with
    | none => false
    | some rest => isValidUtf8 rest
termination_by text.length
decreasing_by exact utf8Step_length _hstep

/-! ## Bytes as numbers -/

/-- A property of all bytes is checked one by one. -/
theorem forall_uint8 {P : UInt8 → Prop} (h : ∀ n : Fin 256, P (UInt8.ofNat n.val)) (byte : UInt8) :
    P byte := by
  have hbyte := h ⟨byte.toNat, byte.toNat_lt⟩
  rwa [UInt8.ofNat_toNat] at hbyte

/-- The lead byte says how many continuations follow. -/
theorem leadByte_eq (byte : UInt8) :
    leadByte byte =
      if 192 < byte.toNat ∧ byte.toNat < 224 then some (1, UInt32.ofNat (byte.toNat - 192))
      else if 224 ≤ byte.toNat ∧ byte.toNat < 240 then some (2, UInt32.ofNat (byte.toNat - 224))
      else if 240 ≤ byte.toNat ∧ byte.toNat < 248 then some (3, UInt32.ofNat (byte.toNat - 240))
      else none := by
  revert byte
  apply forall_uint8
  decide +kernel

/-- The continuations are the bytes from 128 to 191. -/
theorem continuation_iff (byte : UInt8) :
    byte &&& 0xC0 = 0x80 ↔ 128 ≤ byte.toNat ∧ byte.toNat < 192 := by
  revert byte
  apply forall_uint8
  decide +kernel

/-- A continuation carries six bits. -/
theorem continuation_payload (byte : UInt8) :
    (byte &&& 0x3F).toUInt32.toNat = byte.toNat % 64 := by
  revert byte
  apply forall_uint8
  decide +kernel

/-- Six more bits below a payload that leaves room for them. -/
theorem shift_or_eq {value : Nat} (hvalue : value < 2 ^ 26) (byte : UInt8) :
    (UInt32.ofNat value <<< 6) ||| (byte &&& 0x3F).toUInt32 =
      UInt32.ofNat (value * 64 + byte.toNat % 64) := by
  have hlow : byte.toNat % 64 < 2 ^ 6 := Nat.mod_lt _ (by decide)
  apply UInt32.toNat_inj.1
  rw [UInt32.toNat_or, UInt32.toNat_shiftLeft, continuation_payload, UInt32.toNat_ofNat',
    UInt32.toNat_ofNat', Nat.mod_eq_of_lt (by omega : value < 2 ^ 32)]
  have hshift : (value <<< ((6 : UInt32).toNat % 32)) % 2 ^ 32 = value <<< 6 := by
    have h6 : (6 : UInt32).toNat % 32 = 6 := rfl
    rw [h6, Nat.shiftLeft_eq]
    omega
  rw [hshift, ← Nat.shiftLeft_add_eq_or_of_lt hlow, Nat.shiftLeft_eq]
  omega

/-- A continuation adds its six bits, without overflow. -/
theorem addContinuations_cons {value : Nat} (hvalue : value < 2 ^ 26) (continuation : UInt8)
    (rest : List UInt8) :
    addContinuations (UInt32.ofNat value) (continuation :: rest) =
      if 128 ≤ continuation.toNat ∧ continuation.toNat < 192 then
        addContinuations (UInt32.ofNat (value * 64 + continuation.toNat % 64)) rest
      else none := by
  rw [addContinuations, shift_or_eq hvalue]
  simp only [ne_eq, continuation_iff, ite_not]

/-- The least number that needs so many continuation bytes. -/
def leastValue (needed : Nat) : Nat :=
  if needed = 1 then 0x80 else if needed = 2 then 0x800 else if needed = 3 then 0x10000 else 0

/-- Overlong codes, surrogates and what lies beyond Unicode are refused. -/
theorem refusedCodepoint_eq_false_iff {needed value : Nat} (hvalue : value < 2 ^ 32) :
    refusedCodepoint needed (UInt32.ofNat value) = false ↔
      leastValue needed ≤ value ∧ value.isValidChar := by
  have hnat : (UInt32.ofNat value).toNat = value := by
    rw [UInt32.toNat_ofNat', Nat.mod_eq_of_lt hvalue]
  have hrefused : refusedCodepoint needed (UInt32.ofNat value) = true ↔
      (needed = 1 ∧ value < 0x80) ∨ (needed = 2 ∧ value < 0x800) ∨ (needed = 3 ∧ value < 0x10000) ∨
        (0xD800 ≤ value ∧ value ≤ 0xDFFF) ∨ 0x10FFFF < value := by
    simp [refusedCodepoint, UInt32.lt_iff_toNat_lt, UInt32.le_iff_toNat_le, hnat, or_assoc]
  rw [← Bool.not_eq_true, hrefused, Nat.isValidChar]
  unfold leastValue
  split_ifs <;> omega

/-- The number that a payload and the bytes after it stand for. -/
def payloadValue (value : Nat) (continuations : List UInt8) : Nat :=
  continuations.foldl (fun value byte => value * 64 + byte.toNat % 64) value

def IsContinuation (byte : UInt8) : Prop := 128 ≤ byte.toNat ∧ byte.toNat < 192

/-- The loop over the continuation bytes, as long as no bit is shifted out. -/
theorem addContinuations_eq_some_iff {continuations : List UInt8} {value : Nat}
    (hvalue : (value + 1) * 64 ^ continuations.length ≤ 2 ^ 32) (codepoint : UInt32) :
    addContinuations (UInt32.ofNat value) continuations = some codepoint ↔
      (∀ byte ∈ continuations, IsContinuation byte) ∧
        codepoint = UInt32.ofNat (payloadValue value continuations) := by
  induction continuations generalizing value with
  | nil => simp [addContinuations, payloadValue, eq_comm]
  | cons byte rest ih =>
      -- the value has room for six bits per byte that is left, so that nothing is shifted out
      have hroom : (value + 1) * 64 * 64 ^ rest.length ≤ 2 ^ 32 := by
        rwa [List.length_cons, Nat.pow_succ', ← Nat.mul_assoc] at hvalue
      have hbound : (value + 1) * 64 ≤ 2 ^ 32 :=
        (Nat.le_mul_of_pos_right _ (Nat.pow_pos (by decide))).trans hroom
      have hnext : (value * 64 + byte.toNat % 64 + 1) * 64 ^ rest.length ≤ 2 ^ 32 := by
        refine (Nat.mul_le_mul_right _ ?_).trans hroom
        omega
      rw [addContinuations_cons (by omega)]
      by_cases hbyte : 128 ≤ byte.toNat ∧ byte.toNat < 192
      · rw [if_pos hbyte, ih hnext, List.forall_mem_cons]
        constructor
        · rintro ⟨hrest, hcodepoint⟩
          exact ⟨⟨hbyte, hrest⟩, hcodepoint⟩
        · rintro ⟨⟨-, hrest⟩, hcodepoint⟩
          exact ⟨hrest, hcodepoint⟩
      · rw [if_neg hbyte, List.forall_mem_cons]
        constructor
        · intro h
          cases h
        · rintro ⟨⟨h, -⟩, -⟩
          exact absurd h hbyte

/-- Each continuation adds six bits to the bound. -/
theorem payloadValue_lt {value : Nat} (continuations : List UInt8) :
    payloadValue value continuations < (value + 1) * 64 ^ continuations.length := by
  induction continuations generalizing value with
  | nil => simp [payloadValue]
  | cons byte rest ih =>
      have hrest : payloadValue value (byte :: rest) <
          (value * 64 + byte.toNat % 64 + 1) * 64 ^ rest.length := ih
      refine hrest.trans_le ?_
      rw [List.length_cons, Nat.pow_succ', ← Nat.mul_assoc]
      apply Nat.mul_le_mul_right
      omega

/-! ## One round -/

/-- The sequences that a round accepts, with the numbers that they stand for. -/
inductive Utf8Sequence : List UInt8 → Nat → Prop
  | one {byte : UInt8} (hbyte : byte.toNat ≤ 0x7F) : Utf8Sequence [byte] byte.toNat
  | two {byte b₁ : UInt8} {value : Nat} (hbyte : 192 < byte.toNat ∧ byte.toNat < 224)
      (h₁ : IsContinuation b₁) (hvalue : value = payloadValue (byte.toNat - 192) [b₁])
      (hlong : 0x80 ≤ value) : Utf8Sequence [byte, b₁] value
  | three {byte b₁ b₂ : UInt8} {value : Nat} (hbyte : 224 ≤ byte.toNat ∧ byte.toNat < 240)
      (h₁ : IsContinuation b₁) (h₂ : IsContinuation b₂)
      (hvalue : value = payloadValue (byte.toNat - 224) [b₁, b₂])
      (hlong : 0x800 ≤ value) : Utf8Sequence [byte, b₁, b₂] value
  | four {byte b₁ b₂ b₃ : UInt8} {value : Nat} (hbyte : 240 ≤ byte.toNat ∧ byte.toNat < 248)
      (h₁ : IsContinuation b₁) (h₂ : IsContinuation b₂) (h₃ : IsContinuation b₃)
      (hvalue : value = payloadValue (byte.toNat - 240) [b₁, b₂, b₃])
      (hlong : 0x10000 ≤ value) : Utf8Sequence [byte, b₁, b₂, b₃] value

/-- A round after its lead byte. -/
theorem utf8Step_lead_iff {byte : UInt8} {tail rest : List UInt8} {needed value : Nat}
    (hascii : ¬ byte ≤ 0x7F) (hlead : leadByte byte = some (needed, UInt32.ofNat value))
    (hvalue : (value + 1) * 64 ^ needed ≤ 2 ^ 32) :
    utf8Step (byte :: tail) = some rest ↔
      ∃ continuations, tail = continuations ++ rest ∧ continuations.length = needed ∧
        (∀ b ∈ continuations, IsContinuation b) ∧
        leastValue needed ≤ payloadValue value continuations ∧
        (payloadValue value continuations).isValidChar := by
  -- the codepoint is computed in 32 bits without a loss
  have hfits : ∀ continuations : List UInt8, continuations.length = needed →
      payloadValue value continuations < 2 ^ 32 := by
    rintro continuations rfl
    exact (payloadValue_lt continuations).trans_le hvalue
  rw [utf8Step, if_neg hascii, hlead]
  dsimp only
  constructor
  · intro h
    split at h
    · cases h
    · rename_i hlength
      -- the loop looks at the next bytes only after the length was checked
      have htake : (tail.take needed).length = needed := by
        rw [List.length_take]
        omega
      split at h
      · cases h
      · rename_i codepoint hadd
        have hcodepoint := (addContinuations_eq_some_iff (by rwa [htake]) codepoint).1 hadd
        split at h
        · cases h
        · rename_i haccepted
          cases h
          refine ⟨tail.take needed, (List.take_append_drop _ _).symm, htake, hcodepoint.1, ?_⟩
          rw [hcodepoint.2, Bool.not_eq_true, refusedCodepoint_eq_false_iff (hfits _ htake)]
            at haccepted
          exact haccepted
  · rintro ⟨continuations, rfl, rfl, hall, haccepted⟩
    have hadd := (addContinuations_eq_some_iff hvalue _).2 ⟨hall, rfl⟩
    rw [← refusedCodepoint_eq_false_iff (hfits _ rfl)] at haccepted
    rw [if_neg (by simp), List.take_left, List.drop_left, hadd]
    simp only [haccepted, Bool.false_eq_true, if_false]

/-- A round accepts a sequence that stands for a scalar value, and leaves the rest. -/
theorem utf8Step_sequence_iff (text rest : List UInt8) :
    utf8Step text = some rest ↔
      ∃ bytes value, text = bytes ++ rest ∧ Utf8Sequence bytes value ∧ value.isValidChar := by
  constructor
  · intro h
    cases text with
    | nil => cases h
    | cons byte tail =>
        have hbyte := byte.toNat_lt
        by_cases hascii : byte ≤ 0x7F
        · rw [utf8Step, if_pos hascii] at h
          cases h
          have hle : byte.toNat ≤ 0x7F := UInt8.le_iff_toNat_le.1 hascii
          exact ⟨[byte], byte.toNat, rfl, .one hle, Or.inl (by omega)⟩
        · -- The lead byte fixes how many bytes follow.
          have hlead := leadByte_eq byte
          split at hlead
          · rename_i htwo
            obtain ⟨continuations, rfl, hlength, hall, hlong, hvalid⟩ :=
              (utf8Step_lead_iff hascii hlead (by omega)).1 h
            obtain ⟨b₁, rfl⟩ := List.length_eq_one_iff.1 hlength
            exact ⟨_, _, rfl, .two htwo (hall _ (by simp)) rfl hlong, hvalid⟩
          · split at hlead
            · rename_i hthree
              obtain ⟨continuations, rfl, hlength, hall, hlong, hvalid⟩ :=
                (utf8Step_lead_iff hascii hlead (by omega)).1 h
              obtain ⟨b₁, b₂, rfl⟩ := List.length_eq_two.1 hlength
              exact ⟨_, _, rfl, .three hthree (hall _ (by simp)) (hall _ (by simp)) rfl hlong,
                hvalid⟩
            · split at hlead
              · rename_i hfour
                obtain ⟨continuations, rfl, hlength, hall, hlong, hvalid⟩ :=
                  (utf8Step_lead_iff hascii hlead (by omega)).1 h
                obtain ⟨b₁, b₂, b₃, rfl⟩ := List.length_eq_three.1 hlength
                exact ⟨_, _, rfl, .four hfour (hall _ (by simp)) (hall _ (by simp))
                  (hall _ (by simp)) rfl hlong, hvalid⟩
              · rw [utf8Step, if_neg hascii, hlead] at h
                cases h
  · rintro ⟨bytes, value, rfl, hsequence, hvalid⟩
    have hascii : ∀ {byte : UInt8}, 0x7F < byte.toNat → ¬ byte ≤ 0x7F := by
      intro byte hlt hle
      have : byte.toNat ≤ 0x7F := UInt8.le_iff_toNat_le.1 hle
      omega
    cases hsequence with
    | one hbyte =>
        rw [List.singleton_append, utf8Step, if_pos (UInt8.le_iff_toNat_le.2 hbyte)]
    | @two byte b₁ _ hbyte h₁ hvalue hlong =>
        have hlead := leadByte_eq byte
        rw [if_pos hbyte] at hlead
        refine (utf8Step_lead_iff (hascii (by omega)) hlead (by omega)).2 ⟨[b₁], rfl, rfl, ?_⟩
        rw [← hvalue]
        exact ⟨by simpa using h₁, hlong, hvalid⟩
    | @three byte b₁ b₂ _ hbyte h₁ h₂ hvalue hlong =>
        have hlead := leadByte_eq byte
        rw [if_neg (by omega), if_pos hbyte] at hlead
        refine (utf8Step_lead_iff (hascii (by omega)) hlead (by omega)).2 ⟨[b₁, b₂], rfl, rfl, ?_⟩
        rw [← hvalue]
        exact ⟨by simpa using ⟨h₁, h₂⟩, hlong, hvalid⟩
    | @four byte b₁ b₂ b₃ _ hbyte h₁ h₂ h₃ hvalue hlong =>
        have hlead := leadByte_eq byte
        rw [if_neg (by omega), if_neg (by omega), if_pos hbyte] at hlead
        refine (utf8Step_lead_iff (hascii (by omega)) hlead (by omega)).2
          ⟨[b₁, b₂, b₃], rfl, rfl, ?_⟩
        rw [← hvalue]
        exact ⟨by simpa using ⟨h₁, h₂, h₃⟩, hlong, hvalid⟩

/-! ## Sequences and scalar values -/

theorem ofNat_eq_of_toNat {byte : UInt8} {n : Nat} (h : n = byte.toNat) : UInt8.ofNat n = byte := by
  rw [h, UInt8.ofNat_toNat]

theorem char_isValidChar (c : Char) : c.val.toNat.isValidChar := c.valid

/-- A sequence for a character is its encoding. -/
theorem Utf8Sequence.eq_utf8EncodeChar {bytes : List UInt8} {c : Char}
    (h : Utf8Sequence bytes c.val.toNat) : bytes = String.utf8EncodeChar c := by
  generalize hvalue : c.val.toNat = value at h
  unfold String.utf8EncodeChar
  dsimp only
  rw [hvalue]
  cases h with
  | one hbyte =>
      rw [if_pos hbyte, UInt8.ofNat_toNat]
  -- the payload bits of each byte are read back from the value; its size picks the branch
  | @two byte b₁ _ hbyte h₁ heq hlong =>
      simp only [payloadValue, List.foldl_cons, List.foldl_nil, IsContinuation] at heq h₁
      have e₀ : UInt8.ofNat (value / 64 % 0x20 + 0xc0) = byte := ofNat_eq_of_toNat (by omega)
      have e₁ : UInt8.ofNat (value % 0x40 + 0x80) = b₁ := ofNat_eq_of_toNat (by omega)
      rw [if_neg (by omega), if_pos (by omega), e₀, e₁]
  | @three byte b₁ b₂ _ hbyte h₁ h₂ heq hlong =>
      simp only [payloadValue, List.foldl_cons, List.foldl_nil, IsContinuation] at heq h₁ h₂
      have e₀ : UInt8.ofNat (value / 4096 % 0x10 + 0xe0) = byte := ofNat_eq_of_toNat (by omega)
      have e₁ : UInt8.ofNat (value / 64 % 0x40 + 0x80) = b₁ := ofNat_eq_of_toNat (by omega)
      have e₂ : UInt8.ofNat (value % 0x40 + 0x80) = b₂ := ofNat_eq_of_toNat (by omega)
      rw [if_neg (by omega), if_neg (by omega), if_pos (by omega), e₀, e₁, e₂]
  | @four byte b₁ b₂ b₃ _ hbyte h₁ h₂ h₃ heq hlong =>
      simp only [payloadValue, List.foldl_cons, List.foldl_nil, IsContinuation] at heq h₁ h₂ h₃
      have e₀ : UInt8.ofNat (value / 262144 % 0x08 + 0xf0) = byte := ofNat_eq_of_toNat (by omega)
      have e₁ : UInt8.ofNat (value / 4096 % 0x40 + 0x80) = b₁ := ofNat_eq_of_toNat (by omega)
      have e₂ : UInt8.ofNat (value / 64 % 0x40 + 0x80) = b₂ := ofNat_eq_of_toNat (by omega)
      have e₃ : UInt8.ofNat (value % 0x40 + 0x80) = b₃ := ofNat_eq_of_toNat (by omega)
      rw [if_neg (by omega), if_neg (by omega), if_neg (by omega), e₀, e₁, e₂, e₃]

/-- The encoding of a character is a sequence for it. -/
theorem utf8Sequence_utf8EncodeChar (c : Char) :
    Utf8Sequence (String.utf8EncodeChar c) c.val.toNat := by
  have hvalid := char_isValidChar c
  rw [Nat.isValidChar] at hvalid
  unfold String.utf8EncodeChar
  dsimp only
  generalize c.val.toNat = value at hvalid
  have hlow : ∀ {n : Nat}, n < 256 → (UInt8.ofNat n).toNat = n := by
    intro n hn
    rw [UInt8.toNat_ofNat', Nat.mod_eq_of_lt hn]
  have htail : ∀ n : Nat, IsContinuation (UInt8.ofNat (n % 0x40 + 0x80)) := by
    intro n
    rw [IsContinuation, hlow (by omega)]
    omega
  -- the four ranges of values, and in each the bits of the bytes put together again
  split_ifs with hone htwo hthree
  · have hsequence : Utf8Sequence [UInt8.ofNat value] (UInt8.ofNat value).toNat :=
      .one (by rwa [hlow (by omega)])
    rwa [hlow (by omega)] at hsequence
  · refine .two ?_ (htail _) ?_ (by omega)
    · rw [hlow (by omega)]
      omega
    · simp only [payloadValue, List.foldl_cons, List.foldl_nil]
      rw [hlow (by omega), hlow (by omega)]
      omega
  · refine .three ?_ (htail _) (htail _) ?_ (by omega)
    · rw [hlow (by omega)]
      omega
    · simp only [payloadValue, List.foldl_cons, List.foldl_nil]
      rw [hlow (by omega), hlow (by omega), hlow (by omega)]
      omega
  · refine .four ?_ (htail _) (htail _) (htail _) ?_ (by omega)
    · rw [hlow (by omega)]
      omega
    · simp only [payloadValue, List.foldl_cons, List.foldl_nil]
      rw [hlow (by omega), hlow (by omega), hlow (by omega), hlow (by omega)]
      omega

/-- A sequence that stands for a scalar value is its encoding. -/
theorem utf8Sequence_iff (bytes : List UInt8) (c : Char) :
    Utf8Sequence bytes c.val.toNat ↔ bytes = String.utf8EncodeChar c := by
  constructor
  · exact Utf8Sequence.eq_utf8EncodeChar
  · rintro rfl
    exact utf8Sequence_utf8EncodeChar c

/-- A round consumes the encoding of one scalar value. -/
theorem utf8Step_eq_some_iff (text rest : List UInt8) :
    utf8Step text = some rest ↔ ∃ c : Char, text = String.utf8EncodeChar c ++ rest := by
  rw [utf8Step_sequence_iff]
  constructor
  · rintro ⟨bytes, value, rfl, hsequence, hvalid⟩
    have hvalue : (Char.ofNat value).val.toNat = value := by
      rw [Char.ofNat, dif_pos hvalid]
      rfl
    rw [← hvalue] at hsequence
    exact ⟨Char.ofNat value, by rw [(utf8Sequence_iff _ _).1 hsequence]⟩
  · rintro ⟨c, rfl⟩
    exact ⟨_, _, rfl, (utf8Sequence_iff _ c).2 rfl, char_isValidChar c⟩

/-! ## The whole text -/

/-- A step takes one character off an encoded text. -/
theorem utf8Step_flatMap_cons (c : Char) (characters : List Char) :
    utf8Step ((c :: characters).flatMap String.utf8EncodeChar) =
      some (characters.flatMap String.utf8EncodeChar) :=
  (utf8Step_eq_some_iff _ _).2 ⟨c, List.flatMap_cons⟩

/-- The input check accepts exactly the concatenations of encodings of scalar values. -/
theorem isValidUtf8_iff (text : List UInt8) :
    isValidUtf8 text = true ↔
      ∃ characters : List Char, text = characters.flatMap String.utf8EncodeChar := by
  fun_induction isValidUtf8 text with
  | case1 text hempty =>
      rw [List.isEmpty_iff.1 hempty]
      exact iff_of_true rfl ⟨[], rfl⟩
  | case2 text hempty hstep =>
      apply iff_of_false (by decide)
      rintro ⟨characters, rfl⟩
      cases characters with
      | nil => exact hempty rfl
      | cons c characters =>
          rw [utf8Step_flatMap_cons] at hstep
          cases hstep
  | case3 text hempty rest hstep ih =>
      rw [ih]
      constructor
      · rintro ⟨characters, rfl⟩
        obtain ⟨c, rfl⟩ := (utf8Step_eq_some_iff _ _).1 hstep
        exact ⟨c :: characters, List.flatMap_cons.symm⟩
      · rintro ⟨characters, rfl⟩
        cases characters with
        | nil => exact absurd rfl hempty
        | cons c characters =>
            -- The round has consumed the first character, whatever it is.
            rw [utf8Step_flatMap_cons] at hstep
            cases hstep
            exact ⟨characters, rfl⟩

end TopoExec
