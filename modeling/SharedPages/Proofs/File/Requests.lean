import Mathlib.Data.Nat.Bitwise
import SharedPages.Proofs.File.Ends

/-!
# Requests without fault

What is allowed, bit by bit and byte by byte, and in which order it is judged. Proved here:

* `unsupportedBits_eq_zero_iff`: the flags that are supported;
* `fault?_eq_none_iff`: the requests that are permitted;
* `fault?_of_unsupported`, `fault?_of_empty`, `fault?_of_long`: what is wrong with the others, the
  flags first.
-/

namespace SharedPages.File

/-- Bits of a flag word that stand for themselves. -/
def plainWidth : Nat := 3

/-- The bit that asks for huge pages. -/
def hugeBit : Nat := 2

/-- The lowest bit of the field of huge-page sizes, which takes up the rest of the word. -/
def sizeBit : Nat := 26

/-- Flags of which no bit is set but the lowest three, and, if huge pages are asked for, those of
the field of huge-page sizes. -/
def Supported (flags : UInt32) : Prop :=
  ∀ i, flags.toNat.testBit i = true →
    i < plainWidth ∨ flags.toNat.testBit hugeBit = true ∧ sizeBit ≤ i

/-- A request with supported flags and a name of 1 to 249 bytes. -/
structure Permitted (name : String) (flags : UInt32) : Prop where
  supported : Supported flags
  nonempty : 1 ≤ name.utf8ByteSize
  short : name.utf8ByteSize ≤ 249

variable {name : String} {flags : UInt32}

theorem one_le_utf8ByteSize_iff : 1 ≤ name.utf8ByteSize ↔ name ≠ "" := by
  rw [Nat.one_le_iff_ne_zero, ne_eq, String.utf8ByteSize_eq_zero_iff]

/-! ## Flags -/

theorem testBit_huge : flags.toNat.testBit hugeBit = true ↔ flags &&& Memfd.hugeTlb ≠ 0 := by
  have hbit : (flags &&& Memfd.hugeTlb).toNat =
      (flags.toNat.testBit hugeBit).toNat * 2 ^ hugeBit := by
    rw [UInt32.toNat_and, ← Nat.and_two_pow]
    rfl
  rw [ne_eq, ← UInt32.toNat_inj, hbit]
  cases flags.toNat.testBit hugeBit <;> simp

theorem testBit_allowedFlags {i : Nat} (hi : i < 32) :
    (allowedFlags flags).toNat.testBit i = true ↔
      i < plainWidth ∨ flags.toNat.testBit hugeBit = true ∧ sizeBit ≤ i := by
  have plain : ∀ j : Fin 32, Memfd.plainFlags.toNat.testBit j = true ↔ j.val < plainWidth := by
    decide
  have huge : ∀ j : Fin 32,
      (Memfd.plainFlags ||| Memfd.hugeMask <<< Memfd.hugeShift).toNat.testBit j = true ↔
        j.val < plainWidth ∨ sizeBit ≤ j.val := by
    decide
  rw [allowedFlags, testBit_huge]
  split
  · next hhuge => simpa [hhuge] using huge ⟨i, hi⟩
  · next hhuge => simpa [hhuge] using plain ⟨i, hi⟩

theorem testBit_unsupportedBits {i : Nat} (hi : i < 32) :
    (unsupportedBits flags).toNat.testBit i = true ↔
      flags.toNat.testBit i = true ∧ ¬ (allowedFlags flags).toNat.testBit i = true := by
  have hbit : (unsupportedBits flags).toNat.testBit i =
      (flags.toNat.testBit i && !(allowedFlags flags).toNat.testBit i) := by
    show (flags.toBitVec &&& ~~~(allowedFlags flags).toBitVec).getLsbD i = _
    rw [BitVec.getLsbD_and, BitVec.getLsbD_not, decide_eq_true hi, Bool.true_and]
    rfl
  rw [hbit]
  simp

theorem lt_of_testBit {word : UInt32} {i : Nat} (hset : word.toNat.testBit i = true) : i < 32 := by
  by_contra hle
  have hlt : word.toNat < 2 ^ i :=
    word.toNat_lt.trans_le (Nat.pow_le_pow_right (by decide) (Nat.le_of_not_lt hle))
  rw [Nat.testBit_eq_false_of_lt hlt] at hset
  cases hset

/-- **Flags.** -/
theorem unsupportedBits_eq_zero_iff : unsupportedBits flags = 0 ↔ Supported flags := by
  have hzero : unsupportedBits flags = 0 ↔
      ∀ i, ¬ (unsupportedBits flags).toNat.testBit i = true := by
    constructor
    · intro h i
      simp [h]
    · intro h
      refine UInt32.toNat_inj.mp (Nat.zero_of_testBit_eq_false fun i => ?_)
      exact Bool.eq_false_of_not_eq_true (h i)
  rw [hzero]
  constructor
  · intro hnone i hset
    have hi : i < 32 := lt_of_testBit hset
    by_contra hnot
    rw [← testBit_allowedFlags hi] at hnot
    exact hnone i ((testBit_unsupportedBits hi).mpr ⟨hset, hnot⟩)
  · intro hsupported i hset
    have hi : i < 32 := lt_of_testBit hset
    obtain ⟨hflag, hnot⟩ := (testBit_unsupportedBits hi).mp hset
    exact hnot ((testBit_allowedFlags hi).mpr (hsupported i hflag))

/-! ## Requests -/

theorem fault?_of_unsupported (h : ¬ Supported flags) :
    fault? name flags = some (.unsupportedFlags (unsupportedBits flags)) := by
  rw [← unsupportedBits_eq_zero_iff] at h
  exact if_pos h

theorem fault?_of_supported (h : Supported flags) :
    fault? name flags = if name = "" then some .emptyName
      else if 249 < name.utf8ByteSize then some (.nameTooLong name.utf8ByteSize 249) else none := by
  rw [← unsupportedBits_eq_zero_iff] at h
  exact if_neg (not_not_intro h)

theorem fault?_of_empty (h : Supported flags) : fault? "" flags = some .emptyName := by
  rw [fault?_of_supported h]
  rfl

theorem fault?_of_long (h : Supported flags) (hlong : 249 < name.utf8ByteSize) :
    fault? name flags = some (.nameTooLong name.utf8ByteSize 249) := by
  have hne : name ≠ "" := one_le_utf8ByteSize_iff.mp (by omega)
  rw [fault?_of_supported h, if_neg hne, if_pos hlong]

/-- **Requests.** -/
theorem fault?_eq_none_iff : fault? name flags = none ↔ Permitted name flags := by
  by_cases h : Supported flags
  · rw [fault?_of_supported h]
    constructor
    · intro hnone
      split at hnone
      · cases hnone
      · next hne =>
        split at hnone
        · cases hnone
        · next hshort => exact ⟨h, one_le_utf8ByteSize_iff.mpr hne, Nat.le_of_not_lt hshort⟩
    · intro hpermitted
      rw [if_neg (one_le_utf8ByteSize_iff.mp hpermitted.nonempty),
        if_neg (Nat.not_lt_of_le hpermitted.short)]
  · rw [fault?_of_unsupported h]
    constructor
    · rintro ⟨⟩
    · intro hpermitted
      exact absurd hpermitted.supported h

end SharedPages.File
