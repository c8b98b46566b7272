import SharedPages.Table

/-!
# Address ranges

A range is a base address and a length in bytes. Its end saturates at the top of
the 64-bit address space, so the tests below are defined for every pair of words.
Ranges are ordered by base, then by length.

* `overlaps_iff`, `covers_iff`, `splits_iff`: the tests as inequalities of addresses.
-/

namespace SharedPages

abbrev Address := UInt64

/-- A base address and a number of bytes. -/
structure Range where
  base : Address
  len : UInt64
  deriving DecidableEq, Repr

namespace Range

/-- The highest address. -/
def top : Nat := UInt64.size - 1

/-- The address after the last byte, or the highest address if there is none. -/
def limit (r : Range) : Nat := min (r.base.toNat + r.len.toNat) top

def isEmpty (r : Range) : Bool := r.len = 0

/-- The ranges have an address in common. -/
def overlaps (r s : Range) : Bool := r.base.toNat < s.limit && s.base.toNat < r.limit

/-- The range `s` lies wholly inside `r`. -/
def covers (r s : Range) : Bool := r.base.toNat ≤ s.base.toNat && s.limit ≤ r.limit

/-- Replacing `r` would take a part of `s` and leave a part of it. -/
def splits (r s : Range) : Bool := s.overlaps r && !r.covers s

theorem overlaps_iff (r s : Range) :
    r.overlaps s = true ↔ r.base.toNat < s.limit ∧ s.base.toNat < r.limit := by
  simp [overlaps]

theorem overlaps_comm (r s : Range) : r.overlaps s = s.overlaps r := Bool.and_comm _ _

theorem covers_iff (r s : Range) :
    r.covers s = true ↔ r.base.toNat ≤ s.base.toNat ∧ s.limit ≤ r.limit := by
  simp [covers]

theorem splits_iff (r s : Range) :
    r.splits s = true ↔ s.overlaps r = true ∧ r.covers s = false := by
  simp [splits]

instance : Ranked Range where
  rank r := r.base.toNat * UInt64.size + r.len.toNat
  rank_injective r s h := by
    have hr := r.len.toNat_lt
    have hs := s.len.toNat_lt
    simp only [UInt64.size] at h
    have hb : r.base.toNat = s.base.toNat := by omega
    have hl : r.len.toNat = s.len.toNat := by omega
    cases r
    cases s
    simp only [mk.injEq]
    exact ⟨UInt64.toNat_inj.mp hb, UInt64.toNat_inj.mp hl⟩

end Range

end SharedPages
