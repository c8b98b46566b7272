import SharedPages.Range

/-!
# The bytes of a range

The tests on ranges compare saturated ends. Proved here: on ranges that end below the
top of the address space they say what they should about the bytes.

* `disjoint_iff`: to have no byte in common can be read off the ends;
* `overlaps_of_holds`, `disjoint_of_not_overlaps`: ranges that do not overlap have no byte in common;
* `holds_of_covers`: a range that is covered has its bytes inside;
* `apart_of_disjoint`: of two disjoint ranges one ends before the other begins;
* `covers_iff_holds`, `splits_iff_cuts`: the tests that are made before something is replaced say
  what they should about the bytes of what may be lost.
-/

namespace SharedPages.Range

/-- The byte lies in the range. -/
def Holds (r : Range) (x : Nat) : Prop := r.base.toNat ≤ x ∧ x < r.base.toNat + r.len.toNat

/-- The ranges have no byte in common. -/
def Disjoint (r s : Range) : Prop := ∀ x, r.Holds x → ¬ s.Holds x

/-- The end of the range is an address. -/
def Fits (r : Range) : Prop := r.base.toNat + r.len.toNat ≤ top

instance (r : Range) (x : Nat) : Decidable (r.Holds x) := inferInstanceAs (Decidable (_ ∧ _))

instance (r : Range) : Decidable r.Fits := inferInstanceAs (Decidable (_ ≤ _))

/-- Ranges are apart if what would be their common part ends before it begins. -/
theorem disjoint_iff (r s : Range) : r.Disjoint s ↔
    min (r.base.toNat + r.len.toNat) (s.base.toNat + s.len.toNat) ≤
      max r.base.toNat s.base.toNat := by
  constructor
  · intro h
    have hcommon := h (max r.base.toNat s.base.toNat)
    unfold Holds at hcommon
    omega
  · rintro h x ⟨hrx, hxr⟩ ⟨hsx, hxs⟩
    omega

instance (r s : Range) : Decidable (r.Disjoint s) := decidable_of_iff _ (disjoint_iff r s).symm

theorem limit_of_fits {r : Range} (hr : r.Fits) : r.limit = r.base.toNat + r.len.toNat :=
  Nat.min_eq_left hr

theorem disjoint_symm {r s : Range} (h : r.Disjoint s) : s.Disjoint r :=
  fun x hs hr => h x hr hs

theorem pos_of_not_isEmpty {r : Range} (hr : r.isEmpty = false) : 0 < r.len.toNat := by
  have hne : r.len ≠ 0 := by simpa [isEmpty] using hr
  have hpos : r.len.toNat ≠ 0 := fun h => hne (UInt64.toNat_inj.mp h)
  omega

theorem holds_base {r : Range} (hr : r.isEmpty = false) : r.Holds r.base.toNat := by
  have hpos := pos_of_not_isEmpty hr
  exact ⟨Nat.le_refl _, by omega⟩

/-- Ranges with a byte in common overlap, also if one of them runs over the top. -/
theorem overlaps_of_holds {r s : Range} (hs : s.Fits) {x : Nat} (hr : r.Holds x)
    (hx : s.Holds x) : s.overlaps r = true := by
  obtain ⟨hrx, hxr⟩ := hr
  obtain ⟨hsx, hxs⟩ := hx
  have hbelow : s.base.toNat < top := Nat.lt_of_lt_of_le (by omega) hs
  rw [overlaps_iff, limit_of_fits hs, limit, Nat.lt_min]
  exact ⟨⟨by omega, hbelow⟩, by omega⟩

theorem disjoint_of_not_overlaps {r s : Range} (hs : s.Fits) (h : s.overlaps r = false) :
    r.Disjoint s := by
  intro x hr hx
  rw [overlaps_of_holds hs hr hx] at h
  cases h

/-- What is covered has its bytes inside, and nothing is asked of the range that covers it. -/
theorem holds_of_covers {r s : Range} (hs : s.Fits) (h : r.covers s = true) {x : Nat}
    (hx : s.Holds x) : r.Holds x := by
  rw [covers_iff, limit_of_fits hs] at h
  obtain ⟨hbase, hlimit⟩ := h
  obtain ⟨hsx, hxs⟩ := hx
  have hend : r.limit ≤ r.base.toNat + r.len.toNat := Nat.min_le_left _ _
  exact ⟨by omega, by omega⟩

theorem apart_of_disjoint {r s : Range} (hr : r.isEmpty = false) (hs : s.isEmpty = false)
    (h : r.Disjoint s) :
    r.base.toNat + r.len.toNat ≤ s.base.toNat ∨ s.base.toNat + s.len.toNat ≤ r.base.toNat := by
  have hapart := (disjoint_iff r s).mp h
  have hpos := pos_of_not_isEmpty hr
  have hpos' := pos_of_not_isEmpty hs
  omega

/-! ## What would be replaced -/

/-- Of the bytes of `s` some lie in `r`, and some do not. -/
def Cuts (r s : Range) : Prop := (∃ x, s.Holds x ∧ r.Holds x) ∧ ∃ x, s.Holds x ∧ ¬ r.Holds x

section Replaced

variable {r s : Range}

theorem covers_iff_holds (hs : s.isEmpty = false) (hfits : s.Fits) :
    r.covers s = true ↔ ∀ x, s.Holds x → r.Holds x := by
  have hpos := pos_of_not_isEmpty hs
  refine ⟨fun h x => holds_of_covers hfits h, fun h => ?_⟩
  -- The first byte and the last one decide.
  have hfirst : r.Holds s.base.toNat := h _ (holds_base hs)
  have hlast : r.Holds (s.base.toNat + s.len.toNat - 1) := h _ ⟨by omega, by omega⟩
  have hend := hlast.2
  rw [covers_iff, limit_of_fits hfits]
  exact ⟨hfirst.1, Nat.le_min.mpr ⟨by omega, hfits⟩⟩

theorem overlaps_iff_holds (hr : r.isEmpty = false) (hs : s.isEmpty = false) (hfits : s.Fits) :
    s.overlaps r = true ↔ ∃ x, s.Holds x ∧ r.Holds x := by
  have hpos := pos_of_not_isEmpty hr
  have hpos' := pos_of_not_isEmpty hs
  refine ⟨fun h => ?_, fun ⟨x, hsx, hrx⟩ => overlaps_of_holds hfits hrx hsx⟩
  rw [overlaps_iff, limit_of_fits hfits, limit, Nat.lt_min] at h
  obtain ⟨⟨hsr, -⟩, hrs⟩ := h
  exact ⟨max s.base.toNat r.base.toNat, ⟨by omega, by omega⟩, ⟨by omega, by omega⟩⟩

theorem splits_iff_cuts (hr : r.isEmpty = false) (hs : s.isEmpty = false) (hfits : s.Fits) :
    r.splits s = true ↔ r.Cuts s := by
  have houtside : r.covers s = false ↔ ∃ x, s.Holds x ∧ ¬ r.Holds x := by
    rw [← Bool.not_eq_true, covers_iff_holds hs hfits]
    simp
  rw [splits_iff, overlaps_iff_holds hr hs hfits, houtside, Cuts]

end Replaced

end SharedPages.Range
