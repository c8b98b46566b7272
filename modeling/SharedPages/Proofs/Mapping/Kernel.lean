import SharedPages.Mapping.LiveSet
import SharedPages.Proofs.Bytes
import SharedPages.Proofs.Paged

/-!
# Systems that keep mapped bytes

What is taken for granted of a system behind the registry, as laws on its mapped bytes.
Proved here: the paged system keeps all of them, once it is asked for whole pages only.

* `kernel_wholePages`: it maps in free places, and at non-null hints;
* `replacing_wholePages`: its fixed mappings take their place, the null address included.
-/

namespace SharedPages.Mapping

variable {ω : Type}

/-! ## Laws -/

/-- What a call that fails and an unmapping do to the mapped bytes. -/
structure Pages (g : Gateway ω) (mapped : ω → Nat → Prop) : Prop where
  failed : ∀ {c w e w'}, g c w = (.fail e, w') → ∀ x, mapped w' x ↔ mapped w x
  unmapped : ∀ {r w w'}, g (.munmap r) w = (.ok (), w') →
    ∀ x, mapped w' x ↔ mapped w x ∧ ¬ r.Holds x

/-- A system that maps memory in free places, and a fixed mapping at its hint, in place of
whatever was there. No mapping wraps around the top of the address space. Nothing is said about
fixed mappings at the null address. -/
structure Kernel (g : Gateway ω) (mapped : ω → Nat → Prop) : Prop extends Pages g mapped where
  passed : ∀ {c w v w'}, c.kind ≠ .mmap → c.kind ≠ .munmap → g c w = (.ok v, w') →
    ∀ x, mapped w' x ↔ mapped w x
  free : ∀ {q : MapRequest} {w} {base : Address} {w'}, q.isFixed = false →
    g q.toCall w = (.ok base, w') → base ≠ 0 ∧ Range.Fits ⟨base, q.len⟩ ∧
      (∀ x, Range.Holds ⟨base, q.len⟩ x → ¬ mapped w x) ∧
      ∀ x, mapped w' x ↔ mapped w x ∨ Range.Holds ⟨base, q.len⟩ x
  fixed : ∀ {q : MapRequest} {w} {base : Address} {w'}, q.isFixed = true → q.hint ≠ 0 →
    g q.toCall w = (.ok base, w') → base = q.hint ∧ q.range.Fits ∧
      ∀ x, mapped w' x ↔ mapped w x ∨ q.range.Holds x

/-- A system whose fixed mappings take the place of whatever was there, the null address
included. Of other mappings it is only known that they leave mapped what was mapped. -/
structure Replacing (g : Gateway ω) (mapped : ω → Nat → Prop) : Prop extends Pages g mapped where
  fixed : ∀ {q : MapRequest} {w} {base : Address} {w'}, q.isFixed = true →
    g q.toCall w = (.ok base, w') → base = q.hint ∧
      ∀ x, mapped w' x ↔ mapped w x ∨ q.range.Holds x
  kept : ∀ {q : MapRequest} {w} {base : Address} {w'}, q.isFixed = false →
    g q.toCall w = (.ok base, w') → ∀ x, mapped w x → mapped w' x

/-- No mapping, fixed or not, takes anything away. -/
theorem Replacing.mapped_of_mapped {g : Gateway ω} {mapped : ω → Nat → Prop}
    (k : Replacing g mapped) {q : MapRequest} {w : ω} {base : Address} {w' : ω}
    (hmap : g q.toCall w = (.ok base, w')) {x : Nat} (hx : mapped w x) : mapped w' x := by
  cases hf : q.isFixed with
  | true => exact ((k.fixed hf hmap).2 x).mpr (Or.inl hx)
  | false => exact k.kept hf hmap x hx

/-! ## The paged system -/

/-- Mappings and unmappings are refused unless they are for whole pages. -/
def wholePages : Gateway Paged
  | .mmap hint len _ flags fd offset, k =>
    if Paged.isAligned len.toNat then k.mapMemory hint len flags fd offset else (.fail .einval, k)
  | .munmap r, k => if Paged.isAligned r.len.toNat then k.unmapMemory r else (.fail .einval, k)
  | c, k => Paged.call c k

/-- Other calls, whatever they answer, leave mapped what was mapped. -/
theorem maps_of_wholePages {c : Call} (hmap : c.kind ≠ .mmap) (hunmap : c.kind ≠ .munmap)
    {k k' : Paged} {answer : c.Answer} (h : wholePages c k = (answer, k')) (x : Nat) :
    k'.Maps x ↔ k.Maps x := by
  have hcall : wholePages c k = Paged.call c k := by
    cases c with
    | mmap => exact absurd rfl hmap
    | munmap => exact absurd rfl hunmap
    | _ => rfl
  have hk : (Paged.call c k).2 = k' := by rw [← hcall, h]
  rw [← hk]
  exact Paged.maps_of_call hmap hunmap k x

/-- A mapping of whole pages. -/
theorem chosen_of_wholePages {q : MapRequest} {k k' : Paged} {base : Address}
    (h : wholePages q.toCall k = (.ok base, k')) :
    k.Chosen q.hint.toNat q.len.toNat q.isFixed base.toNat ∧
      ∀ x, k'.Maps x ↔ k.Maps x ∨ Range.Holds ⟨base, q.len⟩ x := by
  simp only [wholePages] at h
  split at h
  · next hpages =>
    have hends := Paged.maps_of_mapMemory h
    rw [Paged.pageUp_of_aligned hpages] at hends
    exact hends
  · cases h

theorem pages_wholePages : Pages wholePages Paged.Maps where
  failed {c k e k'} h x := by
    cases c with
    | mmap hint len prot flags fd offset =>
      simp only [wholePages] at h
      split at h
      · rw [Paged.eq_of_mapMemory_fail h]
      · rw [(Prod.mk.inj h).2]
    | munmap r =>
      simp only [wholePages] at h
      split at h
      · rw [Paged.eq_of_unmapMemory_fail h]
      · rw [(Prod.mk.inj h).2]
    | _ => exact maps_of_wholePages (by simp) (by simp) h x
  unmapped {r k k'} h x := by
    simp only [wholePages] at h
    split at h
    · next hpages =>
      have hmaps := Paged.maps_of_unmapMemory h x
      rwa [Paged.pageUp_of_aligned hpages] at hmaps
    · cases h

/-- **The paged system** keeps the laws of a kernel. -/
theorem kernel_wholePages : Kernel wholePages Paged.Maps where
  toPages := pages_wholePages
  passed hmap hunmap h := maps_of_wholePages hmap hunmap h
  free {q k base k'} hf h := by
    obtain ⟨hchosen, hmaps⟩ := chosen_of_wholePages h
    obtain ⟨hpos, hfree⟩ := hchosen.free hf
    refine ⟨?_, ?_, hfree, hmaps⟩
    · rintro rfl
      exact absurd hpos (by decide)
    · exact Nat.le_trans hchosen.below (by decide)
  fixed {q k base k'} hf _ h := by
    obtain ⟨hchosen, hmaps⟩ := chosen_of_wholePages h
    obtain rfl : base = q.hint := UInt64.toNat_inj.mp (hchosen.hint hf)
    exact ⟨rfl, Nat.le_trans hchosen.below (by decide), hmaps⟩

theorem replacing_wholePages : Replacing wholePages Paged.Maps where
  toPages := pages_wholePages
  fixed {q k base k'} hf h := by
    obtain ⟨hchosen, hmaps⟩ := chosen_of_wholePages h
    obtain rfl : base = q.hint := UInt64.toNat_inj.mp (hchosen.hint hf)
    exact ⟨rfl, hmaps⟩
  kept {q k base k'} hf h x hx := ((chosen_of_wholePages h).2 x).mpr (Or.inl hx)

end SharedPages.Mapping
