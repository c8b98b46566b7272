import SharedPages.Host.Paged

/-!
# The mapped bytes of the paged system

The areas of the paged system as the set of the bytes that they hold. Proved here:

* `removeAreas_holds`: exactly the addresses that were to go are gone;
* `maps_of_mapMemory`: a mapping lies at a fixed hint or in a free place, and nothing
  else changes;
* `maps_of_unmapMemory`: an unmapping takes the pages of the range and no others;
* `maps_of_call`: no other call changes what is mapped;
* `objects_mapMemory`, `objects_unmapMemory`: mapping a file and unmapping change no object.
-/

namespace SharedPages

/-! ## Areas -/

/-- The address lies in the area. -/
def Area.Holds (a : Area) (x : Nat) : Prop := a.lo ≤ x ∧ x < a.hi

instance (a : Area) (x : Nat) : Decidable (a.Holds x) := inferInstanceAs (Decidable (_ ∧ _))

theorem removeAreas_holds (lo hi : Nat) (areas : List Area) (x : Nat) :
    (∃ b ∈ removeAreas lo hi areas, b.Holds x) ↔
      (∃ a ∈ areas, a.Holds x) ∧ ¬ (lo ≤ x ∧ x < hi) := by
  constructor
  · rintro ⟨b, hb, hbx, hxb⟩
    obtain ⟨a, ha, hab⟩ := List.mem_flatMap.mp hb
    obtain ⟨hab, -⟩ := List.mem_filter.mp hab
    simp only [List.mem_cons, List.not_mem_nil, or_false] at hab
    rcases hab with rfl | rfl
    · simp only at hbx hxb
      exact ⟨⟨a, ha, hbx, by omega⟩, by omega⟩
    · simp only at hbx hxb
      exact ⟨⟨a, ha, by omega, hxb⟩, by omega⟩
  · rintro ⟨⟨a, ha, hax, hxa⟩, hout⟩
    by_cases hx : x < lo
    · have hlt : a.lo < min a.hi lo := by omega
      refine ⟨_, List.mem_flatMap.mpr ⟨a, ha, List.mem_filter.mpr ⟨List.mem_cons_self, ?_⟩⟩, ?_⟩
      · simpa using hlt
      · exact ⟨hax, by simp only; omega⟩
    · have hlt : max a.lo hi < a.hi := by omega
      refine ⟨_, List.mem_flatMap.mpr ⟨a, ha, List.mem_filter.mpr
        ⟨List.mem_cons_of_mem _ List.mem_cons_self, ?_⟩⟩, ?_⟩
      · simpa using hlt
      · exact ⟨by simp only; omega, hxa⟩

namespace Paged

/-- The address is mapped. -/
def Maps (k : Paged) (x : Nat) : Prop := ∃ a ∈ k.areas, a.Holds x

instance (k : Paged) (x : Nat) : Decidable (k.Maps x) :=
  inferInstanceAs (Decidable (∃ a ∈ k.areas, a.Holds x))

theorem maps_congr {k k' : Paged} (h : k'.areas = k.areas) (x : Nat) : k'.Maps x ↔ k.Maps x := by
  rw [Maps, Maps, h]

theorem areas_backing (k : Paged) (size : Nat) (shared : Bool) (file : Option ObjectId)
    (offset : Nat) : (k.backing size shared file offset).2.areas = k.areas := by
  unfold backing
  split
  · rfl
  · split <;> rfl

/-- The new area holds its addresses, and the others keep theirs. -/
theorem maps_putArea (k : Paged) (lo size : Nat) (shared : Bool) (file : Option ObjectId)
    (offset x : Nat) :
    (k.putArea lo size shared file offset).Maps x ↔ k.Maps x ∨ lo ≤ x ∧ x < lo + size := by
  have hareas : (k.putArea lo size shared file offset).areas =
      ⟨lo, lo + size, (k.backing size shared file offset).1, shared, []⟩ ::
        removeAreas lo (lo + size) k.areas := by
    rw [← areas_backing k size shared file offset]
    rfl
  simp only [Maps, hareas, List.mem_cons, exists_eq_or_imp, removeAreas_holds]
  show (lo ≤ x ∧ x < lo + size) ∨ _ ↔ _
  by_cases hx : lo ≤ x ∧ x < lo + size
  · simp [hx]
  · simp [hx]

/-! ## Where mappings go -/

theorem le_pageUp (n : Nat) : n ≤ pageUp n := by
  have hpage : pageSize = 4096 := rfl
  unfold pageUp
  rw [hpage]
  omega

theorem pageUp_of_aligned {n : Nat} (h : isAligned n = true) : pageUp n = n := by
  have hpage : pageSize = 4096 := rfl
  unfold pageUp
  simp only [isAligned, hpage, decide_eq_true_eq] at h ⊢
  omega

theorem not_maps_of_isFree {k : Paged} {lo size : Nat} (h : k.isFree lo size = true) {x : Nat}
    (hx : lo ≤ x ∧ x < lo + size) : ¬ k.Maps x := by
  rintro ⟨a, ha, hax⟩
  simp only [isFree, Bool.and_eq_true, List.all_eq_true, Bool.or_eq_true, decide_eq_true_eq] at h
  have hapart := h.2 a ha
  unfold Area.Holds at hax
  omega

/-- The largest place found is one of those looked at. -/
theorem of_foldl_max {P : Nat → Prop} {size : Nat} {ends : List Nat}
    (hends : ∀ hi ∈ ends, P (hi - size)) {best : Option Nat}
    (hbest : ∀ lo, best = some lo → P lo) {lo : Nat}
    (h : ends.foldl (fun best hi => some (max (best.getD 0) (hi - size))) best = some lo) :
    P lo := by
  induction ends generalizing best with
  | nil => exact hbest lo h
  | cons hi ends ih =>
    refine ih (fun e he => hends e (List.mem_cons_of_mem _ he)) (fun lo hlo => ?_) h
    have hhi := hends hi List.mem_cons_self
    cases best with
    | none =>
      obtain rfl : hi - size = lo := by simpa using hlo
      exact hhi
    | some b =>
      have hb := hbest b rfl
      simp only [Option.getD_some, Option.some.injEq] at hlo
      rcases Nat.le_total b (hi - size) with hle | hle
      · rwa [← hlo, Nat.max_eq_right hle]
      · rwa [← hlo, Nat.max_eq_left hle]

theorem isFree_of_highestFree {k : Paged} {size lo : Nat} (h : k.highestFree size = some lo) :
    0 < lo ∧ k.isFree lo size = true := by
  refine of_foldl_max (P := fun lo => 0 < lo ∧ k.isFree lo size = true) (fun hi hhi => ?_)
    (fun _ hnone => by cases hnone) h
  have hfree := (List.mem_filter.mp hhi).2
  simp only [Bool.and_eq_true, decide_eq_true_eq] at hfree
  exact ⟨by omega, hfree.2⟩

/-- The place of a mapping: the hint if it is fixed, and free pages otherwise. -/
structure Chosen (k : Paged) (hint size : Nat) (fixed : Bool) (lo : Nat) : Prop where
  below : lo + size ≤ userTop
  hint : fixed = true → lo = hint
  free : fixed = false → 0 < lo ∧ ∀ x, lo ≤ x ∧ x < lo + size → ¬ k.Maps x

theorem below_of_isFree {k : Paged} {lo size : Nat} (h : k.isFree lo size = true) :
    lo + size ≤ userTop := by
  simp only [isFree, Bool.and_eq_true, decide_eq_true_eq] at h
  exact h.1

theorem chosen_of_choose {k : Paged} {hint size : Nat} {fixed : Bool} {lo : Nat}
    (h : k.choose hint size fixed = .ok lo) : Chosen k hint size fixed lo := by
  have place (hpos : 0 < lo) (hfree : k.isFree lo size = true) (hfixed : fixed = false) :
      Chosen k hint size fixed lo :=
    ⟨below_of_isFree hfree, fun ht => by simp [hfixed] at ht,
      fun _ => ⟨hpos, fun _ hx => not_maps_of_isFree hfree hx⟩⟩
  unfold choose at h
  split at h
  · next hfixed =>
    split at h
    · cases h
    · next hbelow =>
      split at h
      · cases h
      · obtain rfl : hint = lo := by simpa using h
        exact ⟨by omega, fun _ => rfl, fun hf => by simp [hfixed] at hf⟩
  · next hfixed =>
    have hfixed : fixed = false := by simpa using hfixed
    split at h
    · next hhint =>
      obtain rfl : pageUp hint = lo := by simpa using h
      simp only [Bool.and_eq_true, decide_eq_true_eq] at hhint
      have hle := le_pageUp hint
      exact place (by omega) hhint.2 hfixed
    · split at h
      · next found hfound =>
        obtain rfl : found = lo := by simpa using h
        obtain ⟨hpos, hfree⟩ := isFree_of_highestFree hfound
        exact place hpos hfree hfixed
      · cases h

/-! ## Calls -/

/-- A mapping fails and changes nothing, or an area is put where there is a place for it. -/
theorem mapMemory_ends (k : Paged) (hint : Address) (len : UInt64) (flags : Int32) (fd : Fd)
    (offset : Int64) :
    (∃ e, k.mapMemory hint len flags fd offset = (.fail e, k)) ∨
      ∃ lo shared file start,
        k.choose hint.toNat (pageUp len.toNat) (flags &&& MapFlag.fixed ≠ 0) = .ok lo ∧
          k.mapMemory hint len flags fd offset =
            (.ok lo.toUInt64, k.putArea lo (pageUp len.toNat) shared file start) ∧
          (flags &&& MapFlag.anonymous = 0 → file.isSome = true) := by
  unfold mapMemory
  extract_lets anonymous shared size file
  -- Four checks come before a place is looked for.
  split
  · exact Or.inl ⟨_, rfl⟩
  split
  · exact Or.inl ⟨_, rfl⟩
  next hbacked =>
  have hfile : flags &&& MapFlag.anonymous = 0 → file.isSome = true := by
    intro hflags
    have hanonymous : anonymous = false := by simp [anonymous, hflags]
    simpa [hanonymous, Option.isSome_iff_ne_none] using hbacked
  split
  · exact Or.inl ⟨_, rfl⟩
  split
  · exact Or.inl ⟨_, rfl⟩
  split
  · exact Or.inl ⟨_, rfl⟩
  · next lo hlo =>
    split
    · exact Or.inl ⟨_, rfl⟩
    · exact Or.inr ⟨lo, _, _, _, hlo, rfl, hfile⟩

/-- **Mappings.** -/
theorem maps_of_mapMemory {k k' : Paged} {hint : Address} {len : UInt64} {flags : Int32} {fd : Fd}
    {offset : Int64} {base : Address}
    (h : k.mapMemory hint len flags fd offset = (.ok base, k')) :
    Chosen k hint.toNat (pageUp len.toNat) (flags &&& MapFlag.fixed ≠ 0) base.toNat ∧
      ∀ x, k'.Maps x ↔ k.Maps x ∨ base.toNat ≤ x ∧ x < base.toNat + pageUp len.toNat := by
  rcases mapMemory_ends k hint len flags fd offset with
    ⟨e, hend⟩ | ⟨lo, shared, file, start, hlo, hend, -⟩
  · rw [hend] at h
    cases h
  · rw [hend] at h
    obtain ⟨hbase, rfl⟩ := Prod.mk.inj h
    obtain rfl := Outcome.ok.inj hbase
    have hchosen := chosen_of_choose hlo
    have hlt : lo < 2 ^ 64 := by
      have hbelow := hchosen.below
      unfold userTop at hbelow
      omega
    rw [show lo.toUInt64.toNat = lo from Nat.mod_eq_of_lt hlt]
    exact ⟨hchosen, maps_putArea _ _ _ _ _ _⟩

theorem eq_of_mapMemory_fail {k k' : Paged} {hint : Address} {len : UInt64} {flags : Int32}
    {fd : Fd} {offset : Int64} {e : Errno}
    (h : k.mapMemory hint len flags fd offset = (.fail e, k')) : k' = k := by
  rcases mapMemory_ends k hint len flags fd offset with
    ⟨e', hend⟩ | ⟨lo, shared, file, start, hlo, hend, -⟩
  · rw [hend] at h
    exact (Prod.mk.inj h).2.symm
  · rw [hend] at h
    cases h

/-- **Unmappings.** -/
theorem maps_of_unmapMemory {k k' : Paged} {r : Range} (h : k.unmapMemory r = (.ok (), k'))
    (x : Nat) : k'.Maps x ↔
      k.Maps x ∧ ¬ (r.base.toNat ≤ x ∧ x < r.base.toNat + pageUp r.len.toNat) := by
  unfold unmapMemory at h
  dsimp only at h
  split at h
  · cases h
  · obtain ⟨-, rfl⟩ := Prod.mk.inj h
    exact removeAreas_holds _ _ _ _

theorem eq_of_unmapMemory_fail {k k' : Paged} {r : Range} {e : Errno}
    (h : k.unmapMemory r = (.fail e, k')) : k' = k := by
  unfold unmapMemory at h
  dsimp only at h
  split at h
  · exact (Prod.mk.inj h).2.symm
  · cases h

theorem areas_finish (k : Paged) (e : Option Errno) : (k.finish e).2.areas = k.areas := by
  cases e <;> rfl

theorem maps_dropCopies (k : Paged) (lo hi x : Nat) : (k.dropCopies lo hi).Maps x ↔ k.Maps x := by
  constructor
  · rintro ⟨b, hb, hbx⟩
    obtain ⟨a, ha, rfl⟩ := List.mem_map.mp hb
    exact ⟨a, ha, hbx⟩
  · rintro ⟨a, ha, hax⟩
    exact ⟨_, List.mem_map_of_mem ha, hax⟩

theorem maps_advise (k : Paged) (r : Range) (advice : Int32) (x : Nat) :
    (k.advise r advice).2.Maps x ↔ k.Maps x := by
  unfold advise
  split
  · rfl
  · rw [maps_congr (areas_finish _ _)]
    split
    · exact maps_dropCopies _ _ _ _
    · rfl

theorem areas_withFd {α : Type} (k : Paged) (fd : Fd) {f : OpenFile → α × Paged}
    (hf : ∀ file, (f file).2.areas = k.areas) : (k.withFd fd f).2.areas = k.areas := by
  unfold withFd
  split
  · rfl
  · exact hf _

theorem areas_openNamed (k : Paged) (name : String) (flags : Int32) :
    (k.openNamed name flags).2.areas = k.areas := by
  unfold openNamed
  split
  · split <;> rfl
  · split <;> rfl

theorem areas_unlinkNamed (k : Paged) (name : String) :
    (k.unlinkNamed name).2.areas = k.areas := by
  unfold unlinkNamed
  split <;> rfl

theorem areas_openMemory (k : Paged) (name : String) (flags : UInt32) :
    (k.openMemory name flags).2.areas = k.areas := by
  unfold openMemory
  split <;> rfl

theorem areas_truncate (k : Paged) (fd : Fd) (size : Int64) :
    (k.truncate fd size).2.areas = k.areas := by
  unfold truncate
  split
  · rfl
  · split <;> rfl

theorem areas_writeBack (k : Paged) (r : Range) (flags : Int32) :
    (k.writeBack r flags).2.areas = k.areas := by
  unfold writeBack
  split
  · rfl
  · exact areas_finish _ _

/-- A mapping of a file makes no object. -/
theorem objects_mapMemory (k : Paged) (hint : Address) (len : UInt64) {flags : Int32} (fd : Fd)
    (offset : Int64) (hflags : flags &&& MapFlag.anonymous = 0) :
    (k.mapMemory hint len flags fd offset).2.objects = k.objects := by
  rcases mapMemory_ends k hint len flags fd offset with
    ⟨e, hend⟩ | ⟨lo, shared, file, start, hlo, hend, hfile⟩
  · rw [hend]
  · obtain ⟨object, rfl⟩ := Option.isSome_iff_exists.mp (hfile hflags)
    rw [hend]
    rfl

theorem objects_unmapMemory (k : Paged) (r : Range) : (k.unmapMemory r).2.objects = k.objects := by
  unfold unmapMemory
  dsimp only
  split <;> rfl

/-- **Other calls.** Whatever they answer, they leave mapped what was mapped. -/
theorem maps_of_call {c : Call} (hmap : c.kind ≠ .mmap) (hunmap : c.kind ≠ .munmap) (k : Paged)
    (x : Nat) : (call c k).2.Maps x ↔ k.Maps x := by
  cases c with
  | mmap => exact absurd rfl hmap
  | munmap => exact absurd rfl hunmap
  | mprotect r prot => exact maps_congr (areas_finish _ _) x
  | mlock r => exact maps_congr (areas_finish _ _) x
  | munlock r => exact maps_congr (areas_finish _ _) x
  | madvise r advice => exact maps_advise k r advice x
  | msync r flags => exact maps_congr (areas_writeBack k r flags) x
  | shmOpen name flags mode =>
    simp only [call, Gateway.checkingNames]
    split
    · exact maps_congr (areas_openNamed _ _ _) x
    · rfl
  | shmUnlink name =>
    simp only [call, Gateway.checkingNames]
    split
    · exact maps_congr (areas_unlinkNamed _ _) x
    · rfl
  | memfdCreate name flags =>
    simp only [call, Gateway.checkingNames]
    split
    · rfl
    · exact maps_congr (areas_openMemory _ _ _) x
  | getFdFlags fd => exact maps_congr (areas_withFd k fd fun _ => rfl) x
  | setFdFlags fd flags => exact maps_congr (areas_withFd k fd fun _ => rfl) x
  | ftruncate fd size => exact maps_congr (areas_truncate k fd size) x
  | close fd => exact maps_congr (areas_withFd k fd fun _ => rfl) x

end Paged

end SharedPages
