import SharedPages.Proofs.Mapping.Kernel
import SharedPages.Proofs.Mapping.Layout

/-!
# The registry and the pages of the system

A kernel is taken to keep a set of mapped bytes. Proved here, for every kernel and
every run from the empty registry:

* `agrees_of_end`: each action changes the live ranges as it changes the mapped bytes;
* `mapped_iff_registered`: the bytes that the run put in place and that are still
  mapped are those of the live ranges.
-/

namespace SharedPages.Mapping

variable {ω : Type}

/-! ## Bytes put in place -/

/-- The range that a mapping put in place. -/
def placed? : Event → Option Range
  | ⟨.call (.mmap _ len _ _ _ _), .ok base⟩ => some ⟨base, len⟩
  | _ => none

/-- Some mapping of the run put the byte in place. -/
def InPlace (steps : List Step) (x : Nat) : Prop :=
  ∃ s ∈ steps, ∃ r ∈ s.events.filterMap placed?, r.Holds x

theorem placed?_of_kind {c : Call} (hc : c.kind ≠ .mmap) (answer : c.Answer) :
    placed? (c.event answer) = none := by
  cases c with
  | mmap => exact absurd rfl hc
  | _ => rfl

theorem placed?_entries (entries : List Journal.Entry) :
    (entries.map Journal.Entry.event).filterMap placed? = [] := by
  induction entries with
  | nil => rfl
  | cons entry entries ih => exact ih

theorem placed?_mapped (q : MapRequest) (base : Address) (entries : List Journal.Entry) :
    (q.toCall.event (.ok base) :: entries.map Journal.Entry.event).filterMap placed? =
      [⟨base, q.len⟩] :=
  congrArg (List.cons (⟨base, q.len⟩ : Range)) (placed?_entries entries)

/-- The bytes that were put in place before or by the events. -/
def PlacedBy (inPlace : Nat → Prop) (events : List Event) (x : Nat) : Prop :=
  inPlace x ∨ ∃ r ∈ events.filterMap placed?, r.Holds x

theorem placedBy_of_quiet {inPlace : Nat → Prop} {events : List Event}
    (h : events.filterMap placed? = []) (x : Nat) : PlacedBy inPlace events x ↔ inPlace x := by
  simp [PlacedBy, h]

theorem inPlace_concat (steps : List Step) (s : Step) (x : Nat) :
    InPlace (steps ++ [s]) x ↔ PlacedBy (InPlace steps) s.events x := by
  simp only [InPlace, PlacedBy, List.mem_append, List.mem_singleton]
  constructor
  · rintro ⟨t, ht | rfl, h⟩
    · exact Or.inl ⟨t, ht, h⟩
    · exact Or.inr h
  · rintro (⟨t, ht, h⟩ | h)
    · exact ⟨t, Or.inl ht, h⟩
    · exact ⟨s, Or.inr rfl, h⟩

/-! ## Agreement -/

/-- The byte lies in a live range. -/
def Registered (live : LiveSet) (x : Nat) : Prop := ∃ r known, live.get? r = some known ∧ r.Holds x

theorem Laid.registered_iff {live : LiveSet} (h : Laid live) (x : Nat) :
    Registered live x ↔ ∃ r, live.contains r = true ∧ r.Holds x := by
  constructor
  · rintro ⟨r, known, hr, hx⟩
    rw [← h.info_eq] at hr
    exact ⟨r, (LiveSet.contains_iff live r).mpr ⟨known, hr⟩, hx⟩
  · rintro ⟨r, hr, hx⟩
    obtain ⟨known, hinfo⟩ := (LiveSet.contains_iff live r).mp hr
    exact ⟨r, known, get?_of_info hinfo, hx⟩

/-- Live ranges are apart, and hold the bytes that were put in place and are mapped. -/
structure Agrees (live : LiveSet) (inPlace mapped : Nat → Prop) : Prop where
  laid : Laid live
  bytes : ∀ x, inPlace x ∧ mapped x ↔ Registered live x

section Agrees

variable {live : LiveSet} {inPlace inPlace' mapped mapped' : Nat → Prop}

theorem Agrees.same (h : Agrees live inPlace mapped) (hplace : ∀ x, inPlace' x ↔ inPlace x)
    (hmapped : ∀ x, mapped' x ↔ mapped x) : Agrees live inPlace' mapped' where
  laid := h.laid
  bytes x := by rw [hplace, hmapped, h.bytes]

theorem Agrees.erase {r : Range} {known : Registration} (h : Agrees live inPlace mapped)
    (hr : live.get? r = some known) (hplace : ∀ x, inPlace' x ↔ inPlace x)
    (hmapped : ∀ x, mapped' x ↔ mapped x ∧ ¬ r.Holds x) :
    Agrees (live.erase r) inPlace' mapped' where
  laid := h.laid.erase r
  bytes x := by
    rw [hplace, hmapped, ← and_assoc, h.bytes]
    constructor
    · rintro ⟨⟨s, other, hs, hx⟩, hrx⟩
      have hne : s ≠ r := fun he => hrx (he ▸ hx)
      exact ⟨s, other, by simp [hne, hs], hx⟩
    · rintro ⟨s, other, hs, hx⟩
      rw [Table.get?_erase] at hs
      split at hs
      · cases hs
      · next hne =>
        exact ⟨⟨s, other, hs, hx⟩, h.laid.disjoint s r other known hs hr hne x hx⟩

theorem Agrees.enter {q : MapRequest} {r : Range} (h : Agrees live inPlace mapped)
    (hq : q.Accepted live) (hbase : r.base ≠ 0) (hlen : r.len = q.len) (hr : q.Placed live r)
    (hplace : ∀ x, inPlace' x ↔ inPlace x ∨ r.Holds x)
    (hmapped : ∀ x, mapped' x ↔ mapped x ∨ r.Holds x) :
    Agrees (q.entered live r) inPlace' mapped' where
  laid := h.laid.entered hq hbase hlen hr
  bytes x := by
    rw [hplace, hmapped, ← and_or_right, h.bytes]
    constructor
    · rintro (⟨s, known, hs, hx⟩ | hx)
      · by_cases hsr : s = r
        · exact ⟨r, q.register r, by simp [MapRequest.entered], hsr ▸ hx⟩
        by_cases hcovers : q.isFixed = true ∧ r.covers known.range = true
        · -- The entry is gone, but its bytes lie in the new range.
          refine ⟨r, q.register r, by simp [MapRequest.entered], ?_⟩
          rw [h.laid.keyed s known hs] at hcovers
          exact Range.holds_of_covers (h.laid.fits s known hs) hcovers.2 hx
        · have hkept : (q.kept live r).get? s = some known :=
            (get?_kept_iff ..).mpr ⟨hs, fun hf => by simpa [hf] using hcovers⟩
          exact ⟨s, known, by simp [MapRequest.entered, hsr, hkept], hx⟩
      · exact ⟨r, q.register r, by simp [MapRequest.entered], hx⟩
    · rintro ⟨s, known, hs, hx⟩
      rw [MapRequest.entered, Table.get?_insert] at hs
      split at hs
      · next hsr => exact Or.inr (hsr ▸ hx)
      · exact Or.inl ⟨s, known, ((get?_kept_iff ..).mp hs).1, hx⟩

end Agrees

/-! ## Runs -/

/-- A system does not answer a request with the null address, unless it is asked for it. -/
theorem Kernel.base_ne {g : Gateway ω} {mapped : ω → Nat → Prop} (k : Kernel g mapped)
    {q : MapRequest} {w : ω} {base : Address} {w' : ω} (hhint : q.isFixed = true → q.hint ≠ 0)
    (hmap : g q.toCall w = (.ok base, w')) : base ≠ 0 := by
  cases hf : q.isFixed with
  | false => exact (k.free hf hmap).1
  | true =>
    rw [(k.fixed hf (hhint hf) hmap).1]
    exact hhint hf

/-- A range in which a system maps memory is one that may be registered. -/
theorem Kernel.placed {g : Gateway ω} {mapped : ω → Nat → Prop} (k : Kernel g mapped)
    {live : LiveSet} {inPlace : Nat → Prop} {q : MapRequest} {w : ω} {base : Address} {w' : ω}
    (h : Agrees live inPlace (mapped w)) (hhint : q.isFixed = true → q.hint ≠ 0)
    (hmap : g q.toCall w = (.ok base, w')) :
    q.Placed live ⟨base, q.len⟩ ∧
      ∀ x, mapped w' x ↔ mapped w x ∨ Range.Holds ⟨base, q.len⟩ x := by
  cases hf : q.isFixed with
  | false =>
    obtain ⟨-, hfits, hfree, hafter⟩ := k.free hf hmap
    refine ⟨⟨hfits, fun ht => by simp [hf] at ht, fun _ s known hs x hx hsx => ?_⟩, hafter⟩
    exact hfree x hx ((h.bytes x).mpr ⟨s, known, hs, hsx⟩).2
  | true =>
    obtain ⟨rfl, hfits, hafter⟩ := k.fixed hf (hhint hf) hmap
    exact ⟨⟨hfits, fun _ => rfl, fun ht => by simp [hf] at ht⟩, hafter⟩

section Ends

variable {g : Gateway ω} {mapped : ω → Nat → Prop} {live : LiveSet} {w : ω}
  {inPlace : Nat → Prop}

theorem agrees_of_mapEnd (k : Kernel g mapped) {q : MapRequest}
    {p : Played ω (Outcome Error Range × LiveSet)} (hend : MapEnd g q live w p)
    (hcalm : ∀ e ∈ p.events, e.isPanic = false) (hhint : q.isFixed = true → q.hint ≠ 0)
    (h : Agrees live inPlace (mapped w)) :
    Agrees p.value.2 (PlacedBy inPlace p.events) (mapped p.host) := by
  cases hend with
  | empty hlen => exact h.same (placedBy_of_quiet rfl) fun x => Iff.rfl
  | split hlen hfixed hsplit => exact h.same (placedBy_of_quiet rfl) fun x => Iff.rfl
  | failed hq hmap => exact h.same (placedBy_of_quiet rfl) (k.failed hmap)
  | panicked hq hmap => cases hcalm _ List.mem_cons_self
  | null hq hmap hunmap => exact absurd rfl (k.base_ne hhint hmap)
  | nullKept hq hmap hunmap => exact absurd rfl (k.base_ne hhint hmap)
  | nullPanicked hq hmap hunmap => exact absurd rfl (k.base_ne hhint hmap)
  | @mapped base _ hq hbase hmap =>
    obtain ⟨hplaced, hafter⟩ := k.placed h hhint hmap
    refine h.enter hq hbase rfl hplaced (fun x => ?_) hafter
    have hevents := placed?_mapped q base (q.remarks live ⟨base, q.len⟩)
    simp only [PlacedBy, hevents, List.mem_singleton, exists_eq_left]

theorem agrees_of_unmapEnd (k : Kernel g mapped) {r : Range}
    {p : Played ω (Outcome Error Unit × LiveSet)} (hend : UnmapEnd g r live w p)
    (hcalm : ∀ e ∈ p.events, e.isPanic = false) (h : Agrees live inPlace (mapped w)) :
    Agrees p.value.2 (PlacedBy inPlace p.events) (mapped p.host) := by
  cases hend with
  | refused hr => exact h.same (placedBy_of_quiet rfl) fun x => Iff.rfl
  | unmapped hr hunmap =>
    exact h.erase (get?_of_info hr) (placedBy_of_quiet rfl) (k.unmapped hunmap)
  | failed hr hunmap => exact h.same (placedBy_of_quiet rfl) (k.failed hunmap)
  | panicked hr hunmap => cases hcalm _ List.mem_cons_self

theorem agrees_of_passEnd (k : Kernel g mapped) {r : Range} {c : Call} {toError : Errno → Error}
    {p : Played ω (Outcome Error c.Value × LiveSet)} (hend : PassEnd g r c toError live w p)
    (hmap : c.kind ≠ .mmap) (hunmap : c.kind ≠ .munmap)
    (hcalm : ∀ e ∈ p.events, e.isPanic = false) (h : Agrees live inPlace (mapped w)) :
    Agrees p.value.2 (PlacedBy inPlace p.events) (mapped p.host) := by
  cases hend with
  | refused hr => exact h.same (placedBy_of_quiet rfl) fun x => Iff.rfl
  | @answered _ answer _ hr hcall =>
    have hquiet : [c.event answer].filterMap placed? = [] := by
      simp [placed?_of_kind hmap]
    cases answer with
    | ok v => exact h.same (placedBy_of_quiet hquiet) (k.passed hmap hunmap hcall)
    | fail e => exact h.same (placedBy_of_quiet hquiet) (k.failed hcall)
    | panic text => cases hcalm _ List.mem_cons_self

/-- **One action.** The registry and the system change alike. -/
theorem agrees_of_end (k : Kernel g mapped) {a : Action}
    {p : Played ω (Outcome Error Reply × LiveSet)} (hend : ActionEnd g live w a p)
    (hcalm : ∀ e ∈ p.events, e.isPanic = false)
    (hhint : ∀ q, a = .map q → q.isFixed = true → q.hint ≠ 0)
    (h : Agrees live inPlace (mapped w)) :
    Agrees p.value.2 (PlacedBy inPlace p.events) (mapped p.host) := by
  cases hend with
  | map hend => exact agrees_of_mapEnd k hend hcalm (hhint _ rfl) h
  | unmap hend => exact agrees_of_unmapEnd k hend hcalm h
  | @pass _ _ c _ _ ha hend =>
    have hmap : c.kind ≠ .mmap := by cases ha <;> simp
    have hunmap : c.kind ≠ .munmap := by cases ha <;> simp
    exact agrees_of_passEnd k hend hmap hunmap hcalm h
  | look ha => exact h.same (placedBy_of_quiet rfl) fun x => Iff.rfl

end Ends

/-- **Agreement.** Let no call be answered by a panic, and let no fixed mapping be asked for at
the null address. Then after every run the bytes that it put in place and that are still mapped
are those of the live ranges. -/
theorem mapped_iff_registered {g : Gateway ω} {mapped : ω → Nat → Prop} (k : Kernel g mapped)
    (as : List Action) (w : ω) (calm : (history g as .empty w).Calm)
    (hhint : ∀ q, Action.map q ∈ as → q.isFixed = true → q.hint ≠ 0) (x : Nat) :
    InPlace (history g as .empty w).steps x ∧ mapped (history g as .empty w).host x ↔
      ∃ r, (history g as .empty w).live.contains r = true ∧ r.Holds x := by
  have hstart : Agrees .empty (InPlace []) (mapped w) := by
    refine ⟨laid_empty, fun x => ?_⟩
    simp [InPlace, Registered]
  have hrun := history_induction g
    (P := fun s => (∀ e ∈ s.events, e.isPanic = false) ∧ s.action ∈ as)
    (I := fun steps live w => Agrees live (InPlace steps) (mapped w))
    ?step as .empty w [] hstart fun s hs => ⟨calm s hs, action_mem_of_mem_steps hs⟩
  · rw [List.nil_append] at hrun
    rw [hrun.bytes, hrun.laid.registered_iff]
  case step =>
    rintro earlier live w a hagrees ⟨hcalm, hmem⟩
    have hafter := agrees_of_end k (action_ends g a live w) hcalm
      (fun q ha => hhint q (ha ▸ hmem)) hagrees
    exact hafter.same (inPlace_concat earlier _) fun x => Iff.rfl

theorem mapped_rearranged :
    InPlace (history wholePages rearranged .empty Paged.start).steps 0x11fff ∧
      Paged.Maps (history wholePages rearranged .empty Paged.start).host 0x11fff :=
  (mapped_iff_registered kernel_wholePages rearranged Paged.start (by decide +kernel)
    (by simp [rearranged]) 0x11fff).mpr ⟨⟨0xf000, 0x4000⟩, by decide +kernel, by decide +kernel⟩

end SharedPages.Mapping
