import SharedPages.Proofs.Bytes
import SharedPages.Proofs.Mapping.Kernel
import SharedPages.Proofs.Mapping.Run
import SharedPages.Proofs.Table

/-!
# How live ranges lie

Proved here, for every run from the empty registry whose mappings were placed as a
system places them:

* `laid_of_change`: no action makes live ranges meet;
* `Laid.listed`: the list of registrations is in the order of the ranges, each ending
  before the next begins;
* `layout_of_run`: so it is after every run, and a new registration changes the number
  of registrations by those it replaces.
-/

namespace SharedPages.Mapping

variable {ω : Type}

/-! ## Ranges apart from each other -/

/-- Every registration stands under its own range, which is neither null nor empty and ends at
an address; and two live ranges have no byte in common. -/
structure Laid (live : LiveSet) : Prop where
  keyed : ∀ r known, live.get? r = some known → known.range = r
  base_ne : ∀ r known, live.get? r = some known → r.base ≠ 0
  nonempty : ∀ r known, live.get? r = some known → r.isEmpty = false
  fits : ∀ r known, live.get? r = some known → r.Fits
  disjoint : ∀ r s known other, live.get? r = some known → live.get? s = some other → r ≠ s →
    r.Disjoint s

theorem laid_empty : Laid .empty := by
  constructor <;> simp

/-- Registrations may be dropped. -/
theorem Laid.sub {live less : LiveSet} (h : Laid live)
    (hsub : ∀ r known, less.get? r = some known → live.get? r = some known) : Laid less where
  keyed r known hr := h.keyed r known (hsub r known hr)
  base_ne r known hr := h.base_ne r known (hsub r known hr)
  nonempty r known hr := h.nonempty r known (hsub r known hr)
  fits r known hr := h.fits r known (hsub r known hr)
  disjoint r s known other hr hs := h.disjoint r s known other (hsub r known hr) (hsub s other hs)

theorem Laid.erase {live : LiveSet} (h : Laid live) (r : Range) : Laid (live.erase r) :=
  h.sub fun _ _ => Table.get?_of_erase

/-- A range that meets no live range may be registered. -/
theorem Laid.insert {live : LiveSet} (h : Laid live) {r : Range} {known : Registration}
    (hkey : known.range = r) (hbase : r.base ≠ 0) (hlen : r.isEmpty = false) (hfits : r.Fits)
    (hapart : ∀ s other, live.get? s = some other → r.Disjoint s) :
    Laid (Table.insert live r known) := by
  have look {s : Range} {other : Registration}
      (hs : (Table.insert live r known).get? s = some other) :
      s = r ∧ known = other ∨ s ≠ r ∧ live.get? s = some other := by
    rw [Table.get?_insert] at hs
    by_cases hsr : s = r
    · exact Or.inl ⟨hsr, by simpa [hsr] using hs⟩
    · exact Or.inr ⟨hsr, by simpa [hsr] using hs⟩
  constructor
  · intro s other hs
    rcases look hs with ⟨rfl, rfl⟩ | ⟨-, hs⟩
    · exact hkey
    · exact h.keyed s other hs
  · intro s other hs
    rcases look hs with ⟨rfl, -⟩ | ⟨-, hs⟩
    · exact hbase
    · exact h.base_ne s other hs
  · intro s other hs
    rcases look hs with ⟨rfl, -⟩ | ⟨-, hs⟩
    · exact hlen
    · exact h.nonempty s other hs
  · intro s other hs
    rcases look hs with ⟨rfl, -⟩ | ⟨-, hs⟩
    · exact hfits
    · exact h.fits s other hs
  · intro s t first second hs ht hne
    rcases look hs with ⟨rfl, -⟩ | ⟨-, hold⟩
    · rcases look ht with ⟨rfl, -⟩ | ⟨-, ht⟩
      · exact absurd rfl hne
      · exact hapart t second ht
    · rcases look ht with ⟨rfl, -⟩ | ⟨-, ht⟩
      · exact Range.disjoint_symm (hapart s first hold)
      · exact h.disjoint s t first second hold ht hne

/-! ## What a request leaves in place -/

/-- A range was placed as a system places it: a fixed mapping at its hint, any other one away
from all live ranges. -/
structure MapRequest.Placed (q : MapRequest) (live : LiveSet) (r : Range) : Prop where
  fits : r.Fits
  fixed : q.isFixed = true → r.base = q.hint
  free : q.isFixed = false → ∀ s known, live.get? s = some known → r.Disjoint s

theorem placed_iff (q : MapRequest) (live : LiveSet) (r : Range) : q.Placed live r ↔
    r.Fits ∧ (q.isFixed = true → r.base = q.hint) ∧
      (q.isFixed = false → ∀ e ∈ live.toList, r.Disjoint e.1) := by
  constructor
  · rintro ⟨hfits, hfixed, hfree⟩
    refine ⟨hfits, hfixed, fun hf e he => ?_⟩
    exact hfree hf e.1 e.2 ((Table.mem_toList_iff live e.1 e.2).mp he)
  · rintro ⟨hfits, hfixed, hfree⟩
    refine ⟨hfits, hfixed, fun hf s known hs => ?_⟩
    exact hfree hf (s, known) ((Table.mem_toList_iff live s known).mpr hs)

instance (q : MapRequest) (live : LiveSet) (r : Range) : Decidable (q.Placed live r) :=
  decidable_of_iff _ (placed_iff q live r).symm

/-- If the step gave a request a range, it was placed as a system places it. -/
def Step.Placed (s : Step) : Prop := ∀ q r, s.Maps q r → q.Placed s.before r

theorem Step.placed_iff (s : Step) : s.Placed ↔ ∀ p ∈ s.given?, p.1.Placed s.before p.2 := by
  constructor
  · rintro h ⟨q, r⟩ hp
    exact h q r (s.maps_iff.mpr hp)
  · intro h q r hm
    exact h (q, r) (s.maps_iff.mp hm)

instance (s : Step) : Decidable s.Placed := decidable_of_iff _ s.placed_iff.symm

/-- **The test before the call.** What is left of the live set has no byte in the new range. -/
theorem kept_disjoint {q : MapRequest} {live : LiveSet} {r : Range} (h : Laid live)
    (hq : q.Accepted live) (hlen : r.len = q.len) (hr : q.Placed live r) {s : Range}
    {known : Registration} (hs : (q.kept live r).get? s = some known) : r.Disjoint s := by
  obtain ⟨hlive, hcovers⟩ := (get?_kept_iff ..).mp hs
  cases hf : q.isFixed with
  | false => exact hr.free hf s known hlive
  | true =>
    -- The test was made on the range asked for, which is the one that was given. Whatever meets it
    -- would be split unless it is covered, and what is covered is gone.
    have hrange : q.range = r := by
      rw [MapRequest.range, ← hr.fixed hf, ← hlen]
    have hactive : known ∈ live.active := mem_active_of_get? hlive
    have hsplit : r.splits known.range = false := by
      have := hq.2 hf
      rw [hrange, LiveSet.wouldSplit, List.any_eq_false] at this
      simpa using this known hactive
    have hover : s.overlaps r = false := by
      rw [Range.splits, hcovers hf, h.keyed s known hlive] at hsplit
      simpa using hsplit
    exact Range.disjoint_of_not_overlaps (h.fits s known hlive) hover

theorem Laid.entered {q : MapRequest} {live : LiveSet} {r : Range} (h : Laid live)
    (hq : q.Accepted live) (hbase : r.base ≠ 0) (hlen : r.len = q.len) (hr : q.Placed live r) :
    Laid (q.entered live r) := by
  have hkept : Laid (q.kept live r) := h.sub fun s known hs => ((get?_kept_iff ..).mp hs).1
  have hempty : r.isEmpty = false := by simpa [Range.isEmpty, hlen] using hq.1
  exact hkept.insert rfl hbase hempty hr.fits fun s known hs => kept_disjoint h hq hlen hr hs

/-- **One action.** Live ranges stay apart, whatever the outcome. -/
theorem laid_of_change {live live' : LiveSet} {a : Action} {o : Outcome Error Reply}
    (hchange : Change live a o live') (h : Laid live)
    (hplaced : ∀ q r, a = .map q → o = .ok (.mapped r) → q.Placed live r) : Laid live' := by
  cases hchange with
  | mapped hq hbase hlen => exact h.entered hq hbase hlen (hplaced _ _ rfl rfl)
  | unmapped hr => exact h.erase _
  | lost hr => exact h.erase _
  | same hmap hunmap => exact h

/-! ## The list of registrations -/

/-- The list shows each registration once, in strictly ascending order, each ending at or before
the beginning of the next. -/
structure Listed (live : LiveSet) : Prop where
  mem : ∀ r known, live.info r = some known ↔ known ∈ live.active ∧ known.range = r
  nodup : live.active.Nodup
  ascending : live.active.Pairwise fun a b => a.range.base < b.range.base
  apart : live.active.Pairwise fun a b =>
    a.range.base.toNat + a.range.len.toNat ≤ b.range.base.toNat

theorem Laid.info_eq {live : LiveSet} (h : Laid live) (r : Range) : live.info r = live.get? r := by
  unfold LiveSet.info
  split
  · next hempty =>
    cases hr : live.get? r with
    | none => rfl
    | some known => simp [h.nonempty r known hr] at hempty
  · rfl

theorem Laid.mem_active {live : LiveSet} (h : Laid live) (r : Range) (known : Registration) :
    live.get? r = some known ↔ known ∈ live.active ∧ known.range = r := by
  constructor
  · intro hr
    exact ⟨mem_active_of_get? hr, h.keyed r known hr⟩
  · rintro ⟨hmem, rfl⟩
    obtain ⟨⟨s, other⟩, hs, rfl⟩ := List.mem_map.mp hmem
    have hget := (Table.mem_toList_iff live s other).mp hs
    rwa [h.keyed s other hget]

/-- Of two entries in key order, the first ends before the second begins. -/
theorem Laid.apart {live : LiveSet} (h : Laid live) :
    live.active.Pairwise fun a b =>
      a.range.base.toNat + a.range.len.toNat ≤ b.range.base.toNat := by
  refine List.pairwise_map.mpr (live.ascending.imp_of_mem ?_)
  rintro ⟨r, known⟩ ⟨s, other⟩ hr hs hrank
  have hr := (Table.mem_toList_iff live r known).mp hr
  have hs := (Table.mem_toList_iff live s other).mp hs
  have hne : r ≠ s := by
    rintro rfl
    exact Nat.lt_irrefl _ hrank
  have happart := Range.apart_of_disjoint (h.nonempty r known hr) (h.nonempty s other hs)
    (h.disjoint r s known other hr hs hne)
  have hpos := Range.pos_of_not_isEmpty (h.nonempty r known hr)
  have hlen := s.len.toNat_lt
  simp only [Ranked.rank, UInt64.size] at hrank
  simp only [h.keyed r known hr, h.keyed s other hs]
  omega

theorem Laid.listed {live : LiveSet} (h : Laid live) : Listed live := by
  have hascending : live.active.Pairwise fun a b => a.range.base < b.range.base := by
    refine h.apart.imp_of_mem fun {a b} ha _ hab => ?_
    have hget := (h.mem_active a.range a).mpr ⟨ha, rfl⟩
    have hpos := Range.pos_of_not_isEmpty (h.nonempty a.range a hget)
    rw [UInt64.lt_iff_toNat_lt]
    omega
  refine ⟨fun r known => ?_, ?_, hascending, h.apart⟩
  · rw [h.info_eq]
    exact h.mem_active r known
  · refine hascending.imp fun {a b} hab heq => ?_
    rw [heq] at hab
    exact absurd hab (UInt64.lt_irrefl _)

/-! ## The number of registrations -/

theorem size_kept (q : MapRequest) (live : LiveSet) (r : Range) :
    (q.kept live r).size + (q.replaced live r).length = live.size := by
  unfold MapRequest.kept MapRequest.replaced
  split
  · have hcovered : (live.covered r).length =
        (live.entries.filter fun e => !!r.covers e.2.range).length := by
      simp [LiveSet.covered, LiveSet.active, Table.values, List.filter_map, Function.comp_def]
    rw [hcovered]
    exact Table.size_filter live fun e => !r.covers e.2.range
  · rfl

/-- What is left of the live set has no entry for the new range. -/
theorem Laid.get?_kept_self {q : MapRequest} {live : LiveSet} {r : Range} (h : Laid live)
    (hq : q.Accepted live) (hlen : r.len = q.len) (hr : q.Placed live r) :
    (q.kept live r).get? r = none := by
  have hempty : r.isEmpty = false := by simpa [Range.isEmpty, hlen] using hq.1
  cases hk : (q.kept live r).get? r with
  | none => rfl
  | some known =>
    have hself := kept_disjoint h hq hlen hr hk
    exact absurd (Range.holds_base hempty) (hself _ (Range.holds_base hempty))

theorem Laid.get?_kept_of_replaced {q : MapRequest} {live : LiveSet} {r : Range} (h : Laid live)
    {known : Registration} (hknown : known ∈ q.replaced live r) :
    (q.kept live r).get? known.range = none := by
  cases hk : (q.kept live r).get? known.range with
  | none => rfl
  | some other =>
    obtain ⟨hlive, hcovers⟩ := (get?_kept_iff ..).mp hk
    unfold MapRequest.replaced at hknown
    split at hknown
    · next hf =>
      have hcovered := (List.mem_filter.mp hknown).2
      rw [← h.keyed _ _ hlive, hcovers hf] at hcovered
      cases hcovered
    · cases hknown

theorem Laid.get?_kept_of_not_replaced {q : MapRequest} {live : LiveSet} {r : Range} (h : Laid live)
    {known : Registration} (hactive : known ∈ live.active) (hkept : known ∉ q.replaced live r) :
    (q.kept live r).get? known.range = some known := by
  refine (get?_kept_iff ..).mpr ⟨(h.mem_active known.range known).mpr ⟨hactive, rfl⟩, fun hf => ?_⟩
  rw [MapRequest.replaced, if_pos hf] at hkept
  cases hc : r.covers known.range with
  | false => rfl
  | true => exact absurd (List.mem_filter.mpr ⟨hactive, hc⟩) hkept

/-- What a request does to the registrations when it is given a range: it is registered itself,
what it replaces goes, and everything else stays. -/
structure Grows (q : MapRequest) (live live' : LiveSet) (r : Range) : Prop where
  info : live'.info r = some (q.register r)
  size : live'.size + (q.replaced live r).length = live.size + 1
  gone : ∀ known ∈ q.replaced live r, known.range ≠ r → live'.info known.range = none
  stays : ∀ known ∈ live.active, known ∉ q.replaced live r → live'.info known.range = some known

theorem Laid.grows {q : MapRequest} {live : LiveSet} {r : Range} (h : Laid live)
    (hq : q.Accepted live) (hbase : r.base ≠ 0) (hlen : r.len = q.len) (hr : q.Placed live r) :
    Grows q live (q.entered live r) r := by
  have hnew := h.get?_kept_self hq hlen hr
  have look (s : Range) : (q.entered live r).info s =
      if s = r then some (q.register r) else (q.kept live r).get? s := by
    rw [(h.entered hq hbase hlen hr).info_eq, MapRequest.entered, Table.get?_insert]
  constructor
  · rw [look, if_pos rfl]
  · have hsize := size_kept q live r
    rw [MapRequest.entered, Table.size_insert _ hnew]
    omega
  · intro known hknown hne
    rw [look, if_neg hne, h.get?_kept_of_replaced hknown]
  · intro known hactive hkept
    have hk := h.get?_kept_of_not_replaced hactive hkept
    have hne : known.range ≠ r := by
      intro heq
      rw [heq, hnew] at hk
      cases hk
    rw [look, if_neg hne, hk]

/-! ## Runs -/

/-- **Layout.** Let every range that a run was given be placed as a system places it. Then the
live ranges are apart after the run and listed in their order, and every request that was given a
range changed the number of registrations by one less those it replaced. A mapping at the null
address needs no assumption, since nothing is registered there. -/
theorem layout_of_run (g : Gateway ω) (as : List Action) (w : ω)
    (hplaced : ∀ s ∈ (history g as .empty w).steps, s.Placed) :
    Laid (history g as .empty w).live ∧ Listed (history g as .empty w).live ∧
      ∀ s ∈ (history g as .empty w).steps, ∀ q r, s.Maps q r → Grows q s.before s.after r := by
  have hrun := history_induction g (P := Step.Placed)
    (I := fun steps live _ =>
      Laid live ∧ ∀ s ∈ steps, ∀ q r, s.Maps q r → Grows q s.before s.after r)
    ?step as .empty w [] ⟨laid_empty, by simp⟩ hplaced
  · exact ⟨hrun.1, hrun.1.listed, hrun.2⟩
  case step =>
    rintro earlier live w a ⟨hlaid, hgrows⟩ hplaced
    have hchange := step_change g a live w
    refine ⟨laid_of_change hchange hlaid fun q r ha ho => hplaced q r ⟨ha, ho⟩, ?_⟩
    intro s hs q r hmaps
    rcases List.mem_append.mp hs with hs | hs
    · exact hgrows s hs q r hmaps
    · obtain rfl := List.mem_singleton.mp hs
      have hr := hplaced q r hmaps
      rw [hmaps.1, hmaps.2] at hchange
      obtain ⟨hq, hbase, hlen, hafter⟩ := entered_of_change hchange
      rw [hafter]
      exact hlaid.grows hq hbase hlen hr

/-- Fixed mappings beside, over and in place of what is live, between mappings in free places. -/
def rearranged : List Action :=
  let flags := MapFlag.privateCopy ||| MapFlag.anonymous
  let request (hint : Address) (len : UInt64) (flags : Int32) : Action :=
    .map ⟨hint, len, Prot.readWrite, flags, none, 0⟩
  [request 0x10000 0x2000 flags,
   request 0x20000 0x1000 flags,
   request 0x12000 0x1000 (flags ||| MapFlag.fixed),
   .protect ⟨0x10000, 0x2000⟩ Prot.read,
   request 0x11000 0x1000 (flags ||| MapFlag.fixed),
   request 0xf000 0x4000 (flags ||| MapFlag.fixed),
   .unmap ⟨0x20000, 0x1000⟩,
   request 0xf000 0x4000 (flags ||| MapFlag.fixed),
   request 0x13000 0x1000 flags]

theorem layout_rearranged :
    Listed (history wholePages rearranged .empty Paged.start).live ∧
      (history wholePages rearranged .empty Paged.start).live.active.map (·.range) =
        [⟨0xf000, 0x4000⟩, ⟨0x13000, 0x1000⟩] :=
  ⟨(layout_of_run wholePages rearranged Paged.start (by decide +kernel)).2.1, by decide +kernel⟩

end SharedPages.Mapping
