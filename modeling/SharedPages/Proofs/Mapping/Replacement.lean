import SharedPages.Proofs.Bytes
import SharedPages.Proofs.File.Events
import SharedPages.Proofs.Mapping.Refusal
import SharedPages.Proofs.Mapping.Stopped

/-!
# What a fixed mapping replaces

A fixed mapping replaces registrations as a whole, or it is not made. Proved here, for every
gateway and every live set whose registrations have bytes and end below the top of the address
space:

* `wouldSplit_iff_cuts`: the test before the call finds the registrations that have bytes on both
  sides;
* `get?_entered_iff`: after the call exactly those have gone that have no byte outside;
* `replaced_whole`: both for a request, together with what it asks the system for; a request that
  is not fixed is never turned down for what is live, and drops nothing.
-/

namespace SharedPages.Mapping

variable {ω : Type}

/-- Every registration has bytes, and ends below the top of the address space. -/
def Solid (live : LiveSet) : Prop :=
  ∀ known ∈ live.active, known.range.isEmpty = false ∧ known.range.Fits

instance (live : LiveSet) : Decidable (Solid live) :=
  inferInstanceAs (Decidable (∀ known ∈ live.active, _ ∧ _))

/-! ## The two passes over the live set -/

/-- **Before the call.** The test finds the registrations that would be cut. -/
theorem wouldSplit_iff_cuts {live : LiveSet} {r : Range} (hlive : Solid live)
    (hr : r.isEmpty = false) :
    live.wouldSplit r = true ↔ ∃ known ∈ live.active, r.Cuts known.range := by
  rw [LiveSet.wouldSplit, List.any_eq_true]
  constructor
  · rintro ⟨known, hmem, hsplits⟩
    obtain ⟨hne, hfits⟩ := hlive known hmem
    exact ⟨known, hmem, (Range.splits_iff_cuts hr hne hfits).mp hsplits⟩
  · rintro ⟨known, hmem, hcuts⟩
    obtain ⟨hne, hfits⟩ := hlive known hmem
    exact ⟨known, hmem, (Range.splits_iff_cuts hr hne hfits).mpr hcuts⟩

/-- **After the call.** What has gone is what has no byte outside the new range. -/
theorem get?_entered_iff {q : MapRequest} {live : LiveSet} (hlive : Solid live)
    (hfixed : q.isFixed = true) (r s : Range) (known : Registration) :
    (q.entered live r).get? s = some known ↔
      s = r ∧ known = q.register r ∨
        s ≠ r ∧ live.get? s = some known ∧ ∃ x, known.range.Holds x ∧ ¬ r.Holds x := by
  rw [MapRequest.entered, Table.get?_insert]
  by_cases hs : s = r
  · simp [hs, eq_comm]
  · have hkept : (q.kept live r).get? s = some known ↔
        live.get? s = some known ∧ ∃ x, known.range.Holds x ∧ ¬ r.Holds x := by
      rw [get?_kept_iff]
      refine and_congr_right fun hget => ?_
      obtain ⟨hne, hfits⟩ := hlive known (mem_active_of_get? hget)
      rw [← Bool.not_eq_true, Range.covers_iff_holds hne hfits]
      simp [hfixed]
    simp [hs, hkept]

/-! ## Requests -/

/-- What comes of a fixed mapping. It is turned down, and nothing is asked of the system, if it
would cut a registration. Otherwise the system is asked once for what the caller asked for; given
its hint, the mapping replaces the registrations that have no byte outside it, and all others stay
as they are. -/
structure Replaces (g : Gateway ω) (q : MapRequest) (live : LiveSet) (w : ω)
    (p : Played ω (Outcome Error Range × LiveSet)) : Prop where
  refused_iff : p.value.1 = .fail .partialOverlap ↔ ∃ known ∈ live.active, q.range.Cuts known.range
  refused : p.value.1 = .fail .partialOverlap → p.value.2 = live ∧ calls p.events = [] ∧ p.host = w
  asked : p.value.1 ≠ .fail .partialOverlap → ∃ rest,
    p.events = q.toCall.event (g q.toCall w).1 :: rest ∧ ∀ c ∈ calls rest, c.kind ≠ .mmap
  given : p.value.1 ≠ .fail .partialOverlap → (g q.toCall w).1 = .ok q.hint → q.hint ≠ 0 →
    p.value.1 = .ok q.range ∧ calls p.events = [q.toCall] ∧
      ∀ s known, p.value.2.get? s = some known ↔
        s = q.range ∧ known = q.register q.range ∨
          s ≠ q.range ∧ live.get? s = some known ∧ ∃ x, known.range.Holds x ∧ ¬ q.range.Holds x

/-- What comes of a mapping that is not fixed: it is not turned down for what is live, and
everything that was registered still is; only the registration of the very range that it was given
is renewed. -/
structure DropsNothing (q : MapRequest) (live : LiveSet)
    (p : Played ω (Outcome Error Range × LiveSet)) : Prop where
  not_refused : p.value.1 ≠ .fail .partialOverlap
  kept : ∀ s known, live.get? s = some known → p.value.2.get? s = some known ∨
    p.value.1 = .ok s ∧ p.value.2.get? s = some (q.register s)

section Requests

variable {g : Gateway ω} {q : MapRequest} {live : LiveSet} {w : ω}
  {p : Played ω (Outcome Error Range × LiveSet)}

theorem MapEnd.refused_iff (hend : MapEnd g q live w p) (hfixed : q.isFixed = true)
    (hlen : q.len ≠ 0) : p.value.1 = .fail .partialOverlap ↔ live.wouldSplit q.range = true := by
  have haccepted (hq : q.Accepted live) : live.wouldSplit q.range = false := hq.2 hfixed
  cases hend with
  | empty h => exact absurd h hlen
  | split _ _ hsplit => simp [hsplit]
  | failed hq _ => simp [haccepted hq]
  | panicked hq _ => simp [haccepted hq]
  | null hq _ _ => simp [haccepted hq]
  | nullKept hq _ _ => simp [haccepted hq]
  | nullPanicked hq _ _ => simp [haccepted hq]
  | mapped hq _ _ => simp [haccepted hq]

theorem replaces_of_mapEnd (hend : MapEnd g q live w p) (hfixed : q.isFixed = true)
    (hlen : q.len ≠ 0) (hlive : Solid live) : Replaces g q live w p := by
  have hrange : q.range.isEmpty = false := decide_eq_false hlen
  refine ⟨(hend.refused_iff hfixed hlen).trans (wouldSplit_iff_cuts hlive hrange), ?_, ?_, ?_⟩
  · intro hrefused
    cases hend with
    | split _ _ _ => exact ⟨rfl, rfl, rfl⟩
    | _ => cases hrefused
  · intro hpassed
    cases hend with
    | empty h => exact absurd h hlen
    | split _ _ _ => exact absurd rfl hpassed
    | failed _ hmap => exact ⟨_, by rw [hmap], by simp⟩
    | panicked _ hmap => exact ⟨_, by rw [hmap], by simp⟩
    | null _ hmap _ => exact ⟨_, by rw [hmap], by simp⟩
    | nullKept _ hmap _ => exact ⟨_, by rw [hmap], by simp⟩
    | nullPanicked _ hmap _ => exact ⟨_, by rw [hmap], by simp⟩
    | mapped _ _ hmap => exact ⟨_, by rw [hmap], by simp⟩
  · intro hpassed hgiven hhint
    cases hend with
    | empty h => exact absurd h hlen
    | split _ _ _ => exact absurd rfl hpassed
    | failed _ hmap => rw [hmap] at hgiven; cases hgiven
    | panicked _ hmap => rw [hmap] at hgiven; cases hgiven
    | null _ hmap _ => rw [hmap] at hgiven; exact absurd (Outcome.ok.inj hgiven).symm hhint
    | nullKept _ hmap _ => rw [hmap] at hgiven; exact absurd (Outcome.ok.inj hgiven).symm hhint
    | nullPanicked _ hmap _ => rw [hmap] at hgiven; exact absurd (Outcome.ok.inj hgiven).symm hhint
    | @mapped base w' _ _ hmap =>
      rw [hmap] at hgiven
      obtain rfl : base = q.hint := Outcome.ok.inj hgiven
      exact ⟨rfl, by simp, get?_entered_iff hlive hfixed q.range⟩

theorem dropsNothing_of_mapEnd (hend : MapEnd g q live w p) (hfixed : q.isFixed = false) :
    DropsNothing q live p := by
  constructor
  · cases hend with
    | split _ h _ => rw [hfixed] at h; cases h
    | _ => rintro ⟨⟩
  · intro s known hget
    cases hend with
    | @mapped base w' _ _ _ =>
      have hentered : (q.entered live ⟨base, q.len⟩).get? s =
          if s = ⟨base, q.len⟩ then some (q.register ⟨base, q.len⟩) else live.get? s := by
        rw [MapRequest.entered, Table.get?_insert, MapRequest.kept, hfixed]
        rfl
      by_cases hs : s = ⟨base, q.len⟩
      · exact Or.inr ⟨congrArg _ hs.symm, by rw [hentered, if_pos hs, hs]⟩
      · exact Or.inl (by rw [hentered, if_neg hs, hget])
    | _ => exact Or.inl hget

end Requests

/-- **Fixed mappings** replace registrations as a whole, or are not made; other mappings drop
nothing. The range asked for may even run over the top of the address space. -/
theorem replaced_whole (g : Gateway ω) (q : MapRequest) (live : LiveSet) (w : ω) :
    (q.isFixed = true → q.len ≠ 0 → Solid live →
      Replaces g q live w ((map q live).run g.host w)) ∧
    (q.isFixed = false → DropsNothing q live ((map q live).run g.host w)) := by
  have hend := map_ends g q live w
  exact ⟨replaces_of_mapEnd hend, dropsNothing_of_mapEnd hend⟩

/-- Two neighbouring pages are mapped. A fixed mapping over the second one, and as much behind it,
leaves the first; one that begins in the middle of the first is turned down; the same mapping, not
fixed, leaves both. -/
theorem replaced_neighbour :
    let plain := Scripted.start [] 0 []
    let middle := fixedAt 0x10800 0x1000
    let free := { middle with flags := MapFlag.privateCopy ||| MapFlag.anonymous }
    let behind := (map (fixedAt 0x11000 0x2000) neighbours).run Scripted.perform.host plain
    let across := (map middle neighbours).run Scripted.perform.host plain
    let beside := (map free neighbours).run Scripted.perform.host plain
    (∀ s known, behind.value.2.get? s = some known ↔
      s = ⟨0x11000, 0x2000⟩ ∧ known = (fixedAt 0x11000 0x2000).register ⟨0x11000, 0x2000⟩ ∨
        s ≠ ⟨0x11000, 0x2000⟩ ∧ neighbours.get? s = some known ∧
          ∃ x, known.range.Holds x ∧ ¬ Range.Holds ⟨0x11000, 0x2000⟩ x) ∧
    behind.value.2.active.map (·.range) = [⟨0x10000, 0x1000⟩, ⟨0x11000, 0x2000⟩] ∧
    across.value.1 = .fail .partialOverlap ∧ calls across.events = [] ∧
    DropsNothing free neighbours beside ∧ beside.value.2.size = 3 := by
  intro plain middle free behind across beside
  have hbehind := (replaced_whole Scripted.perform (fixedAt 0x11000 0x2000) neighbours plain).1
    (by decide) (by decide) (by decide +kernel)
  have hacross := (replaced_whole Scripted.perform middle neighbours plain).1
    (by decide) (by decide) (by decide +kernel)
  have hrefused : across.value.1 = .fail .partialOverlap := by decide +kernel
  exact ⟨(hbehind.given (by decide +kernel) (by decide +kernel) (by decide)).2.2, by decide +kernel,
    hrefused, (hacross.refused hrefused).2.1,
    (replaced_whole Scripted.perform free neighbours plain).2 (by decide), by decide +kernel⟩

end SharedPages.Mapping
