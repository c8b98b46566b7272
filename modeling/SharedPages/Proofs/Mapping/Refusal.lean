import SharedPages.Proofs.Mapping.Kernel
import SharedPages.Proofs.Mapping.Run

/-!
# What a refused request costs

A request for a mapping that fails leaves the registry as it was, but not always the
system: memory at the null address is unmapped again, and what had lain there before is
lost. Proved here:

* `live_of_refused`: a refused request changes no registration;
* `backed_iff_of_refused`: if all live ranges were mapped before, they are mapped after it,
  unless it was given the null address, which was then unmapped over one of them;
* `wide_costs_page`: a fixed mapping at the null address over a live range does that.
-/

namespace SharedPages.Mapping

variable {ω : Type}

/-- A request that fails registers nothing, and drops nothing. -/
theorem live_of_refused (g : Gateway ω) (q : MapRequest) (live : LiveSet) (w : ω) (e : Error)
    (hrefused : ((map q live).run g.host w).value.1 = .fail e) :
    ((map q live).run g.host w).value.2 = live :=
  (map_ends g q live w).live_of_failed (by rw [hrefused]; rfl)

/-! ## What is mapped -/

/-- Every byte of every live range is mapped. -/
def Backed (live : LiveSet) (mapped : Nat → Prop) : Prop :=
  ∀ r, live.contains r = true → ∀ x, r.Holds x → mapped x

/-- The request was given the null address, which was unmapped again, and some live range begins
below the end of what was unmapped. -/
def Uncovers (q : MapRequest) (live : LiveSet) (events : List Event) : Prop :=
  events = [q.toCall.event (.ok (0 : Address)), Call.event (.munmap ⟨0, q.len⟩) (.ok ())] ∧
    ∃ r, live.contains r = true ∧ r.base.toNat < q.len.toNat

theorem Backed.mono {live : LiveSet} {mapped mapped' : Nat → Prop} (h : Backed live mapped)
    (hmapped : ∀ x, mapped x → mapped' x) : Backed live mapped' :=
  fun r hr x hx => hmapped x (h r hr x hx)

theorem isEmpty_of_contains {live : LiveSet} {r : Range} (hr : live.contains r = true) :
    r.isEmpty = false := by
  cases he : r.isEmpty with
  | false => rfl
  | true => simp [LiveSet.contains, LiveSet.info, he] at hr

/-- **The way back.** Unmapping what lies at the null address leaves live ranges mapped exactly
if none of them begins there. -/
theorem backed_iff_of_unmapped {live : LiveSet} {mapped mapped' : Nat → Prop} {len : UInt64}
    (h : Backed live mapped)
    (hunmapped : ∀ x, mapped' x ↔ mapped x ∧ ¬ Range.Holds ⟨0, len⟩ x) :
    Backed live mapped' ↔ ¬ ∃ r, live.contains r = true ∧ r.base.toNat < len.toNat := by
  have hzero (x : Nat) : Range.Holds ⟨0, len⟩ x ↔ x < len.toNat := by
    simp [Range.Holds]
  constructor
  · rintro hbacked ⟨r, hr, hlt⟩
    have hbase := hbacked r hr _ (Range.holds_base (isEmpty_of_contains hr))
    exact ((hunmapped _).mp hbase).2 ((hzero _).mpr hlt)
  · intro hnone r hr x hx
    refine (hunmapped x).mpr ⟨h r hr x hx, fun hlow => ?_⟩
    have hlt := (hzero x).mp hlow
    have hle := hx.1
    exact hnone ⟨r, hr, by omega⟩

/-- **Refusals.** Let all live ranges be mapped, and let a request be refused. Then they are all
mapped afterwards, exactly unless the request was given the null address and that was unmapped
again over one of them. -/
theorem backed_iff_of_refused {g : Gateway ω} {mapped : ω → Nat → Prop} (k : Replacing g mapped)
    (q : MapRequest) (live : LiveSet) (w : ω) (e : Error) (hbacked : Backed live (mapped w))
    (hrefused : ((map q live).run g.host w).value.1 = .fail e) :
    Backed ((map q live).run g.host w).value.2 (mapped ((map q live).run g.host w).host) ↔
      ¬ Uncovers q live ((map q live).run g.host w).events := by
  have hends := map_ends g q live w
  generalize (map q live).run g.host w = p at hends hrefused ⊢
  cases hends with
  | empty hlen => simpa [Uncovers] using hbacked
  | split hlen hfixed hsplit => simpa [Uncovers] using hbacked
  | failed hq hmap =>
    have hafter := hbacked.mono fun x => (k.failed hmap x).mpr
    simpa [Uncovers] using hafter
  | panicked hq hmap => cases hrefused
  | null hq hmap hunmap =>
    have hmapped := hbacked.mono fun x => k.mapped_of_mapped hmap
    have hafter := backed_iff_of_unmapped hmapped (k.unmapped hunmap)
    simpa [Uncovers] using hafter
  | nullKept hq hmap hunmap =>
    have hmapped := hbacked.mono fun x => k.mapped_of_mapped hmap
    have hafter := hmapped.mono fun x => (k.failed hunmap x).mpr
    simpa [Uncovers, Call.event] using hafter
  | nullPanicked hq hmap hunmap => cases hrefused
  | mapped hq hbase hmap => cases hrefused

/-! ## The null address -/

/-- A fixed mapping of private zeros. -/
def fixedAt (hint : Address) (len : UInt64) : MapRequest :=
  ⟨hint, len, Prot.readWrite, MapFlag.privateCopy ||| MapFlag.anonymous ||| MapFlag.fixed, none, 0⟩

theorem eq_of_contains_entered {q : MapRequest} {r : Range}
    (hr : (q.entered .empty q.range).contains r = true) : r = q.range := by
  obtain ⟨known, hinfo⟩ := (LiveSet.contains_iff _ r).mp hr
  have hget := get?_of_info hinfo
  rw [MapRequest.entered, Table.get?_insert] at hget
  split at hget
  · assumption
  · have hnone := ((get?_kept_iff ..).mp hget).1
    simp at hnone

/-- A fixed mapping that is registered alone is mapped. -/
theorem backed_entered {g : Gateway ω} {mapped : ω → Nat → Prop} (k : Replacing g mapped)
    (q : MapRequest) (w : ω) (base : Address) (hf : q.isFixed = true)
    (hmap : (g q.toCall w).1 = .ok base) :
    Backed (q.entered .empty q.range) (mapped (g q.toCall w).2) := by
  intro r hr x hx
  rw [eq_of_contains_entered hr] at hx
  have hafter := (k.fixed hf (Prod.ext hmap rfl)).2 x
  exact hafter.mpr (Or.inr hx)

/-- A page is mapped and registered; then a fixed mapping at the null address is asked for. -/
def wideOver (base : Address) : Played Paged (Outcome Error Range × LiveSet) :=
  let page := fixedAt base 0x1000
  (map (fixedAt 0 0x3000) (page.entered .empty page.range)).run wholePages.host
    (wholePages page.toCall Paged.start).2

/-- The page stays mapped if it lies above what is unmapped again. -/
theorem backed_above : Backed (wideOver 0x10000).value.2 (wideOver 0x10000).host.Maps := by
  have hbacked := backed_entered replacing_wholePages (fixedAt 0x10000 0x1000) Paged.start 0x10000
    (by decide) (by decide +kernel)
  refine (backed_iff_of_refused replacing_wholePages (fixedAt 0 0x3000) _ _ (.map .einval) hbacked
    (by decide +kernel)).mpr ?_
  rintro ⟨-, r, hr, hlt⟩
  rw [eq_of_contains_entered hr] at hlt
  exact absurd hlt (by decide)

/-- **A refused request takes pages away.** A page is mapped and registered; a fixed mapping at the
null address over it is refused; the page is registered as before, and no longer mapped. -/
theorem wide_costs_page :
    ¬ ∀ (g : Gateway Paged) (mapped : Paged → Nat → Prop), Replacing g mapped →
      ∀ (q : MapRequest) (live : LiveSet) (w : Paged) (e : Error), Backed live (mapped w) →
        ((map q live).run g.host w).value.1 = .fail e →
          Backed ((map q live).run g.host w).value.2 (mapped ((map q live).run g.host w).host) := by
  intro h
  have hbacked := backed_entered replacing_wholePages (fixedAt 0x1000 0x1000) Paged.start 0x1000
    (by decide) (by decide +kernel)
  have hafter := h wholePages Paged.Maps replacing_wholePages (fixedAt 0 0x3000) _ _ (.map .einval)
    hbacked (by decide +kernel)
  have hlost : ¬ (wideOver 0x1000).host.Maps 0x1000 := by decide +kernel
  exact hlost (hafter ⟨0x1000, 0x1000⟩ (by decide +kernel) 0x1000 (by decide))

end SharedPages.Mapping
