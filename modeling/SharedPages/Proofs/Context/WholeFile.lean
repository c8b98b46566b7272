import SharedPages.Proofs.Context.Extent

/-!
# Mapping whole files

A file is sized and then mapped, by two calls and no more. Proved here, for every context and every
gateway that gives no null address:

* `MapEnd.free`: what comes of a mapping that is not fixed is what the system answers;
* `sized_of_end`: a length that is a file size is asked for as it is, and each of the two calls
  gives its own error; a file that is mapped is registered beside everything else;
* `sized_then_mapped`: so it is for every length, and one that is no file size is never asked for.
-/

namespace SharedPages

variable {ω : Type}

/-! ## Mappings that are not fixed -/

namespace Mapping

/-- The gateway never gives the request the null address. -/
def NoNull (g : Gateway ω) (q : MapRequest) : Prop :=
  ∀ w base w', g q.toCall w = (.ok base, w') → base ≠ 0

/-- **One call.** A mapping that is not fixed asks the system once, and ends with its answer. -/
theorem MapEnd.free {g : Gateway ω} {q : MapRequest} {live : LiveSet} {w : ω}
    {p : Played ω (Outcome Error Range × LiveSet)} (hend : MapEnd g q live w p)
    (hlen : q.len ≠ 0) (hfree : q.isFixed = false) (hnull : NoNull g q) :
    calls p.events = [q.toCall] ∧
      p.value.1 = ((g q.toCall w).1.mapError .map).map fun base => ⟨base, q.len⟩ := by
  cases hend with
  | empty h => exact absurd h hlen
  | split _ h _ => rw [hfree] at h; cases h
  | failed _ hmap => rw [hmap]; exact ⟨rfl, rfl⟩
  | panicked _ hmap => rw [hmap]; exact ⟨rfl, rfl⟩
  | null _ hmap _ => exact absurd rfl (hnull _ _ _ hmap)
  | nullKept _ hmap _ => exact absurd rfl (hnull _ _ _ hmap)
  | nullPanicked _ hmap _ => exact absurd rfl (hnull _ _ _ hmap)
  | mapped _ _ hmap => rw [hmap]; exact ⟨by simp, rfl⟩

end Mapping

namespace Context

open Mapping (MapEnd LiveSet NoNull)

/-! ## Lengths that are file sizes -/

/-- The call that maps a whole file. -/
abbrev mapCall (fd : Fd) (len : UInt64) (prot : Int32) : Call :=
  .mmap 0 len prot MapFlag.shared fd 0

/-- What the answers of the system make of a file that is sized and then mapped: the error of the
call that failed, or the range. -/
def answered (g : Gateway ω) (fd : Fd) (len : UInt64) (size : Int64) (prot : Int32) (w : ω) :
    Outcome ContextError Range :=
  match g (.ftruncate fd size) w with
  | (.fail e, _) => .fail (.resize e)
  | (.panic text, _) => .panic text
  | (.ok _, w₁) =>
    match (g (mapCall fd len prot) w₁).1 with
    | .fail e => .fail (.mapping (.map e))
    | .panic text => .panic text
    | .ok base => .ok ⟨base, len⟩

/-- What comes of mapping a whole file of the given size. The file is sized; if that succeeds, it
is mapped, and nothing else is asked of the system. If either call fails, nothing has changed. A
file that is mapped is registered in its full length, and every other registration stays as it is,
whether the new range covers it or not. -/
structure SizedThenMapped (g : Gateway ω) (fd : Fd) (len : UInt64) (size : Int64) (prot : Int32)
    (c : Context) (w : ω) (p : Played ω (Outcome ContextError Range × Context)) : Prop where
  asked : calls p.events = .ftruncate fd size ::
    if (g (.ftruncate fd size) w).1.isOk then [mapCall fd len prot] else []
  outcome : p.value.1 = answered g fd len size prot w
  unchanged : p.value.1.isOk = false → p.value.2 = c
  registered : ∀ r, p.value.1 = .ok r → r.len = len ∧ p.value.2.live.contains r = true ∧
    p.value.2.live.info r = some ⟨r, prot, MapFlag.shared, some fd, 0⟩ ∧
    (∀ s ≠ r, p.value.2.live.get? s = c.live.get? s) ∧ p.value.2.provider = c.provider

section Ends

variable {g : Gateway ω} {fd : Fd} {len : UInt64} {size : Int64} {prot : Int32} {c : Context} {w : ω}

/-- A whole file that is mapped is registered beside everything else. -/
theorem registered_wholeFile {r : Range} (hr : r.isEmpty = false) (fd : Fd) (len : UInt64)
    (prot : Int32) (live : LiveSet) :
    let after := (wholeFile fd len prot).entered live r
    after.contains r = true ∧ after.info r = some ⟨r, prot, MapFlag.shared, some fd, 0⟩ ∧
      ∀ s ≠ r, after.get? s = live.get? s := by
  rw [entered_wholeFile]
  have hinfo : LiveSet.info (live.insert r ((wholeFile fd len prot).register r)) r =
      some ⟨r, prot, MapFlag.shared, some fd, 0⟩ := by
    rw [LiveSet.info_insert _ _ _ hr, if_pos rfl]
    rfl
  refine ⟨(LiveSet.contains_iff _ _).mpr ⟨_, hinfo⟩, hinfo, fun s hs => ?_⟩
  rw [Table.get?_insert, if_neg hs]

/-- Once the file is sized, mapping it ends as the registry ends with the answer. -/
theorem answered_of_sized {v : Unit} {w₁ : ω} (hresize : g (.ftruncate fd size) w = (.ok v, w₁))
    {o : Outcome Mapping.Error Range}
    (ho : o = ((g (mapCall fd len prot) w₁).1.mapError .map).map fun base => ⟨base, len⟩) :
    answered g fd len size prot w = o.mapError .mapping := by
  rw [answered, hresize, ho]
  dsimp only
  cases (g (mapCall fd len prot) w₁).1 <;> rfl

/-- **One file.** -/
theorem sized_of_end {p : Played ω (Outcome ContextError Range × Context)}
    (hend : MapFileEnd g fd len prot c w p) (hlen : len ≠ 0) (hsize : fileSize? len = some size)
    (hnull : NoNull g (wholeFile fd len prot)) : SizedThenMapped g fd len size prot c w p := by
  have hfree : (wholeFile fd len prot).isFixed = false := isFixed_wholeFile fd len prot
  cases hend with
  | empty h => exact absurd h hlen
  | oversized h => rw [hsize] at h; cases h
  | @unsized size' answer failure w' _ h hresize hfail =>
    obtain rfl : size' = size := Option.some.inj (h.symm.trans hsize)
    refine ⟨?_, ?_, fun _ => rfl, fun r hr => absurd hr (Outcome.ne_ok hfail.isOk)⟩
    · rw [hresize, if_neg (by simp [hfail.isOk_part])]
      rfl
    · rw [answered, hresize]
      cases hfail <;> rfl
  | @unmapped size' v w₁ p failure _ h hresize hmap hfail =>
    obtain rfl : size' = size := Option.some.inj (h.symm.trans hsize)
    obtain ⟨hcalls, hvalue⟩ := hmap.free hlen hfree hnull
    have hlive : p.value.2 = c.live := hmap.live_of_failed hfail.isOk_part
    refine ⟨?_, ?_, fun _ => by rw [hlive], fun r hr => absurd hr (Outcome.ne_ok hfail.isOk)⟩
    · rw [hresize, calls_event, hcalls]
      rfl
    · exact hfail.mapError_eq.symm.trans (answered_of_sized hresize hvalue).symm
  | @mapped size' v w₁ p r _ h hresize hmap hr =>
    obtain rfl : size' = size := Option.some.inj (h.symm.trans hsize)
    obtain ⟨hcalls, hvalue⟩ := hmap.free hlen hfree hnull
    have hlive : p.value.2 = (wholeFile fd len prot).entered c.live r := hmap.live_of_ok hr
    have hrlen : r.len = len := hmap.len_of_ok hr
    have hanswered : answered g fd len size' prot w = p.value.1.mapError .mapping :=
      answered_of_sized hresize hvalue
    refine ⟨?_, ?_, fun hfail => absurd hfail Bool.noConfusion, ?_⟩
    · rw [hresize, List.cons_append, calls_event, calls_append, hcalls]
      rfl
    · rw [hanswered, hr]
      rfl
    · intro r' hr'
      obtain rfl : r = r' := Outcome.ok.inj hr'
      obtain ⟨hcontains, hinfo, hothers⟩ :=
        registered_wholeFile (decide_eq_false (hrlen ▸ hlen)) fd len prot c.live
      exact ⟨hrlen, hlive ▸ hcontains, hlive ▸ hinfo, hlive ▸ hothers, rfl⟩

/-! ## All lengths -/

theorem fileSize?_eq_none_iff {len : UInt64} : fileSize? len = none ↔ 2 ^ 63 ≤ len.toNat := by
  unfold fileSize?
  split
  · next hfits => simpa using hfits
  · next hlarge => simpa using hlarge

/-- A length that is no file size is turned down, and nothing is asked of the system. -/
theorem eq_of_no_size {p : Played ω (Outcome ContextError Range × Context)}
    (hend : MapFileEnd g fd len prot c w p) :
    (len = 0 → p = ⟨(.fail (.mapping .zeroLength), c), [], w⟩) ∧
      (2 ^ 63 ≤ len.toNat → p = ⟨(.fail (.resize .einval), c), [], w⟩) := by
  rw [← fileSize?_eq_none_iff]
  cases hend with
  | empty h => exact ⟨fun _ => rfl, fun hnone => by simp [h, fileSize?] at hnone⟩
  | oversized h => exact ⟨fun hzero => by simp [hzero, fileSize?] at h, fun _ => rfl⟩
  | unsized hlen h _ _ => exact ⟨fun hzero => absurd hzero hlen, fun hnone => by simp [h] at hnone⟩
  | unmapped hlen h _ _ _ =>
    exact ⟨fun hzero => absurd hzero hlen, fun hnone => by simp [h] at hnone⟩
  | mapped hlen h _ _ _ =>
    exact ⟨fun hzero => absurd hzero hlen, fun hnone => by simp [h] at hnone⟩

end Ends

/-- **Whole files.** Over a gateway that gives no null address, a length that is a file size is
asked for as it is, and the file mapped if it could be sized; any other length is turned down
before anything is asked. So no other length is ever asked for than the one that was given. -/
theorem sized_then_mapped (g : Gateway ω) (fd : Fd) (len : UInt64) (prot : Int32) (c : Context)
    (w : ω) (hnull : NoNull g (wholeFile fd len prot)) :
    let p := (mapFile fd len prot c).run g.host w
    (len ≠ 0 → len.toNat < 2 ^ 63 →
      ∃ size : Int64, size.toInt = len.toNat ∧ SizedThenMapped g fd len size prot c w p) ∧
    (len = 0 → p = ⟨(.fail (.mapping .zeroLength), c), [], w⟩) ∧
    (2 ^ 63 ≤ len.toNat → p = ⟨(.fail (.resize .einval), c), [], w⟩) ∧
    ∀ fd' size, Call.ftruncate fd' size ∈ calls p.events → fd' = fd ∧ size.toInt = len.toNat := by
  intro p
  have hend : MapFileEnd g fd len prot c w p := mapFile_ends g fd len prot c w
  obtain ⟨hzero, hlarge⟩ := eq_of_no_size hend
  have hsized (hlen : len ≠ 0) (hfits : len.toNat < 2 ^ 63) :
      ∃ size : Int64, size.toInt = len.toNat ∧ SizedThenMapped g fd len size prot c w p := by
    have hsize : fileSize? len = some _ := fileSize?_eq_some_iff.mpr ⟨hfits, rfl⟩
    exact ⟨_, toInt_of_fileSize? hsize, sized_of_end hend hlen hsize hnull⟩
  refine ⟨hsized, hzero, hlarge, fun fd' size' hmem => ?_⟩
  by_cases hlen : len = 0
  · simp [hzero hlen] at hmem
  by_cases hfits : len.toNat < 2 ^ 63
  · obtain ⟨size, hsize, hfile⟩ := hsized hlen hfits
    rw [hfile.asked] at hmem
    rcases List.mem_cons.mp hmem with heq | hmap
    · cases heq
      exact ⟨rfl, hsize⟩
    · split at hmap
      · cases List.mem_singleton.mp hmap
      · cases hmap
  · simp [hlarge (Nat.le_of_not_lt hfits)] at hmem

/-- The paged system gives no null address unless it is asked for it. -/
theorem noNull_wholePages (fd : Fd) (len : UInt64) (prot : Int32) :
    NoNull Mapping.wholePages (wholeFile fd len prot) :=
  fun _ _ _ hmap => (Mapping.kernel_wholePages.free (isFixed_wholeFile fd len prot) hmap).1

/-- A file is mapped beside another one; a descriptor that is not open cannot be sized, and the
lowest length that is no file size is not asked for. -/
theorem sized_then_mapped_beside :
    let first := (mapFile 4 0x1000 Prot.read (.start .native)).run Mapping.wholePages.host twoFiles
    let mapped (fd : Fd) (len : UInt64) :=
      (mapFile fd len Prot.readWrite first.value.2).run Mapping.wholePages.host first.host
    (∃ size : Int64, size.toInt = 0x2000 ∧
      SizedThenMapped Mapping.wholePages 3 0x2000 size Prot.readWrite first.value.2 first.host
        (mapped 3 0x2000)) ∧
    (mapped 3 0x2000).value.2.live.active.map (·.range) =
      [⟨0x7ffeffffd000, 0x2000⟩, ⟨0x7ffefffff000, 0x1000⟩] ∧
    (mapped 9 0x2000).value.1 = .fail (.resize .ebadf) ∧
    calls (mapped 3 0x8000000000000000).events = [] := by
  intro first mapped
  have hfile := sized_then_mapped Mapping.wholePages 3 0x2000 Prot.readWrite first.value.2 first.host
    (noNull_wholePages 3 0x2000 Prot.readWrite)
  have hlarge := sized_then_mapped Mapping.wholePages 3 0x8000000000000000 Prot.readWrite
    first.value.2 first.host (noNull_wholePages 3 0x8000000000000000 Prot.readWrite)
  have hrefused : mapped 3 0x8000000000000000 =
      ⟨(.fail (.resize .einval), first.value.2), [], first.host⟩ := hlarge.2.2.1 (by decide)
  exact ⟨hfile.1 (by decide) (by decide), by decide +kernel, by decide +kernel, by rw [hrefused]; rfl⟩

end Context

end SharedPages
