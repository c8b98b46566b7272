import SharedPages.Mapping.Registry
import SharedPages.Proofs.Play

/-!
# Runs of the registry

Every way in which an operation of the registry can end against a gateway, and runs
of any number of operations. Proved here:

* `map_ends`, `unmap_ends`, `pass_ends`: `MapEnd`, `UnmapEnd` and `PassEnd` list all
  ends of a request for a mapping, of an unmapping, and of the five requests that are
  passed on about a live range;
* `step_change`: what one step of a run makes of the live set;
* `history_induction`: what holds at the start and is kept by every step of a run
  holds at its end.
-/

namespace SharedPages.Mapping

open Operation

variable {ω α : Type}

/-! ## A request for a mapping -/

/-- The request reaches the gateway: it has a length, and splits no registration. -/
def MapRequest.Accepted (q : MapRequest) (live : LiveSet) : Prop :=
  q.len ≠ 0 ∧ (q.isFixed = true → live.wouldSplit q.range = false)

/-- The live registrations that a request replaces when it is given the range. -/
def MapRequest.replaced (q : MapRequest) (live : LiveSet) (r : Range) : List Registration :=
  if q.isFixed then live.covered r else []

/-- The live set without what the request replaces. -/
def MapRequest.kept (q : MapRequest) (live : LiveSet) (r : Range) : LiveSet :=
  if q.isFixed then live.uncovered r else live

/-- The live set after the request was given the range. -/
def MapRequest.entered (q : MapRequest) (live : LiveSet) (r : Range) : LiveSet :=
  Table.insert (q.kept live r) r (q.register r)

/-- What is remarked about it. -/
def MapRequest.remarks (q : MapRequest) (live : LiveSet) (r : Range) : List Journal.Entry :=
  ((q.replaced live r).map fun g => .replaced g.range) ++ [.registered r]

theorem get?_kept_iff (q : MapRequest) (live : LiveSet) (r s : Range) (known : Registration) :
    (q.kept live r).get? s = some known ↔
      live.get? s = some known ∧ (q.isFixed = true → r.covers known.range = false) := by
  unfold MapRequest.kept
  split
  · next hf => simp [LiveSet.uncovered, Option.filter_eq_some_iff, hf]
  · next hf => simp [hf]

theorem mem_active_of_get? {live : LiveSet} {r : Range} {known : Registration}
    (hr : live.get? r = some known) : known ∈ live.active :=
  List.mem_map.mpr ⟨(r, known), (Table.mem_toList_iff live r known).mpr hr, rfl⟩

/-- How a request for a mapping ends. -/
inductive MapEnd (g : Gateway ω) (q : MapRequest) (live : LiveSet) (w : ω) :
    Played ω (Outcome Error Range × LiveSet) → Prop
  | empty (hlen : q.len = 0) : MapEnd g q live w ⟨(.fail .zeroLength, live), [], w⟩
  | split (hlen : q.len ≠ 0) (hfixed : q.isFixed = true)
      (hsplit : live.wouldSplit q.range = true) :
      MapEnd g q live w
        ⟨(.fail .partialOverlap, live), [Journal.Entry.event (.splitRefused q.range)], w⟩
  | failed {e w'} (hq : q.Accepted live) (hmap : g q.toCall w = (.fail e, w')) :
      MapEnd g q live w ⟨(.fail (.map e), live), [q.toCall.event (.fail e)], w'⟩
  | panicked {text w'} (hq : q.Accepted live) (hmap : g q.toCall w = (.panic text, w')) :
      MapEnd g q live w ⟨(.panic text, live), [q.toCall.event (.panic text)], w'⟩
  /-- The null address: what was mapped is unmapped again. -/
  | null {w₁ w'} (hq : q.Accepted live) (hmap : g q.toCall w = (.ok (0 : Address), w₁))
      (hunmap : g (.munmap ⟨0, q.len⟩) w₁ = (.ok (), w')) :
      MapEnd g q live w
        ⟨(.fail (.map .einval), live),
         [q.toCall.event (.ok (0 : Address)), Call.event (.munmap ⟨0, q.len⟩) (.ok ())], w'⟩
  | nullKept {w₁ e w'} (hq : q.Accepted live) (hmap : g q.toCall w = (.ok (0 : Address), w₁))
      (hunmap : g (.munmap ⟨0, q.len⟩) w₁ = (.fail e, w')) :
      MapEnd g q live w
        ⟨(.fail (.map .einval), live),
         [q.toCall.event (.ok (0 : Address)), Call.event (.munmap ⟨0, q.len⟩) (.fail e)], w'⟩
  | nullPanicked {w₁ text w'} (hq : q.Accepted live)
      (hmap : g q.toCall w = (.ok (0 : Address), w₁))
      (hunmap : g (.munmap ⟨0, q.len⟩) w₁ = (.panic text, w')) :
      MapEnd g q live w
        ⟨(.panic text, live),
         [q.toCall.event (.ok (0 : Address)), Call.event (.munmap ⟨0, q.len⟩) (.panic text)], w'⟩
  | mapped {base : Address} {w'} (hq : q.Accepted live) (hbase : base ≠ 0)
      (hmap : g q.toCall w = (.ok base, w')) :
      MapEnd g q live w
        ⟨(.ok ⟨base, q.len⟩, q.entered live ⟨base, q.len⟩),
         q.toCall.event (.ok base) :: (q.remarks live ⟨base, q.len⟩).map Journal.Entry.event, w'⟩

/-- A request that fails registers nothing, and drops nothing. -/
theorem MapEnd.live_of_failed {g : Gateway ω} {q : MapRequest} {live : LiveSet} {w : ω}
    {p : Played ω (Outcome Error Range × LiveSet)} (hend : MapEnd g q live w p)
    (hfail : p.value.1.isOk = false) : p.value.2 = live := by
  cases hend with
  | mapped => cases hfail
  | _ => rfl

/-- A request that succeeds is entered under the range that it was given. -/
theorem MapEnd.live_of_ok {g : Gateway ω} {q : MapRequest} {live : LiveSet} {w : ω}
    {p : Played ω (Outcome Error Range × LiveSet)} {r : Range} (hend : MapEnd g q live w p)
    (hr : p.value.1 = .ok r) : p.value.2 = q.entered live r := by
  cases hend with
  | mapped => cases hr; rfl
  | _ => cases hr

theorem MapEnd.len_of_ok {g : Gateway ω} {q : MapRequest} {live : LiveSet} {w : ω}
    {p : Played ω (Outcome Error Range × LiveSet)} {r : Range} (hend : MapEnd g q live w p)
    (hr : p.value.1 = .ok r) : r.len = q.len := by
  cases hend with
  | mapped => cases hr; rfl
  | _ => cases hr

theorem run_refuseSplit (g : Gateway ω) (q : MapRequest) (live : LiveSet) (w : ω) :
    (refuseSplit q live).run g.host w =
      if q.isFixed && live.wouldSplit q.range then
        ⟨(.fail .partialOverlap, live), [Journal.Entry.event (.splitRefused q.range)], w⟩
      else ⟨(.ok (), live), [], w⟩ := by
  rw [refuseSplit, run_bind, run_get, Played.andThen_ok]
  split
  · simp [run_bind, run_note, run_fail]
  · simp [run_pure]

theorem run_enter (g : Gateway ω) (q : MapRequest) (r : Range) (live : LiveSet) (w : ω) :
    (enter q r live).run g.host w =
      ⟨(.ok (), q.entered live r), (q.remarks live r).map Journal.Entry.event, w⟩ := by
  cases hf : q.isFixed with
  | true =>
    simp [enter, dropCovered, run_bind, run_get, run_noteAll, run_modify, run_note,
      MapRequest.entered, MapRequest.kept, MapRequest.remarks, MapRequest.replaced, hf]
  | false =>
    simp [enter, run_bind, run_modify, run_note, MapRequest.entered, MapRequest.kept,
      MapRequest.remarks, MapRequest.replaced, hf]

/-- **Requests for mappings.** There is no other end than those of `MapEnd`. -/
theorem map_ends (g : Gateway ω) (q : MapRequest) (live : LiveSet) (w : ω) :
    MapEnd g q live w ((map q live).run g.host w) := by
  rw [map, run_bind, run_require]
  by_cases hlen : q.len = 0
  · simpa [hlen] using MapEnd.empty hlen
  simp only [ne_eq, hlen, not_false_eq_true, decide_true, ↓reduceIte, Played.andThen_ok_nil]
  rw [run_bind, run_refuseSplit]
  by_cases hsplit : (q.isFixed && live.wouldSplit q.range) = true
  · obtain ⟨hf, hs⟩ := Bool.and_eq_true_iff.mp hsplit
    simpa [hsplit] using MapEnd.split hlen hf hs
  have hq : q.Accepted live := ⟨hlen, fun hf => by simpa [hf] using hsplit⟩
  simp only [hsplit, Bool.false_eq_true, ↓reduceIte, Played.andThen_ok_nil]
  rw [run_bind, run_call]
  rcases hmap : g q.toCall w with ⟨answer, w₁⟩
  cases answer with
  | fail e => exact .failed hq hmap
  | panic text => exact .panicked hq hmap
  | ok base =>
    by_cases hbase : base = (0 : Address)
    · subst hbase
      simp only [Outcome.mapError, Played.andThen_ok, ↓reduceIte]
      rw [run_bind, run_perform]
      rcases hunmap : g (.munmap ⟨0, q.len⟩) w₁ with ⟨answer, w₂⟩
      cases answer with
      | ok v => exact .null hq hmap hunmap
      | fail e => exact .nullKept hq hmap hunmap
      | panic text => exact .nullPanicked hq hmap hunmap
    · simpa [run_bind, run_enter, run_pure, hbase] using MapEnd.mapped hq hbase hmap

/-! ## Requests about a live range -/

/-- Why a range that is not registered is turned down. -/
def refusal (r : Range) : Error := if r.isEmpty then .zeroLength else .unknownRange

theorem run_find (h : Host ω) (r : Range) (live : LiveSet) (w : ω) :
    (find r live).run h w =
      ⟨(match live.info r with
        | some known => .ok known
        | none => .fail (refusal r), live), [], w⟩ := by
  unfold find refusal LiveSet.info
  by_cases hr : r.isEmpty = true
  · simp [hr, Program.run]
  · cases hg : live.get? r <;> simp [hr, Program.run]

/-- How an unmapping ends. -/
inductive UnmapEnd (g : Gateway ω) (r : Range) (live : LiveSet) (w : ω) :
    Played ω (Outcome Error Unit × LiveSet) → Prop
  | refused (hr : live.info r = none) : UnmapEnd g r live w ⟨(.fail (refusal r), live), [], w⟩
  | unmapped {known w'} (hr : live.info r = some known)
      (hunmap : g (.munmap r) w = (.ok (), w')) :
      UnmapEnd g r live w
        ⟨(.ok (), live.erase r),
         [Call.event (.munmap r) (.ok ()), Journal.Entry.event (.unregistered known.range)], w'⟩
  | failed {known e w'} (hr : live.info r = some known)
      (hunmap : g (.munmap r) w = (.fail e, w')) :
      UnmapEnd g r live w
        ⟨(.fail (.unmap e), live),
         [Call.event (.munmap r) (.fail e), Journal.Entry.event (.unmapFailed known.range e)], w'⟩
  | panicked {known text w'} (hr : live.info r = some known)
      (hunmap : g (.munmap r) w = (.panic text, w')) :
      UnmapEnd g r live w
        ⟨(.panic text, live.erase r), [Call.event (.munmap r) (.panic text)], w'⟩

theorem get?_of_info {live : LiveSet} {r : Range} {known : Registration}
    (hr : live.info r = some known) : live.get? r = some known := by
  unfold LiveSet.info at hr
  split at hr
  · cases hr
  · exact hr

/-- An entry that is taken out and put back leaves the live set as it was. -/
theorem insert_erase {live : LiveSet} {r : Range} {known : Registration}
    (hr : live.info r = some known) : (live.erase r).insert r known = live := by
  apply Table.ext
  intro k
  by_cases hk : k = r
  · simp [hk, get?_of_info hr]
  · simp [hk]

/-- **Unmappings.** There is no other end than those of `UnmapEnd`. -/
theorem unmap_ends (g : Gateway ω) (r : Range) (live : LiveSet) (w : ω) :
    UnmapEnd g r live w ((unmap r live).run g.host w) := by
  rw [unmap, run_bind, run_find]
  cases hr : live.info r with
  | none => exact .refused hr
  | some known =>
    simp only [Played.andThen_ok_nil]
    rw [run_bind, run_modify, Played.andThen_ok_nil, run_bind, run_perform]
    rcases hunmap : g (.munmap r) w with ⟨answer, w'⟩
    cases answer with
    | ok v => exact .unmapped hr hunmap
    | panic text => exact .panicked hr hunmap
    | fail e =>
      simpa [run_bind, run_note, run_modify, run_fail, insert_erase hr] using
        UnmapEnd.failed hr hunmap

/-- Pass a call on, if it is about a live range. -/
def pass (r : Range) (c : Call) (toError : Errno → Error) : Operation LiveSet Error c.Value := do
  let _ ← find r
  call c toError

/-- How a request that is passed on ends. -/
inductive PassEnd (g : Gateway ω) (r : Range) (c : Call) (toError : Errno → Error)
    (live : LiveSet) (w : ω) : Played ω (Outcome Error c.Value × LiveSet) → Prop
  | refused (hr : live.info r = none) :
      PassEnd g r c toError live w ⟨(.fail (refusal r), live), [], w⟩
  | answered {known answer w'} (hr : live.info r = some known) (hcall : g c w = (answer, w')) :
      PassEnd g r c toError live w ⟨(answer.mapError toError, live), [c.event answer], w'⟩

/-- **Requests that are passed on.** There is no other end than those of `PassEnd`. -/
theorem pass_ends (g : Gateway ω) (r : Range) (c : Call) (toError : Errno → Error)
    (live : LiveSet) (w : ω) :
    PassEnd g r c toError live w ((pass r c toError live).run g.host w) := by
  rw [pass, run_bind, run_find]
  cases hr : live.info r with
  | none => exact .refused hr
  | some known =>
    simp only [Played.andThen_ok_nil]
    rw [run_call]
    exact .answered hr rfl

/-! ## Actions -/

/-- What may be done with a registry. -/
inductive Action
  | map (q : MapRequest)
  | unmap (r : Range)
  | protect (r : Range) (prot : Int32)
  | lock (r : Range)
  | unlock (r : Range)
  | advise (r : Range) (advice : Int32)
  | sync (r : Range) (flags : Int32)
  | contains (r : Range)
  | info (r : Range)
  deriving DecidableEq, Repr

/-- What an action returns. -/
inductive Reply
  | nothing
  | mapped (r : Range)
  | flag (b : Bool)
  | found (known : Option Registration)
  deriving DecidableEq, Repr

/-- Reply with a function of what an operation returns. -/
def replying (f : α → Reply) (x : Operation LiveSet Error α) : Operation LiveSet Error Reply := do
  return f (← x)

/-- The operation that an action stands for. -/
def Action.operation : Action → Operation LiveSet Error Reply
  | .map q => replying .mapped (Mapping.map q)
  | .unmap r => replying (fun _ => .nothing) (Mapping.unmap r)
  | .protect r prot => replying (fun _ => .nothing) (Mapping.protect r prot)
  | .lock r => replying (fun _ => .nothing) (Mapping.lock r)
  | .unlock r => replying (fun _ => .nothing) (Mapping.unlock r)
  | .advise r advice => replying (fun _ => .nothing) (Mapping.advise r advice)
  | .sync r flags => replying (fun _ => .nothing) (Mapping.sync r flags)
  | .contains r => replying (fun live => .flag (live.contains r)) get
  | .info r => replying (fun live => .found (live.info r)) get

/-- The range and the call of an action that is passed on, and the error when the call fails. -/
inductive Action.Passes : Action → Range → Call → (Errno → Error) → Prop
  | protect (r prot) : Passes (.protect r prot) r (.mprotect r prot) .protect
  | lock (r) : Passes (.lock r) r (.mlock r) .lock
  | unlock (r) : Passes (.unlock r) r (.munlock r) .unlock
  | advise (r advice) : Passes (.advise r advice) r (.madvise r advice) .advise
  | sync (r flags) : Passes (.sync r flags) r (.msync r flags) .sync

/-- The reply of an action that only looks. -/
inductive Action.Looks (live : LiveSet) : Action → Reply → Prop
  | contains (r) : Looks live (.contains r) (.flag (live.contains r))
  | info (r) : Looks live (.info r) (.found (live.info r))

/-- How an action ends. -/
inductive ActionEnd (g : Gateway ω) (live : LiveSet) (w : ω) :
    Action → Played ω (Outcome Error Reply × LiveSet) → Prop
  | map {q p} (h : MapEnd g q live w p) :
      ActionEnd g live w (.map q) ⟨(p.value.1.map .mapped, p.value.2), p.events, p.host⟩
  | unmap {r p} (h : UnmapEnd g r live w p) :
      ActionEnd g live w (.unmap r)
        ⟨(p.value.1.map fun _ => .nothing, p.value.2), p.events, p.host⟩
  | pass {a r c toError p} (ha : Action.Passes a r c toError)
      (h : PassEnd g r c toError live w p) :
      ActionEnd g live w a ⟨(p.value.1.map fun _ => .nothing, p.value.2), p.events, p.host⟩
  | look {a reply} (ha : Action.Looks live a reply) :
      ActionEnd g live w a ⟨(.ok reply, live), [], w⟩

theorem run_replying (h : Host ω) (f : α → Reply) (x : Operation LiveSet Error α)
    (live : LiveSet) (w : ω) :
    (replying f x live).run h w =
      let p := (x live).run h w
      ⟨(p.value.1.map f, p.value.2), p.events, p.host⟩ := by
  rw [replying, run_bind]
  rcases (x live).run h w with ⟨⟨o, live'⟩, es, w'⟩
  cases o <;> simp [run_pure, Outcome.map]

/-- **Actions.** There is no other end than those of `ActionEnd`. -/
theorem action_ends (g : Gateway ω) (a : Action) (live : LiveSet) (w : ω) :
    ActionEnd g live w a ((a.operation live).run g.host w) := by
  have passed {r : Range} {c : Call} {toError : Errno → Error} (ha : a.Passes r c toError) :
      ActionEnd g live w a
        ((replying (fun _ => .nothing) (pass r c toError) live).run g.host w) := by
    rw [run_replying]
    exact .pass ha (pass_ends g r c toError live w)
  cases a with
  | map q => rw [Action.operation, run_replying]; exact .map (map_ends g q live w)
  | unmap r => rw [Action.operation, run_replying]; exact .unmap (unmap_ends g r live w)
  | protect r prot => exact passed (.protect r prot)
  | lock r => exact passed (.lock r)
  | unlock r => exact passed (.unlock r)
  | advise r advice => exact passed (.advise r advice)
  | sync r flags => exact passed (.sync r flags)
  | contains r => exact .look (.contains r)
  | info r => exact .look (.info r)

/-- **Panics.** An action panics only with a call that was answered by a panic. -/
theorem isPanic_of_panic {g : Gateway ω} {live : LiveSet} {w : ω} {a : Action}
    {p : Played ω (Outcome Error Reply × LiveSet)} {text : String} (h : ActionEnd g live w a p)
    (hp : p.value.1 = .panic text) : ∃ e ∈ p.events, e.isPanic = true := by
  cases h with
  | map h =>
    cases h with
    | panicked hq hmap => exact ⟨_, List.mem_cons_self, rfl⟩
    | nullPanicked hq hmap hunmap =>
      exact ⟨_, List.mem_cons_of_mem _ List.mem_cons_self, rfl⟩
    | _ => cases hp
  | unmap h =>
    cases h with
    | panicked hr hunmap => exact ⟨_, List.mem_cons_self, rfl⟩
    | _ => cases hp
  | pass ha h =>
    cases h with
    | refused hr => cases hp
    | @answered known answer w' hr hcall =>
      cases answer with
      | panic text => exact ⟨_, List.mem_cons_self, rfl⟩
      | _ => cases hp
  | look ha => cases hp

/-! ## Changes of the live set -/

/-- What an action and its outcome tell of the live set after it. -/
inductive Change (live : LiveSet) : Action → Outcome Error Reply → LiveSet → Prop
  | mapped {q r} (hq : q.Accepted live) (hbase : r.base ≠ 0) (hlen : r.len = q.len) :
      Change live (.map q) (.ok (.mapped r)) (q.entered live r)
  | unmapped {r known} (hr : live.info r = some known) :
      Change live (.unmap r) (.ok .nothing) (live.erase r)
  /-- The entry had been taken out when the call panicked. -/
  | lost {r known text} (hr : live.info r = some known) :
      Change live (.unmap r) (.panic text) (live.erase r)
  | same {a o} (hmap : ∀ r, o ≠ .ok (.mapped r))
      (hunmap : ∀ r reply, a = .unmap r → o ≠ .ok reply) :
      Change live a o live

theorem change_of_end {g : Gateway ω} {live : LiveSet} {w : ω} {a : Action}
    {p : Played ω (Outcome Error Reply × LiveSet)} (h : ActionEnd g live w a p) :
    Change live a p.value.1 p.value.2 := by
  cases h with
  | map h =>
    cases h with
    | mapped hq hbase hmap => exact .mapped hq hbase rfl
    | _ => exact .same (fun _ => by rintro ⟨⟩) (fun _ _ => by rintro ⟨⟩)
  | unmap h =>
    cases h with
    | unmapped hr hunmap => exact .unmapped hr
    | panicked hr hunmap => exact .lost hr
    | _ => exact .same (fun _ => by rintro ⟨⟩) (fun _ _ _ => by rintro ⟨⟩)
  | @pass _ _ _ _ p ha h =>
    have hlive : p.value.2 = live := by cases h <;> rfl
    rw [hlive]
    refine .same (fun _ hm => ?_) (fun _ _ hu => ?_)
    · cases hv : p.value.1 <;> simp [hv, Outcome.map] at hm
    · cases ha <;> cases hu
  | look ha =>
    refine .same (fun _ hm => ?_) (fun _ _ hu => ?_)
    · cases ha <;> cases hm
    · cases ha <;> cases hu

theorem entered_of_change {live live' : LiveSet} {q : MapRequest} {r : Range}
    (h : Change live (.map q) (.ok (.mapped r)) live') :
    q.Accepted live ∧ r.base ≠ 0 ∧ r.len = q.len ∧ live' = q.entered live r := by
  cases h with
  | mapped hq hbase hlen => exact ⟨hq, hbase, hlen, rfl⟩
  | same hmap hunmap => exact absurd rfl (hmap r)

/-! ## Runs -/

/-- One action of a run: how it ended, the events on the way, and the live sets around it. -/
structure Step where
  action : Action
  before : LiveSet
  outcome : Outcome Error Reply
  events : List Event
  after : LiveSet

namespace Step

/-- The request was given the range. -/
def Maps (s : Step) (q : MapRequest) (r : Range) : Prop :=
  s.action = .map q ∧ s.outcome = .ok (.mapped r)

/-- The request that was given a range, if the step is one, and the range. -/
def given? (s : Step) : Option (MapRequest × Range) :=
  match s.action, s.outcome with
  | .map q, .ok (.mapped r) => some (q, r)
  | _, _ => none

theorem maps_iff (s : Step) {q : MapRequest} {r : Range} : s.Maps q r ↔ s.given? = some (q, r) := by
  unfold Maps given?
  constructor
  · rintro ⟨ha, ho⟩
    rw [ha, ho]
  · intro h
    split at h
    · next ha ho =>
      obtain ⟨rfl, rfl⟩ : _ = q ∧ _ = r := by simpa using h
      exact ⟨ha, ho⟩
    · cases h

theorem Maps.unique {s : Step} {q q' : MapRequest} {r r' : Range} (h : s.Maps q r)
    (h' : s.Maps q' r') : q = q' ∧ r = r' := by
  have heq := (s.maps_iff.mp h).symm.trans (s.maps_iff.mp h')
  exact Prod.mk.inj (Option.some.inj heq)

end Step

/-- What a run leaves: its steps in order, the live set and the state of the gateway. -/
structure History (ω : Type) where
  steps : List Step
  live : LiveSet
  host : ω

/-- No call was answered by a panic. -/
def History.Calm (past : History ω) : Prop := ∀ s ∈ past.steps, ∀ e ∈ s.events, e.isPanic = false

instance (past : History ω) : Decidable past.Calm :=
  inferInstanceAs (Decidable (∀ s ∈ past.steps, ∀ e ∈ s.events, e.isPanic = false))

/-- Carry out one action. -/
def step (g : Gateway ω) (a : Action) (live : LiveSet) (w : ω) : Step × ω :=
  let p := (a.operation live).run g.host w
  (⟨a, live, p.value.1, p.events, p.value.2⟩, p.host)

/-- Carry out actions one after the other. -/
def history (g : Gateway ω) : List Action → LiveSet → ω → History ω
  | [], live, w => ⟨[], live, w⟩
  | a :: as, live, w =>
    let first := step g a live w
    let rest := history g as first.1.after first.2
    { rest with steps := first.1 :: rest.steps }

/-- **One step.** -/
theorem step_change (g : Gateway ω) (a : Action) (live : LiveSet) (w : ω) :
    Change live (step g a live w).1.action (step g a live w).1.outcome (step g a live w).1.after :=
  change_of_end (action_ends g a live w)

theorem action_mem_of_mem_steps {g : Gateway ω} {as : List Action} {live : LiveSet} {w : ω}
    {s : Step} (hs : s ∈ (history g as live w).steps) : s.action ∈ as := by
  induction as generalizing live w with
  | nil => simp [history] at hs
  | cons a as ih =>
    rcases List.mem_cons.mp hs with rfl | hs
    · exact List.mem_cons_self
    · exact List.mem_cons_of_mem _ (ih hs)

/-- **Induction over a run.** `I` speaks of the steps so far, the live set and the gateway, and
`P` is what the steps of the run are known to satisfy. -/
theorem history_induction (g : Gateway ω) {I : List Step → LiveSet → ω → Prop} {P : Step → Prop}
    (hstep : ∀ earlier live w a, I earlier live w → P (step g a live w).1 →
      I (earlier ++ [(step g a live w).1]) (step g a live w).1.after (step g a live w).2)
    (as : List Action) (live : LiveSet) (w : ω) (earlier : List Step) (h : I earlier live w)
    (hP : ∀ s ∈ (history g as live w).steps, P s) :
    I (earlier ++ (history g as live w).steps) (history g as live w).live
      (history g as live w).host := by
  induction as generalizing live w earlier with
  | nil => simpa [history] using h
  | cons a as ih =>
    have hfirst := hstep earlier live w a h (hP _ List.mem_cons_self)
    have hrest := ih _ _ _ hfirst fun s hs => hP s (List.mem_cons_of_mem _ hs)
    rwa [List.append_assoc] at hrest

end SharedPages.Mapping
