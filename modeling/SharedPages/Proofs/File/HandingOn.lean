import SharedPages.Proofs.File.Orderly

/-!
# Handing a descriptor on

A descriptor that is to outlive the program loses its close-on-exec flag, or it is closed: through
the gateway if a flag call failed, by its owner if one panicked, and never by both. Proved here,
against any host:

* `FlagStep.unique`: at most one flag call does not succeed, and none comes after it;
* `run_of_clears`, `clears_of_ok`: a descriptor is handed on exactly if both flag calls succeed;
* `discarded_of_failed`, `released_of_panicked`: what becomes of it otherwise;
* `not_isOpen_of_not_ok`: it does not stay open then;
* `clears_again`: where flags are kept, a second time writes back what it reads;
* `cleared_or_closed`: all of it for one run;
* `not_always_returned`: a panic of the close hides the error of the flag call.
-/

namespace SharedPages.File

variable {ω σ : Type} {h : Host ω} {fd : Fd} {s : σ} {w : ω}

/-! ## The flag calls -/

/-- Both flag calls succeed: `flags` are read, and written back with close-on-exec cleared and
nothing else. -/
inductive Clears (h : Host ω) (fd : Fd) (w : ω) (flags : Int32) (w' : ω) : Prop
  | intro {w₁ v} (hread : h.answer (.call (.getFdFlags fd)) w = (.ok flags, w₁))
      (hwrite : h.answer (.call (.setFdFlags fd (flags &&& ~~~FdFlag.closeOnExec))) w₁ = (.ok v, w'))

/-- The events of flag calls that both succeed. -/
def rewriting (fd : Fd) (read written : Int32) : List Event :=
  [Call.event (.getFdFlags fd) (.ok read), Call.event (.setFdFlags fd written) (.ok ())]

section Steps

variable {enabled : Bool} {passed passed' : List Event} {c c' : Call} {answer : c.Answer}
  {answer' : c'.Answer} {w₁ w₂ : ω}

theorem FlagStep.not_clears (hstep : FlagStep h fd false w passed c answer w₁)
    (hanswer : answer.isOk = false) {flags : Int32} : ¬ Clears h fd w flags w₂ := by
  rintro ⟨hread, hwrite⟩
  cases hstep with
  | read hread' =>
    cases hread'.symm.trans hread
    cases hanswer
  | write hread' hwrite' =>
    cases hread'.symm.trans hread
    cases hwrite'.symm.trans hwrite
    cases hanswer

/-- **One step.** A flag call that does not succeed is the last one. -/
theorem FlagStep.unique (hstep : FlagStep h fd enabled w passed c answer w₁)
    (hanswer : answer.isOk = false) (hstep' : FlagStep h fd enabled w passed' c' answer' w₂)
    (hanswer' : answer'.isOk = false) :
    passed = passed' ∧ c.event answer = c'.event answer' ∧ w₁ = w₂ := by
  cases hstep with
  | read hread =>
    cases hstep' with
    | read hread' =>
      cases hread.symm.trans hread'
      exact ⟨rfl, rfl, rfl⟩
    | write hread' hwrite' =>
      cases hread.symm.trans hread'
      cases hanswer
  | write hread hwrite =>
    cases hstep' with
    | read hread' =>
      cases hread.symm.trans hread'
      cases hanswer'
    | write hread' hwrite' =>
      cases hread.symm.trans hread'
      cases hwrite.symm.trans hwrite'
      exact ⟨rfl, rfl, rfl⟩

end Steps

/-! ## What becomes of the descriptor -/

/-- What holds after a flag call failed with `e`: the descriptor is closed through the gateway, at
once and only once, and the error is the one of the flag call, whatever becomes of the close. Only
a panic of the close takes its place. -/
structure Discarded (h : Host ω) (fd : Fd) (w₁ : ω) (passed : List Event) (c : Call) (e : Errno)
    (p : Played ω (Outcome Error Fd × σ)) : Prop where
  events : ∃ rest, calls rest = [] ∧ p.events =
    passed ++ c.event (.fail e) ::
      (Call.close fd).event (h.answer (.call (.close fd)) w₁).1 :: rest
  closing : p.events.filterMap (·.request.closing?) = [fd]
  fail : (∀ text, (h.answer (.call (.close fd)) w₁).1 ≠ .panic text) →
    p.value.1 = .fail (.closeOnExec e)
  panic : ∀ text, (h.answer (.call (.close fd)) w₁).1 = .panic text → p.value.1 = .panic text

/-- A system in which a close that succeeds closes, and so does the owner that goes away. -/
structure ClosingDescriptors (h : Host ω) (isOpen : ω → Fd → Prop) : Prop where
  closed : ∀ {fd w v w'}, h.answer (.call (.close fd)) w = (.ok v, w') → ¬ isOpen w' fd
  released : ∀ fd w, ¬ isOpen (h.answer (.release fd) w).2 fd

section Ends

variable {p : Played ω (Outcome Error Fd × σ)} {passed : List Event} {c : Call} {w₁ w₂ : ω}

/-- **Cleared.** If both flag calls succeed, nothing else is asked for. -/
theorem run_of_clears (hend : RemoveEnd h fd s w p) {flags : Int32}
    (hclears : Clears h fd w flags w₁) :
    p = ⟨(.ok fd, s), rewriting fd flags (flags &&& ~~~FdFlag.closeOnExec), w₁⟩ := by
  cases hend with
  | cleared hread' hwrite' =>
    obtain ⟨hread, hwrite⟩ := hclears
    cases hread'.symm.trans hread
    cases hwrite'.symm.trans hwrite
    rfl
  | failed hstep hclose => exact absurd hclears (hstep.not_clears rfl)
  | panicked hstep hrelease => exact absurd hclears (hstep.not_clears rfl)

theorem clears_of_ok (hend : RemoveEnd h fd s w p) {fd' : Fd} (hok : p.value.1 = .ok fd') :
    fd' = fd ∧ ∃ flags w', Clears h fd w flags w' := by
  cases hend with
  | cleared hread hwrite => exact ⟨(Outcome.ok.inj hok).symm, _, _, hread, hwrite⟩
  | failed hstep hclose => exact absurd hok (Outcome.ne_ok (Outcome.isOk_behind rfl))
  | panicked hstep hrelease => cases hok

/-- A call whose failure is only noted is made, and what follows it makes no call. -/
theorem UndoEnd.answered {entry : Errno → Journal.Entry} {u : Outcome Error Unit} {es : List Event}
    (hend : UndoEnd h c entry w u es w₁) :
    ∃ rest, calls rest = [] ∧ es = c.event (h.answer (.call c) w).1 :: rest ∧
      ((∀ text, (h.answer (.call c) w).1 ≠ .panic text) → u = .ok ()) ∧
      ∀ text, (h.answer (.call c) w).1 = .panic text → u = .panic text := by
  cases hend with
  | done hcall => exact ⟨[], rfl, by rw [hcall], fun _ => rfl, by rw [hcall]; rintro text ⟨⟩⟩
  | noted hcall hnote =>
    exact ⟨[_], rfl, by rw [hcall], fun _ => rfl, by rw [hcall]; rintro text ⟨⟩⟩
  | @panicked text w' hcall =>
    refine ⟨[], rfl, by rw [hcall], fun hnot => absurd (by rw [hcall]) (hnot text), ?_⟩
    rw [hcall]
    rintro text' ⟨⟩
    rfl

/-- **Discarded.** The close comes right after the flag call that failed. -/
theorem discarded_of_failed (hend : RemoveEnd h fd s w p) {e : Errno}
    (hstep : FlagStep h fd false w passed c (.fail e) w₁) :
    Discarded h fd w₁ passed c e p := by
  cases hend with
  | cleared hread hwrite => exact absurd ⟨hread, hwrite⟩ (hstep.not_clears rfl)
  | panicked hstep' hrelease =>
    obtain ⟨-, hevent, -⟩ := hstep.unique rfl hstep' rfl
    cases hevent
  | failed hstep' hclose =>
    obtain ⟨rfl, hevent, rfl⟩ := hstep.unique rfl hstep' rfl
    cases hevent
    obtain ⟨rest, hrest, rfl, hcalm, hpanic⟩ := hclose.answered
    refine ⟨⟨rest, hrest, rfl⟩, ?_, fun hnot => by rw [hcalm hnot]; rfl,
      fun text htext => by rw [hpanic text htext]; rfl⟩
    rw [List.append_cons, List.filterMap_append, hstep.closing_eq_nil, hclose.asked fun _ => rfl]
    rfl

/-- **Released.** After a panic nothing goes through the gateway any more. -/
theorem released_of_panicked (hend : RemoveEnd h fd s w p) {text : String}
    (hstep : FlagStep h fd false w passed c (.panic text) w₁) :
    p = ⟨(.panic text, s), passed ++ [c.event (.panic text), ⟨.release fd, ()⟩],
      (h.answer (.release fd) w₁).2⟩ := by
  cases hend with
  | cleared hread hwrite => exact absurd ⟨hread, hwrite⟩ (hstep.not_clears rfl)
  | failed hstep' hclose =>
    obtain ⟨-, hevent, -⟩ := hstep.unique rfl hstep' rfl
    cases hevent
  | panicked hstep' hrelease =>
    obtain ⟨rfl, hevent, rfl⟩ := hstep.unique rfl hstep' rfl
    cases hevent
    rw [hrelease]

/-- **Closed.** A descriptor that is not returned is not open any more. -/
theorem not_isOpen_of_not_ok {isOpen : ω → Fd → Prop} (sys : ClosingDescriptors h isOpen)
    (hend : RemoveEnd h fd s w p) (hnot : p.value.1.isOk = false)
    (hcloses : ∀ event ∈ p.events, event.request = .call (.close fd) → event.isRefusal = false) :
    ¬ isOpen p.host fd := by
  cases hend with
  | cleared hread hwrite => cases hnot
  | panicked hstep hrelease => exact hrelease ▸ sys.released fd _
  | @failed passed c w₁ e u es w' hstep hclose =>
    cases hclose with
    | done hcall => exact sys.closed hcall
    | @noted errno w₂ w' hcall hnote =>
      have hevent := hcloses ((Call.close fd).event (.fail errno)) (by simp) rfl
      cases hevent
    | @panicked text w' hcall =>
      have hevent := hcloses ((Call.close fd).event (.panic text)) (by simp) rfl
      cases hevent

end Ends

/-! ## A second time -/

/-- Flags that were written are read again. -/
def KeepsFlags (h : Host ω) (fd : Fd) : Prop :=
  ∀ {written found : Int32} {w v w₁ w₂},
    h.answer (.call (.setFdFlags fd written)) w = (.ok v, w₁) →
      h.answer (.call (.getFdFlags fd)) w₁ = (.ok found, w₂) → found = written

/-- **Again.** Where flags are kept, what was cleared is read, and nothing is left to clear. -/
theorem clears_again (hkeeps : KeepsFlags h fd) {flags flags' : Int32} {w₁ w₂ : ω}
    (hclears : Clears h fd w flags w₁) (hagain : Clears h fd w₁ flags' w₂) :
    flags' = flags &&& ~~~FdFlag.closeOnExec ∧ flags' &&& ~~~FdFlag.closeOnExec = flags' := by
  obtain ⟨-, hwrite⟩ := hclears
  obtain ⟨hread, -⟩ := hagain
  obtain rfl := hkeeps hwrite hread
  exact ⟨rfl, others_of_withCloseOnExec flags false⟩

theorem ObjectSystem.keepsFlags {ν : Type} {view : ω → World ν} {object : String → ν}
    (sys : ObjectSystem h view object) (fd : Fd) : KeepsFlags h fd := by
  intro written found w v w₁ w₂ hwrite hread
  have hfound := (sys.read hread).1
  rw [sys.written hwrite, World.flags_put_self] at hfound
  exact (Option.some.inj hfound).symm

theorem DescriptorSystem.closingDescriptors {ν : Type} {view : ω → World ν} {object : String → ν}
    (sys : DescriptorSystem h view object) :
    ClosingDescriptors h fun w fd => (view w).IsOpen fd where
  closed hcall := by
    rw [sys.closed hcall, World.isOpen_put_none]
    exact fun hopen => hopen.1 rfl
  released fd w := by
    rw [sys.released, World.isOpen_put_none]
    exact fun hopen => hopen.1 rfl

/-! ## One run -/

/-- **Handing on.** The descriptor is returned exactly if both flag calls succeed; then the flags
are written back with close-on-exec cleared, nothing is closed, and a second time writes the same
flags where flags are kept. If a flag call fails, the gateway is asked to close the descriptor,
right then and once, and the error is that of the flag call unless the close panics. If one
panics, the owner closes it. In a system where closing closes, a descriptor that is not returned is
not open. -/
theorem cleared_or_closed (h : Host ω) (fd : Fd) (s : σ) (w : ω) :
    let p := (removeCloseOnExec fd s).run h w
    (∀ fd', p.value.1 = .ok fd' ↔ fd' = fd ∧ ∃ flags w', Clears h fd w flags w') ∧
    (∀ flags w', Clears h fd w flags w' →
      p = ⟨(.ok fd, s), rewriting fd flags (flags &&& ~~~FdFlag.closeOnExec), w'⟩ ∧
      (KeepsFlags h fd → (∃ flags' w'', Clears h fd w' flags' w'') →
        ((removeCloseOnExec fd s).run h w').events =
          rewriting fd (flags &&& ~~~FdFlag.closeOnExec) (flags &&& ~~~FdFlag.closeOnExec))) ∧
    (∀ passed c e w₁, FlagStep h fd false w passed c (.fail e) w₁ →
      Discarded h fd w₁ passed c e p) ∧
    (∀ passed c text w₁, FlagStep h fd false w passed c (.panic text) w₁ →
      p = ⟨(.panic text, s), passed ++ [c.event (.panic text), ⟨.release fd, ()⟩],
        (h.answer (.release fd) w₁).2⟩) ∧
    ∀ isOpen : ω → Fd → Prop, ClosingDescriptors h isOpen → p.value.1.isOk = false →
      (∀ event ∈ p.events, event.request = .call (.close fd) → event.isRefusal = false) →
        ¬ isOpen p.host fd := by
  intro p
  have hend : RemoveEnd h fd s w p := removeCloseOnExec_ends h fd s w
  refine ⟨fun fd' => ⟨clears_of_ok hend, ?_⟩, fun flags w' hclears =>
    ⟨run_of_clears hend hclears, ?_⟩, fun passed c e w₁ => discarded_of_failed hend,
    fun passed c text w₁ => released_of_panicked hend,
    fun isOpen sys => not_isOpen_of_not_ok sys hend⟩
  · rintro ⟨rfl, flags, w', hclears⟩
    rw [run_of_clears hend hclears]
  · rintro hkeeps ⟨flags', w'', hagain⟩
    obtain ⟨hread, hsame⟩ := clears_again hkeeps hclears hagain
    rw [run_of_clears (removeCloseOnExec_ends h fd s w') hagain, hsame, hread]

/-- A system in which a descriptor is open that has close-on-exec set, and another flag. -/
def ready : Scripted := ((Scripted.start [] 0 []).openFd none 3).2

/-- The flags cannot be written, and the close fails as well. -/
def deaf : Scripted :=
  (ready.script .setFdFlags [.fail .eperm] none).script .close [.fail .ebadf] none

/-- The system panics when the flags are read. -/
def frantic : Scripted := ready.script .getFdFlags [.panic "boom"] none

theorem cleared_or_closed_thrice :
    let first := (removeCloseOnExec 100 ()).run Scripted.orderlyHost ready
    let second := (removeCloseOnExec 100 ()).run Scripted.orderlyHost first.host
    let failed := (removeCloseOnExec 100 ()).run Scripted.host deaf
    let panicked := (removeCloseOnExec 100 ()).run Scripted.orderlyHost frantic
    (first.value.1 = .ok 100 ∧ first.events = rewriting 100 3 2 ∧
      second.events = rewriting 100 2 2) ∧
    (failed.value.1 = .fail (.closeOnExec .eperm) ∧
      failed.events.filterMap (·.request.closing?) = [100]) ∧
    panicked.value.1 = .panic "boom" ∧ ¬ (world panicked.host).IsOpen 100 := by
  intro first second failed panicked
  have hclears : Clears Scripted.orderlyHost 100 ready 3 first.host := ⟨rfl, rfl⟩
  have hagain : Clears Scripted.orderlyHost 100 first.host 2 second.host := ⟨rfl, rfl⟩
  have hwrite : FlagStep Scripted.host 100 false deaf _ _ (.fail .eperm) _ := .write rfl rfl
  have hread : FlagStep Scripted.orderlyHost 100 false frantic _ _ (.panic "boom") _ := .read rfl
  obtain ⟨hok, hcleared, -, -, -⟩ := cleared_or_closed Scripted.orderlyHost 100 () ready
  obtain ⟨hfirst, hsecond⟩ := hcleared 3 first.host hclears
  obtain ⟨-, -, hfailed, -, -⟩ := cleared_or_closed Scripted.host 100 () deaf
  have hdiscarded := hfailed _ _ _ _ hwrite
  obtain ⟨-, -, -, hpanicked, hclosed⟩ := cleared_or_closed Scripted.orderlyHost 100 () frantic
  have hreleased : panicked.value.1 = .panic "boom" := congrArg (·.value.1) (hpanicked _ _ _ _ hread)
  refine ⟨⟨(hok 100).mpr ⟨rfl, 3, _, hclears⟩, congrArg (·.events) hfirst,
      hsecond (objectSystem_orderly.keepsFlags 100) ⟨2, _, hagain⟩⟩,
    ⟨hdiscarded.fail (by rintro text ⟨⟩), hdiscarded.closing⟩, hreleased, ?_⟩
  refine hclosed _ descriptorSystem_orderly.closingDescriptors (by rw [hreleased]; rfl) ?_
  decide +kernel

/-- The flags cannot be written, and the system panics when the descriptor is closed. -/
def jarred : Scripted :=
  (ready.script .setFdFlags [.fail .eperm] none).script .close [.panic "boom"] none

/-- **Not returned.** Nothing catches a panic of the close, so the error of the flag call that
failed is not always what the caller sees. -/
theorem not_always_returned :
    ¬ ∀ (ω : Type) (h : Host ω) (fd : Fd) (w : ω) (passed : List Event) (c : Call) (e : Errno)
      (w₁ : ω), FlagStep h fd false w passed c (.fail e) w₁ →
        ((removeCloseOnExec fd ()).run h w).value.1 = .fail (.closeOnExec e) := by
  intro h
  have hwrite : FlagStep Scripted.host 100 false jarred _ _ (.fail .eperm) _ := .write rfl rfl
  have hpanic : ((removeCloseOnExec 100 ()).run Scripted.host jarred).value.1 = .panic "boom" :=
    (discarded_of_failed (removeCloseOnExec_ends Scripted.host 100 () jarred) hwrite).panic _ rfl
  cases hpanic.symm.trans (h Scripted Scripted.host 100 jarred _ _ _ _ hwrite)

end SharedPages.File
