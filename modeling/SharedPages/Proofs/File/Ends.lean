import SharedPages.Proofs.File.Search
import SharedPages.Proofs.File.Undo

/-!
# How the creation of a file ends

Every way in which the creation of an anonymous file can end, against any host: any system
behind the gateway, any random bits and any clock. Proved here:

* `removeCloseOnExec_ends`: the ends of handing a descriptor on;
* `finish_ends`: an object that was opened is handed out, or rolled back from the step
  that did not return;
* `FinishEnd.concerns`: once an object is opened, every call is on its name or its descriptor;
* `create_ends`, `native_ends`: `CreateEnd` and `NativeEnd` list all ends of a creation;
* `early_of_fault`, `CreateEnd.late`: the errors of a request that is turned down, and of one that
  was tried.
-/

namespace SharedPages.File

open Operation Emulator

variable {ω σ α β γ : Type} {h : Host ω}

/-! ## The close-on-exec flag -/

/-- A step of setting the flag, with the answer of its call and the events before it. -/
inductive FlagStep (h : Host ω) (fd : Fd) (enabled : Bool) (w : ω) :
    (passed : List Event) → (c : Call) → c.Answer → ω → Prop
  | read {answer w'} (hread : h.answer (.call (.getFdFlags fd)) w = (answer, w')) :
      FlagStep h fd enabled w [] (.getFdFlags fd) answer w'
  | write {given : Int32} {w₁ answer w'}
      (hread : h.answer (.call (.getFdFlags fd)) w = (.ok given, w₁))
      (hwrite : h.answer (.call (.setFdFlags fd (withCloseOnExec given enabled))) w₁ = (answer, w')) :
      FlagStep h fd enabled w [Call.event (.getFdFlags fd) (.ok given)]
        (.setFdFlags fd (withCloseOnExec given enabled)) answer w'

section Events

variable {fd : Fd} {enabled : Bool} {passed : List Event} {c : Call} {answer : c.Answer}
  {w w' : ω}

theorem FlagStep.after_eq (hstep : FlagStep h fd enabled w passed c answer w') :
    h.after w (passed ++ [c.event answer]) = w' := by
  cases hstep with
  | read hread => rw [List.nil_append, Host.after_call hread, Host.after_nil]
  | write hread hwrite =>
    rw [Host.after_append, Host.after_call hread, Host.after_nil, Host.after_call hwrite, Host.after_nil]

theorem FlagStep.closing_eq_nil (hstep : FlagStep h fd enabled w passed c answer w') :
    (passed ++ [c.event answer]).filterMap (·.request.closing?) = [] := by
  cases hstep <;> rfl

theorem FlagStep.concerns {o : Provisional}
    (hstep : FlagStep h o.fd enabled w passed c answer w') :
    ∀ event ∈ passed ++ [c.event answer], o.Concerns event.request := by
  cases hstep <;> simp [Provisional.Concerns]

end Events

/-- How it ends that the flag is set or cleared. -/
inductive FlagEnd (h : Host ω) (fd : Fd) (enabled : Bool) (s : σ) (w : ω) :
    Played ω (Outcome Errno Unit × σ) → Prop
  | set {given : Int32} {w₁ v w'}
      (hread : h.answer (.call (.getFdFlags fd)) w = (.ok given, w₁))
      (hwrite : h.answer (.call (.setFdFlags fd (withCloseOnExec given enabled))) w₁ = (.ok v, w')) :
      FlagEnd h fd enabled s w
        ⟨(.ok v, s), [Call.event (.getFdFlags fd) (.ok given),
          Call.event (.setFdFlags fd (withCloseOnExec given enabled)) (.ok v)], w'⟩
  | halted {passed c answer w' failure} (hstep : FlagStep h fd enabled w passed c answer w')
      (hfail : Outcome.PassedOn id answer failure) :
      FlagEnd h fd enabled s w ⟨(failure, s), passed ++ [c.event answer], w'⟩

theorem setCloseOnExec_ends (h : Host ω) (fd : Fd) (enabled : Bool) (s : σ) (w : ω) :
    FlagEnd h fd enabled s w ((setCloseOnExec fd enabled s).run h w) := by
  rw [setCloseOnExec, run_bind, run_issue]
  rcases hread : h.answer (.call (.getFdFlags fd)) w with ⟨answer, w₁⟩
  cases answer with
  | fail e => exact .halted (.read hread) (.fail e)
  | panic text => exact .halted (.read hread) (.panic text)
  | ok given =>
    dsimp only [Outcome.mapError, Played.andThen_ok]
    rw [run_issue]
    rcases hwrite : h.answer (.call (.setFdFlags fd (withCloseOnExec given enabled))) w₁ with
      ⟨answer, w'⟩
    cases answer with
    | ok v => exact .set hread hwrite
    | fail e => exact .halted (.write hread hwrite) (.fail e)
    | panic text => exact .halted (.write hread hwrite) (.panic text)

/-- How it ends that a descriptor is handed on without the flag. -/
inductive RemoveEnd (h : Host ω) (fd : Fd) (s : σ) (w : ω) :
    Played ω (Outcome Error Fd × σ) → Prop
  | cleared {given : Int32} {w₁ v w'}
      (hread : h.answer (.call (.getFdFlags fd)) w = (.ok given, w₁))
      (hwrite : h.answer (.call (.setFdFlags fd (withCloseOnExec given false))) w₁ = (.ok v, w')) :
      RemoveEnd h fd s w
        ⟨(.ok fd, s), [Call.event (.getFdFlags fd) (.ok given),
          Call.event (.setFdFlags fd (withCloseOnExec given false)) (.ok v)], w'⟩
  /-- The descriptor is closed through the gateway. -/
  | failed {passed c w₁ e u es w'} (hstep : FlagStep h fd false w passed c (.fail e) w₁)
      (hclose : UndoEnd h (.close fd) (.discardFailed fd) w₁ u es w') :
      RemoveEnd h fd s w
        ⟨(u.behind (.fail (.closeOnExec e)), s), passed ++ c.event (.fail e) :: es, w'⟩
  /-- The descriptor is closed by its owner. -/
  | panicked {passed c w₁ text w'} (hstep : FlagStep h fd false w passed c (.panic text) w₁)
      (hrelease : (h.answer (.release fd) w₁).2 = w') :
      RemoveEnd h fd s w
        ⟨(.panic text, s), passed ++ [c.event (.panic text), ⟨.release fd, ()⟩], w'⟩

/-- **Handing on.** There is no other end than those of `RemoveEnd`. -/
theorem removeCloseOnExec_ends (h : Host ω) (fd : Fd) (s : σ) (w : ω) :
    RemoveEnd h fd s w ((removeCloseOnExec fd s).run h w) := by
  rw [removeCloseOnExec, run_bind, run_attempt]
  have hends := setCloseOnExec_ends h fd false s w
  generalize (setCloseOnExec fd false s).run h w = p at hends
  cases hends with
  | set hread hwrite => exact .cleared hread hwrite
  | @halted passed c answer w₁ failure hstep hfail =>
    cases hfail with
    | panic text =>
      have hend : RemoveEnd h fd s w _ := .panicked hstep rfl
      rw [Played.andThen_ok, run_bind, run_ask]
      simpa [run_leave] using hend
    | fail e =>
      rw [Played.andThen_ok, run_bind, run_issueCaught]
      rcases hclose : h.answer (.call (.close fd)) w₁ with ⟨answer, w₂⟩
      cases answer with
      | ok v =>
        have hend : RemoveEnd h fd s w _ := .failed hstep (.done hclose)
        simpa [run_fail, Outcome.behind] using hend
      | fail errno =>
        have hend : RemoveEnd h fd s w _ := .failed hstep (.noted hclose rfl)
        simpa [run_bind, run_remark, run_fail, Outcome.behind] using hend
      | panic text =>
        have hend : RemoveEnd h fd s w _ := .failed hstep (.panicked hclose)
        simpa [Outcome.behind] using hend

/-! ## Finishing an object -/

/-- What is recorded of a file that an object becomes. -/
def Provisional.record (o : Provisional) (name : String) (flags : UInt32) : Record :=
  ⟨name, some o.name, wantsSealing flags, wantsCloseOnExec flags⟩

/-- Hand out an object, or roll it back. -/
def finish (name : String) (flags : UInt32) (o : Provisional) :
    Operation Emulator Error AnonymousFile := do
  o.unlink
  o.settle (wantsCloseOnExec flags)
  note (.createdEmulated o.fd name o.name (wantsCloseOnExec flags))
  modify fun e => { e with files := e.files.insert o.fd (o.record name flags) }
  return ⟨o.fd, o.record name flags, true⟩

theorem make_eq (name : String) (flags : UInt32) : Emulator.make name flags = (do
    let o ← createExclusive name (← get).config.maxAttempts 1
    finish name flags o) := rfl

/-- A step of finishing an object, with the answer of its call and the events before it: whether
the object still has its name, and the error that the step stands for. -/
inductive FinishStep (h : Host ω) (o : Provisional) (closeOnExec : Bool) (w : ω) :
    (linked : Bool) → (toError : Errno → Error) → (passed : List Event) → (c : Call) → c.Answer →
      ω → Prop
  | unlink {answer w'} (hunlink : h.answer (.call (.shmUnlink o.name)) w = (answer, w')) :
      FinishStep h o closeOnExec w true .unlink [] (.shmUnlink o.name) answer w'
  | flag {v w₁ passed c answer w'}
      (hunlink : h.answer (.call (.shmUnlink o.name)) w = (.ok v, w₁))
      (hstep : FlagStep h o.fd closeOnExec w₁ passed c answer w') :
      FinishStep h o closeOnExec w false .closeOnExec
        (Call.event (.shmUnlink o.name) (.ok v) :: passed) c answer w'

section Events

variable {w w' : ω} {o : Provisional} {closeOnExec linked : Bool} {toError : Errno → Error}
  {passed : List Event} {c : Call} {answer : c.Answer}

theorem FinishStep.after_eq
    (hstep : FinishStep h o closeOnExec w linked toError passed c answer w') :
    h.after w (passed ++ [c.event answer]) = w' := by
  cases hstep with
  | unlink hunlink => rw [List.nil_append, Host.after_call hunlink, Host.after_nil]
  | flag hunlink hstep => rw [List.cons_append, Host.after_call hunlink, hstep.after_eq]

theorem FinishStep.closing_eq_nil
    (hstep : FinishStep h o closeOnExec w linked toError passed c answer w') :
    (passed ++ [c.event answer]).filterMap (·.request.closing?) = [] := by
  cases hstep with
  | unlink hunlink => rfl
  | flag hunlink hstep =>
    rw [List.cons_append, List.filterMap_cons_none rfl, hstep.closing_eq_nil]

theorem FinishStep.unlinking_eq
    (hstep : FinishStep h o closeOnExec w linked toError passed c answer w') :
    (passed ++ [c.event answer]).filterMap (·.request.unlinking?) = [o.name] := by
  cases hstep with
  | unlink hunlink => rfl
  | flag hunlink hstep => cases hstep <;> rfl

theorem FinishStep.concerns
    (hstep : FinishStep h o closeOnExec w linked toError passed c answer w') :
    ∀ event ∈ passed ++ [c.event answer], o.Concerns event.request := by
  cases hstep with
  | unlink hunlink => simp [Provisional.Concerns]
  | flag hunlink hstep => exact List.forall_mem_cons.mpr ⟨rfl, hstep.concerns⟩

end Events

/-- How it ends that an object is handed out or rolled back. -/
inductive FinishEnd (h : Host ω) (name : String) (flags : UInt32) (o : Provisional) (e : Emulator)
    (w : ω) : Played ω (Outcome Error AnonymousFile × Emulator) → Prop
  | halted {linked toError passed c answer w₁ failure u es w'}
      (hstep : FinishStep h o (wantsCloseOnExec flags) w linked toError passed c answer w₁)
      (hfail : Outcome.PassedOn toError answer failure)
      (hback : RollBackEnd h o w₁ linked u es w') :
      FinishEnd h name flags o e w
        ⟨(u.behind failure, e), passed ++ c.event answer :: es, w'⟩
  | finished {v w₁} {given : Int32} {w₂ v' w₃ w'}
      (hunlink : h.answer (.call (.shmUnlink o.name)) w = (.ok v, w₁))
      (hread : h.answer (.call (.getFdFlags o.fd)) w₁ = (.ok given, w₂))
      (hwrite : h.answer
        (.call (.setFdFlags o.fd (withCloseOnExec given (wantsCloseOnExec flags)))) w₂ = (.ok v', w₃))
      (hnote : (h.answer
        (.note (.createdEmulated o.fd name o.name (wantsCloseOnExec flags))) w₃).2 = w') :
      FinishEnd h name flags o e w
        ⟨(.ok ⟨o.fd, o.record name flags, true⟩,
          { e with files := e.files.insert o.fd (o.record name flags) }),
         [Call.event (.shmUnlink o.name) (.ok v), Call.event (.getFdFlags o.fd) (.ok given),
          Call.event (.setFdFlags o.fd (withCloseOnExec given (wantsCloseOnExec flags))) (.ok v'),
          Journal.Entry.event (.createdEmulated o.fd name o.name (wantsCloseOnExec flags))], w'⟩

/-- **Finishing.** An opened object is handed out or rolled back by calls on itself alone. -/
theorem FinishEnd.concerns {name : String} {flags : UInt32} {o : Provisional} {e : Emulator}
    {w : ω} {p : Played ω (Outcome Error AnonymousFile × Emulator)}
    (hend : FinishEnd h name flags o e w p) : ∀ event ∈ p.events, o.Concerns event.request := by
  cases hend with
  | halted hstep hfail hback =>
    rw [List.append_cons]
    exact List.forall_mem_append.mpr ⟨hstep.concerns, hback.concerns⟩
  | finished hunlink hread hwrite hnote => simp [Provisional.Concerns]

theorem FinishEnd.opened_eq_nil {name : String} {flags : UInt32} {o : Provisional} {e : Emulator}
    {w : ω} {p : Played ω (Outcome Error AnonymousFile × Emulator)}
    (hend : FinishEnd h name flags o e w p) : p.events.filterMap Event.opened? = [] :=
  List.filterMap_eq_nil_iff.mpr fun event hevent => (hend.concerns event hevent).opened?_eq_none

/-- How the step ends that unlinks an object. -/
inductive UnlinkEnd (h : Host ω) (o : Provisional) (s : σ) (w : ω) :
    Played ω (Outcome Error Unit × σ) → Prop
  | unlinked {v w'} (hunlink : h.answer (.call (.shmUnlink o.name)) w = (.ok v, w')) :
      UnlinkEnd h o s w ⟨(.ok v, s), [Call.event (.shmUnlink o.name) (.ok v)], w'⟩
  | halted {answer w₁ failure u es w'}
      (hunlink : h.answer (.call (.shmUnlink o.name)) w = (answer, w₁))
      (hfail : Outcome.PassedOn .unlink answer failure)
      (hback : RollBackEnd h o w₁ true u es w') :
      UnlinkEnd h o s w
        ⟨(u.behind failure, s), Call.event (.shmUnlink o.name) answer :: es, w'⟩

theorem unlink_ends (h : Host ω) (o : Provisional) (s : σ) (w : ω) :
    UnlinkEnd h o s w ((o.unlink s).run h w) := by
  rcases hunlink : h.answer (.call (.shmUnlink o.name)) w with ⟨answer, w₁⟩
  have hcall : (call (.shmUnlink o.name) Error.unlink s).run h w =
      ⟨(answer.mapError .unlink, s), [Call.event (.shmUnlink o.name) answer], w₁⟩ := by
    rw [run_issue, hunlink]
  rw [Provisional.unlink]
  rcases Outcome.ok_or_passedOn Error.unlink answer with ⟨v, rfl⟩ | ⟨failure, hfail⟩
  · rw [run_onFailure_of_ok hcall]
    exact .unlinked hunlink
  · obtain ⟨u, es, w', hback, hroll⟩ := rollBack_ends h o true s w₁
    rw [hfail.mapError_eq] at hcall
    rw [run_onFailure hcall hfail.isOk hroll]
    exact .halted hunlink hfail hback

/-- How the step ends that sets or clears close-on-exec of an object. -/
inductive SettleEnd (h : Host ω) (o : Provisional) (closeOnExec : Bool) (s : σ) (w : ω) :
    Played ω (Outcome Error Unit × σ) → Prop
  | settled {given : Int32} {w₁ v w'}
      (hread : h.answer (.call (.getFdFlags o.fd)) w = (.ok given, w₁))
      (hwrite : h.answer (.call (.setFdFlags o.fd (withCloseOnExec given closeOnExec))) w₁ =
        (.ok v, w')) :
      SettleEnd h o closeOnExec s w
        ⟨(.ok v, s), [Call.event (.getFdFlags o.fd) (.ok given),
          Call.event (.setFdFlags o.fd (withCloseOnExec given closeOnExec)) (.ok v)], w'⟩
  | halted {passed c answer w₁ failure u es w'}
      (hstep : FlagStep h o.fd closeOnExec w passed c answer w₁)
      (hfail : Outcome.PassedOn .closeOnExec answer failure)
      (hback : RollBackEnd h o w₁ false u es w') :
      SettleEnd h o closeOnExec s w
        ⟨(u.behind failure, s), passed ++ c.event answer :: es, w'⟩

theorem settle_ends (h : Host ω) (o : Provisional) (closeOnExec : Bool) (s : σ) (w : ω) :
    SettleEnd h o closeOnExec s w ((o.settle closeOnExec s).run h w) := by
  have hset : (mapError Error.closeOnExec (setCloseOnExec o.fd closeOnExec) s).run h w = _ :=
    run_mapError h s w Error.closeOnExec _
  have hends := setCloseOnExec_ends h o.fd closeOnExec s w
  rw [Provisional.settle]
  generalize (setCloseOnExec o.fd closeOnExec s).run h w = p at hends hset
  cases hends with
  | set hread hwrite =>
    rw [run_onFailure_of_ok hset]
    exact .settled hread hwrite
  | @halted passed c answer w₁ failure hstep hfail =>
    obtain ⟨u, es, w', hback, hroll⟩ := rollBack_ends h o false s w₁
    have hfail' := hfail.mapError Error.closeOnExec
    rw [run_onFailure hset hfail'.isOk hroll, List.append_assoc]
    exact .halted hstep hfail' hback

/-- What is behind a clean-up is no value, so nothing comes after it. -/
theorem andThen_behind {f : Errno → Error} {answer : Outcome Errno α} {failure : Outcome Error β}
    (hfail : Outcome.PassedOn f answer failure) (u : Outcome Error Unit) (s : σ)
    (es : List Event) (w : ω) (next : β → σ → ω → Played ω (Outcome Error γ × σ)) :
    ∃ failure' : Outcome Error γ, Outcome.PassedOn f answer failure' ∧
      Played.andThen ⟨(u.behind failure, s), es, w⟩ next = ⟨(u.behind failure', s), es, w⟩ := by
  cases hfail with
  | fail e => exact ⟨_, .fail e, by cases u <;> rfl⟩
  | panic text => exact ⟨_, .panic text, by cases u <;> rfl⟩

/-- **Finishing.** There is no other end than those of `FinishEnd`. -/
theorem finish_ends (h : Host ω) (name : String) (flags : UInt32) (o : Provisional) (e : Emulator)
    (w : ω) : FinishEnd h name flags o e w ((finish name flags o e).run h w) := by
  rw [finish, run_bind]
  have hunlinks := unlink_ends h o e w
  generalize (o.unlink e).run h w = p at hunlinks
  cases hunlinks with
  | halted hunlink hfail hback =>
    obtain ⟨failure, hfail', heq⟩ := andThen_behind hfail _ e _ _ _
    rw [heq]
    exact .halted (.unlink hunlink) hfail' hback
  | @unlinked v w₁ hunlink =>
    rw [Played.andThen_ok, run_bind]
    have hsettles := settle_ends h o (wantsCloseOnExec flags) e w₁
    generalize (o.settle (wantsCloseOnExec flags) e).run h w₁ = p at hsettles
    cases hsettles with
    | settled hread hwrite => exact .finished hunlink hread hwrite rfl
    | halted hstep hfail hback =>
      obtain ⟨failure, hfail', heq⟩ := andThen_behind hfail _ e _ _ _
      rw [heq]
      exact .halted (.flag hunlink hstep) hfail' hback

/-! ## Creations -/

/-- How a creation by the emulation ends. -/
inductive CreateEnd (h : Host ω) (name : String) (flags : UInt32) (e : Emulator) (w : ω) :
    Played ω (Outcome Error AnonymousFile × Emulator) → Prop
  | refused {error} (hfault : fault? name flags = some error) :
      CreateEnd h name flags e w ⟨(.fail error, e), [], w⟩
  /-- No name was free, or an attempt failed. -/
  | unopened {o e' es w' failure} (hfault : fault? name flags = none)
      (hsearch : ExclusiveEnd h name e.config.maxAttempts 1 e w ⟨(o, e'), es, w'⟩)
      (hfail : Outcome.PassedOn id o failure) :
      CreateEnd h name flags e w ⟨(failure, e'), es, w'⟩
  | opened {o e₁ es w₁ p} (hfault : fault? name flags = none)
      (hsearch : ExclusiveEnd h name e.config.maxAttempts 1 e w ⟨(.ok o, e₁), es, w₁⟩)
      (hfinish : FinishEnd h name flags o e₁ w₁ p) :
      CreateEnd h name flags e w ⟨p.value, es ++ p.events, p.host⟩

/-- **Creations.** There is no other end than those of `CreateEnd`. -/
theorem create_ends (h : Host ω) (name : String) (flags : UInt32) (e : Emulator) (w : ω) :
    CreateEnd h name flags e w ((Emulator.create name flags e).run h w) := by
  rw [Emulator.create]
  cases hfault : fault? name flags with
  | some error => exact .refused hfault
  | none =>
    have hsearch := exclusive_ends h name e.config.maxAttempts 1 e w
    dsimp only
    rw [make_eq, run_bind, run_get, Played.andThen_ok_nil, run_bind]
    generalize (createExclusive name e.config.maxAttempts 1 e).run h w = p at hsearch
    rcases p with ⟨⟨o, e₁⟩, es, w₁⟩
    cases o with
    | ok o => exact .opened hfault hsearch (finish_ends h name flags o e₁ w₁)
    | fail error => exact .unopened hfault hsearch (.fail error)
    | panic text => exact .unopened hfault hsearch (.panic text)

theorem run_emulating {ε : Type} (h : Host ω) (x : Operation Emulator ε α) (e : Emulator) (w : ω) :
    (Provider.emulating x e).run h w =
      let p := (x e).run h w
      ⟨(p.value.1, .emulated p.value.2), p.events, p.host⟩ := by
  simp [Provider.emulating, Program.run_bind, Program.run]

theorem run_create_emulated (h : Host ω) (name : String) (flags : UInt32) (e : Emulator) (w : ω) :
    (Provider.create name flags (.emulated e)).run h w =
      let p := (Emulator.create name flags e).run h w
      ⟨(p.value.1, .emulated p.value.2), p.events, p.host⟩ :=
  run_emulating h _ e w

/-- How a creation by the native provider ends. -/
inductive NativeEnd (h : Host ω) (name : String) (flags : UInt32) (s : σ) (w : ω) :
    Played ω (Outcome Error AnonymousFile × σ) → Prop
  | refused {error} (hfault : fault? name flags = some error) :
      NativeEnd h name flags s w ⟨(.fail error, s), [], w⟩
  | failed {answer w' failure} (hfault : fault? name flags = none)
      (hcall : h.answer (.call (.memfdCreate name flags)) w = (answer, w'))
      (hfail : Outcome.PassedOn .create answer failure) :
      NativeEnd h name flags s w
        ⟨(failure, s), [Call.event (.memfdCreate name flags) answer], w'⟩
  | created {fd : Fd} {w₁ w'} (hfault : fault? name flags = none)
      (hcall : h.answer (.call (.memfdCreate name flags)) w = (.ok fd, w₁))
      (hnote : (h.answer (.note (.createdNative fd name flags)) w₁).2 = w') :
      NativeEnd h name flags s w
        ⟨(.ok ⟨fd, ⟨name, none, wantsSealing flags, wantsCloseOnExec flags⟩, false⟩, s),
         [Call.event (.memfdCreate name flags) (.ok fd),
          Journal.Entry.event (.createdNative fd name flags)], w'⟩

/-- **Native creations.** There is no other end than those of `NativeEnd`. -/
theorem native_ends (h : Host ω) (name : String) (flags : UInt32) (s : σ) (w : ω) :
    NativeEnd h name flags s w ((Native.create name flags s).run h w) := by
  rw [Native.create]
  cases hfault : fault? name flags with
  | some error => exact .refused hfault
  | none =>
    dsimp only
    rw [Native.make, run_bind, run_issue]
    rcases hcall : h.answer (.call (.memfdCreate name flags)) w with ⟨answer, w₁⟩
    cases answer with
    | ok fd => exact .created hfault hcall rfl
    | fail e => exact .failed hfault hcall (.fail e)
    | panic text => exact .failed hfault hcall (.panic text)

/-! ## Errors -/

/-- The errors of a request that is turned down before the system is asked. -/
inductive Error.Early : Error → Prop
  | unsupportedFlags (bits) : Early (.unsupportedFlags bits)
  | emptyName : Early .emptyName
  | nameTooLong (len max) : Early (.nameTooLong len max)

theorem early_of_fault {name : String} {flags : UInt32} {error : Error}
    (hfault : fault? name flags = some error) : error.Early := by
  unfold fault? at hfault
  split at hfault
  · cases hfault
    exact .unsupportedFlags _
  · split at hfault
    · cases hfault
      exact .emptyName
    · split at hfault
      · cases hfault
        exact .nameTooLong _ _
      · cases hfault

/-- The errors of a creation by the emulation that has proposed a name. A name that is taken is no
such error: it leads to another attempt. -/
inductive Error.Late : Error → Prop
  | namesExhausted (attempts) : Late (.namesExhausted attempts)
  | create (errno) (hne : errno ≠ .eexist) : Late (.create errno)
  | unlink (errno) : Late (.unlink errno)
  | closeOnExec (errno) : Late (.closeOnExec errno)

theorem Error.Late.not_early {error : Error} (hlate : error.Late) : ¬ error.Early := by
  intro hearly
  cases hlate <;> cases hearly

section Errors

variable {name : String} {flags : UInt32} {e : Emulator} {w : ω} {error : Error}

theorem ExclusiveEnd.late {left count : Nat}
    {p : Played ω (Outcome Error Provisional × Emulator)}
    (hend : ExclusiveEnd h name left count e w p) (hfail : p.value.1 = .fail error) :
    error.Late := by
  induction hend with
  | exhausted => cases hfail; exact .namesExhausted _
  | opened => cases hfail
  | taken _ _ _ _ ih => exact ih hfail
  | failed _ hne _ => cases hfail; exact .create _ hne
  | panicked => cases hfail

theorem FinishEnd.late {o : Provisional} {p : Played ω (Outcome Error AnonymousFile × Emulator)}
    (hend : FinishEnd h name flags o e w p) (hfail : p.value.1 = .fail error) : error.Late := by
  cases hend with
  | finished => cases hfail
  | halted hstep hpass hback =>
    cases behind_eq_fail hback.not_fail hfail
    cases hpass
    cases hstep with
    | unlink => exact .unlink _
    | flag => exact .closeOnExec _

/-- **Errors.** A request without fault has an error of its own only if it was tried. -/
theorem CreateEnd.late {p : Played ω (Outcome Error AnonymousFile × Emulator)}
    (hend : CreateEnd h name flags e w p) (hfault : fault? name flags = none)
    (hfail : p.value.1 = .fail error) : error.Late := by
  cases hend with
  | refused hrefused => cases hrefused.symm.trans hfault
  | unopened _ hsearch hpass =>
    cases hpass with
    | fail error => cases hfail; exact hsearch.late rfl
    | panic text => cases hfail
  | opened _ _ hfinish => exact hfinish.late hfail

/-- What is wrong with a request is what its creation fails with. -/
theorem CreateEnd.value_of_fault {p : Played ω (Outcome Error AnonymousFile × Emulator)}
    (hend : CreateEnd h name flags e w p) (hfault : fault? name flags = some error) :
    p.value.1 = .fail error := by
  cases hend with
  | refused hrefused => exact congrArg Outcome.fail (Option.some.inj (hrefused.symm.trans hfault))
  | unopened hnone _ _ => cases hnone.symm.trans hfault
  | opened hnone _ _ => cases hnone.symm.trans hfault

theorem NativeEnd.value_of_fault {s : σ} {p : Played ω (Outcome Error AnonymousFile × σ)}
    (hend : NativeEnd h name flags s w p) (hfault : fault? name flags = some error) :
    p.value.1 = .fail error := by
  cases hend with
  | refused hrefused => exact congrArg Outcome.fail (Option.some.inj (hrefused.symm.trans hfault))
  | failed hnone _ _ => cases hnone.symm.trans hfault
  | created hnone _ _ => cases hnone.symm.trans hfault

end Errors

end SharedPages.File
