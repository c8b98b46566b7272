import SharedPages.Proofs.File.Orderly

/-!
# What a failed creation leaves behind

An object that was opened is rolled back when one of the steps towards handing it out does not
return. Proved here, against any host:

* `rolledBack_of_opened`: a creation that opened an object and returned no file rolled it back in
  this way and ended as the step did; one that opened nothing closes and unlinks nothing.
-/

namespace SharedPages

namespace File

open Emulator

variable {ω α : Type} {h : Host ω} {w w' : ω}

/-! ## Steps that do not return -/

/-- A step towards handing out an object that was opened: the events before it, its call, whether
the object still has its name, and the error that the step stands for. -/
inductive Pending (o : Provisional) (closeOnExec : Bool) :
    (passed : List Event) → Call → (linked : Bool) → (Errno → Error) → Prop
  | unlink : Pending o closeOnExec [] (.shmUnlink o.name) true .unlink
  | read {v} : Pending o closeOnExec [Call.event (.shmUnlink o.name) (.ok v)] (.getFdFlags o.fd)
      false .closeOnExec
  | write {v} {given : Int32} : Pending o closeOnExec
      [Call.event (.shmUnlink o.name) (.ok v), Call.event (.getFdFlags o.fd) (.ok given)]
      (.setFdFlags o.fd (withCloseOnExec given closeOnExec)) false .closeOnExec

section Steps

variable {o : Provisional} {closeOnExec linked : Bool} {toError : Errno → Error}
  {passed : List Event} {c : Call} {answer : c.Answer}

theorem FinishStep.pending (hstep : FinishStep h o closeOnExec w linked toError passed c answer w') :
    Pending o closeOnExec passed c linked toError := by
  cases hstep with
  | unlink hunlink => exact .unlink
  | flag hunlink hstep =>
    cases hstep with
    | read hread => exact .read
    | write hread hwrite => exact .write

end Steps

/-! ## Creations -/

/-- What holds after an object was rolled back: `c` is the call that did not return, `linked` says
whether the object still had its name, and `back` are the events of the roll-back. -/
structure RolledBack (h : Host ω) (o : Provisional) (e : Emulator) (w : ω) {c : Call}
    (answer : c.Answer) (linked : Bool) (toError : Errno → Error) (back : List Event)
    (p : Played ω (Outcome Error AnonymousFile × Provider)) : Prop where
  calls : back.filterMap (·.request.call?) = o.undoing linked
  closed : p.events.filterMap (·.request.closing?) = [o.fd]
  unlinked : p.events.filterMap (·.request.unlinking?) = o.name :: if linked then [o.name] else []
  files : ∃ e', p.value.2 = .emulated e' ∧ e'.files = e.files
  fail : ∀ errno, answer = .fail errno → p.value.1 = .fail (toError errno)
  panic : ∀ text, answer = .panic text → p.value.1 = .panic text
  warned : back.filterMap Event.warning? = back.filterMap Event.complaint?
  restored : ∀ {ν : Type} {view : ω → World ν} {object : String → ν},
    ClosingSystem h view object → (∀ event ∈ back, event.isRefusal = false) →
      view p.host = view w

theorem rolledBack_of_step {name : String} {flags : UInt32} {left count : Nat} {e e₁ : Emulator}
    {o : Provisional} {es passed back : List Event} {w₁ w₂ : ω} {linked : Bool}
    {toError : Errno → Error} {c : Call} {answer : c.Answer}
    {failure : Outcome Error AnonymousFile} {u : Outcome Error Unit}
    (hsearch : ExclusiveEnd h name left count e w ⟨(.ok o, e₁), es, w₁⟩)
    (hstep : FinishStep h o (wantsCloseOnExec flags) w₁ linked toError passed c answer w₂)
    (hanswer : answer.isOk = false) (hfail : Outcome.PassedOn toError answer failure)
    (hback : RollBackEnd h o w₂ linked u back w')
    (hcalm : ∀ event ∈ back, event.isPanic = false) :
    RolledBack h o e w answer linked toError back
      ⟨(u.behind failure, .emulated e₁), es ++ (passed ++ c.event answer :: back), w'⟩ := by
  obtain rfl := hback.ok_of_calm hcalm
  rw [List.append_cons passed]
  refine {
    calls := ?_
    closed := ?_
    unlinked := ?_
    files := ⟨e₁, rfl, hsearch.files_eq⟩
    fail := ?_
    panic := ?_
    warned := hback.warned
    restored := ?_ }
  · rw [hback.asked hcalm fun _ => rfl]
    exact List.filterMap_some
  · rw [List.filterMap_append, List.filterMap_append, hsearch.closing_eq_nil,
      hstep.closing_eq_nil, hback.asked hcalm fun _ => rfl]
    cases linked <;> rfl
  · rw [List.filterMap_append, List.filterMap_append, hsearch.unlinking_eq_nil,
      hstep.unlinking_eq, hback.asked hcalm fun _ => rfl]
    cases linked <;> rfl
  · rintro errno rfl
    cases hfail
    rfl
  · rintro text rfl
    cases hfail
    rfl
  · intro ν view object sys hes
    obtain ⟨given, hopens⟩ := (sys.world_of_exclusiveEnd hsearch).1 o rfl
    exact sys.world_of_halted hopens hstep hanswer hback hes

/-- **Rolled back.** If no object was opened, nothing is closed and nothing unlinked. If one was
opened and no file was returned, some step did not return, and was followed by nothing but the
roll-back. -/
theorem rolledBack_of_opened (h : Host ω) (name : String) (flags : UInt32) (e : Emulator) (w : ω) :
    let p := (Provider.create name flags (.emulated e)).run h w
    (p.events.filterMap Event.opened? = [] →
      p.events.filterMap (·.request.closing?) = [] ∧
      p.events.filterMap (·.request.unlinking?) = []) ∧
    ∀ o : Provisional, (o.name, o.fd) ∈ p.events.filterMap Event.opened? →
      p.value.1.isOk = false →
        ∃ before passed c answer linked toError back,
          p.events = before ++ (openCall o.name).event (.ok o.fd) ::
            (passed ++ Call.event c answer :: back) ∧
          Pending o (wantsCloseOnExec flags) passed c linked toError ∧ answer.isOk = false ∧
          ((∀ event ∈ back, event.isPanic = false) →
            RolledBack h o e w answer linked toError back p) := by
  dsimp only
  rw [run_create_emulated]
  have hend := create_ends h name flags e w
  generalize (Emulator.create name flags e).run h w = p at hend ⊢
  cases hend with
  | refused hfault => exact ⟨fun _ => ⟨rfl, rfl⟩, by rintro o ⟨⟩⟩
  | unopened hfault hsearch hfail =>
    have hnone := hsearch.opened_eq_nil hfail.isOk_part
    dsimp only at hnone ⊢
    rw [hnone]
    exact ⟨fun _ => ⟨hsearch.closing_eq_nil, hsearch.unlinking_eq_nil⟩, by rintro o ⟨⟩⟩
  | @opened o e₁ es w₁ p hfault hsearch hfinish =>
    obtain ⟨before, rfl, hnone, -⟩ := hsearch.opening rfl
    have hlater := hfinish.opened_eq_nil
    cases hfinish with
    | finished hunlink hread hwrite hnote =>
      refine ⟨fun hno => ?_, fun o' _ hnot => by cases hnot⟩
      rw [List.append_assoc, List.filterMap_append, hnone] at hno
      cases hno
    | @halted linked toError passed c answer w₂ failure u back w' hstep hfail hback =>
      have hopened : ((before ++ [(openCall o.name).event (.ok o.fd)]) ++
          (passed ++ c.event answer :: back)).filterMap Event.opened? = [(o.name, o.fd)] := by
        rw [List.filterMap_append, List.filterMap_append, hnone, hlater]
        rfl
      dsimp only
      rw [hopened]
      refine ⟨by rintro ⟨⟩, fun o' ho' _ => ?_⟩
      obtain rfl : o' = o := by
        cases o
        cases o'
        simpa [and_comm] using ho'
      refine ⟨before, passed, c, answer, linked, toError, back, by simp, hstep.pending,
        hfail.isOk_part, fun hcalm => ?_⟩
      exact rolledBack_of_step hsearch hstep hfail.isOk_part hfail hback hcalm

/-- A system in which the first removal of a name fails. -/
def stubborn : Scripted := (Scripted.start ["/other"] 1 []).script .shmUnlink [.fail .eperm] none

/-- The object that is opened there. -/
def stuckObject : Provisional := ⟨100, candidate Config.defaultStem 0 (mix 0 "notes")⟩

theorem rolledBack_stubborn :
    let p := (Provider.create "notes" 0 (.emulated (.start .standard))).run Scripted.orderlyHost
      stubborn
    (stuckObject.name, stuckObject.fd) ∈ p.events.filterMap Event.opened? ∧
    p.value.1 = .fail (.unlink .eperm) ∧ (∀ event ∈ p.events, event.isPanic = false) ∧
    ∃ (c : Call) (answer : c.Answer) (linked : Bool) (toError : Errno → Error) (back : List Event),
      RolledBack Scripted.orderlyHost stuckObject (.start .standard) stubborn answer linked toError
        back p := by
  intro p
  have hopened : (stuckObject.name, stuckObject.fd) ∈ p.events.filterMap Event.opened? := by
    decide +kernel
  have hfail : p.value.1 = .fail (.unlink .eperm) := by decide +kernel
  have hcalm : ∀ event ∈ p.events, event.isPanic = false := by decide +kernel
  have hnot : p.value.1.isOk = false := by rw [hfail]; rfl
  obtain ⟨before, passed, c, answer, linked, toError, back, hevents, -, -, hback⟩ :=
    (rolledBack_of_opened Scripted.orderlyHost "notes" 0 (.start .standard) stubborn).2
      stuckObject hopened hnot
  refine ⟨hopened, hfail, hcalm, c, answer, linked, toError, back, hback fun event hevent => ?_⟩
  exact hcalm event (hevents ▸ by simp [hevent])

end File

end SharedPages
