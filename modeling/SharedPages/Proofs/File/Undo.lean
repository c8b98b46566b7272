import SharedPages.File.Provisional
import SharedPages.Proofs.File.Events

/-!
# Roll-backs

Every way in which the roll-back of an object can end, against any host. Proved here:

* `rollBack_ends`: `RollBackEnd` lists all ends of a roll-back;
* `RollBackEnd.asked`, `RollBackEnd.warned`: a roll-back without panics makes exactly the calls
  that are due, and warns of each of them that fails.
-/

namespace SharedPages

/-- The warning that an event puts into the journal. -/
def Event.warning? : Event → Option Journal.Entry
  | ⟨.note entry, _⟩ => if entry.level = .warn then some entry else none
  | _ => none

/-- The warning that is due when a call of a roll-back fails. -/
def Call.complaint? (e : Errno) : Call → Option Journal.Entry
  | .shmUnlink name => some (.rollbackUnlinkFailed name e)
  | .close fd => some (.rollbackCloseFailed fd e)
  | _ => none

/-- The warning that is due after an event of a roll-back. -/
def Event.complaint? : Event → Option Journal.Entry
  | ⟨.call c, .fail e⟩ => c.complaint? e
  | _ => none

namespace File

open Operation

variable {ω σ α : Type} {h : Host ω}

/-! ## Ends -/

/-- How a call ends whose failure is only noted. -/
inductive UndoEnd (h : Host ω) (c : Call) (entry : Errno → Journal.Entry) (w : ω) :
    Outcome Error Unit → List Event → ω → Prop
  | done {v w'} (hcall : h.answer (.call c) w = (.ok v, w')) :
      UndoEnd h c entry w (.ok ()) [c.event (.ok v)] w'
  | noted {e w₁ w'} (hcall : h.answer (.call c) w = (.fail e, w₁))
      (hnote : (h.answer (.note (entry e)) w₁).2 = w') :
      UndoEnd h c entry w (.ok ()) [c.event (.fail e), (entry e).event] w'
  | panicked {text w'} (hcall : h.answer (.call c) w = (.panic text, w')) :
      UndoEnd h c entry w (.panic text) [c.event (.panic text)] w'

/-- How the roll-back of an object ends. -/
inductive RollBackEnd (h : Host ω) (o : Provisional) (w : ω) :
    (linked : Bool) → Outcome Error Unit → List Event → ω → Prop
  | closed {u es w'} (hclose : UndoEnd h (.close o.fd) (.rollbackCloseFailed o.fd) w u es w') :
      RollBackEnd h o w false u es w'
  | unlinked {es₁ w₁ u es₂ w'}
      (hunlink : UndoEnd h (.shmUnlink o.name) (.rollbackUnlinkFailed o.name) w (.ok ()) es₁ w₁)
      (hclose : UndoEnd h (.close o.fd) (.rollbackCloseFailed o.fd) w₁ u es₂ w') :
      RollBackEnd h o w true u (es₁ ++ es₂) w'
  /-- The descriptor is not closed any more. -/
  | stuck {text es w'}
      (hunlink : UndoEnd h (.shmUnlink o.name) (.rollbackUnlinkFailed o.name) w (.panic text) es w') :
      RollBackEnd h o w true (.panic text) es w'

/-- A call that is followed by a note if it fails, and by nothing else. -/
theorem undo_ends (h : Host ω) (c : Call) (entry : Errno → Journal.Entry)
    {next : Except Errno c.Value → Operation σ Error Unit} (hok : ∀ v, next (.ok v) = pure ())
    (herror : ∀ e, next (.error e) = note (entry e)) (s : σ) (w : ω) :
    ∃ u es w', UndoEnd h c entry w u es w' ∧
      ((perform c >>= next) s).run h w = ⟨(u, s), es, w'⟩ := by
  rw [run_bind, run_issueCaught]
  rcases hcall : h.answer (.call c) w with ⟨answer, w₁⟩
  cases answer with
  | ok v => exact ⟨_, _, _, .done hcall, by simp [hok, run_pure]⟩
  | fail e => exact ⟨_, _, _, .noted hcall rfl, by simp [herror, run_remark]⟩
  | panic text => exact ⟨_, _, _, .panicked hcall, rfl⟩

theorem unlinkBack_ends (h : Host ω) (o : Provisional) (s : σ) (w : ω) :
    ∃ u es w', UndoEnd h (.shmUnlink o.name) (.rollbackUnlinkFailed o.name) w u es w' ∧
      (o.unlinkBack s).run h w = ⟨(u, s), es, w'⟩ :=
  undo_ends h (.shmUnlink o.name) _ (fun _ => rfl) (fun _ => rfl) s w

theorem closeBack_ends (h : Host ω) (o : Provisional) (s : σ) (w : ω) :
    ∃ u es w', UndoEnd h (.close o.fd) (.rollbackCloseFailed o.fd) w u es w' ∧
      (o.closeBack s).run h w = ⟨(u, s), es, w'⟩ :=
  undo_ends h (.close o.fd) _ (fun _ => rfl) (fun _ => rfl) s w

theorem UndoEnd.not_fail {c : Call} {entry : Errno → Journal.Entry} {w w' : ω} {e : Error}
    {es : List Event} (hend : UndoEnd h c entry w (.fail e) es w') : False := by
  cases hend

theorem RollBackEnd.not_fail {o : Provisional} {linked : Bool} {w w' : ω} {u : Outcome Error Unit}
    {es : List Event} (hback : RollBackEnd h o w linked u es w') (e : Error) : u ≠ .fail e := by
  rintro rfl
  cases hback with
  | closed hclose => exact hclose.not_fail
  | unlinked hunlink hclose => exact hclose.not_fail

/-- The error of a step is that of the step's call, whatever the roll-back does. -/
theorem behind_eq_fail {u : Outcome Error Unit} {failure : Outcome Error α} {e : Error}
    (hu : ∀ e', u ≠ .fail e') (hbehind : u.behind failure = .fail e) : failure = .fail e := by
  cases u with
  | ok v => exact hbehind
  | fail e' => exact absurd rfl (hu e')
  | panic text => cases hbehind

/-- **Roll-backs.** There is no other end than those of `RollBackEnd`. -/
theorem rollBack_ends (h : Host ω) (o : Provisional) (linked : Bool) (s : σ) (w : ω) :
    ∃ u es w', RollBackEnd h o w linked u es w' ∧
      (o.rollBack linked s).run h w = ⟨(u, s), es, w'⟩ := by
  cases linked with
  | false =>
    obtain ⟨u, es, w', hclose, hrun⟩ := closeBack_ends h o s w
    exact ⟨u, es, w', .closed hclose, by simp [Provisional.rollBack, hrun]⟩
  | true =>
    obtain ⟨u₁, es₁, w₁, hunlink, hrun₁⟩ := unlinkBack_ends h o s w
    obtain ⟨u, es₂, w', hclose, hrun₂⟩ := closeBack_ends h o s w₁
    cases u₁ with
    | ok v =>
      exact ⟨u, es₁ ++ es₂, w', .unlinked hunlink hclose,
        by simp [Provisional.rollBack, run_bind, hrun₁, hrun₂]⟩
    | fail e => exact hunlink.not_fail.elim
    | panic text =>
      exact ⟨_, es₁, w₁, .stuck hunlink, by simp [Provisional.rollBack, run_bind, hrun₁]⟩

/-! ## Events -/

/-- The calls of a roll-back. -/
def Provisional.undoing (o : Provisional) (linked : Bool) : List Call :=
  (if linked then [.shmUnlink o.name] else []) ++ [.close o.fd]

/-- The request is a call on the name or on the descriptor of the object, or a note. -/
def Provisional.Concerns (o : Provisional) : Request → Prop
  | .call (.shmUnlink name) => name = o.name
  | .call (.getFdFlags fd) => fd = o.fd
  | .call (.setFdFlags fd _) => fd = o.fd
  | .call (.close fd) => fd = o.fd
  | .note _ => True
  | _ => False

@[simp] theorem concerns_note (o : Provisional) (entry : Journal.Entry) :
    o.Concerns (.note entry) := trivial

theorem Provisional.Concerns.opened?_eq_none {o : Provisional} {event : Event}
    (hevent : o.Concerns event.request) : event.opened? = none := by
  rcases event with ⟨r, answer⟩
  cases r with
  | call c => cases c <;> first | rfl | cases hevent
  | _ => rfl

section Undo

variable {w w' : ω} {c : Call} {entry : Errno → Journal.Entry} {u : Outcome Error Unit}
  {es : List Event}

theorem UndoEnd.ok_of_calm (hend : UndoEnd h c entry w u es w')
    (hes : ∀ event ∈ es, event.isPanic = false) : u = .ok () := by
  cases hend with
  | done hcall => rfl
  | noted hcall hnote => rfl
  | panicked hcall => simp [Event.isPanic, Call.event] at hes

theorem UndoEnd.asked (hend : UndoEnd h c entry w u es w') {f : Request → Option α}
    (hf : ∀ entry, f (.note entry) = none) :
    es.filterMap (fun event => f event.request) = (f (.call c)).toList := by
  cases hend <;> cases hc : f (.call c) <;> simp [hf, hc]

theorem UndoEnd.concerns {o : Provisional} (hend : UndoEnd h c entry w u es w')
    (hc : o.Concerns (.call c)) :
    ∀ event ∈ es, o.Concerns event.request := by
  cases hend <;> simp [hc]

theorem UndoEnd.warned (hend : UndoEnd h c entry w u es w')
    (hdue : ∀ e, c.complaint? e = some (entry e)) (hwarn : ∀ e, (entry e).level = .warn) :
    es.filterMap Event.warning? = es.filterMap Event.complaint? := by
  cases hend with
  | done hcall => rfl
  | @noted e w₁ w' hcall hnote =>
    have hwarning : (entry e).event.warning? = some (entry e) := if_pos (hwarn e)
    have hcomplaint : (c.event (.fail e)).complaint? = some (entry e) := hdue e
    rw [List.filterMap_cons_none rfl, List.filterMap_cons_some hwarning,
      List.filterMap_cons_some hcomplaint]
    rfl
  | panicked hcall => rfl

theorem UndoEnd.after_eq (hend : UndoEnd h c entry w u es w') : h.after w es = w' := by
  cases hend with
  | done hcall => rw [Host.after_call hcall, Host.after_nil]
  | noted hcall hnote => rw [Host.after_call hcall, Host.after_note hnote, Host.after_nil]
  | panicked hcall => rw [Host.after_call hcall, Host.after_nil]

end Undo

section Back

variable {w w' : ω} {o : Provisional} {linked : Bool} {u : Outcome Error Unit} {es : List Event}

theorem RollBackEnd.ok_of_calm (hback : RollBackEnd h o w linked u es w')
    (hes : ∀ event ∈ es, event.isPanic = false) : u = .ok () := by
  cases hback with
  | closed hclose => exact hclose.ok_of_calm hes
  | unlinked hunlink hclose =>
    exact hclose.ok_of_calm fun event hevent => hes event (List.mem_append_right _ hevent)
  | stuck hunlink => cases hunlink.ok_of_calm hes

/-- **Calls.** A roll-back without panics unlinks what is linked, and then closes. -/
theorem RollBackEnd.asked (hback : RollBackEnd h o w linked u es w')
    (hes : ∀ event ∈ es, event.isPanic = false) {f : Request → Option α}
    (hf : ∀ entry, f (.note entry) = none) :
    es.filterMap (fun event => f event.request) =
      (o.undoing linked).filterMap fun c => f (.call c) := by
  cases hback with
  | closed hclose =>
    rw [hclose.asked hf]
    cases hc : f (.call (.close o.fd)) <;> simp [Provisional.undoing, hc]
  | unlinked hunlink hclose =>
    rw [List.filterMap_append, hunlink.asked hf, hclose.asked hf]
    cases hc : f (.call (.shmUnlink o.name)) <;> cases hd : f (.call (.close o.fd)) <;>
      simp [Provisional.undoing, hc, hd]
  | stuck hunlink => cases hunlink.ok_of_calm hes

/-- **Warnings.** There is one for each call of the roll-back that fails. -/
theorem RollBackEnd.warned (hback : RollBackEnd h o w linked u es w') :
    es.filterMap Event.warning? = es.filterMap Event.complaint? := by
  cases hback with
  | closed hclose => exact hclose.warned (fun _ => rfl) fun _ => rfl
  | unlinked hunlink hclose =>
    rw [List.filterMap_append, List.filterMap_append, hunlink.warned (fun _ => rfl) fun _ => rfl,
      hclose.warned (fun _ => rfl) fun _ => rfl]
  | stuck hunlink => exact hunlink.warned (fun _ => rfl) fun _ => rfl

theorem RollBackEnd.concerns (hback : RollBackEnd h o w linked u es w') :
    ∀ event ∈ es, o.Concerns event.request := by
  cases hback with
  | closed hclose => exact hclose.concerns rfl
  | unlinked hunlink hclose =>
    exact List.forall_mem_append.mpr ⟨hunlink.concerns rfl, hclose.concerns rfl⟩
  | stuck hunlink => exact hunlink.concerns rfl

end Back

end File

end SharedPages
