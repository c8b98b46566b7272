import SharedPages.Proofs.Play

/-!
# The states along a run

The events of a run say what was asked and answered, not in which state of the host. The
moments of a run keep these states. Since a host answers from its state alone, they can be
found again from the events. Proved here:

* `moments_eq_replay`: the moments of a run are those of asking again what its events ask;
* `replay_append`: asking for one list and then another.
-/

namespace SharedPages

variable {ω α : Type}

/-- A request, and the state of the host in which it is made. -/
structure Moment (ω : Type) where
  before : ω
  request : Request

namespace Moment

variable (h : Host ω) (m : Moment ω)

def answer : m.request.Answer := (h.answer m.request m.before).1

/-- The state in which the host is left. -/
def after : ω := (h.answer m.request m.before).2

def event : Event := ⟨m.request, m.answer h⟩

end Moment

/-- The moments of a run, in order. -/
def Program.moments (h : Host ω) : Program α → ω → List (Moment ω)
  | .done _, _ => []
  | .ask r next, w => ⟨w, r⟩ :: moments h (next (h.answer r w).1) (h.answer r w).2

namespace Host

variable (h : Host ω)

/-- The state of a host after it was asked what some events ask. -/
def after (w : ω) : List Event → ω
  | [] => w
  | e :: es => after (h.answer e.request w).2 es

/-- The moments of asking a host what some events ask. -/
def replay (w : ω) : List Event → List (Moment ω)
  | [] => []
  | e :: es => ⟨w, e.request⟩ :: replay (h.answer e.request w).2 es

@[simp] theorem after_nil (w : ω) : h.after w [] = w := rfl

theorem after_cons (w : ω) (e : Event) (es : List Event) :
    h.after w (e :: es) = h.after (h.answer e.request w).2 es := rfl

theorem replay_cons (w : ω) (e : Event) (es : List Event) :
    h.replay w (e :: es) = ⟨w, e.request⟩ :: h.replay (h.answer e.request w).2 es := rfl

theorem after_append (w : ω) (es es' : List Event) :
    h.after w (es ++ es') = h.after (h.after w es) es' := by
  induction es generalizing w with
  | nil => rfl
  | cons e es ih => exact ih _

theorem replay_append (w : ω) (es es' : List Event) :
    h.replay w (es ++ es') = h.replay w es ++ h.replay (h.after w es) es' := by
  induction es generalizing w with
  | nil => rfl
  | cons e es ih => simp [replay_cons, after_cons, ih]

theorem mem_replay (w : ω) (es : List Event) (e : Event) (es' : List Event) :
    ⟨h.after w es, e.request⟩ ∈ h.replay w (es ++ e :: es') := by
  rw [replay_append, replay_cons]
  exact List.mem_append_right _ List.mem_cons_self

end Host

namespace Program

theorem after_events (h : Host ω) (p : Program α) (w : ω) :
    h.after w (p.run h w).events = (p.run h w).host := by
  induction p generalizing w with
  | done a => rfl
  | ask r next ih => exact ih _ _

/-- **Moments.** What a run asks is asked in the states that its events lead to. -/
theorem moments_eq_replay (h : Host ω) (p : Program α) (w : ω) :
    p.moments h w = h.replay w (p.run h w).events := by
  induction p generalizing w with
  | done a => rfl
  | ask r next ih => exact congrArg (List.cons _) (ih _ _)

end Program

end SharedPages
