import SharedPages.Proofs.Moments

/-!
# What an event asks for

The parts of requests and events that creations, roll-backs and the ends of files are about:
what is opened, unlinked and closed, and what is only noted.
-/

namespace SharedPages

/-- The descriptor that a request is to close. -/
def Request.closing? : Request → Option Fd
  | .call (.close fd) => some fd
  | .release fd => some fd
  | _ => none

/-- The name that a request is to remove. -/
def Request.unlinking? : Request → Option String
  | .call (.shmUnlink name) => some name
  | _ => none

/-- The call that a request makes. -/
def Request.call? : Request → Option Call
  | .call c => some c
  | _ => none

/-- The request has nothing to do with names and descriptors. -/
def Request.isAside : Request → Bool
  | .draw => true
  | .clock => true
  | .note _ => true
  | _ => false

/-- The request looks for a free name, or has nothing to do with names and descriptors. -/
def Request.isSearch : Request → Bool
  | .call (.shmOpen ..) => true
  | r => r.isAside

/-- The object that an event opened: its name and its descriptor. -/
def Event.opened? : Event → Option (String × Fd)
  | ⟨.call (.shmOpen name _ _), .ok fd⟩ => some (name, fd)
  | _ => none

/-- The event is a call that did not return. -/
def Event.isRefusal : Event → Bool
  | ⟨.call _, answer⟩ => !answer.isOk
  | _ => false

@[simp] theorem Call.request_event (c : Call) (answer : c.Answer) :
    (c.event answer).request = .call c := rfl

@[simp] theorem Journal.Entry.request_event (entry : Journal.Entry) :
    entry.event.request = .note entry := rfl

@[simp] theorem Journal.Entry.opened?_event (entry : Journal.Entry) :
    entry.event.opened? = none := rfl

@[simp] theorem Call.isRefusal_event (c : Call) (answer : c.Answer) :
    (c.event answer).isRefusal = !answer.isOk := rfl

@[simp] theorem Journal.Entry.isRefusal_event (entry : Journal.Entry) :
    entry.event.isRefusal = false := rfl

/-! ## Calls -/

/-- The calls that events have made, in order. -/
def calls (es : List Event) : List Call := es.filterMap (·.request.call?)

@[simp] theorem calls_nil : calls [] = [] := rfl

@[simp] theorem calls_append (es es' : List Event) : calls (es ++ es') = calls es ++ calls es' :=
  List.filterMap_append

@[simp] theorem calls_event (c : Call) (answer : c.Answer) (es : List Event) :
    calls (c.event answer :: es) = c :: calls es := rfl

@[simp] theorem calls_note (entry : Journal.Entry) (es : List Event) :
    calls (entry.event :: es) = calls es := rfl

@[simp] theorem calls_notes (entries : List Journal.Entry) :
    calls (entries.map Journal.Entry.event) = [] := by
  induction entries with
  | nil => rfl
  | cons entry entries ih => exact ih

theorem exists_of_mem_calls {c : Call} {es : List Event} (hc : c ∈ calls es) :
    ∃ event ∈ es, event.request = .call c := by
  obtain ⟨event, hevent, hcall⟩ := List.mem_filterMap.mp hc
  refine ⟨event, hevent, ?_⟩
  cases hr : event.request <;> simp_all [Request.call?]

/-! ## The states that events lead to -/

namespace Host

variable {ω : Type} {h : Host ω} {w w' : ω}

theorem after_call {c : Call} {answer : c.Answer} {es : List Event}
    (hcall : h.answer (.call c) w = (answer, w')) :
    h.after w (c.event answer :: es) = h.after w' es := by
  rw [Host.after_cons, Call.request_event, hcall]

theorem after_note {entry : Journal.Entry} {es : List Event}
    (hnote : (h.answer (.note entry) w).2 = w') :
    h.after w (entry.event :: es) = h.after w' es := by
  rw [Host.after_cons, Journal.Entry.request_event, hnote]

end Host

end SharedPages
