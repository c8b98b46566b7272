import SharedPages.Journal

/-!
# Programs over the operating system

A `Program` asks its surroundings for things one after the other (a call,
random bits, the clock, …) and goes on with each answer. Nothing in a program says
what the answers are, so a statement about a program holds over every operating
system. `Program.run` plays a program against a `Host`, which answers from a state of
its own, and keeps the events in order.

An `Operation` of the library is a program with a state. It may end in an error or a
panic; what it changed before that stays changed.
-/

namespace SharedPages

/-! ## Requests -/

/-- What a program may ask for. -/
inductive Request
  /-- A call through the gateway. -/
  | call (c : Call)
  /-- Sixty-four random bits. -/
  | draw
  /-- The time, in nanoseconds. -/
  | clock
  /-- The owner of a descriptor goes away and closes it, outside the gateway. -/
  | release (fd : Fd)
  /-- A second descriptor for the same open file. -/
  | duplicate (fd : Fd)
  /-- An entry of the journal. -/
  | note (entry : Journal.Entry)
  deriving DecidableEq, Repr

/-- The answers to a request. Random bits may be unavailable. -/
abbrev Request.Answer : Request → Type
  | .call c => c.Answer
  | .draw => Option UInt64
  | .clock => UInt64
  | .release _ => Unit
  | .duplicate _ => Except Errno Fd
  | .note _ => Unit

/-- A request together with its answer. -/
structure Event where
  request : Request
  answer : request.Answer

/-! ## Programs -/

inductive Program (α : Type) : Type
  | done (a : α)
  | ask (r : Request) (next : r.Answer → Program α)

namespace Program

variable {α β : Type}

protected def bind (p : Program α) (f : α → Program β) : Program β :=
  match p with
  | done a => f a
  | ask r next => ask r fun answer => Program.bind (next answer) f

instance : Monad Program where
  pure := done
  bind := Program.bind

end Program

/-! ## Hosts -/

/-- Surroundings that answer requests from a state. -/
structure Host (ω : Type) where
  answer : (r : Request) → ω → r.Answer × ω

/-- What is left of a run: the value, the events in order and the state of the host. -/
structure Played (ω α : Type) where
  value : α
  events : List Event
  host : ω

namespace Program

variable {ω α β : Type}

/-- Play a program against a host. -/
def run (h : Host ω) : Program α → ω → Played ω α
  | done a, w => ⟨a, [], w⟩
  | ask r next, w =>
    let (answer, w) := h.answer r w
    let rest := run h (next answer) w
    { rest with events := ⟨r, answer⟩ :: rest.events }

theorem run_bind (h : Host ω) (p : Program α) (f : α → Program β) (w : ω) :
    (p.bind f).run h w =
      let first := p.run h w
      let rest := (f first.value).run h first.host
      { rest with events := first.events ++ rest.events } := by
  induction p generalizing w with
  | done a => rfl
  | ask r next ih => simp [Program.bind, run, ih]

end Program

/-! ## Operations -/

/-- A program over a state of type `σ` with errors of type `ε`. -/
def Operation (σ ε α : Type) : Type := σ → Program (Outcome ε α × σ)

namespace Operation

variable {σ τ ε δ α β : Type}

protected def pure (a : α) : Operation σ ε α := fun s => .done (.ok a, s)

protected def bind (x : Operation σ ε α) (f : α → Operation σ ε β) : Operation σ ε β := fun s =>
  (x s).bind fun
    | (.ok a, s) => f a s
    | (.fail e, s) => .done (.fail e, s)
    | (.panic text, s) => .done (.panic text, s)

instance : Monad (Operation σ ε) where
  pure := Operation.pure
  bind := Operation.bind

def get : Operation σ ε σ := fun s => .done (.ok s, s)

def set (s : σ) : Operation σ ε Unit := fun _ => .done (.ok (), s)

def modify (f : σ → σ) : Operation σ ε Unit := fun s => .done (.ok (), f s)

/-- End in the given way. -/
def leave (o : Outcome ε α) : Operation σ ε α := fun s => .done (o, s)

def fail (e : ε) : Operation σ ε α := leave (.fail e)

/-- End in an error unless the condition holds. -/
def require (condition : Bool) (e : ε) : Operation σ ε Unit :=
  if condition then pure () else fail e

/-- Ask the host. -/
def ask (r : Request) : Operation σ ε r.Answer := fun s => .ask r fun answer => .done (.ok answer, s)

/-- An entry of the journal. -/
def note (entry : Journal.Entry) : Operation σ ε Unit := ask (.note entry)

def noteAll : List Journal.Entry → Operation σ ε Unit
  | [] => pure ()
  | entry :: entries => do note entry; noteAll entries

/-- Issue a call and see whether it failed. A panic of the gateway ends the operation. -/
def perform (c : Call) : Operation σ ε (Except Errno c.Value) := fun s =>
  .ask (.call c) fun
    | .ok v => .done (.ok (.ok v), s)
    | .fail e => .done (.ok (.error e), s)
    | .panic text => .done (.panic text, s)

/-- Issue a call; if it fails, end in the error made of its number. -/
def call (c : Call) (toError : Errno → ε) : Operation σ ε c.Value := fun s =>
  .ask (.call c) fun
    | .ok v => .done (.ok v, s)
    | .fail e => .done (.fail (toError e), s)
    | .panic text => .done (.panic text, s)

/-- See how an operation ends instead of ending with it. -/
def attempt (x : Operation σ ε α) : Operation σ δ (Outcome ε α) := fun s =>
  (x s).bind fun (o, s) => .done (.ok o, s)

/-- If the operation does not return, clean up and then end as it did; a clean-up that does not
return itself takes its place. -/
def onFailure (x : Operation σ ε α) (cleanUp : Operation σ ε Unit) : Operation σ ε α := do
  match ← attempt x with
  | .ok a => pure a
  | o => do cleanUp; leave o

/-- Give the errors of an operation another type. -/
def mapError (f : ε → δ) (x : Operation σ ε α) : Operation σ δ α := fun s =>
  (x s).bind fun (o, s) => .done (o.mapError f, s)

/-- Run an operation on a part of the state. -/
def within (part : τ → σ) (put : σ → τ → τ) (x : Operation σ ε α) : Operation τ ε α := fun t =>
  (x (part t)).bind fun (o, s) => .done (o, put s t)

end Operation

end SharedPages
