import SharedPages.Gateway.Layer

/-!
# Failure injection

A layer for rehearsals: each kind of call can be told to fail, always or by the
number of the call. Calls are counted whether they fail or not; a call that is made
to fail does not reach the gateway behind. The layer also records the names opened
and unlinked and the descriptors closed with success. A reset forgets counts and
records and keeps the behaviours.
-/

namespace SharedPages

/-- What happens to the calls of a kind. -/
inductive Behaviour
  /-- Every call goes through. -/
  | pass
  | failAlways (errno : Errno)
  /-- The call with this number fails; the first is number 1. -/
  | failNth (n : Nat) (errno : Errno)
  /-- The first calls fail, this many. -/
  | failFirst (n : Nat) (errno : Errno)
  deriving DecidableEq, Repr

/-- The number with which call number `i` is made to fail, if it is. -/
def Behaviour.injected (b : Behaviour) (i : Nat) : Option Errno :=
  match b with
  | pass => none
  | failAlways e => some e
  | failNth n e => if i = n then some e else none
  | failFirst n e => if i ≤ n then some e else none

/-- The state of the layer. -/
structure Injector where
  behaviour : CallKind → Behaviour
  count : CallKind → Nat
  opened : List String
  unlinked : List String
  closed : List Fd

namespace Injector

/-- Everything passes, and nothing has been counted. -/
def start : Injector := ⟨fun _ => .pass, fun _ => 0, [], [], []⟩

/-- Change what happens to the calls of a kind. -/
def setBehaviour (j : Injector) (k : CallKind) (b : Behaviour) : Injector :=
  { j with behaviour := fun k' => if k' = k then b else j.behaviour k' }

/-- Forget counts and records. -/
def reset (j : Injector) : Injector := { start with behaviour := j.behaviour }

/-- Count a call. -/
def tally (j : Injector) (k : CallKind) : Injector :=
  { j with count := fun k' => if k' = k then j.count k + 1 else j.count k' }

theorem count_tally (j : Injector) (k i : CallKind) :
    (j.tally k).count i = if i = k then j.count i + 1 else j.count i := by
  by_cases h : i = k
  · simp [tally, h]
  · simp [tally, h]

theorem behaviour_reset (j : Injector) : j.reset.behaviour = j.behaviour := rfl

/-- Record a call that succeeded. -/
def record (j : Injector) : Call → Injector
  | .shmOpen name _ _ => { j with opened := j.opened ++ [name] }
  | .shmUnlink name => { j with unlinked := j.unlinked ++ [name] }
  | .close fd => { j with closed := j.closed ++ [fd] }
  | _ => j

/-- The kinds with calls, and how many. -/
def counts (j : Injector) : List (CallKind × Nat) :=
  (CallKind.all.map fun k => (k, j.count k)).filter fun e => e.2 ≠ 0

/-- How many calls of each kind came since an earlier state. -/
def countsSince (earlier later : Injector) : List (CallKind × Nat) :=
  (CallKind.all.map fun k => (k, later.count k - earlier.count k)).filter fun e => e.2 ≠ 0

end Injector

/-- Calls are counted, made to fail or passed on, and recorded. -/
def Gateway.injecting {ω : Type} (inner : Gateway ω) : Gateway (Injector × ω)
  | c, (j, w) =>
    let j := j.tally c.kind
    match (j.behaviour c.kind).injected (j.count c.kind) with
    | some e => (.fail e, j, w)
    | none =>
      let (answer, w) := inner c w
      (answer, if answer.isOk then j.record c else j, w)

end SharedPages
