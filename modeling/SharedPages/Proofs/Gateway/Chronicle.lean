import Mathlib.Data.List.DropRight
import SharedPages.Gateway.Injection

/-!
# Chronicles of failure injection

What is done on a layer that makes calls fail, in order, calls with their answers. How the layer
treats its calls can be read off that alone:

* `current`, `number`: the behaviour of a kind of call, and the number of its next call;
* `Behaviour.Fails`: which numbers a behaviour makes fail, and how;
* `count`, `recorded`: what was done since the last reset, counted by kind or picked out in order;
* `Tallied`: a layer is as its chronicle has it. A layer that begins is (`Tallied.start`), and
  whatever is done keeps it so (`Tallied.call`, `Tallied.change`, `Tallied.reset`).
-/

namespace SharedPages

/-! ## What is to fail -/

/-- The call with this number is to fail, with this error number. -/
inductive Behaviour.Fails : Behaviour → Nat → Errno → Prop
  | always (e : Errno) (i : Nat) : Fails (.failAlways e) i e
  | nth (e : Errno) (i : Nat) : Fails (.failNth i e) i e
  | first {i n : Nat} (e : Errno) (hi : i ≤ n) : Fails (.failFirst n e) i e

theorem Behaviour.injected_eq_some_iff {b : Behaviour} {i : Nat} {e : Errno} :
    b.injected i = some e ↔ b.Fails i e := by
  constructor
  · intro h
    cases b with
    | pass => cases h
    | failAlways e' =>
      obtain rfl : e' = e := Option.some.inj h
      exact .always e' i
    | failNth n e' =>
      obtain ⟨rfl, rfl⟩ : i = n ∧ e' = e := by simpa [injected] using h
      exact .nth e' i
    | failFirst n e' =>
      obtain ⟨hi, rfl⟩ : i ≤ n ∧ e' = e := by simpa [injected] using h
      exact .first e' hi
  · rintro (_ | _ | ⟨_, hi⟩)
    · rfl
    · exact if_pos rfl
    · exact if_pos hi

theorem Behaviour.injected_eq_none_iff {b : Behaviour} {i : Nat} :
    b.injected i = none ↔ ¬ ∃ e, b.Fails i e := by
  simp only [Option.eq_none_iff_forall_not_mem, Option.mem_def, injected_eq_some_iff, not_exists]

instance (b : Behaviour) (i : Nat) : Decidable (∃ e, b.Fails i e) :=
  decidable_of_iff (b.injected i ≠ none) (by rw [Ne, Behaviour.injected_eq_none_iff, not_not])

/-! ## What was done on a layer -/

namespace Chronicle

/-- Something that was done on a layer. -/
inductive Entry
  | call (c : Call) (answer : c.Answer)
  | change (kind : CallKind) (behaviour : Behaviour)
  | reset

namespace Entry

def isReset : Entry → Bool
  | reset => true
  | _ => false

/-- A call of this kind was made. -/
def calls (k : CallKind) : Entry → Bool
  | call c _ => c.kind = k
  | _ => false

/-- The calls of this kind are treated so from now on. -/
def change? (k : CallKind) : Entry → Option Behaviour
  | change k' b => if k' = k then some b else none
  | _ => none

/-- The name that was opened. -/
def opened? : Entry → Option String
  | call (.shmOpen name _ _) (.ok _) => some name
  | _ => none

/-- The name that was unlinked. -/
def unlinked? : Entry → Option String
  | call (.shmUnlink name) (.ok _) => some name
  | _ => none

/-- The descriptor that was closed. -/
def closed? : Entry → Option Fd
  | call (.close fd) (.ok _) => some fd
  | _ => none

end Entry

/-- What was done after the last reset. -/
def sinceReset (es : List Entry) : List Entry := es.rtakeWhile fun e => !e.isReset

/-- How calls of a kind are treated: as was said last. A reset does not change it. -/
def current (k : CallKind) (es : List Entry) : Behaviour :=
  (es.reverse.findSome? (Entry.change? k)).getD .pass

/-- The calls of a kind since the last reset. -/
def count (k : CallKind) (es : List Entry) : Nat := (sinceReset es).countP (Entry.calls k)

/-- The number of the next call of a kind. -/
def number (k : CallKind) (es : List Entry) : Nat := count k es + 1

/-- What is recorded of what was done since the last reset. -/
def recorded {α : Type} (part? : Entry → Option α) (es : List Entry) : List α :=
  (sinceReset es).filterMap part?

section Concat

variable {α : Type} (part? : Entry → Option α) (es : List Entry) (k : CallKind) {e : Entry}

theorem sinceReset_reset : sinceReset (es ++ [.reset]) = [] :=
  List.rtakeWhile_concat_neg _ _ _ Bool.false_ne_true

theorem sinceReset_concat (he : e.isReset = false) :
    sinceReset (es ++ [e]) = sinceReset es ++ [e] :=
  List.rtakeWhile_concat_pos _ _ _ (by rw [he]; rfl)

theorem current_concat (e : Entry) : current k (es ++ [e]) = (e.change? k).getD (current k es) := by
  rw [current, List.reverse_append, List.reverse_singleton, List.singleton_append,
    List.findSome?_cons]
  cases e.change? k <;> rfl

theorem count_reset : count k (es ++ [.reset]) = 0 := by
  rw [count, sinceReset_reset]
  rfl

theorem count_concat (he : e.isReset = false) :
    count k (es ++ [e]) = count k es + if e.calls k then 1 else 0 := by
  rw [count, sinceReset_concat es he, List.countP_append, List.countP_singleton]
  rfl

theorem recorded_reset : recorded part? (es ++ [.reset]) = [] := by
  rw [recorded, sinceReset_reset]
  rfl

theorem recorded_concat (he : e.isReset = false) :
    recorded part? (es ++ [e]) = recorded part? es ++ (part? e).toList := by
  rw [recorded, sinceReset_concat es he, List.filterMap_append]
  cases h : part? e <;> simp [recorded, h]

theorem recorded_of_none (he : e.isReset = false) (hpart : part? e = none) :
    recorded part? (es ++ [e]) = recorded part? es := by
  rw [recorded_concat part? es he, hpart]
  exact List.append_nil _

end Concat

end Chronicle

/-! ## Layers -/

/-- A call is counted, and recorded if it succeeded. -/
def Injector.noted (j : Injector) (c : Call) (answer : c.Answer) : Injector :=
  if answer.isOk then (j.tally c.kind).record c else j.tally c.kind

/-- What a call leaves in the layer. -/
theorem Injector.noted_eq (j : Injector) (c : Call) (answer : c.Answer) :
    j.noted c answer =
      { j.tally c.kind with
        opened := j.opened ++ (Chronicle.Entry.call c answer).opened?.toList
        unlinked := j.unlinked ++ (Chronicle.Entry.call c answer).unlinked?.toList
        closed := j.closed ++ (Chronicle.Entry.call c answer).closed?.toList } := by
  -- A call that did not succeed leaves no record, whatever it is.
  cases answer with
  | ok value => cases c <;> simp [noted, Outcome.isOk, record, tally, Chronicle.Entry.opened?,
      Chronicle.Entry.unlinked?, Chronicle.Entry.closed?]
  | fail e => simp [noted, Outcome.isOk, tally, Chronicle.Entry.opened?,
      Chronicle.Entry.unlinked?, Chronicle.Entry.closed?]
  | panic text => simp [noted, Outcome.isOk, tally, Chronicle.Entry.opened?,
      Chronicle.Entry.unlinked?, Chronicle.Entry.closed?]

namespace Chronicle

/-- The layer is as what was done on it has it. -/
structure Tallied (es : List Entry) (j : Injector) : Prop where
  behaviour : ∀ k, j.behaviour k = current k es
  count : ∀ k, j.count k = count k es
  opened : j.opened = recorded Entry.opened? es
  unlinked : j.unlinked = recorded Entry.unlinked? es
  closed : j.closed = recorded Entry.closed? es

section Tallied

variable {es : List Entry} {j : Injector}

theorem Tallied.start : Tallied [] .start := ⟨fun _ => rfl, fun _ => rfl, rfl, rfl, rfl⟩

theorem Tallied.call (h : Tallied es j) (c : Call) (answer : c.Answer) :
    Tallied (es ++ [.call c answer]) (j.noted c answer) := by
  rw [j.noted_eq]
  constructor
  case behaviour =>
    intro k
    rw [current_concat]
    exact h.behaviour k
  case count =>
    intro k
    rw [count_concat es k rfl, ← h.count k]
    show (j.tally c.kind).count k = _
    rw [j.count_tally]
    by_cases hk : k = c.kind
    · simp [Entry.calls, hk]
    · simp [Entry.calls, hk, Ne.symm hk]
  case opened => rw [h.opened, recorded_concat _ es rfl]
  case unlinked => rw [h.unlinked, recorded_concat _ es rfl]
  case closed => rw [h.closed, recorded_concat _ es rfl]

/-- Only the behaviour of one kind changes. -/
theorem Tallied.change (h : Tallied es j) (k : CallKind) (b : Behaviour) :
    Tallied (es ++ [.change k b]) (j.setBehaviour k b) where
  behaviour k' := by
    rw [current_concat, Entry.change?, ← h.behaviour]
    by_cases hk : k' = k
    · simp [Injector.setBehaviour, hk]
    · simp [Injector.setBehaviour, hk, Ne.symm hk]
  count k' := by
    rw [count_concat es k' rfl]
    exact h.count k'
  opened := h.opened.trans (recorded_of_none _ es rfl rfl).symm
  unlinked := h.unlinked.trans (recorded_of_none _ es rfl rfl).symm
  closed := h.closed.trans (recorded_of_none _ es rfl rfl).symm

/-- Counts and records begin again; behaviours stay. -/
theorem Tallied.reset (h : Tallied es j) : Tallied (es ++ [.reset]) j.reset where
  behaviour k := by
    rw [j.behaviour_reset, h.behaviour, current_concat]
    rfl
  count k := (count_reset es k).symm
  opened := (recorded_reset _ es).symm
  unlinked := (recorded_reset _ es).symm
  closed := (recorded_reset _ es).symm

end Tallied

end Chronicle

end SharedPages
