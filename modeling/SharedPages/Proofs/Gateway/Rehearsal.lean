import Mathlib.Logic.Function.Basic
import SharedPages.Host.Scripted
import SharedPages.Proofs.Cuts
import SharedPages.Proofs.Gateway.Chronicle

/-!
# Rehearsals

Layers that make calls fail stand in front of one gateway. Each has handles, which are copies of
each other: what is done through one of them is done on the layer. A rehearsal is any sequence of
calls, changes of behaviours and resets, each through some handle. Proved here, for every gateway:

* `injecting_of_fails`, `injecting_of_passes`: the two ways a call through a layer can go;
* `Faithful.act`: what is kept by whatever is done through a handle;
* `faithful_run`: which calls fail, what the others are answered, what reaches the gateway, and what
  the layers count and record, all as the chronicles of the layers have it;
* `unwatched_run`: nobody notices if the gateway is watched;
* `filters_faithfully`: so what it gets to see are the calls that were not to fail.
-/

namespace SharedPages

variable {ω : Type}

/-! ## Gateways and layers -/

namespace Gateway

/-- The state in which calls leave a gateway. -/
def after (g : Gateway ω) (calls : List Call) (w : ω) : ω :=
  calls.foldl (fun w c => (g c w).2) w

/-- A gateway that keeps a list of the calls that reach it. -/
def watched (g : Gateway ω) : Gateway (List Call × ω)
  | c, (seen, w) => let (answer, w) := g c w; (answer, seen ++ [c], w)

theorem after_append (g : Gateway ω) (calls calls' : List Call) (w : ω) :
    g.after (calls ++ calls') w = g.after calls' (g.after calls w) := List.foldl_append

theorem after_watched (g : Gateway ω) (calls seen : List Call) (w : ω) :
    g.watched.after calls (seen, w) = (seen ++ calls, g.after calls w) := by
  induction calls generalizing seen w with
  | nil => simp [after]
  | cons c calls ih =>
    show g.watched.after calls (seen ++ [c], (g c w).2) = _
    rw [ih, List.append_assoc]
    rfl

variable {inner : Gateway ω} {c : Call} {j : Injector} {w : ω}

/-- A call that is to fail does not reach the gateway. -/
theorem injecting_of_fails {e : Errno}
    (hfails : (j.behaviour c.kind).Fails (j.count c.kind + 1) e) :
    injecting inner c (j, w) = (.fail e, j.noted c (.fail e), w) := by
  have hinjected : ((j.tally c.kind).behaviour c.kind).injected ((j.tally c.kind).count c.kind) =
      some e := by
    rw [j.count_tally, if_pos rfl]
    exact Behaviour.injected_eq_some_iff.mpr hfails
  simp only [injecting, hinjected]
  rfl

/-- Any other call is passed on, and so is its answer. -/
theorem injecting_of_passes (hpasses : ¬ ∃ e, (j.behaviour c.kind).Fails (j.count c.kind + 1) e) :
    injecting inner c (j, w) = ((inner c w).1, j.noted c (inner c w).1, (inner c w).2) := by
  have hinjected : ((j.tally c.kind).behaviour c.kind).injected ((j.tally c.kind).count c.kind) =
      none := by
    rw [j.count_tally, if_pos rfl]
    exact Behaviour.injected_eq_none_iff.mpr hpasses
  simp only [injecting, hinjected]
  rfl

end Gateway

namespace Rehearsal

open Chronicle

/-! ## What is done through handles -/

/-- A handle on a layer. A layer has one state for all its copies. -/
structure Handle where
  layer : Nat
  copy : Nat
  deriving DecidableEq, Repr

/-- What can be done through a handle. -/
inductive Deed
  | call (c : Call)
  | change (kind : CallKind) (behaviour : Behaviour)
  | reset

/-- What was done, and through which handle. -/
structure Line where
  handle : Handle
  entry : Entry

/-- The line without the answer. -/
def Line.deed : Line → Handle × Deed
  | ⟨h, .call c _⟩ => (h, .call c)
  | ⟨h, .change k b⟩ => (h, .change k b)
  | ⟨h, .reset⟩ => (h, .reset)

end Rehearsal

/-- The layers and the gateway behind them, and what was done so far. -/
structure Rehearsal (ω : Type) where
  lines : List Rehearsal.Line
  layers : Nat → Injector
  inner : ω

namespace Rehearsal

open Chronicle

/-- Nothing was done yet. -/
def start (w : ω) : Rehearsal ω := ⟨[], fun _ => .start, w⟩

/-- What was done has changed the layer and the gateway. -/
def enter (s : Rehearsal ω) (line : Line) (j : Injector) (w : ω) : Rehearsal ω where
  lines := s.lines ++ [line]
  layers := Function.update s.layers line.handle.layer j
  inner := w

/-- Do something through a handle. -/
def act (inner : Gateway ω) (s : Rehearsal ω) (h : Handle) : Deed → Rehearsal ω
  | .call c =>
    let (answer, j, w) := inner.injecting c (s.layers h.layer, s.inner)
    s.enter ⟨h, .call c answer⟩ j w
  | .change k b => s.enter ⟨h, .change k b⟩ ((s.layers h.layer).setBehaviour k b) s.inner
  | .reset => s.enter ⟨h, .reset⟩ (s.layers h.layer).reset s.inner

/-- Do one thing after the other. -/
def run (inner : Gateway ω) (w : ω) (deeds : List (Handle × Deed)) : Rehearsal ω :=
  deeds.foldl (fun s d => s.act inner d.1 d.2) (start w)

/-! ## What follows from what was done -/

/-- What was done on a layer, through any of its handles. -/
def onLayer (n : Nat) (lines : List Line) : List Entry :=
  lines.filterMap fun line => if line.handle.layer = n then some line.entry else none

/-- The next call through the handle is to fail if it is this one: so the behaviour of its kind says
for its number. -/
def Injects (past : List Line) (h : Handle) (c : Call) (e : Errno) : Prop :=
  (current c.kind (onLayer h.layer past)).Fails (number c.kind (onLayer h.layer past)) e

instance (past : List Line) (h : Handle) (c : Call) : Decidable (∃ e, Injects past h c e) :=
  inferInstanceAs (Decidable (∃ e, Behaviour.Fails _ _ e))

/-- The call of a line, unless it was to fail. -/
def Line.passed? (past : List Line) : Line → Option Call
  | ⟨h, .call c _⟩ => if ∃ e, Injects past h c e then none else some c
  | _ => none

/-- The calls of some lines that were not to fail, in order. -/
def passedAfter (past : List Line) : List Line → List Call
  | [] => []
  | line :: lines => (line.passed? past).toList ++ passedAfter (past ++ [line]) lines

/-- The calls that were not to fail, in order. -/
def passed (lines : List Line) : List Call := passedAfter [] lines

/-- The answer of a call: the error with which it was to fail, or what the gateway answers after the
calls that reached it before. -/
def Line.Answered (inner : Gateway ω) (w : ω) (past : List Line) : Line → Prop
  | ⟨h, .call c answer⟩ =>
    (∀ e, Injects past h c e → answer = .fail e) ∧
    ((¬ ∃ e, Injects past h c e) → answer = (inner c (inner.after (passed past) w)).1)
  | _ => True

/-- The layers do what they are told and nothing else: all that was to be done is done and answered
as it should be, the gateway is left as the calls that were not to fail leave it, and the layers of
all handles have counted and recorded what was done on them. -/
structure Faithful (inner : Gateway ω) (w : ω) (deeds : List (Handle × Deed)) (s : Rehearsal ω) :
    Prop where
  done : s.lines.map Line.deed = deeds
  answered : ∀ before line after, s.lines = before ++ line :: after → line.Answered inner w before
  seen : s.inner = inner.after (passed s.lines) w
  tallied : ∀ h : Handle, Tallied (onLayer h.layer s.lines) (s.layers h.layer)

/-! ## One more line -/

theorem onLayer_concat (lines : List Line) (line : Line) (n : Nat) :
    onLayer n (lines ++ [line]) =
      if line.handle.layer = n then onLayer n lines ++ [line.entry] else onLayer n lines := by
  rw [onLayer, List.filterMap_append]
  by_cases hn : line.handle.layer = n
  · simp [onLayer, hn]
  · simp [onLayer, hn]

theorem passedAfter_concat (past lines : List Line) (line : Line) :
    passedAfter past (lines ++ [line]) =
      passedAfter past lines ++ (line.passed? (past ++ lines)).toList := by
  induction lines generalizing past with
  | nil => simp [passedAfter]
  | cons first lines ih => simp [passedAfter, ih]

theorem passed_concat (lines : List Line) (line : Line) :
    passed (lines ++ [line]) = passed lines ++ (line.passed? lines).toList :=
  passedAfter_concat [] lines line

section Step

variable {inner : Gateway ω} {w w' : ω} {deeds : List (Handle × Deed)} {s : Rehearsal ω}
  {j : Injector}

theorem faithful_start (inner : Gateway ω) (w : ω) : Faithful inner w [] (start w) where
  done := rfl
  answered before line after hsplit := by
    have hlength := congrArg List.length hsplit
    simp [start] at hlength
  seen := rfl
  tallied _ := .start

/-- **One more line** keeps a rehearsal faithful if it is answered as it should be and leaves the
gateway and its layer as it should. -/
theorem Faithful.enter (hs : Faithful inner w deeds s) (line : Line)
    (hanswered : line.Answered inner w s.lines)
    (hseen : w' = inner.after (line.passed? s.lines).toList s.inner)
    (htallied : Tallied (onLayer line.handle.layer s.lines ++ [line.entry]) j) :
    Faithful inner w (deeds ++ [line.deed]) (s.enter line j w') where
  done := by
    show (s.lines ++ [line]).map Line.deed = _
    rw [List.map_append, hs.done]
    rfl
  answered before line' after hsplit := by
    -- The line is the new one, or it was there before.
    rcases concat_eq_append_cons_iff.mp hsplit with ⟨rfl, rfl, -⟩ | ⟨after, hlines, -⟩
    · exact hanswered
    · exact hs.answered before line' after hlines
  seen := by
    show w' = inner.after (passed (s.lines ++ [line])) w
    rw [passed_concat, Gateway.after_append, ← hs.seen, hseen]
  tallied h := by
    show Tallied (onLayer h.layer (s.lines ++ [line]))
      (Function.update s.layers line.handle.layer j h.layer)
    by_cases hlayer : line.handle.layer = h.layer
    · rw [onLayer_concat, if_pos hlayer, ← hlayer, Function.update_self]
      exact htallied
    · rw [onLayer_concat, if_neg hlayer, Function.update_of_ne (Ne.symm hlayer)]
      exact hs.tallied h

/-- A layer treats the next call as what was done on it says. -/
theorem Faithful.injects_iff (hs : Faithful inner w deeds s) {h : Handle} {c : Call} {e : Errno} :
    ((s.layers h.layer).behaviour c.kind).Fails ((s.layers h.layer).count c.kind + 1) e ↔
      Injects s.lines h c e := by
  rw [(hs.tallied h).behaviour, (hs.tallied h).count]
  rfl

theorem Injects.unique {past : List Line} {h : Handle} {c : Call} {e e' : Errno}
    (he : Injects past h c e) (he' : Injects past h c e') : e = e' := by
  have hsame := (Behaviour.injected_eq_some_iff.mpr he).symm.trans
    (Behaviour.injected_eq_some_iff.mpr he')
  exact Option.some.inj hsame

theorem Faithful.call (hs : Faithful inner w deeds s) (h : Handle) (c : Call) :
    Faithful inner w (deeds ++ [(h, .call c)]) (s.act inner h (.call c)) := by
  rw [act]
  -- The chronicle says whether the call is to fail, and the layer agrees with it.
  by_cases hfails : ∃ e, Injects s.lines h c e
  · obtain ⟨e, he⟩ := hfails
    rw [Gateway.injecting_of_fails (hs.injects_iff.mpr he)]
    refine hs.enter ⟨h, .call c (.fail e)⟩ ⟨fun e' he' => ?_, fun hpasses => absurd ⟨e, he⟩ hpasses⟩
      ?_ ((hs.tallied h).call c _)
    · rw [he.unique he']
    · rw [Line.passed?, if_pos ⟨e, he⟩]
      rfl
  · have hpasses : ¬ ∃ e, ((s.layers h.layer).behaviour c.kind).Fails
        ((s.layers h.layer).count c.kind + 1) e := by
      rintro ⟨e, he⟩
      exact hfails ⟨e, hs.injects_iff.mp he⟩
    rw [Gateway.injecting_of_passes hpasses]
    refine hs.enter ⟨h, .call c _⟩ ⟨fun e he => absurd ⟨e, he⟩ hfails, fun _ => ?_⟩ ?_
      ((hs.tallied h).call c _)
    · rw [← hs.seen]
    · rw [Line.passed?, if_neg hfails]
      rfl

/-- Whatever is done through a handle. -/
theorem Faithful.act (hs : Faithful inner w deeds s) (h : Handle) (deed : Deed) :
    Faithful inner w (deeds ++ [(h, deed)]) (s.act inner h deed) := by
  cases deed with
  | call c => exact hs.call h c
  | change k b => exact hs.enter ⟨h, .change k b⟩ trivial rfl ((hs.tallied h).change k b)
  | reset => exact hs.enter ⟨h, .reset⟩ trivial rfl (hs.tallied h).reset

theorem faithful_run (inner : Gateway ω) (w : ω) (deeds : List (Handle × Deed)) :
    Faithful inner w deeds (run inner w deeds) := by
  induction deeds using List.reverseRecOn with
  | nil => exact faithful_start inner w
  | append_singleton deeds d hdeeds =>
    rw [run, List.foldl_append]
    exact hdeeds.act d.1 d.2

end Step

/-! ## Somebody who watches -/

/-- The rehearsal without the list of what reached the gateway. -/
def unwatched (s : Rehearsal (List Call × ω)) : Rehearsal ω := ⟨s.lines, s.layers, s.inner.2⟩

/-- To watch the gateway makes no difference. -/
theorem unwatched_act (inner : Gateway ω) (s : Rehearsal (List Call × ω)) (h : Handle)
    (deed : Deed) : (s.act inner.watched h deed).unwatched = s.unwatched.act inner h deed := by
  cases deed with
  | call c =>
    by_cases hfails : ∃ e, ((s.layers h.layer).behaviour c.kind).Fails
        ((s.layers h.layer).count c.kind + 1) e
    · obtain ⟨e, he⟩ := hfails
      simp only [act, unwatched, Gateway.injecting_of_fails he]
      rfl
    · simp only [act, unwatched, Gateway.injecting_of_passes hfails]
      rfl
  | change k b => rfl
  | reset => rfl

theorem unwatched_run (inner : Gateway ω) (w : ω) (deeds : List (Handle × Deed)) :
    (run inner.watched ([], w) deeds).unwatched = run inner w deeds := by
  induction deeds using List.reverseRecOn with
  | nil => rfl
  | append_singleton deeds d hdeeds =>
    rw [run, run, List.foldl_append, List.foldl_append, ← run, ← run, ← hdeeds]
    exact unwatched_act inner _ d.1 d.2

/-- **Faithful filters.** Whatever is done through handles of layers in front of a gateway, a call
fails exactly if it was to fail, and the gateway gets to see the other calls, in order, and no more;
what the layers count and record is what was done on them since the last reset. -/
theorem filters_faithfully (inner : Gateway ω) (w : ω) (deeds : List (Handle × Deed)) :
    Faithful inner w deeds (run inner w deeds) ∧
    (run inner.watched ([], w) deeds).unwatched = run inner w deeds ∧
    (run inner.watched ([], w) deeds).inner.1 = passed (run inner w deeds).lines := by
  have hsame := unwatched_run inner w deeds
  refine ⟨faithful_run inner w deeds, hsame, ?_⟩
  rw [(faithful_run inner.watched ([], w) deeds).seen, Gateway.after_watched, ← hsame]
  rfl

/-- Two handles of one layer and one of another. The first opening through the first layer is to
fail; after the reset that is the opening of `c`. -/
def scene : List (Handle × Deed) :=
  [(⟨0, 0⟩, .change .shmOpen (.failNth 1 .eexist)), (⟨0, 1⟩, .call (.shmOpen "a" 194 384)),
   (⟨1, 0⟩, .call (.shmOpen "b" 194 384)), (⟨0, 0⟩, .call (.shmOpen "a" 194 384)),
   (⟨0, 1⟩, .call (.close 100)), (⟨0, 0⟩, .reset), (⟨0, 1⟩, .call (.shmOpen "c" 194 384)),
   (⟨0, 0⟩, .call (.close 101)), (⟨0, 1⟩, .call (.close 101))]

example :
    let s := run Scripted.perform (.start [] 1 []) scene
    passed s.lines =
      [.shmOpen "b" 194 384, .shmOpen "a" 194 384, .close 100, .close 101, .close 101] ∧
    (s.layers 0).count .shmOpen = 1 ∧ (s.layers 0).count .close = 2 ∧
    (s.layers 0).opened = [] ∧ (s.layers 0).closed = [101] ∧ (s.layers 1).opened = ["b"] := by
  decide +kernel

end Rehearsal

end SharedPages
