import SharedPages.Gateway.Layer

/-!
# Playing operations against a gateway

A gateway is a host that knows nothing but calls: it has no random bits, its clock
stands still, and entries of the journal leave it as it is. Proved here, for every
gateway:

* `run_bind`: a sequence of operations is played one after the other, and ends with
  the first that does not return;
* `run_call`, `run_perform`, `run_note`, `run_noteAll`: what each way of asking comes to.

Against any host:

* `run_issue`, `run_ask`, `run_remark`, …: the same, where the host knows more than calls;
* `run_onFailure`: an operation that does not return is followed by its clean-up.
-/

namespace SharedPages

variable {ω σ ε δ α β γ : Type}

/-- A gateway as a host. -/
def Gateway.host (g : Gateway ω) : Host ω where
  answer
    | .call c, w => g c w
    | .draw, w => (none, w)
    | .clock, w => (0, w)
    | .release _, w => ((), w)
    | .duplicate _, w => (.error .einval, w)
    | .note _, w => ((), w)

/-- The event of an entry of the journal. -/
def Journal.Entry.event (entry : Journal.Entry) : Event := ⟨.note entry, ()⟩

/-- The event of a call. -/
def Call.event (c : Call) (answer : c.Answer) : Event := ⟨.call c, answer⟩

/-- The event is a call that was answered by a panic. -/
def Event.isPanic : Event → Bool
  | ⟨.call _, .panic _⟩ => true
  | _ => false

/-- The outcome of a call whose failure is looked at instead of being passed on. -/
@[simp]
def Outcome.caught : Outcome ε α → Outcome δ (Except ε α)
  | ok a => .ok (.ok a)
  | fail e => .ok (.error e)
  | panic text => .panic text

attribute [simp] Outcome.mapError

/-! ## What does not return -/

/-- An operation ends as its part did, which did not return. -/
inductive Outcome.PassedOn (f : ε → δ) : Outcome ε α → Outcome δ β → Prop
  | fail (e : ε) : PassedOn f (.fail e) (.fail (f e))
  | panic (text : String) : PassedOn f (.panic text) (.panic text)

theorem Outcome.PassedOn.isOk {f : ε → δ} {o : Outcome ε α} {o' : Outcome δ β}
    (hpass : Outcome.PassedOn f o o') : o'.isOk = false := by
  cases hpass <;> rfl

theorem Outcome.PassedOn.isOk_part {f : ε → δ} {o : Outcome ε α} {o' : Outcome δ β}
    (hpass : Outcome.PassedOn f o o') : o.isOk = false := by
  cases hpass <;> rfl

theorem Outcome.PassedOn.eq_fail {f : ε → δ} {o : Outcome ε α} {o' : Outcome δ β} {error : δ}
    (hpass : Outcome.PassedOn f o o') (herror : o' = .fail error) :
    ∃ e, o = .fail e ∧ error = f e := by
  cases hpass with
  | fail e => exact ⟨e, rfl, (Outcome.fail.inj herror).symm⟩
  | panic text => cases herror

theorem Outcome.PassedOn.mapError_eq {f : ε → δ} {o : Outcome ε α} {o' : Outcome δ α}
    (hpass : Outcome.PassedOn f o o') : o.mapError f = o' := by
  cases hpass <;> rfl

theorem Outcome.PassedOn.mapError {o : Outcome ε α} {o' : Outcome ε β}
    (hpass : Outcome.PassedOn id o o') (f : ε → δ) : Outcome.PassedOn f o (o'.mapError f) := by
  cases hpass with
  | fail e => exact .fail e
  | panic text => exact .panic text

/-- An outcome either is a value or is passed on. -/
theorem Outcome.ok_or_passedOn (f : ε → δ) (o : Outcome ε α) :
    (∃ a, o = .ok a) ∨ ∃ o' : Outcome δ β, Outcome.PassedOn f o o' := by
  cases o with
  | ok a => exact Or.inl ⟨a, rfl⟩
  | fail e => exact Or.inr ⟨_, .fail e⟩
  | panic text => exact Or.inr ⟨_, .panic text⟩

/-- The outcome behind a clean-up: what it had been before, unless the clean-up did not return. -/
def Outcome.behind (cleanUp : Outcome ε Unit) (o : Outcome ε α) : Outcome ε α :=
  match cleanUp with
  | .ok _ => o
  | .fail e => .fail e
  | .panic text => .panic text

theorem Outcome.ne_ok {o : Outcome ε α} {a : α} (ho : o.isOk = false) : o ≠ .ok a := by
  rintro rfl
  cases ho

theorem Outcome.isOk_behind {cleanUp : Outcome ε Unit} {o : Outcome ε α} (ho : o.isOk = false) :
    (cleanUp.behind o).isOk = false := by
  cases cleanUp with
  | ok _ => exact ho
  | fail e => rfl
  | panic text => rfl

/-! ## Sequences -/

/-- Go on with what an operation returned; otherwise end as it did. -/
def Played.andThen (p : Played ω (Outcome ε α × σ))
    (next : α → σ → ω → Played ω (Outcome ε β × σ)) : Played ω (Outcome ε β × σ) :=
  match p.value with
  | (.ok a, s) => { next a s p.host with events := p.events ++ (next a s p.host).events }
  | (.fail e, s) => ⟨(.fail e, s), p.events, p.host⟩
  | (.panic text, s) => ⟨(.panic text, s), p.events, p.host⟩

section AndThen

variable (next : α → σ → ω → Played ω (Outcome ε β × σ)) (s : σ) (es : List Event) (w : ω)

@[simp] theorem Played.andThen_ok (a : α) :
    Played.andThen ⟨(.ok a, s), es, w⟩ next =
      { next a s w with events := es ++ (next a s w).events } := rfl

@[simp] theorem Played.andThen_ok_nil (a : α) :
    Played.andThen ⟨(.ok a, s), [], w⟩ next = next a s w := rfl

@[simp] theorem Played.andThen_fail (e : ε) :
    Played.andThen ⟨(.fail e, s), es, w⟩ next = ⟨(.fail e, s), es, w⟩ := rfl

@[simp] theorem Played.andThen_panic (text : String) :
    Played.andThen ⟨(.panic text, s), es, w⟩ next = ⟨(.panic text, s), es, w⟩ := rfl

end AndThen

namespace Operation

/-- **Sequences.** The second operation is played on what the first one left. -/
theorem run_bind (h : Host ω) (x : Operation σ ε α) (f : α → Operation σ ε β) (s : σ) (w : ω) :
    ((x >>= f) s).run h w = ((x s).run h w).andThen fun a s w => (f a s).run h w := by
  show (Operation.bind x f s).run h w = _
  rw [Operation.bind, Program.run_bind]
  unfold Played.andThen
  rcases hv : ((x s).run h w).value with ⟨o, t⟩
  cases o with
  | ok a => simp only [hv]
  | fail e => simp [hv, Program.run]
  | panic text => simp [hv, Program.run]

/-! ## Single operations -/

section Single

variable (h : Host ω) (s : σ) (w : ω)

theorem run_pure (a : α) :
    ((pure a : Operation σ ε α) s).run h w = ⟨(.ok a, s), [], w⟩ := rfl

theorem run_get : ((get : Operation σ ε σ) s).run h w = ⟨(.ok s, s), [], w⟩ := rfl

theorem run_modify (f : σ → σ) :
    ((modify f : Operation σ ε Unit) s).run h w = ⟨(.ok (), f s), [], w⟩ := rfl

theorem run_fail (e : ε) :
    ((fail e : Operation σ ε α) s).run h w = ⟨(.fail e, s), [], w⟩ := rfl

theorem run_require (condition : Bool) (e : ε) :
    ((require condition e : Operation σ ε Unit) s).run h w =
      ⟨(if condition then .ok () else .fail e, s), [], w⟩ := by
  cases condition <;> rfl

theorem run_set (t : σ) : ((set t : Operation σ ε Unit) s).run h w = ⟨(.ok (), t), [], w⟩ := rfl

theorem run_leave (o : Outcome ε α) :
    ((leave o : Operation σ ε α) s).run h w = ⟨(o, s), [], w⟩ := rfl

theorem run_ask (r : Request) :
    ((ask r : Operation σ ε r.Answer) s).run h w =
      ⟨(.ok (h.answer r w).1, s), [⟨r, (h.answer r w).1⟩], (h.answer r w).2⟩ := rfl

theorem run_remark (entry : Journal.Entry) :
    ((note entry : Operation σ ε Unit) s).run h w =
      ⟨(.ok (), s), [entry.event], (h.answer (.note entry) w).2⟩ := rfl

theorem run_issue (c : Call) (toError : Errno → ε) :
    ((call c toError : Operation σ ε c.Value) s).run h w =
      ⟨((h.answer (.call c) w).1.mapError toError, s), [c.event (h.answer (.call c) w).1],
        (h.answer (.call c) w).2⟩ := by
  rcases hc : h.answer (.call c) w with ⟨answer, w'⟩
  cases answer <;> simp [call, Program.run, Call.event, hc]

theorem run_issueCaught (c : Call) :
    ((perform c : Operation σ ε (Except Errno c.Value)) s).run h w =
      ⟨((h.answer (.call c) w).1.caught, s), [c.event (h.answer (.call c) w).1],
        (h.answer (.call c) w).2⟩ := by
  rcases hc : h.answer (.call c) w with ⟨answer, w'⟩
  cases answer <;> simp [perform, Program.run, Call.event, hc]

theorem run_attempt (x : Operation σ ε α) :
    ((attempt x : Operation σ δ (Outcome ε α)) s).run h w =
      let p := (x s).run h w
      ⟨(.ok p.value.1, p.value.2), p.events, p.host⟩ := by
  simp [attempt, Program.run_bind, Program.run]

theorem run_mapError (f : ε → δ) (x : Operation σ ε α) :
    ((mapError f x : Operation σ δ α) s).run h w =
      let p := (x s).run h w
      ⟨(p.value.1.mapError f, p.value.2), p.events, p.host⟩ := by
  simp [mapError, Program.run_bind, Program.run]

variable (g : Gateway ω)

theorem run_note (entry : Journal.Entry) :
    ((note entry : Operation σ ε Unit) s).run g.host w = ⟨(.ok (), s), [entry.event], w⟩ := rfl

theorem run_noteAll (entries : List Journal.Entry) :
    ((noteAll entries : Operation σ ε Unit) s).run g.host w =
      ⟨(.ok (), s), entries.map Journal.Entry.event, w⟩ := by
  induction entries with
  | nil => rfl
  | cons entry entries ih => simp [noteAll, run_bind, run_note, ih]

theorem run_call (c : Call) (toError : Errno → ε) :
    ((call c toError : Operation σ ε c.Value) s).run g.host w =
      ⟨((g c w).1.mapError toError, s), [c.event (g c w).1], (g c w).2⟩ :=
  run_issue g.host s w c toError

theorem run_perform (c : Call) :
    ((perform c : Operation σ ε (Except Errno c.Value)) s).run g.host w =
      ⟨((g c w).1.caught, s), [c.event (g c w).1], (g c w).2⟩ :=
  run_issueCaught g.host s w c

end Single

/-! ## Clean-ups -/

theorem run_onFailure_of_ok {h : Host ω} {x : Operation σ ε α} {cleanUp : Operation σ ε Unit}
    {s s' : σ} {w w' : ω} {a : α} {es : List Event} (hx : (x s).run h w = ⟨(.ok a, s'), es, w'⟩) :
    (onFailure x cleanUp s).run h w = ⟨(.ok a, s'), es, w'⟩ := by
  simp [onFailure, run_bind, run_attempt, hx, run_pure]

theorem run_onFailure {h : Host ω} {x : Operation σ ε α} {cleanUp : Operation σ ε Unit}
    {s s' s'' : σ} {w w' w'' : ω} {o : Outcome ε α} {u : Outcome ε Unit} {es es' : List Event}
    (hx : (x s).run h w = ⟨(o, s'), es, w'⟩) (ho : o.isOk = false)
    (hclean : (cleanUp s').run h w' = ⟨(u, s''), es', w''⟩) :
    (onFailure x cleanUp s).run h w = ⟨(u.behind o, s''), es ++ es', w''⟩ := by
  rw [onFailure, run_bind, run_attempt, hx]
  cases o with
  | ok a => cases ho
  | fail e => cases u <;> simp [run_bind, hclean, run_leave, Outcome.behind]
  | panic text => cases u <;> simp [run_bind, hclean, run_leave, Outcome.behind]

end Operation

end SharedPages
