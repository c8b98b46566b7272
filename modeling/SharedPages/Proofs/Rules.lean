import SharedPages.Proofs.Play

/-!
# A logic of operations

`Leads h before x after halted` says that the operation `x`, begun against the host `h` where
`before` holds, ends where `after` holds of its value, or, if it returns none, where `halted`
holds. Proved here:

* `leads_bind`, `leads_attempt`, `leads_mapError`: the rules for putting operations together;
* `leads_pure`, `leads_modify`, `leads_ask`: the rules for single operations;
* `run_map`, `run_within`: what an operation comes to whose value is given another form, or that
  works on a part of the state.
-/

namespace SharedPages

variable {ω σ τ ε δ α β : Type}

/-- What is known of an outcome: `after` of its value, or `halted` if it has none. -/
def Outcome.Meets (after : α → Prop) (halted : Prop) : Outcome ε α → Prop
  | .ok a => after a
  | .fail _ => halted
  | .panic _ => halted

theorem Outcome.meets_of_not_ok {after : α → Prop} {halted : Prop} {o : Outcome ε α}
    (ho : o.isOk = false) (h : halted) : o.Meets after halted := by
  cases o with
  | ok a => cases ho
  | fail e => exact h
  | panic text => exact h

/-- What holds in either case. -/
theorem Outcome.meets_same {p : Prop} {o : Outcome ε α} (h : o.Meets (fun _ => p) p) : p := by
  cases o <;> exact h

theorem Outcome.meets_mapError {after : α → Prop} {halted : Prop} {o : Outcome ε α} (f : ε → δ)
    (h : o.Meets after halted) : (o.mapError f).Meets after halted := by
  cases o <;> exact h

theorem Outcome.isOk_map (f : α → β) (o : Outcome ε α) : (o.map f).isOk = o.isOk := by
  cases o <;> rfl

theorem Outcome.eq_fail_of_map {o : Outcome ε α} {f : α → β} {e : ε} (h : o.map f = .fail e) :
    o = .fail e := by
  cases o with
  | ok a => cases h
  | fail e' => exact congrArg Outcome.fail (Outcome.fail.inj h)
  | panic text => cases h

theorem Outcome.eq_fail_of_mapError {o : Outcome ε α} {f : ε → δ} {e : δ}
    (h : o.mapError f = .fail e) : ∃ e', o = .fail e' ∧ f e' = e := by
  cases o with
  | ok a => cases h
  | fail e' => exact ⟨e', rfl, Outcome.fail.inj h⟩
  | panic text => cases h

namespace Operation

/-- Begun where `before` holds, the operation ends where `after` holds of its value, or, without
a value, where `halted` holds. -/
def Leads (h : Host ω) (before : σ → ω → Prop) (x : Operation σ ε α) (after : α → σ → ω → Prop)
    (halted : σ → ω → Prop) : Prop :=
  ∀ s w, before s w →
    let p := (x s).run h w
    p.value.1.Meets (fun a => after a p.value.2 p.host) (halted p.value.2 p.host)

section Rules

variable {h : Host ω} {before : σ → ω → Prop} {after : α → σ → ω → Prop} {halted : σ → ω → Prop}

/-- **Sequences.** The second operation begins where the first one has led. -/
theorem leads_bind {middle : β → σ → ω → Prop} {x : Operation σ ε β} {f : β → Operation σ ε α}
    (hx : Leads h before x middle halted) (hf : ∀ b, Leads h (middle b) (f b) after halted) :
    Leads h before (x >>= f) after halted := by
  intro s w hs
  have hfirst := hx s w hs
  rw [run_bind]
  generalize (x s).run h w = p at hfirst ⊢
  rcases p with ⟨⟨o, t⟩, es, w₁⟩
  cases o with
  | ok b => exact hf b t w₁ hfirst
  | fail e => exact hfirst
  | panic text => exact hfirst

theorem leads_weaken {before' : σ → ω → Prop} {x : Operation σ ε α}
    (hx : Leads h before x after halted) (hbefore : ∀ s w, before' s w → before s w) :
    Leads h before' x after halted :=
  fun s w hs => hx s w (hbefore s w hs)

theorem leads_pure (a : α) (ha : ∀ s w, before s w → after a s w) :
    Leads h before (pure a : Operation σ ε α) after halted :=
  fun s w hs => ha s w hs

theorem leads_modify {after : Unit → σ → ω → Prop} {g : σ → σ}
    (hg : ∀ s w, before s w → after () (g s) w) :
    Leads h before (modify g : Operation σ ε Unit) after halted :=
  fun s w hs => hg s w hs

theorem leads_ask {r : Request} {after : r.Answer → σ → ω → Prop}
    (hr : ∀ s w, before s w → after (h.answer r w).1 s (h.answer r w).2) :
    Leads h before (ask r : Operation σ ε r.Answer) after halted :=
  fun s w hs => hr s w hs

theorem leads_mapError {x : Operation σ ε α} (f : ε → δ) (hx : Leads h before x after halted) :
    Leads h before (mapError f x) after halted := by
  intro s w hs
  rw [run_mapError]
  exact Outcome.meets_mapError f (hx s w hs)

/-- An operation that is only tried returns in any case. -/
theorem leads_attempt {x : Operation σ ε α} {halted' : σ → ω → Prop}
    (hx : Leads h before x after halted) :
    Leads h before (attempt x : Operation σ δ (Outcome ε α))
      (fun o s w => o.Meets (fun a => after a s w) (halted s w)) halted' := by
  intro s w hs
  rw [run_attempt]
  exact hx s w hs

end Rules

/-! ## Parts and images -/

/-- An operation whose value is given another form. -/
theorem run_map (h : Host ω) (f : α → β) (x : Operation σ ε α) (s : σ) (w : ω) :
    ((f <$> x) s).run h w =
      let p := (x s).run h w
      ⟨(p.value.1.map f, p.value.2), p.events, p.host⟩ := by
  show ((x >>= fun a => pure (f a)) s).run h w = _
  rw [run_bind]
  rcases (x s).run h w with ⟨⟨o, t⟩, es, w'⟩
  cases o <;> simp [run_pure, Outcome.map]

theorem run_within (h : Host ω) (part : τ → σ) (put : σ → τ → τ) (x : Operation σ ε α) (t : τ)
    (w : ω) :
    (within part put x t).run h w =
      let p := (x (part t)).run h w
      ⟨(p.value.1, put p.value.2 t), p.events, p.host⟩ := by
  simp [within, Program.run_bind, Program.run]

end Operation

end SharedPages
