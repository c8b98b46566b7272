import SharedPages.Proofs.Play

/-!
# Gateways in their surroundings

A gateway answers calls. Random bits, the clock, the owners of descriptors and second descriptors
come from elsewhere; an entry of the journal leaves everything as it is. An operation that asks
for calls only, and remarks on them, does not notice what is elsewhere. Proved here:

* `run_congr`: hosts that answer alike what a program asks for play it alike;
* `asks_bind`, `asks_call`, `asks_within`, …: what operations ask for;
* `run_hostIn`: in any surroundings, an operation that asks for calls only is played as if there
  were nothing but the gateway.
-/

namespace SharedPages

variable {ω σ τ ε δ α β : Type}

/-- Where a system gets what is no call. -/
structure Sources (ω : Type) where
  draw : ω → Option UInt64 × ω
  clock : ω → UInt64 × ω
  release : Fd → ω → ω
  duplicate : Fd → ω → Except Errno Fd × ω

/-- A gateway and what surrounds it, as a host. -/
def Gateway.hostIn (g : Gateway ω) (src : Sources ω) : Host ω where
  answer
    | .call c, w => g c w
    | .draw, w => src.draw w
    | .clock, w => src.clock w
    | .release fd, w => ((), src.release fd w)
    | .duplicate fd, w => src.duplicate fd w
    | .note _, w => ((), w)

/-! ## What programs ask for -/

/-- Whatever the answers are, the program asks only for what is allowed. -/
def Program.Asks (allowed : Request → Prop) : Program α → Prop
  | .done _ => True
  | .ask r next => allowed r ∧ ∀ answer, (next answer).Asks allowed

namespace Program

variable {allowed : Request → Prop}

theorem asks_bind {p : Program α} {f : α → Program β} (hp : p.Asks allowed)
    (hf : ∀ a, (f a).Asks allowed) : (p.bind f).Asks allowed := by
  induction p with
  | done a => exact hf a
  | ask r next ih => exact ⟨hp.1, fun answer => ih answer (hp.2 answer)⟩

/-- **Hosts.** Those that answer alike what a program asks for play it alike. -/
theorem run_congr {h h' : Host ω} {p : Program α} (hp : p.Asks allowed)
    (halike : ∀ r w, allowed r → h.answer r w = h'.answer r w) (w : ω) :
    p.run h w = p.run h' w := by
  induction p generalizing w with
  | done a => rfl
  | ask r next ih =>
    have hfirst : h.answer r w = h'.answer r w := halike r w hp.1
    simp only [run, hfirst, ih _ (hp.2 _)]

end Program

namespace Operation

/-- Begun in any state, the operation asks only for what is allowed. -/
def Asks (allowed : Request → Prop) (x : Operation σ ε α) : Prop := ∀ s, (x s).Asks allowed

section Rules

variable {allowed : Request → Prop}

theorem asks_pure (a : α) : Asks allowed (pure a : Operation σ ε α) := fun _ => trivial

theorem asks_get : Asks allowed (get : Operation σ ε σ) := fun _ => trivial

theorem asks_modify (f : σ → σ) : Asks allowed (modify f : Operation σ ε Unit) := fun _ => trivial

theorem asks_fail (e : ε) : Asks allowed (fail e : Operation σ ε α) := fun _ => trivial

theorem asks_require (condition : Bool) (e : ε) :
    Asks allowed (require condition e : Operation σ ε Unit) := by
  cases condition
  · exact asks_fail e
  · exact asks_pure ()

theorem asks_bind {x : Operation σ ε α} {f : α → Operation σ ε β} (hx : Asks allowed x)
    (hf : ∀ a, Asks allowed (f a)) : Asks allowed (x >>= f) := by
  intro s
  refine Program.asks_bind (hx s) fun ⟨o, s'⟩ => ?_
  cases o with
  | ok a => exact hf a s'
  | fail e => trivial
  | panic text => trivial

theorem asks_call {c : Call} (hc : allowed (.call c)) (toError : Errno → ε) :
    Asks allowed (call c toError : Operation σ ε c.Value) := by
  intro s
  refine ⟨hc, fun answer => ?_⟩
  cases answer <;> trivial

theorem asks_perform {c : Call} (hc : allowed (.call c)) :
    Asks allowed (perform c : Operation σ ε (Except Errno c.Value)) := by
  intro s
  refine ⟨hc, fun answer => ?_⟩
  cases answer <;> trivial

theorem asks_note {entry : Journal.Entry} (hentry : allowed (.note entry)) :
    Asks allowed (note entry : Operation σ ε Unit) := fun _ => ⟨hentry, fun _ => trivial⟩

theorem asks_noteAll {entries : List Journal.Entry}
    (hentries : ∀ entry ∈ entries, allowed (.note entry)) :
    Asks allowed (noteAll entries : Operation σ ε Unit) := by
  induction entries with
  | nil => exact asks_pure ()
  | cons entry entries ih =>
    refine asks_bind (asks_note (hentries entry List.mem_cons_self)) fun _ => ih fun entry' h => ?_
    exact hentries entry' (List.mem_cons_of_mem _ h)

theorem asks_mapError {x : Operation σ ε α} (f : ε → δ) (hx : Asks allowed x) :
    Asks allowed (mapError f x) :=
  fun s => Program.asks_bind (hx s) fun _ => trivial

theorem asks_within {x : Operation σ ε α} (part : τ → σ) (put : σ → τ → τ) (hx : Asks allowed x) :
    Asks allowed (within part put x) :=
  fun t => Program.asks_bind (hx (part t)) fun _ => trivial

end Rules

end Operation

/-! ## Calls only -/

/-- The request is a call or an entry of the journal. -/
def Request.IsPlain : Request → Prop
  | .call _ => True
  | .note _ => True
  | _ => False

/-- **Surroundings.** An operation that asks for calls only is played alike in all of them. -/
theorem Operation.run_hostIn {x : Operation σ ε α} (hx : x.Asks Request.IsPlain) (g : Gateway ω)
    (src : Sources ω) (s : σ) (w : ω) : (x s).run (g.hostIn src) w = (x s).run g.host w := by
  refine Program.run_congr (hx s) (fun r w hr => ?_) w
  cases r with
  | call c => rfl
  | note entry => rfl
  | _ => cases hr

end SharedPages
