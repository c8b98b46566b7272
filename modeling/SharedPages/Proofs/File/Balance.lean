import Mathlib.Data.List.Infix
import SharedPages.Proofs.File.World
import SharedPages.Proofs.Rules

/-!
# A logic of descriptors

`Balances hand own x` says that the operation `x`, begun with the descriptors `hand` in hand, ends
with those in hand that its value owns, and has closed the others while they were open. Proved
here:

* `Balanced.opened`, `Balanced.closed`: a descriptor comes into hand and leaves it;
* `balances_bind`, `balances_attempt`, `balances_within`, …: the rules for putting operations
  together.
-/

namespace SharedPages

/-- Whether the event removed a name, if it was to remove one. -/
def Event.unlinked? : Event → Option Bool
  | ⟨.call (.shmUnlink _), answer⟩ => some answer.isOk
  | _ => none

/-- Two calls that are to remove names fail, one right after the other. -/
def FailsTwice (es : List Event) : Prop := [false, false] <:+: es.filterMap Event.unlinked?

theorem FailsTwice.append_left {es : List Event} (h : FailsTwice es) (es' : List Event) :
    FailsTwice (es ++ es') := by
  rw [FailsTwice, List.filterMap_append]
  exact h.trans (List.prefix_append _ _).isInfix

theorem FailsTwice.append_right (es : List Event) {es' : List Event} (h : FailsTwice es') :
    FailsTwice (es ++ es') := by
  rw [FailsTwice, List.filterMap_append]
  exact h.trans (List.suffix_append _ _).isInfix

namespace File

open Operation

variable {ω ν σ τ ε δ α β : Type}

/-! ## Balance -/

/-- What is open is what was open at the start and what is owned. Nobody owns anything twice, or
anything that was open at the start. -/
structure Balanced (start s : World ν) (owned : List Fd) : Prop where
  isOpen_iff : ∀ fd, s.IsOpen fd ↔ start.IsOpen fd ∨ fd ∈ owned
  nodup : owned.Nodup
  foreign : ∀ fd ∈ owned, ¬ start.IsOpen fd

section Balanced

variable {start s s' : World ν} {owned owned' : List Fd} {fd : Fd}

theorem balanced_start : Balanced s s [] := ⟨by simp, List.nodup_nil, by simp⟩

theorem Balanced.perm (hb : Balanced start s owned) (hperm : owned.Perm owned') :
    Balanced start s owned' where
  isOpen_iff fd := by rw [hb.isOpen_iff, hperm.mem_iff]
  nodup := hperm.nodup hb.nodup
  foreign fd hfd := hb.foreign fd (hperm.mem_iff.mpr hfd)

theorem Balanced.congr (hb : Balanced start s owned) (hopen : ∀ fd, s'.IsOpen fd ↔ s.IsOpen fd) :
    Balanced start s' owned :=
  ⟨fun fd => (hopen fd).trans (hb.isOpen_iff fd), hb.nodup, hb.foreign⟩

theorem Balanced.isOpen (hb : Balanced start s owned) (hfd : fd ∈ owned) : s.IsOpen fd :=
  (hb.isOpen_iff fd).mpr (Or.inr hfd)

/-- A new descriptor is owned. -/
theorem Balanced.opened (hb : Balanced start s owned) (hnew : s.flags fd = none) (given : Int32) :
    Balanced start (s.put fd (some given)) (fd :: owned) := by
  have hclosed : ¬ s.IsOpen fd := fun hopen => hopen hnew
  rw [hb.isOpen_iff, not_or] at hclosed
  refine ⟨fun fd' => ?_, List.nodup_cons.mpr ⟨hclosed.2, hb.nodup⟩, fun fd' hfd' => ?_⟩
  · rw [World.isOpen_put_some, hb.isOpen_iff, List.mem_cons, or_left_comm]
  · rcases List.mem_cons.mp hfd' with rfl | hfd'
    · exact hclosed.1
    · exact hb.foreign fd' hfd'

/-- A descriptor is closed by its owner. -/
theorem Balanced.closed (hb : Balanced start s (fd :: owned)) :
    Balanced start (s.put fd none) owned := by
  obtain ⟨hfd, hnodup⟩ := List.nodup_cons.mp hb.nodup
  refine ⟨fun fd' => ?_, hnodup, fun fd' hfd' => hb.foreign fd' (List.mem_cons_of_mem _ hfd')⟩
  rw [World.isOpen_put_none, hb.isOpen_iff, List.mem_cons]
  constructor
  · rintro ⟨hne, hstart | heq | howned⟩
    · exact Or.inl hstart
    · exact absurd heq hne
    · exact Or.inr howned
  · rintro (hstart | howned)
    · refine ⟨?_, Or.inl hstart⟩
      rintro rfl
      exact hb.foreign fd' List.mem_cons_self hstart
    · refine ⟨?_, Or.inr (Or.inr howned)⟩
      rintro rfl
      exact hfd howned

end Balanced

/-! ## Care -/

variable {h : Host ω} {view : ω → World ν} {object : String → ν}

/-- What is to be closed is open at that moment. -/
def Careful (h : Host ω) (view : ω → World ν) (w : ω) (es : List Event) : Prop :=
  ∀ m ∈ h.replay w es, ∀ fd, m.request.closing? = some fd → (view m.before).IsOpen fd

theorem careful_append {w : ω} {es es' : List Event} (hes : Careful h view w es)
    (hes' : Careful h view (h.after w es) es') : Careful h view w (es ++ es') := by
  intro m hm
  rw [Host.replay_append] at hm
  rcases List.mem_append.mp hm with hm | hm
  · exact hes m hm
  · exact hes' m hm

theorem careful_cons {w : ω} {e : Event} {es : List Event}
    (he : ∀ fd, e.request.closing? = some fd → (view w).IsOpen fd)
    (hes : Careful h view (h.answer e.request w).2 es) : Careful h view w (e :: es) := by
  intro m hm
  rw [Host.replay_cons] at hm
  rcases List.mem_cons.mp hm with rfl | hm
  · exact he
  · exact hes m hm

theorem careful_nil (w : ω) : Careful h view w [] := by
  intro m hm
  cases hm

theorem careful_of_closing_eq_nil {w : ω} {es : List Event}
    (hes : es.filterMap (·.request.closing?) = []) : Careful h view w es := by
  induction es generalizing w with
  | nil => exact careful_nil w
  | cons e es ih =>
    rw [List.filterMap_eq_nil_iff, List.forall_mem_cons] at hes
    refine careful_cons (fun fd hfd => ?_) (ih (List.filterMap_eq_nil_iff.mpr hes.2))
    rw [hes.1] at hfd
    cases hfd

/-! ## The balance of operations -/

/-- What an outcome owns, if values own something. -/
def owns (own : α → List Fd) : Outcome ε α → List Fd
  | .ok a => own a
  | _ => []

theorem owns_of_not_ok (own : α → List Fd) {o : Outcome ε α} (ho : o.isOk = false) :
    owns own o = [] := by
  cases o with
  | ok a => cases ho
  | fail e => rfl
  | panic text => rfl

theorem owns_nothing (o : Outcome ε α) : owns (fun _ => []) o = [] := by
  cases o <;> rfl

/-- What holds after an operation, begun at a balance: the value and the state own what is open,
what was closed was open, and the names are what they were unless two removals failed in turn. -/
structure Turn (h : Host ω) (view : ω → World ν) (start : World ν) (held : σ → List Fd)
    (own : α → List Fd) (w : ω) (p : Played ω (Outcome ε α × σ)) : Prop where
  balanced : Balanced start (view p.host) (owns own p.value.1 ++ held p.value.2)
  careful : Careful h view w p.events
  names : ¬ FailsTwice p.events → (view p.host).names = (view w).names

/-- Begun with some descriptors in hand, the operation keeps the balance, unless it panics. -/
def Balances (h : Host ω) (view : ω → World ν) (start : World ν) (held : σ → List Fd)
    (hand : List Fd) (own : α → List Fd) (x : Operation σ ε α) : Prop :=
  ∀ s w, Balanced start (view w) (hand ++ held s) →
    (∀ event ∈ ((x s).run h w).events, event.isPanic = false) →
      Turn h view start held own w ((x s).run h w)

section Rules

variable {start : World ν} {held : σ → List Fd} {hand : List Fd} {own : α → List Fd}

/-- **Sequences.** What the first operation leaves is in the hand of the second. -/
theorem balances_bind {own' : β → List Fd} {x : Operation σ ε α} {f : α → Operation σ ε β}
    (hx : Balances h view start held hand own x)
    (hf : ∀ a, Balances h view start held (own a) own' (f a)) :
    Balances h view start held hand own' (x >>= f) := by
  intro s w hb hcalm
  have hafter := Program.after_events h (x s) w
  have hturn := hx s w hb
  rw [run_bind] at hcalm ⊢
  generalize (x s).run h w = p at hafter hturn hcalm ⊢
  rcases p with ⟨⟨o, t⟩, es, w₁⟩
  cases o with
  | ok a =>
    rw [Played.andThen_ok] at hcalm ⊢
    have hturn₁ := hturn fun event hevent => hcalm event (List.mem_append_left _ hevent)
    have hturn₂ := hf a t w₁ hturn₁.balanced fun event hevent =>
      hcalm event (List.mem_append_right _ hevent)
    -- What the second operation closes, it closes in the states that the first one leads to.
    have hcareful₂ : Careful h view (h.after w es) ((f a t).run h w₁).events :=
      hafter.symm ▸ hturn₂.careful
    refine ⟨hturn₂.balanced, careful_append hturn₁.careful hcareful₂, fun hno => ?_⟩
    have hnames₁ := hturn₁.names fun htwice => hno (htwice.append_left _)
    have hnames₂ := hturn₂.names fun htwice => hno (htwice.append_right _)
    exact hnames₂.trans hnames₁
  | fail e =>
    rw [Played.andThen_fail] at hcalm ⊢
    exact ⟨(hturn hcalm).balanced, (hturn hcalm).careful, (hturn hcalm).names⟩
  | panic text =>
    rw [Played.andThen_panic] at hcalm ⊢
    exact ⟨(hturn hcalm).balanced, (hturn hcalm).careful, (hturn hcalm).names⟩

theorem balances_pure (a : α) (hown : hand = own a) :
    Balances h view start held hand own (pure a : Operation σ ε α) := by
  subst hown
  intro s w hb _
  exact ⟨hb, careful_nil w, fun _ => rfl⟩

theorem balances_fail (e : ε) :
    Balances h view start held [] own (fail e : Operation σ ε α) := by
  intro s w hb _
  exact ⟨hb, careful_nil w, fun _ => rfl⟩

/-- A change of the state passes descriptors from hand to hand. -/
theorem balances_modify {own : Unit → List Fd} {g : σ → σ}
    (hperm : ∀ s, (hand ++ held s).Perm (own () ++ held (g s))) :
    Balances h view start held hand own (modify g : Operation σ ε Unit) := by
  intro s w hb _
  exact ⟨hb.perm (hperm s), careful_nil w, fun _ => rfl⟩

theorem balances_mapError {x : Operation σ ε α} (f : ε → δ)
    (hx : Balances h view start held hand own x) :
    Balances h view start held hand own (mapError f x) := by
  intro s w hb hcalm
  rw [run_mapError] at hcalm ⊢
  obtain ⟨hbalanced, hcareful, hnames⟩ := hx s w hb hcalm
  refine ⟨?_, hcareful, hnames⟩
  generalize (x s).run h w = p at hbalanced ⊢
  rcases p with ⟨⟨o, t⟩, es, w₁⟩
  cases o <;> exact hbalanced

theorem balances_attempt {x : Operation σ ε α} (hx : Balances h view start held hand own x) :
    Balances h view start held hand (owns own)
      (attempt x : Operation σ δ (Outcome ε α)) := by
  intro s w hb hcalm
  rw [run_attempt] at hcalm ⊢
  exact ⟨(hx s w hb hcalm).balanced, (hx s w hb hcalm).careful, (hx s w hb hcalm).names⟩

/-- An operation on a part of the state keeps what the rest holds. -/
theorem balances_within {held : τ → List Fd} {part : τ → σ} {put : σ → τ → τ}
    {x : Operation σ ε α} (hput : ∀ s t, held (put s t) = held t)
    (hx : ∀ rest, Balances h view start (fun _ => rest) hand own x) :
    Balances h view start held hand own (within part put x) := by
  intro t w hb hcalm
  rw [run_within] at hcalm ⊢
  obtain ⟨hbalanced, hcareful, hnames⟩ := hx (held t) (part t) w hb hcalm
  exact ⟨by rw [hput]; exact hbalanced, hcareful, hnames⟩

/-- An owner closes a descriptor that is in hand. -/
theorem balances_release (sys : DescriptorSystem h view object) (fd : Fd) :
    Balances h view start held [fd] (fun _ => [])
      (ask (.release fd) : Operation σ ε (Request.release fd).Answer) := by
  intro s w hb _
  have hworld := sys.released fd w
  rw [run_ask]
  refine ⟨?_, careful_cons (fun fd' hfd' => ?_) (careful_nil _), fun _ => by rw [hworld]; rfl⟩
  · rw [hworld]
    exact hb.closed
  · obtain rfl : fd = fd' := Option.some.inj hfd'
    exact hb.isOpen List.mem_cons_self

end Rules

end File

end SharedPages
