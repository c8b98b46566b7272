import SharedPages.Proofs.File.Serials

/-!
# The attempts of a creation

What the random bits are, what the clock shows and how each attempt to open a candidate is answered
is fixed beforehand, in any way; all other calls are answered by any system. Proved here:

* `ExclusiveEnd.foretold`: the search ends with the first answer that is not that the name is
  taken, or after its last attempt, and each attempt draws once and opens the next candidate;
* `FinishEnd.carriedOn`: what was opened is what is unlinked and has its flag set;
* `attempts_of_create`: a creation makes as many attempts as that takes, and no more than its bound.
-/

namespace SharedPages.File

open Operation Emulator

variable {ω : Type} {h : Host ω}

/-! ## Forecasts -/

/-- What the system will answer to each drawing of random bits, what the clock will show when bits
are missing, and how each attempt to open an object will be answered. -/
structure Forecast where
  bits : Nat → Option UInt64
  time : Nat → UInt64
  opening : Nat → Outcome Errno Fd

/-- How much of a forecast has come true, and the state of the system that answers the rest. -/
structure Progress (ω : Type) where
  drawn : Nat
  opened : Nat
  rest : ω

namespace Forecast

/-- A system that answers as foretold, and in all other things as the given one. -/
def host (f : Forecast) (h : Host ω) : Host (Progress ω) where
  answer
    | .draw, w => (f.bits w.drawn, { w with drawn := w.drawn + 1 })
    | .clock, w => (f.time (w.drawn - 1), w)
    | .call (.shmOpen _ _ _), w => (f.opening w.opened, { w with opened := w.opened + 1 })
    | r, w =>
      let (answer, rest) := h.answer r w.rest
      (answer, { w with rest := rest })

variable (f : Forecast) (e : Emulator) (name : String)

/-- The bits of an attempt, or the time in their place. -/
def word (i : Nat) : UInt64 := (f.bits i).getD (f.time i)

/-- The candidate of an attempt. -/
def candidate (i : Nat) : String := (e.advancedBy i).proposal name (f.word i)

/-- The calls of so many attempts, from the `i`-th on. -/
def opens (i n : Nat) : List Call := (List.range' i n).map fun j => openCall (f.candidate e name j)

/-- So many attempts find their names taken, from the `i`-th on. -/
def Taken (i n : Nat) : Prop := ∀ j < n, f.opening (i + j) = .fail .eexist

theorem taken_zero (i : Nat) : f.Taken i 0 := fun j hj => absurd hj (Nat.not_lt_zero j)

variable {f} in
theorem Taken.cons {i n : Nat} (hfirst : f.opening i = .fail .eexist)
    (hrest : f.Taken (i + 1) n) : f.Taken i (n + 1) := by
  intro j hj
  cases j with
  | zero => exact hfirst
  | succ j =>
    rw [Nat.add_comm j, ← Nat.add_assoc]
    exact hrest j (Nat.lt_of_succ_lt_succ hj)

/-- What an attempt comes to that is the last one. -/
def object (i : Nat) : Outcome Error Provisional :=
  ((f.opening i).map fun fd => ⟨fd, f.candidate e name i⟩).mapError .create

end Forecast

/-! ## The search -/

/-- Number of drawings of random bits. -/
def draws (es : List Event) : Nat := es.countP fun event => event.request = .draw

@[simp] theorem draws_nil : draws [] = 0 := rfl

@[simp] theorem draws_append (es es' : List Event) : draws (es ++ es') = draws es + draws es' :=
  List.countP_append

@[simp] theorem draws_event (c : Call) (answer : c.Answer) (es : List Event) :
    draws (c.event answer :: es) = draws es := by
  simp [draws]

@[simp] theorem draws_note (entry : Journal.Entry) (es : List Event) :
    draws (entry.event :: es) = draws es := by
  simp [draws]

section Search

variable {f : Forecast} {name : String} {e : Emulator} {w : ω} {left count i j : Nat}

theorem Drawn.foretold {bits : UInt64} {es : List Event} {w' : Progress ω}
    (hdrawn : Drawn (f.host h) ⟨i, j, w⟩ bits es w') :
    bits = f.word i ∧ calls es = [] ∧ draws es = 1 ∧ ∃ rest, w' = ⟨i + 1, j, rest⟩ := by
  cases hdrawn with
  | bits hdraw =>
    obtain ⟨hbits, rfl⟩ := Prod.mk.inj hdraw
    exact ⟨by simp [Forecast.word, hbits], rfl, rfl, w, rfl⟩
  | clock hdraw hnote hclock =>
    obtain ⟨hbits, rfl⟩ := Prod.mk.inj hdraw
    subst hnote
    obtain ⟨htime, rfl⟩ := Prod.mk.inj hclock
    refine ⟨?_, rfl, rfl, _, rfl⟩
    rw [Forecast.word, hbits, ← htime]
    rfl

/-- A search has made so many attempts, from the `i`-th on: for each of them it has drawn once,
opened the next candidate, and used up a serial number. -/
structure Attempted (f : Forecast) (e : Emulator) (name : String) (i n : Nat)
    (p : Played (Progress ω) (Outcome Error Provisional × Emulator)) : Prop where
  calls : calls p.events = f.opens e name i n
  draws : draws p.events = n
  state : p.value.2 = e.advancedBy (i + n)

/-- An attempt is answered as foretold. -/
theorem answered_as_foretold {bits : UInt64} {es : List Event} {w₁ w' : Progress ω}
    {answer : Outcome Errno Fd} {candidate : String}
    (hdrawn : Drawn (f.host h) ⟨i, i, w⟩ bits es w₁)
    (hopen : (f.host h).answer (.call (openCall candidate)) w₁ = (answer, w')) :
    f.opening i = answer ∧ ∃ rest, w' = ⟨i + 1, i + 1, rest⟩ := by
  obtain ⟨-, -, -, rest, rfl⟩ := hdrawn.foretold
  obtain ⟨hanswer, hw'⟩ := Prod.mk.inj hopen
  exact ⟨hanswer, rest, hw'.symm⟩

/-- How a search of at most `left` attempts ends, from the `i`-th on: every name is taken, or it is
decided by the first attempt that finds its name free or cannot tell. -/
inductive Decided (f : Forecast) (e : Emulator) (name : String) (i left : Nat)
    (p : Played (Progress ω) (Outcome Error Provisional × Emulator)) : Prop
  | exhausted (htaken : f.Taken i left) (hattempts : Attempted f e name i left p)
      (hvalue : p.value.1 = .fail (.namesExhausted e.config.maxAttempts))
  | ended (k : Nat) (hk : k < left) (htaken : f.Taken i k)
      (hlast : f.opening (i + k) ≠ .fail .eexist) (hattempts : Attempted f e name i (k + 1) p)
      (hvalue : p.value.1 = f.object e name (i + k))

/-- The last attempt. -/
theorem decided_last {bits : UInt64} {es : List Event} {w₁ w' : Progress ω}
    {answer : Outcome Errno Fd} (hdrawn : Drawn (f.host h) ⟨i, i, w⟩ bits es w₁)
    (hopen : (f.host h).answer (.call (openCall ((e.advancedBy i).proposal name bits))) w₁ =
      (answer, w')) (hlast : answer ≠ .fail .eexist) :
    Decided f e name i (left + 1)
      ⟨((answer.map fun fd => ⟨fd, (e.advancedBy i).proposal name bits⟩).mapError .create,
        (e.advancedBy i).advanced),
       es ++ [(openCall ((e.advancedBy i).proposal name bits)).event answer], w'⟩ := by
  obtain ⟨hanswer, -⟩ := answered_as_foretold hdrawn hopen
  obtain ⟨rfl, hcalls, hdraws, -⟩ := hdrawn.foretold
  subst hanswer
  refine .ended 0 left.succ_pos (f.taken_zero i) hlast ⟨?_, ?_, ?_⟩ rfl
  · simp [hcalls, Forecast.opens, Forecast.candidate]
  · simp [hdraws]
  · exact advanced_advancedBy e i

/-- An attempt that finds its name taken. -/
theorem Decided.cons {bits : UInt64} {es : List Event} {w₁ : Progress ω}
    {p : Played (Progress ω) (Outcome Error Provisional × Emulator)}
    (hdrawn : Drawn (f.host h) ⟨i, i, w⟩ bits es w₁) (hfirst : f.opening i = .fail .eexist)
    (entry : Journal.Entry) (hrest : Decided f e name (i + 1) left p) :
    Decided f e name i (left + 1)
      ⟨p.value, es ++ (openCall ((e.advancedBy i).proposal name bits)).event (.fail .eexist) ::
        entry.event :: p.events, p.host⟩ := by
  obtain ⟨rfl, hcalls, hdraws, -⟩ := hdrawn.foretold
  have attempted {n : Nat} (hattempts : Attempted f e name (i + 1) n p) :
      Attempted f e name i (n + 1)
        ⟨p.value, es ++ (openCall ((e.advancedBy i).proposal name (f.word i))).event
          (.fail .eexist) :: entry.event :: p.events, p.host⟩ := by
    constructor
    · simp [hcalls, hattempts.calls, Forecast.opens, Forecast.candidate, List.range'_succ]
    · simp [hdraws, hattempts.draws, Nat.add_comm]
    · rw [hattempts.state, Nat.add_assoc, Nat.add_comm 1]
  cases hrest with
  | exhausted htaken hattempts hvalue =>
    exact .exhausted (htaken.cons hfirst) (attempted hattempts) hvalue
  | ended k hk htaken hlast hattempts hvalue =>
    rw [Nat.add_assoc, Nat.add_comm 1] at hlast hvalue
    exact .ended (k + 1) (Nat.succ_lt_succ hk) (htaken.cons hfirst) hlast (attempted hattempts)
      hvalue

/-- **The search.** The first answer that is not that the name is taken ends it, if it comes in
time. -/
theorem ExclusiveEnd.foretold {p : Played (Progress ω) (Outcome Error Provisional × Emulator)}
    (hend : ExclusiveEnd (f.host h) name left count (e.advancedBy i) ⟨i, i, w⟩ p) :
    Decided f e name i left p := by
  induction left generalizing count i w p with
  | zero =>
    cases hend
    exact .exhausted (f.taken_zero i) ⟨rfl, rfl, rfl⟩ rfl
  | succ left ih =>
    cases hend with
    | opened hdrawn hopen => exact decided_last hdrawn hopen (by rintro ⟨⟩)
    | failed hdrawn hne hopen =>
      exact decided_last hdrawn hopen fun heq => hne (Outcome.fail.inj heq)
    | panicked hdrawn hopen => exact decided_last hdrawn hopen (by rintro ⟨⟩)
    | taken hdrawn hopen hnote hrest =>
      obtain ⟨hfirst, rest, rfl⟩ := answered_as_foretold hdrawn hopen
      subst hnote
      rw [advanced_advancedBy] at hrest
      exact (ih hrest).cons hdrawn hfirst _

end Search

/-! ## What was opened -/

/-- The object is carried on to its two steps: it is unlinked, and if that succeeds the flags of
its descriptor are asked for. All calls are on the object itself, and a file is made of it by
exactly the three calls that this takes. -/
structure CarriedOn (o : Provisional) (flags : UInt32) (value : Outcome Error AnonymousFile)
    (es : List Event) : Prop where
  steps : ∃ answer later, es = Call.event (.shmUnlink o.name) answer :: later ∧
    (answer.isOk = true → ∃ given later', later = Call.event (.getFdFlags o.fd) given :: later')
  concerns : ∀ event ∈ es, o.Concerns event.request
  made : ∀ file, value = .ok file → file.fd = o.fd ∧ file.record.uniqueName = some o.name ∧
    ∃ given, calls es = [.shmUnlink o.name, .getFdFlags o.fd,
      .setFdFlags o.fd (withCloseOnExec given (wantsCloseOnExec flags))]

theorem FinishEnd.carriedOn {name : String} {flags : UInt32} {o : Provisional} {e : Emulator}
    {w : ω} {p : Played ω (Outcome Error AnonymousFile × Emulator)}
    (hend : FinishEnd h name flags o e w p) : CarriedOn o flags p.value.1 p.events := by
  have hconcerns := hend.concerns
  cases hend with
  | @finished v _ given _ v' _ _ hunlink hread hwrite hnote =>
    refine ⟨⟨_, _, rfl, fun _ => ⟨_, _, rfl⟩⟩, hconcerns, fun file hfile => ?_⟩
    cases hfile
    exact ⟨rfl, rfl, given, rfl⟩
  | halted hstep hfail hback =>
    refine ⟨?_, hconcerns, fun file hfile => ?_⟩
    · cases hstep with
      | unlink hunlink =>
        refine ⟨_, _, rfl, fun hok => ?_⟩
        rw [hfail.isOk_part] at hok
        cases hok
      | flag hunlink hflag =>
        cases hflag with
        | read => exact ⟨_, _, rfl, fun _ => ⟨_, _, rfl⟩⟩
        | write => exact ⟨_, _, rfl, fun _ => ⟨_, _, rfl⟩⟩
    · exact absurd hfile (Outcome.ne_ok (Outcome.isOk_behind hfail.isOk))

/-! ## Creations -/

/-- What a creation comes to that attempt number `k`, counted from zero, has decided. -/
structure Ended (f : Forecast) (e : Emulator) (name : String) (flags : UInt32) (k : Nat)
    (p : Played (Progress ω) (Outcome Error AnonymousFile × Emulator)) : Prop where
  proposals : proposals p.events = (List.range (k + 1)).map (f.candidate e name)
  draws : draws p.events = k + 1
  serial : p.value.2.serial = e.serial + UInt32.ofNat (k + 1)
  failed : ∀ errno, f.opening k = .fail errno →
    p.value.1 = .fail (.create errno) ∧ calls p.events = f.opens e name 0 (k + 1)
  panicked : ∀ text, f.opening k = .panic text →
    p.value.1 = .panic text ∧ calls p.events = f.opens e name 0 (k + 1)
  opened : ∀ fd, f.opening k = .ok fd → ∃ earlier later, p.events = earlier ++ later ∧
    calls earlier = f.opens e name 0 (k + 1) ∧
      CarriedOn ⟨fd, f.candidate e name k⟩ flags p.value.1 later

/-- What a creation comes to that finds no name free. -/
structure Exhausted (f : Forecast) (e : Emulator) (name : String)
    (p : Played (Progress ω) (Outcome Error AnonymousFile × Emulator)) : Prop where
  attempts_pos : 1 ≤ e.config.maxAttempts
  value : p.value =
    (.fail (.namesExhausted e.config.maxAttempts), e.advancedBy e.config.maxAttempts)
  calls : calls p.events = f.opens e name 0 e.config.maxAttempts
  draws : draws p.events = e.config.maxAttempts

section Creations

variable {f : Forecast} {name : String} {flags : UInt32} {e : Emulator} {w : ω}

theorem proposals_of_opens {es : List Event} {n : Nat} (hes : calls es = f.opens e name 0 n) :
    proposals es = (List.range n).map (f.candidate e name) := by
  rw [proposals_eq_filterMap, hes, Forecast.opens, List.filterMap_map, List.range_eq_range',
    ← List.filterMap_eq_map]
  rfl

theorem draws_of_concerns {o : Provisional} {es : List Event}
    (hes : ∀ event ∈ es, o.Concerns event.request) : draws es = 0 := by
  refine List.countP_eq_zero.mpr fun event hevent hdraw => ?_
  have hconcerns := hes event hevent
  rw [of_decide_eq_true hdraw] at hconcerns
  exact hconcerns

/-- The search of a creation comes to nothing: it was its last attempt, or no name was free. -/
theorem ended_of_unopened {o : Outcome Error Provisional} {e' : Emulator} {es : List Event}
    {w' : Progress ω} {failure : Outcome Error AnonymousFile}
    (hsearch : Decided f e name 0 e.config.maxAttempts ⟨(o, e'), es, w'⟩)
    (hfail : Outcome.PassedOn id o failure) :
    (∃ k < e.config.maxAttempts, f.Taken 0 k ∧ f.opening k ≠ .fail .eexist ∧
      Ended f e name flags k ⟨(failure, e'), es, w'⟩) ∨
    (f.Taken 0 e.config.maxAttempts ∧ Exhausted f e name ⟨(failure, e'), es, w'⟩) := by
  cases hsearch with
  | exhausted htaken hattempts hvalue =>
    obtain ⟨hcalls, hdraws, hstate⟩ := hattempts
    dsimp only at hvalue hstate
    subst hvalue
    cases hfail
    rw [Nat.zero_add] at hstate
    exact Or.inr ⟨htaken, e.config.attempts_pos, by rw [hstate]; rfl, hcalls, hdraws⟩
  | ended k hk htaken hlast hattempts hvalue =>
    obtain ⟨hcalls, hdraws, hstate⟩ := hattempts
    rw [Nat.zero_add] at hlast hvalue hstate
    dsimp only at hcalls hdraws hvalue hstate
    refine Or.inl ⟨k, hk, htaken, hlast, proposals_of_opens hcalls, hdraws, by rw [hstate]; rfl,
      fun errno hopening => ?_, fun text hopening => ?_, fun fd hopening => ?_⟩
    · rw [hvalue, Forecast.object, hopening] at hfail
      cases hfail
      exact ⟨rfl, hcalls⟩
    · rw [hvalue, Forecast.object, hopening] at hfail
      cases hfail
      exact ⟨rfl, hcalls⟩
    · rw [hvalue, Forecast.object, hopening] at hfail
      cases hfail

/-- The search of a creation has opened an object, by its last attempt. -/
theorem ended_of_opened {o : Provisional} {e₁ : Emulator} {es : List Event} {w₁ : Progress ω}
    {p : Played (Progress ω) (Outcome Error AnonymousFile × Emulator)}
    (hsearch : Decided f e name 0 e.config.maxAttempts ⟨(.ok o, e₁), es, w₁⟩)
    (hfinish : FinishEnd (f.host h) name flags o e₁ w₁ p) :
    ∃ k < e.config.maxAttempts, f.Taken 0 k ∧ f.opening k ≠ .fail .eexist ∧
      Ended f e name flags k ⟨p.value, es ++ p.events, p.host⟩ := by
  cases hsearch with
  | exhausted _ _ hvalue => cases hvalue
  | ended k hk htaken hlast hattempts hvalue =>
    obtain ⟨hcalls, hdraws, hstate⟩ := hattempts
    rw [Nat.zero_add] at hlast hvalue hstate
    dsimp only at hcalls hdraws hvalue hstate
    have hproposals : proposals (es ++ p.events) = proposals es := by
      rw [proposals_append, hfinish.proposals_eq_nil, List.append_nil]
    refine ⟨k, hk, htaken, hlast, by rw [hproposals]; exact proposals_of_opens hcalls, ?_, ?_,
      fun errno hopening => ?_, fun text hopening => ?_, fun fd hopening => ?_⟩
    · rw [draws_append, hdraws, draws_of_concerns hfinish.concerns]
    · rw [hfinish.keeps.2.1, hstate]
      rfl
    · rw [Forecast.object, hopening] at hvalue
      cases hvalue
    · rw [Forecast.object, hopening] at hvalue
      cases hvalue
    · rw [Forecast.object, hopening] at hvalue
      cases hvalue
      exact ⟨es, p.events, rfl, hcalls, hfinish.carriedOn⟩

/-- One of the two happens to a creation without fault. -/
theorem ended_or_exhausted {p : Played (Progress ω) (Outcome Error AnonymousFile × Emulator)}
    (hend : CreateEnd (f.host h) name flags e ⟨0, 0, w⟩ p) (hfault : fault? name flags = none) :
    (∃ k < e.config.maxAttempts, f.Taken 0 k ∧ f.opening k ≠ .fail .eexist ∧
      Ended f e name flags k p) ∨
    (f.Taken 0 e.config.maxAttempts ∧ Exhausted f e name p) := by
  have foretold {q} (hsearch : ExclusiveEnd (f.host h) name e.config.maxAttempts 1 e ⟨0, 0, w⟩ q) :
      Decided f e name 0 e.config.maxAttempts q := by
    rw [← advancedBy_zero e] at hsearch
    exact hsearch.foretold
  cases hend with
  | refused hrefused => cases hrefused.symm.trans hfault
  | unopened _ hsearch hfail => exact ended_of_unopened (foretold hsearch) hfail
  | opened _ hsearch hfinish => exact Or.inl (ended_of_opened (foretold hsearch) hfinish)

theorem CreateEnd.openFlags_eq {w : ω}
    {p : Played ω (Outcome Error AnonymousFile × Emulator)} (hend : CreateEnd h name flags e w p)
    {name' : String} {flags' : Int32} {mode : UInt32}
    (hopen : .shmOpen name' flags' mode ∈ calls p.events) : flags' = openFlags := by
  have searched {left count : Nat} {q : Played ω (Outcome Error Provisional × Emulator)}
      (hsearch : ExclusiveEnd h name left count e w q)
      (hopen : .shmOpen name' flags' mode ∈ calls q.events) : flags' = openFlags := by
    rw [hsearch.calls_eq] at hopen
    obtain ⟨candidate, -, heq⟩ := List.mem_map.mp hopen
    exact (Call.shmOpen.inj heq).2.1.symm
  cases hend with
  | refused hfault => cases hopen
  | unopened hfault hsearch hfail => exact searched hsearch hopen
  | opened hfault hsearch hfinish =>
    rw [calls_append, List.mem_append] at hopen
    rcases hopen with hopen | hopen
    · exact searched hsearch hopen
    · obtain ⟨event, hevent, hrequest⟩ := exists_of_mem_calls hopen
      have hconcerns := hfinish.concerns event hevent
      rw [hrequest] at hconcerns
      cases hconcerns

/-- **Attempts.** For every forecast and every system that answers the other calls: a request with
a fault draws nothing and leaves everything as it is. Otherwise, if attempt number `k` is the first
whose answer is not that the name is taken, it decides, unless the bound comes first; and if it
does, the bound is the number of attempts. In no case is the error that a name was taken. -/
theorem attempts_of_create (f : Forecast) (h : Host ω) (name : String) (flags : UInt32)
    (e : Emulator) (w : ω) :
    let p := (Emulator.create name flags e).run (f.host h) ⟨0, 0, w⟩
    (∀ error, fault? name flags = some error → p = ⟨(.fail error, e), [], ⟨0, 0, w⟩⟩) ∧
    (fault? name flags = none →
      (∀ k, f.Taken 0 k → f.opening k ≠ .fail .eexist → k < e.config.maxAttempts →
        Ended f e name flags k p) ∧
      (f.Taken 0 e.config.maxAttempts → Exhausted f e name p)) ∧
    p.value.1 ≠ .fail (.create .eexist) ∧
    ∀ name' flags' mode, .shmOpen name' flags' mode ∈ calls p.events →
      flags' =
        OpenFlag.readWrite ||| OpenFlag.create ||| OpenFlag.exclusive ||| OpenFlag.noFollow := by
  intro p
  have hend : CreateEnd (f.host h) name flags e ⟨0, 0, w⟩ p := create_ends _ name flags e _
  refine ⟨fun error hfault => ?_, fun hfault => ⟨fun k htaken hlast hk => ?_, fun htaken => ?_⟩,
    fun hfail => ?_, fun name' flags' mode hopen => hend.openFlags_eq hopen⟩
  · show (Emulator.create name flags e).run (f.host h) ⟨0, 0, w⟩ = _
    rw [Emulator.create, hfault]
    rfl
  · rcases ended_or_exhausted hend hfault with ⟨k', -, htaken', hlast', hended⟩ | ⟨hall, -⟩
    · -- Of two attempts that could be the first, the earlier one finds its name taken.
      rcases Nat.lt_trichotomy k k' with hlt | rfl | hlt
      · exact absurd (htaken' k hlt) (by rwa [Nat.zero_add])
      · exact hended
      · exact absurd (htaken k' hlt) (by rwa [Nat.zero_add])
    · exact absurd (hall k hk) (by rwa [Nat.zero_add])
  · rcases ended_or_exhausted hend hfault with ⟨k, hk, -, hlast, -⟩ | ⟨-, hexhausted⟩
    · exact absurd (htaken k hk) (by rwa [Nat.zero_add])
    · exact hexhausted
  · cases hfault : fault? name flags with
    | none =>
      cases hend.late hfault hfail with
      | create _ hne => exact hne rfl
    | some error =>
      rw [hend.value_of_fault hfault] at hfail
      cases hfail
      cases early_of_fault hfault

end Creations

/-- Random bits are missing for the second attempt, and the third one finds its name free. -/
def thirdTime : Forecast where
  bits i := if i = 1 then none else some 7
  time _ := 9
  opening i := if i < 2 then .fail .eexist else .ok 100

/-- An emulation that makes at most so many attempts. -/
def patient (attempts : Nat) : Emulator := .start (Config.standard.withMaxAttempts attempts)

/-- A system in which the third candidate exists and is open. -/
def admitted : Scripted :=
  { Scripted.start ["/" ++ thirdTime.candidate (patient 3) "notes" 2] 0 [] with
    fds := Table.empty.insert 100 0 }

theorem attempts_thirdTime :
    let p := (Emulator.create "notes" Memfd.closeOnExec (patient 3)).run
      (thirdTime.host Scripted.host) ⟨0, 0, admitted⟩
    let q := (Emulator.create "notes" Memfd.closeOnExec (patient 2)).run
      (thirdTime.host Scripted.host) ⟨0, 0, admitted⟩
    p.value.1.isOk = true ∧ Ended thirdTime (patient 3) "notes" Memfd.closeOnExec 2 p ∧
    Exhausted thirdTime (patient 2) "notes" q := by
  intro p q
  have hfault : fault? "notes" Memfd.closeOnExec = none := by decide +kernel
  have htaken : thirdTime.Taken 0 2 := fun j hj => by
    rw [Nat.zero_add]
    exact if_pos hj
  refine ⟨by decide +kernel, ?_, ?_⟩
  · exact ((attempts_of_create thirdTime Scripted.host "notes" Memfd.closeOnExec (patient 3)
      admitted).2.1 hfault).1 2 htaken (by decide) (by decide)
  · exact ((attempts_of_create thirdTime Scripted.host "notes" Memfd.closeOnExec (patient 2)
      admitted).2.1 hfault).2 htaken

end SharedPages.File
