import SharedPages.File.Provider
import SharedPages.Proofs.File.Events

/-!
# The search for a free name

Every way in which the search can end, against any host. Proved here:

* `exclusive_ends`: the search ends with the first answer that is not that the name is taken, or
  after the last attempt;
* `ExclusiveEnd.opening`: a search that finds a free name ends by opening the only object that
  it opens;
* `ExclusiveEnd.closing_eq_nil`, `ExclusiveEnd.unlinking_eq_nil`: it removes no name and closes
  nothing.
-/

namespace SharedPages.File

open Operation

variable {ω : Type} {h : Host ω}

/-- Random bits, the clock in their place, and the events of drawing them. -/
inductive Drawn (h : Host ω) (w : ω) : UInt64 → List Event → ω → Prop
  | bits {bits w'} (hdraw : h.answer .draw w = (some bits, w')) :
      Drawn h w bits [⟨.draw, some bits⟩] w'
  | clock {w₁ w₂ time w'} (hdraw : h.answer .draw w = (none, w₁))
      (hnote : (h.answer (.note .entropyFailed) w₁).2 = w₂)
      (hclock : h.answer .clock w₂ = (time, w')) :
      Drawn h w time [⟨.draw, none⟩, Journal.Entry.event .entropyFailed, ⟨.clock, time⟩] w'

namespace Emulator

/-- The emulation after the serial number of a candidate was used up. -/
def advanced (e : Emulator) : Emulator := { e with serial := e.serial + 1 }

/-- The candidate for a name, with the random bits drawn for it. -/
def proposal (e : Emulator) (name : String) (bits : UInt64) : String :=
  candidate e.config.stem e.serial (mix bits name)

/-- The call that opens a candidate. -/
abbrev openCall (candidate : String) : Call := .shmOpen candidate openFlags openMode

end Emulator

open Emulator

theorem propose_ends (h : Host ω) (name : String) (e : Emulator) (w : ω) :
    ∃ bits es w', Drawn h w bits es w' ∧
      (propose name e).run h w = ⟨(.ok (e.proposal name bits), e.advanced), es, w'⟩ := by
  rw [propose, run_bind, run_get, Played.andThen_ok_nil, run_bind, run_set, Played.andThen_ok_nil,
    run_bind, entropy, run_bind, run_ask]
  rcases hdraw : h.answer .draw w with ⟨bits, w₁⟩
  cases bits with
  | some bits => exact ⟨bits, _, _, .bits hdraw, rfl⟩
  | none => exact ⟨_, _, _, .clock hdraw rfl rfl, rfl⟩

/-- How the search for a free name ends: `left` attempts remain, `count` is the number of the
next. -/
inductive ExclusiveEnd (h : Host ω) (name : String) : (left count : Nat) → Emulator → ω →
    Played ω (Outcome Error Provisional × Emulator) → Prop
  | exhausted {count e w} : ExclusiveEnd h name 0 count e w
      ⟨(.fail (.namesExhausted e.config.maxAttempts), e), [], w⟩
  | opened {left count e w bits es w₁ fd w'} (hdrawn : Drawn h w bits es w₁)
      (hopen : h.answer (.call (openCall (e.proposal name bits))) w₁ = (.ok fd, w')) :
      ExclusiveEnd h name (left + 1) count e w
        ⟨(.ok ⟨fd, e.proposal name bits⟩, e.advanced),
         es ++ [(openCall (e.proposal name bits)).event (.ok fd)], w'⟩
  | taken {left count e w bits es w₁ w₂ w₃ p} (hdrawn : Drawn h w bits es w₁)
      (hopen : h.answer (.call (openCall (e.proposal name bits))) w₁ = (.fail .eexist, w₂))
      (hnote : (h.answer (.note (.candidateTaken count (e.proposal name bits))) w₂).2 = w₃)
      (hrest : ExclusiveEnd h name left (count + 1) e.advanced w₃ p) :
      ExclusiveEnd h name (left + 1) count e w
        ⟨p.value,
         es ++ (openCall (e.proposal name bits)).event (.fail .eexist) ::
           Journal.Entry.event (.candidateTaken count (e.proposal name bits)) :: p.events, p.host⟩
  | failed {left count e w bits es w₁ errno w'} (hdrawn : Drawn h w bits es w₁)
      (hne : errno ≠ .eexist)
      (hopen : h.answer (.call (openCall (e.proposal name bits))) w₁ = (.fail errno, w')) :
      ExclusiveEnd h name (left + 1) count e w
        ⟨(.fail (.create errno), e.advanced),
         es ++ [(openCall (e.proposal name bits)).event (.fail errno)], w'⟩
  | panicked {left count e w bits es w₁ text w'} (hdrawn : Drawn h w bits es w₁)
      (hopen : h.answer (.call (openCall (e.proposal name bits))) w₁ = (.panic text, w')) :
      ExclusiveEnd h name (left + 1) count e w
        ⟨(.panic text, e.advanced),
         es ++ [(openCall (e.proposal name bits)).event (.panic text)], w'⟩

/-- **The search.** There is no other end than those of `ExclusiveEnd`. -/
theorem exclusive_ends (h : Host ω) (name : String) (left count : Nat) (e : Emulator) (w : ω) :
    ExclusiveEnd h name left count e w ((createExclusive name left count e).run h w) := by
  induction left generalizing count e w with
  | zero => exact .exhausted
  | succ left ih =>
    obtain ⟨bits, es, w₁, hdrawn, hrun⟩ := propose_ends h name e w
    rw [createExclusive, run_bind, hrun, Played.andThen_ok, run_bind, run_issueCaught]
    rcases hopen : h.answer (.call (openCall (e.proposal name bits))) w₁ with ⟨answer, w₂⟩
    cases answer with
    | ok fd => exact .opened hdrawn hopen
    | panic text => exact .panicked hdrawn hopen
    | fail errno =>
      -- Only a name that is taken leads to another attempt.
      by_cases hne : errno = .eexist
      · subst hne
        simpa [run_bind, run_remark] using
          ExclusiveEnd.taken hdrawn hopen rfl (ih (count + 1) e.advanced _)
      · simpa [run_fail, hne] using ExclusiveEnd.failed hdrawn hne hopen

theorem ExclusiveEnd.files_eq {name : String} {left count : Nat} {e : Emulator} {w : ω}
    {p : Played ω (Outcome Error Provisional × Emulator)}
    (hend : ExclusiveEnd h name left count e w p) : p.value.2.files = e.files := by
  induction hend with
  | taken _ _ _ _ ih => exact ih
  | _ => rfl

/-! ## The events of a search -/

section Events

variable {w w' : ω}

theorem closing?_of_isSearch {r : Request} (hr : r.isSearch = true) : r.closing? = none := by
  cases r with
  | call c => cases c <;> first | rfl | cases hr
  | release fd => cases hr
  | _ => rfl

theorem unlinking?_of_isSearch {r : Request} (hr : r.isSearch = true) : r.unlinking? = none := by
  cases r with
  | call c => cases c <;> first | rfl | cases hr
  | _ => rfl

theorem Drawn.isSearch {bits : UInt64} {es : List Event} (hdrawn : Drawn h w bits es w') :
    ∀ event ∈ es, event.request.isSearch = true := by
  cases hdrawn <;> simp [Request.isSearch, Request.isAside]

theorem Drawn.opened_eq_nil {bits : UInt64} {es : List Event} (hdrawn : Drawn h w bits es w') :
    es.filterMap Event.opened? = [] := by
  cases hdrawn <;> rfl

theorem Drawn.after_eq {bits : UInt64} {es : List Event} (hdrawn : Drawn h w bits es w') :
    h.after w es = w' := by
  cases hdrawn with
  | bits hdraw => rw [Host.after_cons, hdraw, Host.after_nil]
  | clock hdraw hnote hclock =>
    rw [Host.after_cons, hdraw, Host.after_note hnote, Host.after_cons, hclock, Host.after_nil]

variable {name : String} {left count : Nat} {e : Emulator}
  {p : Played ω (Outcome Error Provisional × Emulator)}

theorem ExclusiveEnd.isSearch (hend : ExclusiveEnd h name left count e w p) :
    ∀ event ∈ p.events, event.request.isSearch = true := by
  induction hend with
  | exhausted => simp
  | opened hdrawn _ => simpa [or_imp, forall_and, Request.isSearch] using hdrawn.isSearch
  | taken hdrawn _ _ _ ih =>
    simpa [or_imp, forall_and, Request.isSearch, Request.isAside] using ⟨hdrawn.isSearch, ih⟩
  | failed hdrawn _ _ => simpa [or_imp, forall_and, Request.isSearch] using hdrawn.isSearch
  | panicked hdrawn _ => simpa [or_imp, forall_and, Request.isSearch] using hdrawn.isSearch

theorem ExclusiveEnd.closing_eq_nil (hend : ExclusiveEnd h name left count e w p) :
    p.events.filterMap (·.request.closing?) = [] :=
  List.filterMap_eq_nil_iff.mpr fun event hevent =>
    closing?_of_isSearch (hend.isSearch event hevent)

theorem ExclusiveEnd.unlinking_eq_nil (hend : ExclusiveEnd h name left count e w p) :
    p.events.filterMap (·.request.unlinking?) = [] :=
  List.filterMap_eq_nil_iff.mpr fun event hevent =>
    unlinking?_of_isSearch (hend.isSearch event hevent)

theorem ExclusiveEnd.after_eq (hend : ExclusiveEnd h name left count e w p) :
    h.after w p.events = p.host := by
  induction hend with
  | exhausted => rfl
  | opened hdrawn hopen =>
    rw [Host.after_append, hdrawn.after_eq, Host.after_call hopen, Host.after_nil]
  | taken hdrawn hopen hnote _ ih =>
    rw [Host.after_append, hdrawn.after_eq, Host.after_call hopen, Host.after_note hnote, ih]
  | failed hdrawn _ hopen =>
    rw [Host.after_append, hdrawn.after_eq, Host.after_call hopen, Host.after_nil]
  | panicked hdrawn hopen =>
    rw [Host.after_append, hdrawn.after_eq, Host.after_call hopen, Host.after_nil]

/-- **Opening.** A search that finds a free name opens one object, by its last event. -/
theorem ExclusiveEnd.opening (hend : ExclusiveEnd h name left count e w p) {o : Provisional}
    (ho : p.value.1 = .ok o) :
    ∃ earlier, p.events = earlier ++ [(openCall o.name).event (.ok o.fd)] ∧
      earlier.filterMap Event.opened? = [] ∧
      h.answer (.call (openCall o.name)) (h.after w earlier) = (.ok o.fd, p.host) := by
  induction hend with
  | exhausted => cases ho
  | opened hdrawn hopen =>
    cases ho
    exact ⟨_, rfl, hdrawn.opened_eq_nil, hdrawn.after_eq ▸ hopen⟩
  | @taken left count e w bits es w₁ w₂ w₃ p hdrawn hopen hnote _ ih =>
    obtain ⟨earlier, hevents, hnone, hanswer⟩ := ih ho
    refine ⟨es ++ (openCall (e.proposal name bits)).event (.fail .eexist) ::
      Journal.Entry.event (.candidateTaken count (e.proposal name bits)) :: earlier, ?_, ?_, ?_⟩
    · simp [hevents]
    · rw [List.filterMap_append, hdrawn.opened_eq_nil]
      exact hnone
    · rwa [Host.after_append, hdrawn.after_eq, Host.after_call hopen, Host.after_note hnote]
  | failed _ _ _ => cases ho
  | panicked _ _ => cases ho

theorem ExclusiveEnd.opened_eq_nil (hend : ExclusiveEnd h name left count e w p)
    (ho : p.value.1.isOk = false) : p.events.filterMap Event.opened? = [] := by
  induction hend with
  | exhausted => rfl
  | opened _ _ => cases ho
  | taken hdrawn _ _ _ ih =>
    rw [List.filterMap_append, hdrawn.opened_eq_nil]
    exact ih ho
  | failed hdrawn _ _ => simp [List.filterMap_append, hdrawn.opened_eq_nil, Event.opened?, Call.event]
  | panicked hdrawn _ => simp [List.filterMap_append, hdrawn.opened_eq_nil, Event.opened?, Call.event]

end Events

end SharedPages.File
