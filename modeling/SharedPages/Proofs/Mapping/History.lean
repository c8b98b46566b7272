import SharedPages.Host.Scripted
import SharedPages.Proofs.Cuts
import SharedPages.Proofs.Mapping.Run

/-!
# What a run tells of the live set

A range is registered because of one request of the past. Proved here, for every run
from the empty registry in which no call was answered by a panic:

* `info_after_step`: what one step does to the registration of a range;
* `contains_iff_standing`: a range is live exactly if some request was given it, and
  after the last of these it was neither unmapped nor covered by a fixed mapping; what
  is known about it is what that request asked for.
-/

namespace SharedPages.Mapping

variable {ω : Type}

/-! ## What a step does to a range -/

namespace Step

/-- The range was unmapped. -/
def Unmaps (s : Step) (r : Range) : Prop := s.action = .unmap r ∧ ∃ reply, s.outcome = .ok reply

/-- A fixed mapping was put over all of the range. -/
def Covers (s : Step) (r : Range) : Prop :=
  ∃ q r', s.Maps q r' ∧ q.isFixed = true ∧ r'.covers r = true

/-- The step neither makes nor ends a registration of the range. -/
def Spares (s : Step) (r : Range) : Prop := (∀ q, ¬ s.Maps q r) ∧ ¬ s.Unmaps r ∧ ¬ s.Covers r

end Step

/-- The request was given the range, and all later steps spare it. -/
def Standing (steps : List Step) (r : Range) (q : MapRequest) : Prop :=
  ∃ earlier s later, steps = earlier ++ s :: later ∧ s.Maps q r ∧ ∀ t ∈ later, t.Spares r

theorem standing_concat (steps : List Step) (s : Step) (r : Range) (q : MapRequest) :
    Standing (steps ++ [s]) r q ↔ s.Maps q r ∨ Standing steps r q ∧ s.Spares r := by
  constructor
  · rintro ⟨earlier, t, later, hsplit, ht, hlater⟩
    rcases concat_eq_append_cons_iff.mp hsplit with ⟨-, rfl, -⟩ | ⟨later, hsteps, rfl⟩
    · exact Or.inl ht
    · refine Or.inr ⟨⟨earlier, t, later, hsteps, ht, fun v hv => hlater v ?_⟩, hlater s ?_⟩
      · exact List.mem_append_left _ hv
      · simp
  · rintro (hs | ⟨⟨earlier, t, later, rfl, ht, hlater⟩, hs⟩)
    · exact ⟨steps, s, [], rfl, hs, by simp⟩
    · refine ⟨earlier, t, later ++ [s], by simp, ht, fun v hv => ?_⟩
      rcases List.mem_append.mp hv with hv | hv
      · exact hlater v hv
      · rw [List.mem_singleton.mp hv]
        exact hs

/-! ## Look-ups after a step -/

theorem info_entered (q : MapRequest) (live : LiveSet) (r s : Range) (hr : r.isEmpty = false) :
    (q.entered live r).info s =
      if s = r then some (q.register r)
      else (live.info s).filter fun known => !(q.isFixed && r.covers known.range) := by
  rw [MapRequest.entered, LiveSet.info_insert _ _ _ hr, MapRequest.kept]
  cases q.isFixed with
  | true => simp [LiveSet.info_uncovered]
  | false =>
    simp only [Bool.false_eq_true, ↓reduceIte, Bool.false_and, Bool.not_false]
    cases live.info s <;> rfl

/-- A step that registers another range spares this one if it does not cover it. -/
theorem Step.Maps.spares_iff {s : Step} {q : MapRequest} {r r' : Range} (h : s.Maps q r')
    (hne : r ≠ r') : s.Spares r ↔ (q.isFixed && r'.covers r) = false := by
  constructor
  · rintro ⟨-, -, hcovers⟩
    cases hlost : q.isFixed && r'.covers r with
    | false => rfl
    | true => exact absurd ⟨q, r', h, Bool.and_eq_true_iff.mp hlost⟩ hcovers
  · intro hkept
    refine ⟨fun q' h' => hne (h'.unique h).2, ?_, ?_⟩
    · rintro ⟨hunmap, -⟩
      cases h.1.symm.trans hunmap
    · rintro ⟨q', s', h', hfixed, hcovers⟩
      obtain ⟨rfl, rfl⟩ := h.unique h'
      simp [hfixed, hcovers] at hkept

/-- **One step.** A range is registered after a step because the step registered it, or because
it was before and the step spares it. -/
theorem info_after_step {s : Step} {r : Range}
    (hchange : Change s.before s.action s.outcome s.after) (hcalm : ∀ text, s.outcome ≠ .panic text)
    (hkey : ∀ known, s.before.info r = some known → known.range = r) (known : Registration) :
    s.after.info r = some known ↔
      (∃ q, s.Maps q r ∧ q.register r = known) ∨ s.before.info r = some known ∧ s.Spares r := by
  obtain ⟨a, live, o, es, live'⟩ := s
  simp only at hchange hcalm hkey
  cases hchange with
  | @mapped q r' hq hbase hlen =>
    have hr' : r'.isEmpty = false := by simpa [Range.isEmpty, hlen] using hq.1
    have hm : Step.Maps ⟨.map q, live, .ok (.mapped r'), es, q.entered live r'⟩ q r' := ⟨rfl, rfl⟩
    simp only [info_entered q live r' r hr']
    by_cases hrr : r = r'
    · subst hrr
      simp [Step.Maps, Step.Spares]
    · rw [hm.spares_iff hrr, if_neg hrr, Option.filter_eq_some_iff]
      constructor
      · rintro ⟨hknown, hkept⟩
        rw [hkey known hknown] at hkept
        exact Or.inr ⟨hknown, (Bool.not_eq_true' _).mp hkept⟩
      · rintro (⟨q', hq', -⟩ | ⟨hknown, hkept⟩)
        · exact absurd (hq'.unique hm).2 hrr
        · exact ⟨hknown, by rw [hkey known hknown, hkept]; rfl⟩
  | @unmapped r' known' hr' =>
    rw [LiveSet.info_erase]
    by_cases hrr : r = r'
    · subst hrr
      simp [Step.Maps, Step.Spares, Step.Unmaps]
    · have hne : r' ≠ r := fun h => hrr h.symm
      simp [Step.Maps, Step.Spares, Step.Unmaps, Step.Covers, hrr, hne]
  | lost hr' => exact absurd rfl (hcalm _)
  | same hmap hunmap =>
    have hm : ∀ q r', ¬ Step.Maps ⟨a, live, o, es, live⟩ q r' := fun q r' h => hmap r' h.2
    have hspares : Step.Spares ⟨a, live, o, es, live⟩ r :=
      ⟨fun q => hm q r, fun hu => hunmap r _ hu.1 hu.2.choose_spec,
        fun ⟨q, r', h, _⟩ => hm q r' h⟩
    simp [hm, hspares]

/-! ## Runs -/

/-- What a calm run from the empty registry knows about a range is what a standing request asked
for. -/
theorem info_iff_standing (g : Gateway ω) (as : List Action) (w : ω)
    (calm : (history g as .empty w).Calm) (r : Range) (known : Registration) :
    (history g as .empty w).live.info r = some known ↔
      ∃ q, Standing (history g as .empty w).steps r q ∧ q.register r = known := by
  have hstart (known : Registration) : LiveSet.info .empty r = some known ↔
      ∃ q, Standing [] r q ∧ q.register r = known := by
    constructor
    · intro h
      simp [LiveSet.info] at h
    · rintro ⟨q, ⟨earlier, s, later, h, -⟩, -⟩
      simp at h
  have hrun := history_induction g (P := fun s => ∀ e ∈ s.events, e.isPanic = false)
    (I := fun steps live _ => ∀ known,
      live.info r = some known ↔ ∃ q, Standing steps r q ∧ q.register r = known)
    ?step as .empty w [] hstart calm
  · exact hrun known
  case step =>
    intro earlier live w a ih hcalm known
    have hkey (known : Registration) (h : live.info r = some known) : known.range = r := by
      obtain ⟨q, -, rfl⟩ := (ih known).mp h
      rfl
    have hnopanic (text : String) : (step g a live w).1.outcome ≠ .panic text := by
      intro h
      obtain ⟨e, he, hpanics⟩ := isPanic_of_panic (action_ends g a live w) h
      exact absurd hpanics (by simp [hcalm e he])
    rw [info_after_step (step_change g a live w) hnopanic hkey known]
    simp only [standing_concat, show (step g a live w).1.before = live from rfl, ih known]
    constructor
    · rintro (⟨q, hq, rfl⟩ | ⟨⟨q, hq, rfl⟩, hspares⟩)
      · exact ⟨q, Or.inl hq, rfl⟩
      · exact ⟨q, Or.inr ⟨hq, hspares⟩, rfl⟩
    · rintro ⟨q, hq | ⟨hq, hspares⟩, rfl⟩
      · exact Or.inl ⟨q, hq, rfl⟩
      · exact Or.inr ⟨⟨q, hq, rfl⟩, hspares⟩

/-- **History law.** After any run in which no call was answered by a panic, a range is live
exactly if a request was given it and all steps after the last such request spare it; what is
known about it is what that request asked for. -/
theorem contains_iff_standing (g : Gateway ω) (as : List Action) (w : ω)
    (calm : (history g as .empty w).Calm) (r : Range) :
    ((history g as .empty w).live.contains r = true ↔
      ∃ q, Standing (history g as .empty w).steps r q) ∧
    ∀ q, Standing (history g as .empty w).steps r q →
      (history g as .empty w).live.info r = some (q.register r) := by
  have hinfo := info_iff_standing g as w calm r
  constructor
  · rw [LiveSet.contains_iff]
    constructor
    · rintro ⟨known, hknown⟩
      obtain ⟨q, hq, -⟩ := (hinfo known).mp hknown
      exact ⟨q, hq⟩
    · rintro ⟨q, hq⟩
      exact ⟨_, (hinfo _).mpr ⟨q, hq, rfl⟩⟩
  · intro q hq
    exact (hinfo _).mpr ⟨q, hq, rfl⟩

/-- A range is mapped twice at the same place; then an unmapping fails, and another range near it
is replaced. -/
def remapped : List Action :=
  let request (hint : Address) (len : UInt64) (prot : Int32) : Action :=
    .map ⟨hint, len, prot, MapFlag.privateCopy ||| MapFlag.anonymous ||| MapFlag.fixed, none, 0⟩
  [request 0x10000 0x2000 Prot.readWrite,
   request 0x12000 0x1000 Prot.readWrite,
   request 0x10000 0x2000 Prot.read,
   .unmap ⟨0x10000, 0x2000⟩,
   .protect ⟨0x10000, 0x2000⟩ Prot.none,
   request 0x12000 0x3000 Prot.readWrite]

/-- The first unmapping fails. -/
def reluctant : Scripted := (Scripted.start [] 0 []).script .munmap [.fail .einval] none

theorem standing_remapped :
    ∃ q, Standing (history Scripted.perform remapped .empty reluctant).steps ⟨0x10000, 0x2000⟩ q ∧
      (history Scripted.perform remapped .empty reluctant).live.info ⟨0x10000, 0x2000⟩ =
        some (q.register ⟨0x10000, 0x2000⟩) := by
  have h := contains_iff_standing Scripted.perform remapped reluctant (by decide +kernel)
    ⟨0x10000, 0x2000⟩
  obtain ⟨q, hq⟩ := h.1.mp (by decide +kernel)
  exact ⟨q, hq, h.2 q hq⟩

end SharedPages.Mapping
