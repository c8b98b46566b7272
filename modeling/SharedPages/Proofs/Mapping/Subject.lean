import SharedPages.Host.Scripted
import SharedPages.Proofs.Cuts
import SharedPages.Proofs.Mapping.Run

/-!
# What the system is asked about

The calls that the registry makes about a range, other than to map one. Proved here, for
every gateway and every run from the empty registry, panics included:

* `exact_of_end`: such a call is about a live registration, unless a request was given the
  null address and what was mapped there is unmapped again;
* `marked_of_end`: a step takes at most one range from the system, or is given one;
* `asks_only_live`: so it is in every step of a run, and a range that was unmapped twice
  was given to a request in between.
-/

namespace SharedPages

/-- The range that a call is about, unless it maps memory or has to do with files. -/
def Call.subject? : Call → Option Range
  | .munmap r => some r
  | .mprotect r _ => some r
  | .mlock r => some r
  | .munlock r => some r
  | .madvise r _ => some r
  | .msync r _ => some r
  | _ => none

/-- The range that the call of an event is about. -/
def Event.subject? : Event → Option Range
  | ⟨.call c, _⟩ => c.subject?
  | _ => none

/-- The range that the event unmapped. -/
def Event.unmapped? : Event → Option Range
  | ⟨.call (.munmap r), .ok _⟩ => some r
  | _ => none

/-- Entries of the journal ask the system for nothing. -/
theorem filterMap_entries {α : Type} {f : Event → Option α} (hf : ∀ entry, f ⟨.note entry, ()⟩ = none)
    (entries : List Journal.Entry) : (entries.map Journal.Entry.event).filterMap f = [] := by
  induction entries with
  | nil => rfl
  | cons entry entries ih =>
    rw [List.map_cons, List.filterMap_cons, Journal.Entry.event, hf]
    exact ih

namespace Mapping

variable {ω : Type}

/-! ## Subjects of a step -/

/-- The range is exactly one live registration: same base, same length. -/
def Live (live : LiveSet) (r : Range) : Prop :=
  ∃ known, live.info r = some known ∧ known.range = r

/-- The step is a request that was given the null address, and unmaps again what lies there. -/
def Step.TakesBack (s : Step) (r : Range) : Prop :=
  ∃ q answer, s.action = .map q ∧ r = ⟨0, q.len⟩ ∧
    s.events = [q.toCall.event (.ok (0 : Address)), Call.event (.munmap r) answer]

/-- Every registration stands under its own range, which is not at the null address. -/
structure Keyed (live : LiveSet) : Prop where
  range : ∀ r known, live.get? r = some known → known.range = r
  base_ne : ∀ r known, live.get? r = some known → r.base ≠ 0

theorem keyed_empty : Keyed .empty := by
  constructor <;> simp

theorem Keyed.live {live : LiveSet} (h : Keyed live) {r : Range} {known : Registration}
    (hr : live.info r = some known) : Live live r :=
  ⟨known, hr, h.range r known (get?_of_info hr)⟩

/-- Registrations may be dropped. -/
theorem Keyed.sub {live less : LiveSet} (h : Keyed live)
    (hsub : ∀ r known, less.get? r = some known → live.get? r = some known) : Keyed less where
  range r known hr := h.range r known (hsub r known hr)
  base_ne r known hr := h.base_ne r known (hsub r known hr)

theorem Keyed.entered {q : MapRequest} {live : LiveSet} {r : Range} (h : Keyed live)
    (hbase : r.base ≠ 0) : Keyed (q.entered live r) := by
  have look {s : Range} {known : Registration}
      (hs : (q.entered live r).get? s = some known) :
      s = r ∧ known = q.register r ∨ live.get? s = some known := by
    rw [MapRequest.entered, Table.get?_insert] at hs
    split at hs
    · next heq => exact Or.inl ⟨heq, (Option.some.inj hs).symm⟩
    · exact Or.inr ((get?_kept_iff ..).mp hs).1
  constructor
  · intro s known hs
    rcases look hs with ⟨rfl, rfl⟩ | hs
    · rfl
    · exact h.range s known hs
  · intro s known hs
    rcases look hs with ⟨rfl, -⟩ | hs
    · exact hbase
    · exact h.base_ne s known hs

/-- **One step.** Registrations stay under their own ranges, away from the null address. -/
theorem keyed_of_change {live live' : LiveSet} {a : Action} {o : Outcome Error Reply}
    (hchange : Change live a o live') (h : Keyed live) : Keyed live' := by
  cases hchange with
  | mapped hq hbase hlen => exact h.entered hbase
  | unmapped hr => exact h.sub fun _ _ => Table.get?_of_erase
  | lost hr => exact h.sub fun _ _ => Table.get?_of_erase
  | same hmap hunmap => exact h

section Ends

variable {g : Gateway ω} {live : LiveSet} {w : ω}

theorem subjects_of_mapEnd {q : MapRequest} {p : Played ω (Outcome Error Range × LiveSet)}
    (hend : MapEnd g q live w p) {r : Range} (hr : r ∈ p.events.filterMap Event.subject?) :
    ∃ answer, r = ⟨0, q.len⟩ ∧
      p.events = [q.toCall.event (.ok (0 : Address)), Call.event (.munmap r) answer] := by
  cases hend with
  | empty hlen => cases hr
  | split hlen hfixed hsplit => cases hr
  | failed hq hmap => cases hr
  | panicked hq hmap => cases hr
  | null hq hmap hunmap =>
    obtain rfl := List.mem_singleton.mp hr
    exact ⟨_, rfl, rfl⟩
  | nullKept hq hmap hunmap =>
    obtain rfl := List.mem_singleton.mp hr
    exact ⟨_, rfl, rfl⟩
  | nullPanicked hq hmap hunmap =>
    obtain rfl := List.mem_singleton.mp hr
    exact ⟨_, rfl, rfl⟩
  | @mapped base _ hq hbase hmap =>
    have hnone := filterMap_entries (f := Event.subject?) (fun _ => rfl)
      (q.remarks live ⟨base, q.len⟩)
    rw [List.filterMap_cons_none rfl, hnone] at hr
    cases hr

theorem live_of_mem_unmapEnd {r s : Range} {p : Played ω (Outcome Error Unit × LiveSet)}
    (hend : UnmapEnd g r live w p) (hs : s ∈ p.events.filterMap Event.subject?) :
    s = r ∧ ∃ known, live.info r = some known := by
  cases hend with
  | refused hr => cases hs
  | unmapped hr hunmap => exact ⟨List.mem_singleton.mp hs, _, hr⟩
  | failed hr hunmap => exact ⟨List.mem_singleton.mp hs, _, hr⟩
  | panicked hr hunmap => exact ⟨List.mem_singleton.mp hs, _, hr⟩

theorem Action.Passes.subject? {a : Action} {r : Range} {c : Call} {toError : Errno → Error}
    (ha : Action.Passes a r c toError) : c.subject? = some r := by
  cases ha <;> rfl

/-- **One step.** The calls of a step about a range are about a live registration, unless they
take back what was mapped at the null address. -/
theorem exact_of_end {a : Action} {p : Played ω (Outcome Error Reply × LiveSet)}
    (hend : ActionEnd g live w a p) (h : Keyed live) (r : Range)
    (hr : r ∈ p.events.filterMap Event.subject?) :
    Live live r ∨ Step.TakesBack ⟨a, live, p.value.1, p.events, p.value.2⟩ r := by
  cases hend with
  | map hend =>
    obtain ⟨answer, hbase, hevents⟩ := subjects_of_mapEnd hend hr
    exact Or.inr ⟨_, answer, rfl, hbase, hevents⟩
  | unmap hend =>
    obtain ⟨rfl, known, hknown⟩ := live_of_mem_unmapEnd hend hr
    exact Or.inl (h.live hknown)
  | pass ha hend =>
    cases hend with
    | refused hnone => cases hr
    | answered hknown hcall =>
      have hr' : r ∈ [Call.event _ _].filterMap Event.subject? := hr
      simp only [Call.event, Event.subject?, ha.subject?, List.filterMap_cons,
        List.filterMap_nil, List.mem_singleton] at hr'
      subst hr'
      exact Or.inl (h.live hknown)
  | look ha => cases hr

/-! ## What a run takes and gives -/

/-- The system unmapped a range, or a request was given one. -/
inductive Mark
  | unmapped (r : Range)
  | mapped (r : Range)
  deriving DecidableEq, Repr

/-- The marks that a step leaves: what it unmapped on its way, and the range that it returned. -/
def Step.marks (s : Step) : List Mark :=
  (s.events.filterMap Event.unmapped?).map .unmapped ++
    (s.given?.map fun given => Mark.mapped given.2).toList

/-- What a step leaves, and what it makes of the live set. -/
inductive Marked (live : LiveSet) : List Mark → LiveSet → Prop
  | mapped {q : MapRequest} {r} (hbase : r.base ≠ 0) :
      Marked live [.mapped r] (q.entered live r)
  | unmapped {r known} (hr : live.get? r = some known) :
      Marked live [.unmapped r] (live.erase r)
  /-- What was mapped at the null address is not registered. -/
  | null {len} : Marked live [.unmapped ⟨0, len⟩] live
  | none {live'} (hnone : ∀ r, live.get? r = none → live'.get? r = none) : Marked live [] live'

theorem get?_erase_of_none {live : LiveSet} (r : Range) {s : Range} (hs : live.get? s = none) :
    (live.erase r).get? s = none := by
  rw [Table.get?_erase, hs]
  exact ite_self _

theorem marked_of_mapEnd {q : MapRequest} {p : Played ω (Outcome Error Range × LiveSet)}
    (hend : MapEnd g q live w p) :
    Marked live (Step.marks ⟨.map q, live, p.value.1.map .mapped, p.events, p.value.2⟩)
      p.value.2 := by
  cases hend with
  | null hq hmap hunmap => exact .null
  | @mapped base _ hq hbase hmap =>
    have hnone := filterMap_entries (f := Event.unmapped?) (fun _ => rfl)
      (q.remarks live ⟨base, q.len⟩)
    have hmarks : Step.marks ⟨.map q, live, .ok (.mapped ⟨base, q.len⟩),
        q.toCall.event (.ok base) :: (q.remarks live ⟨base, q.len⟩).map Journal.Entry.event,
        q.entered live ⟨base, q.len⟩⟩ = [.mapped ⟨base, q.len⟩] := by
      rw [Step.marks, List.filterMap_cons_none rfl, hnone]
      rfl
    exact hmarks ▸ .mapped hbase
  | _ => exact .none fun _ hnone => hnone

theorem marked_of_unmapEnd {r : Range} {p : Played ω (Outcome Error Unit × LiveSet)}
    (hend : UnmapEnd g r live w p) :
    Marked live (Step.marks ⟨.unmap r, live, p.value.1.map fun _ => .nothing, p.events, p.value.2⟩)
      p.value.2 := by
  cases hend with
  | refused hr => exact .none fun _ hnone => hnone
  | unmapped hr hunmap => exact .unmapped (get?_of_info hr)
  | failed hr hunmap => exact .none fun _ hnone => hnone
  | panicked hr hunmap => exact .none fun _ => get?_erase_of_none r

/-- **One step.** It takes at most one range from the system, or is given one. -/
theorem marked_of_end {a : Action} {p : Played ω (Outcome Error Reply × LiveSet)}
    (hend : ActionEnd g live w a p) :
    Marked live (Step.marks ⟨a, live, p.value.1, p.events, p.value.2⟩) p.value.2 := by
  cases hend with
  | map hend => exact marked_of_mapEnd hend
  | unmap hend => exact marked_of_unmapEnd hend
  | pass ha hend =>
    cases hend with
    | refused hnone => cases ha <;> exact .none fun _ hnone => hnone
    | answered hknown hcall => cases ha <;> exact .none fun _ hnone => hnone
  | look ha => cases ha <;> exact .none fun _ hnone => hnone

end Ends

/-! ## The ledger -/

/-- The range was unmapped, and no request was given it since. -/
def Taken (marks : List Mark) (r : Range) : Prop :=
  ∃ earlier later, marks = earlier ++ .unmapped r :: later ∧ .mapped r ∉ later

/-- Between two unmappings of a range some request was given it. -/
def Renewed (marks : List Mark) (r : Range) : Prop :=
  ∀ before between after, marks = before ++ .unmapped r :: between ++ .unmapped r :: after →
    .mapped r ∈ between

theorem taken_concat (marks : List Mark) (m : Mark) (r : Range) :
    Taken (marks ++ [m]) r ↔ m = .unmapped r ∨ Taken marks r ∧ m ≠ .mapped r := by
  constructor
  · rintro ⟨earlier, later, hsplit, hlater⟩
    rcases concat_eq_append_cons_iff.mp hsplit with ⟨-, hm, -⟩ | ⟨later, hmarks, rfl⟩
    · exact Or.inl hm
    · simp only [List.mem_append, List.mem_singleton, not_or] at hlater
      exact Or.inr ⟨⟨earlier, later, hmarks, hlater.1⟩, fun h => hlater.2 h.symm⟩
  · rintro (rfl | ⟨⟨earlier, later, rfl, hlater⟩, hm⟩)
    · exact ⟨marks, [], rfl, by simp⟩
    · refine ⟨earlier, later ++ [m], by simp, ?_⟩
      simp only [List.mem_append, List.mem_singleton, not_or]
      exact ⟨hlater, fun h => hm h.symm⟩

theorem Renewed.concat {marks : List Mark} {r : Range} (h : Renewed marks r) {m : Mark}
    (hm : m = .unmapped r → ¬ Taken marks r) : Renewed (marks ++ [m]) r := by
  intro before between after hsplit
  rcases concat_eq_append_cons_iff.mp hsplit with ⟨hmarks, hlast, -⟩ | ⟨after, hmarks, -⟩
  · by_cases hgiven : .mapped r ∈ between
    · exact hgiven
    · exact absurd ⟨before, between, hmarks, hgiven⟩ (hm hlast)
  · exact h before between after hmarks

/-- No range that was taken is registered, and none was taken twice without being given to a
request in between. The null address is no part of the ledger. -/
structure Ledger (marks : List Mark) (live : LiveSet) : Prop where
  taken : ∀ r, r.base ≠ 0 → Taken marks r → live.get? r = none
  renewed : ∀ r, r.base ≠ 0 → Renewed marks r

theorem ledger_empty : Ledger [] .empty where
  taken _ _ _ := rfl
  renewed r _ before between after h := by simp at h

/-- **One step.** What a step unmaps was registered, and is so no longer. -/
theorem Ledger.append {marks more : List Mark} {live live' : LiveSet} (h : Ledger marks live)
    (hm : Marked live more live') : Ledger (marks ++ more) live' := by
  cases hm with
  | @mapped q r hbase =>
    constructor
    · intro s hs htaken
      rcases (taken_concat ..).mp htaken with hu | ⟨htaken, hne⟩
      · cases hu
      have hsr : s ≠ r := fun heq => hne (heq ▸ rfl)
      have hnone := h.taken s hs htaken
      rw [MapRequest.entered, Table.get?_insert, if_neg hsr]
      cases hk : (q.kept live r).get? s with
      | none => rfl
      | some known =>
        rw [((get?_kept_iff ..).mp hk).1] at hnone
        cases hnone
    · intro s hs
      exact (h.renewed s hs).concat fun hu => by cases hu
  | @unmapped r known hr =>
    constructor
    · intro s hs htaken
      rcases (taken_concat ..).mp htaken with hu | ⟨htaken, -⟩
      · cases hu
        simp
      · exact get?_erase_of_none r (h.taken s hs htaken)
    · intro s hs
      -- A range that was taken already would not have been registered.
      refine (h.renewed s hs).concat fun hu htaken => ?_
      cases hu
      rw [h.taken r hs htaken] at hr
      cases hr
  | null =>
    constructor
    · intro s hs htaken
      rcases (taken_concat ..).mp htaken with hu | ⟨htaken, -⟩
      · cases hu
        exact absurd rfl hs
      · exact h.taken s hs htaken
    · intro s hs
      refine (h.renewed s hs).concat fun hu => ?_
      cases hu
      exact absurd rfl hs
  | none hnone =>
    rw [List.append_nil]
    exact ⟨fun s hs htaken => hnone s (h.taken s hs htaken), h.renewed⟩

/-! ## Runs -/

/-- **Subjects.** In every run the system is asked only about ranges that are exactly one live
registration when the step begins, apart from the unmapping of what a request was given at the
null address. So between any two unmappings of a range away from the null address, some request
was given that range. -/
theorem asks_only_live (g : Gateway ω) (as : List Action) (w : ω) :
    (∀ s ∈ (history g as .empty w).steps, ∀ r ∈ s.events.filterMap Event.subject?,
      Live s.before r ∨ s.TakesBack r) ∧
    ∀ r before between after, r.base ≠ 0 →
      (history g as .empty w).steps.flatMap Step.marks =
        before ++ .unmapped r :: between ++ .unmapped r :: after →
      .mapped r ∈ between := by
  -- The ledger is about the live set that the steps lead to, and needs to know its keys. What the
  -- steps ask about is about the live sets before them, and is only collected.
  have hrun := history_induction g (P := fun _ => True)
    (I := fun steps live _ => Keyed live ∧ Ledger (steps.flatMap Step.marks) live ∧
      ∀ s ∈ steps, ∀ r ∈ s.events.filterMap Event.subject?, Live s.before r ∨ s.TakesBack r)
    ?step as .empty w [] ⟨keyed_empty, ledger_empty, by simp⟩ fun _ _ => trivial
  · obtain ⟨-, hledger, hexact⟩ := hrun
    exact ⟨hexact, fun r before between after hbase => hledger.renewed r hbase before between after⟩
  case step =>
    rintro earlier live w a ⟨hkeyed, hledger, hexact⟩ -
    have hend := action_ends g a live w
    refine ⟨keyed_of_change (step_change g a live w) hkeyed, ?_, ?_⟩
    · rw [List.flatMap_append, List.flatMap_singleton]
      exact hledger.append (marked_of_end hend)
    · intro s hs r hr
      rcases List.mem_append.mp hs with hs | hs
      · exact hexact s hs r hr
      · obtain rfl := List.mem_singleton.mp hs
        exact exact_of_end hend hkeyed r hr

/-- A page is mapped, unmapped at the second attempt, mapped again at the same place, written back
and unmapped; between that come handles that are too short, too long, or not live any more. -/
def reused : List Action :=
  let page : Range := ⟨0x10000, 0x1000⟩
  let request : Action :=
    .map ⟨page.base, page.len, Prot.readWrite, MapFlag.shared ||| MapFlag.anonymous, none, 0⟩
  [request, .unmap page, .unmap ⟨0x10000, 0x800⟩, .unmap page, .unmap page, .lock page,
   request, .sync page SyncFlag.sync, .unmap ⟨0x10000, 0x2000⟩, .unmap page]

/-- A system whose first unmapping fails. -/
def hesitant : Scripted := (Scripted.start [] 0 []).script .munmap [.fail .enomem] none

theorem renewed_reused :
    (history Scripted.perform reused .empty hesitant).steps.flatMap Step.marks =
        [.mapped ⟨0x10000, 0x1000⟩] ++ .unmapped ⟨0x10000, 0x1000⟩ ::
          [.mapped ⟨0x10000, 0x1000⟩] ++ .unmapped ⟨0x10000, 0x1000⟩ :: [] ∧
      .mapped ⟨0x10000, 0x1000⟩ ∈ [Mark.mapped ⟨0x10000, 0x1000⟩] :=
  have hmarks : (history Scripted.perform reused .empty hesitant).steps.flatMap Step.marks =
      [.mapped ⟨0x10000, 0x1000⟩] ++ .unmapped ⟨0x10000, 0x1000⟩ ::
        [.mapped ⟨0x10000, 0x1000⟩] ++ .unmapped ⟨0x10000, 0x1000⟩ :: [] := by
    decide +kernel
  ⟨hmarks, (asks_only_live Scripted.perform reused hesitant).2 _ _ _ _ (by decide) hmarks⟩

end Mapping

end SharedPages
