import SharedPages.Host.Scripted
import SharedPages.Proofs.Mapping.Run

/-!
# Actions that do not return

An action that is turned down, fails or panics has changed nothing, with one exception:
an unmapping takes its entry out before the call and puts it back only if the call fails, so
a call that panics loses the registration. Proved here:

* `stopped_cases`: the two ways in which an action stops;
* `unchanged_iff_of_stopped`: an action that does not return leaves the live set as it was,
  exactly unless it loses a registration; that one is then all that has gone;
* `live_of_stopped_run`: a run of such actions that loses nothing changes nothing;
* `panic_loses_registration`: an unmapping whose call panics does lose it.
-/

namespace SharedPages.Mapping

variable {ω : Type}

/-- The call of the step panicked while the entry of the range was taken out. -/
def Step.Loses (s : Step) (r : Range) : Prop :=
  s.action = .unmap r ∧ s.before.contains r = true ∧ ∃ text, s.outcome = .panic text

/-- The action did not return. -/
def Step.Stopped (s : Step) : Prop := s.outcome.isOk = false

instance (s : Step) : Decidable s.Stopped := inferInstanceAs (Decidable (_ = _))

theorem Step.Loses.unique {s : Step} {r r' : Range} (h : s.Loses r) (h' : s.Loses r') :
    r = r' := by
  have heq : Action.unmap r = .unmap r' := h.1.symm.trans h'.1
  exact Action.unmap.inj heq

theorem contains_of_info {live : LiveSet} {r : Range} {known : Registration}
    (hr : live.info r = some known) : live.contains r = true :=
  (LiveSet.contains_iff live r).mpr ⟨known, hr⟩

theorem erase_ne {live : LiveSet} {r : Range} (hr : live.contains r = true) :
    live.erase r ≠ live := by
  intro h
  obtain ⟨known, hknown⟩ := (LiveSet.contains_iff live r).mp hr
  have hnone := LiveSet.info_erase live r r
  rw [h, hknown] at hnone
  simp at hnone

/-- **One step.** An action that does not return loses the registration that it was to unmap, or
it changes nothing. -/
theorem stopped_cases (g : Gateway ω) (a : Action) (live : LiveSet) (w : ω)
    (hstop : (step g a live w).1.Stopped) :
    (∃ r, (step g a live w).1.Loses r ∧ (step g a live w).1.after = live.erase r) ∨
      (¬ ∃ r, (step g a live w).1.Loses r) ∧ (step g a live w).1.after = live := by
  have hends := action_ends g a live w
  unfold Step.Stopped Step.Loses step at *
  generalize (a.operation live).run g.host w = p at hends hstop ⊢
  cases hends with
  | map h =>
    refine Or.inr ⟨by rintro ⟨r, ⟨⟩, -⟩, ?_⟩
    cases h with
    | mapped hq hbase hmap => cases hstop
    | _ => rfl
  | unmap h =>
    cases h with
    | refused hr =>
      refine Or.inr ⟨?_, rfl⟩
      rintro ⟨r, -, -, text, ⟨⟩⟩
    | unmapped hr hunmap => cases hstop
    | failed hr hunmap =>
      refine Or.inr ⟨?_, rfl⟩
      rintro ⟨r, -, -, text, ⟨⟩⟩
    | panicked hr hunmap => exact Or.inl ⟨_, ⟨rfl, contains_of_info hr, _, rfl⟩, rfl⟩
  | pass ha h =>
    refine Or.inr ⟨?_, by cases h <;> rfl⟩
    rintro ⟨r, hunmap, -⟩
    cases ha <;> cases hunmap
  | look ha => cases hstop

/-- **Actions that do not return.** The live set is what it was, exactly unless the step loses a
registration; then that one has gone, and nothing else has changed. -/
theorem unchanged_iff_of_stopped (g : Gateway ω) (a : Action) (live : LiveSet) (w : ω)
    (hstop : (step g a live w).1.Stopped) :
    ((step g a live w).1.after = live ↔ ¬ ∃ r, (step g a live w).1.Loses r) ∧
      ∀ r, (step g a live w).1.Loses r → (step g a live w).1.after = live.erase r := by
  rcases stopped_cases g a live w hstop with ⟨r, hloses, hafter⟩ | ⟨hspares, hafter⟩
  · have hcontains : live.contains r = true := hloses.2.1
    refine ⟨⟨fun h => ?_, fun h => absurd ⟨r, hloses⟩ h⟩, fun r' hr' => ?_⟩
    · exact absurd (hafter.symm.trans h) (erase_ne hcontains)
    · rw [hafter, hloses.unique hr']
  · refine ⟨⟨fun _ => hspares, fun _ => hafter⟩, fun r hr => ?_⟩
    exact absurd ⟨r, hr⟩ hspares

/-- **Runs.** If no action of a run returns and none loses a registration, the live set is what it
was at the start. -/
theorem live_of_stopped_run (g : Gateway ω) (as : List Action) (live : LiveSet) (w : ω)
    (hstop : ∀ s ∈ (history g as live w).steps, s.Stopped ∧ ¬ ∃ r, s.Loses r) :
    (history g as live w).live = live := by
  refine history_induction g (P := fun s => s.Stopped ∧ ¬ ∃ r, s.Loses r)
    (I := fun _ live' _ => live' = live) ?step as live w [] rfl hstop
  case step =>
    intro earlier live' w' a hlive hP
    obtain ⟨hstopped, hspares⟩ := hP
    rcases stopped_cases g a live' w' hstopped with ⟨r, hloses, -⟩ | ⟨-, hafter⟩
    · exact absurd ⟨r, hloses⟩ hspares
    · rw [hafter, hlive]

/-! ## Two registrations -/

/-- Two neighbouring pages are mapped. -/
def neighbours : LiveSet :=
  let request (hint : Address) : MapRequest :=
    ⟨hint, 0x1000, Prot.readWrite, MapFlag.privateCopy ||| MapFlag.anonymous, none, 0⟩
  let first := (request 0x10000).register ⟨0x10000, 0x1000⟩
  let second := (request 0x11000).register ⟨0x11000, 0x1000⟩
  (Table.empty.insert first.range first).insert second.range second

/-- A fixed mapping over both of them. -/
def overBoth : Action :=
  .map ⟨0x10000, 0x2000, Prot.read,
    MapFlag.privateCopy ||| MapFlag.anonymous ||| MapFlag.fixed, none, 0⟩

/-- A system whose calls of one kind panic. -/
def panicking (k : CallKind) : Scripted :=
  (Scripted.start [] 0 []).script k [] (some (.panic "boom"))

/-- A mapping that would replace two registrations panics, and both of them stay. -/
theorem neighbours_unchanged :
    (step Scripted.perform overBoth neighbours (panicking .mmap)).1.Stopped ∧
      (step Scripted.perform overBoth neighbours (panicking .mmap)).1.after = neighbours := by
  have hstop : (step Scripted.perform overBoth neighbours (panicking .mmap)).1.Stopped := by
    decide +kernel
  have h := unchanged_iff_of_stopped Scripted.perform overBoth neighbours _ hstop
  refine ⟨hstop, h.1.mpr ?_⟩
  rintro ⟨r, hr, -⟩
  cases hr

/-- **A panic loses a registration.** The page was to be unmapped, the call panicked, and the page
is not registered any more. -/
theorem panic_loses_registration :
    ¬ ∀ (g : Gateway Scripted) (a : Action) (live : LiveSet) (w : Scripted),
      (step g a live w).1.Stopped → (step g a live w).1.after = live := by
  intro h
  have hsame := h Scripted.perform (.unmap ⟨0x10000, 0x1000⟩) neighbours (panicking .munmap)
    (by decide +kernel)
  have hgone : (step Scripted.perform (.unmap ⟨0x10000, 0x1000⟩) neighbours
      (panicking .munmap)).1.after.contains ⟨0x10000, 0x1000⟩ = false := by decide +kernel
  rw [hsame] at hgone
  exact absurd hgone (by decide +kernel)

end SharedPages.Mapping
