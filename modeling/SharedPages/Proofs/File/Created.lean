import SharedPages.Proofs.File.Orderly

/-!
# What a created file leaves behind

A file of the emulation is an object that was opened under a free name and unlinked at once.
Proved here, for every system that keeps names and descriptors (`ObjectSystem`), whatever calls
it makes fail:

* `created_of_ok`: when a file was returned, no name came or went, one descriptor was added, it
  has the flags that were asked for, and its record is kept.
-/

namespace SharedPages.File

open Emulator

variable {ω ν : Type} {h : Host ω} {view : ω → World ν} {object : String → ν}

/-- What holds after the emulation has returned a file: `opened` is the candidate under which its
object was opened, `given` are the flags with which its descriptor was opened and `final` those
that it has now. -/
structure Created (h : Host ω) (view : ω → World ν) (object : String → ν) (name : String)
    (flags : UInt32) (e : Emulator) (w : ω) (file : AnonymousFile) (opened : String)
    (given final : Int32) (p : Played ω (Outcome Error AnonymousFile × Provider)) : Prop where
  names : (view p.host).names = (view w).names
  /-- The name that was removed is the one that was added. -/
  name_new : object opened ∉ (view w).names
  unlinked : p.events.filterMap (·.request.unlinking?) = [opened]
  fd_new : (view w).flags file.fd = none
  fd_open : (view p.host).flags file.fd = some final
  others : ∀ fd ≠ file.fd, (view p.host).flags fd = (view w).flags fd
  opening : p.events.filterMap Event.opened? = [(opened, file.fd)]
  /-- Right after it was opened, the descriptor had the given flags. -/
  given_flags : ∃ m ∈ (Provider.create name flags (.emulated e)).moments h w,
    m.event h = (openCall opened).event (.ok file.fd) ∧
      (view (m.after h)).flags file.fd = some given
  closeOnExec : final &&& FdFlag.closeOnExec ≠ 0 ↔ flags &&& Memfd.closeOnExec ≠ 0
  other_flags : final &&& ~~~FdFlag.closeOnExec = given &&& ~~~FdFlag.closeOnExec
  unclosed : p.events.filterMap (·.request.closing?) = []
  record : file.record =
    ⟨name, some opened, flags &&& Memfd.allowSealing ≠ 0, flags &&& Memfd.closeOnExec ≠ 0⟩
  lookup : p.value.2.lookup file.fd = some file.record

/-- **Created.** If the emulation returns a file, the names are what they were, and the
descriptor of the file is the only new one. -/
theorem created_of_ok (sys : ObjectSystem h view object) {name : String} {flags : UInt32}
    {e : Emulator} {w : ω} {file : AnonymousFile}
    (hok : ((Provider.create name flags (.emulated e)).run h w).value.1 = .ok file) :
    ∃ opened given final, Created h view object name flags e w file opened given final
      ((Provider.create name flags (.emulated e)).run h w) := by
  have hend := create_ends h name flags e w
  have hmoments := Program.moments_eq_replay h (Provider.create name flags (.emulated e)) w
  rw [run_create_emulated] at hok hmoments ⊢
  generalize (Emulator.create name flags e).run h w = p at hend hok hmoments ⊢
  cases hend with
  | refused hfault => cases hok
  | unopened hfault hsearch hfail => exact absurd hok (Outcome.ne_ok hfail.isOk)
  | @opened o e₁ es w₁ p hfault hsearch hfinish =>
    obtain ⟨earlier, rfl, hnone, hopen⟩ := hsearch.opening rfl
    obtain ⟨given, hopens⟩ := (sys.world_of_exclusiveEnd hsearch).1 o rfl
    cases hfinish with
    | halted hstep hfail hback =>
      exact absurd hok (Outcome.ne_ok (Outcome.isOk_behind hfail.isOk))
    | @finished v w₂ found w₃ v' w₄ w' hunlink hread hwrite hnote =>
      cases hok
      obtain ⟨rfl, hworld⟩ := sys.world_of_handedOut hopens hunlink hread hwrite hnote
      refine ⟨o.name, found, withCloseOnExec found (wantsCloseOnExec flags), {
        names := by rw [hworld, World.names_put]
        name_new := hopens.name_new
        unlinked := ?_
        fd_new := hopens.fd_new
        fd_open := by rw [hworld, World.flags_put_self]
        others := fun fd hfd => by rw [hworld, World.flags_put, if_neg hfd]
        opening := ?_
        given_flags := ?_
        closeOnExec := ?_
        other_flags := others_of_withCloseOnExec ..
        unclosed := ?_
        record := rfl
        lookup := by simp [Provider.lookup] }⟩
      · rw [List.filterMap_append, hsearch.unlinking_eq_nil]
        rfl
      · rw [List.append_assoc, List.filterMap_append, hnone]
        rfl
      · rw [hmoments, List.append_assoc]
        refine ⟨_, Host.mem_replay h w earlier ((openCall o.name).event (.ok o.fd)) _, ?_, ?_⟩
        · simp [Moment.event, Moment.answer, hopen, Call.event]
        · simp [Moment.after, hopen, hopens.after]
      · rw [closeOnExec_of_withCloseOnExec, wantsCloseOnExec, decide_eq_true_iff]
      · rw [List.filterMap_append, hsearch.closing_eq_nil]
        rfl

/-- The second candidate for a file of this name. -/
def secondCandidate : String := candidate Config.defaultStem 1 (mix 8 "notes")

/-- A system in which the first candidate exists already, and new objects are opened with
close-on-exec and another flag. -/
def crowded : Scripted :=
  .start ["/" ++ candidate Config.defaultStem 0 (mix 7 "notes")] 3 [some 7, some 8]

theorem created_crowded :
    let p := (Provider.create "notes" Memfd.allowSealing (.emulated (.start .standard))).run
      Scripted.orderlyHost crowded
    let file : AnonymousFile := ⟨100, ⟨"notes", some secondCandidate, true, false⟩, true⟩
    p.value.1 = .ok file ∧
    ∃ opened given final, Created Scripted.orderlyHost world ObjectName.normalize "notes"
      Memfd.allowSealing (.start .standard) crowded file opened given final p := by
  intro p file
  have hok : p.value.1 = .ok file := by decide +kernel
  exact ⟨hok, created_of_ok objectSystem_orderly hok⟩

end SharedPages.File
