import SharedPages.Host.Numbering
import SharedPages.Proofs.File.Ends
import SharedPages.Proofs.File.Naming
import SharedPages.Proofs.Surroundings

/-!
# Native and emulated files

Over a kernel in which every call succeeds, behind the check of names, the emulation makes the
same files as the native provider, but for one kind of name: only the native provider passes the
name of the file on, and the check refuses it if it has a NUL. Proved here:

* `fits_of_createEnd`, `nativeEnd_of_generous`: what each of the two makes of a request;
* `agree_iff_of_generous`: they agree on a request exactly unless it is without fault and its name
  has a NUL;
* `nul_parts_providers`: on such a request they do not.
-/

namespace SharedPages.File

open Operation Emulator

variable {ω : Type} {kernel : Gateway ω} {flagsOf : ω → Fd → Option Int32}

/-! ## Agreement -/

/-- Two descriptors, each in its state, are both open, and both or neither of them are closed
when the process executes another program. -/
def SameFlag (flagsOf : ω → Fd → Option Int32) (w : ω) (fd : Fd) (w' : ω) (fd' : Fd) : Prop :=
  ∃ given given', flagsOf w fd = some given ∧ flagsOf w' fd' = some given' ∧
    (given &&& FdFlag.closeOnExec ≠ 0 ↔ given' &&& FdFlag.closeOnExec ≠ 0)

/-- Two creations fail with the same error, or return files that cannot be told apart by what was
asked for. -/
inductive Agree (flagsOf : ω → Fd → Option Int32) :
    Outcome Error AnonymousFile → ω → Outcome Error AnonymousFile → ω → Prop
  | failed (e : Error) (w w' : ω) : Agree flagsOf (.fail e) w (.fail e) w'
  | made {f f' : AnonymousFile} {w w' : ω} (hname : f.record.name = f'.record.name)
      (hsealing : f.record.allowsSealing = f'.record.allowsSealing)
      (hclose : f.record.closeOnExec = f'.record.closeOnExec)
      (hflag : SameFlag flagsOf w f.fd w' f'.fd) : Agree flagsOf (.ok f) w (.ok f') w'

/-! ## Generous kernels -/

/-- A kernel in which every call succeeds. A new memory file is closed on execution exactly if
that was asked for, and the flags of a descriptor are those that were written last. -/
structure Generous (kernel : Gateway ω) (flagsOf : ω → Fd → Option Int32) : Prop where
  succeeds : ∀ c w, (kernel c w).1.isOk = true
  created : ∀ {name flags w} {fd : Fd} {w'},
    kernel (.memfdCreate name flags) w = (.ok fd, w') → ∃ given, flagsOf w' fd = some given ∧
      (given &&& FdFlag.closeOnExec ≠ 0 ↔ flags &&& Memfd.closeOnExec ≠ 0)
  written : ∀ {fd flags w v w'}, kernel (.setFdFlags fd flags) w = (.ok v, w') →
    flagsOf w' fd = some flags

theorem Generous.isOk (law : Generous kernel flagsOf) {c : Call} {w w' : ω} {answer : c.Answer}
    (hcall : kernel c w = (answer, w')) : answer.isOk = true := by
  have hok := law.succeeds c w
  rwa [hcall] at hok

/-- The name passes the check, so that the kernel is asked for it. -/
def Passes (name : String) : Prop := ∃ n, ObjectName.normalize name = .ok n

theorem passes_proposal (e : Emulator) (name : String) (bits : UInt64) :
    Passes (e.proposal name bits) :=
  ⟨_, normalize_candidate e.config.stem_valid⟩

section Checked

variable {w w' : ω}

theorem Generous.opens (law : Generous kernel flagsOf) {name : String} (hname : Passes name)
    {answer : Outcome Errno Fd} (hopen : kernel.checkingNames (openCall name) w = (answer, w')) :
    answer.isOk = true := by
  obtain ⟨n, hn⟩ := hname
  have hkernel : kernel (.shmOpen n openFlags openMode) w = (answer, w') := by
    rw [← hopen]
    simp [Gateway.checkingNames, hn]
  exact law.isOk hkernel

theorem Generous.unlinks (law : Generous kernel flagsOf) {name : String} (hname : Passes name)
    {answer : Outcome Errno Unit}
    (hunlink : kernel.checkingNames (.shmUnlink name) w = (answer, w')) : answer.isOk = true := by
  obtain ⟨n, hn⟩ := hname
  have hkernel : kernel (.shmUnlink n) w = (answer, w') := by
    rw [← hunlink]
    simp [Gateway.checkingNames, hn]
  exact law.isOk hkernel

end Checked

/-! ## What a request comes to -/

/-- The file is what was asked for, and so is its descriptor. -/
structure Fits (flagsOf : ω → Fd → Option Int32) (name : String) (flags : UInt32)
    (f : AnonymousFile) (w : ω) : Prop where
  name_eq : f.record.name = name
  allowsSealing_eq : f.record.allowsSealing = wantsSealing flags
  closeOnExec_eq : f.record.closeOnExec = wantsCloseOnExec flags
  flag : ∃ given, flagsOf w f.fd = some given ∧
    (given &&& FdFlag.closeOnExec ≠ 0 ↔ flags &&& Memfd.closeOnExec ≠ 0)

theorem Fits.agree {name : String} {flags : UInt32} {f f' : AnonymousFile} {w w' : ω}
    (hf : Fits flagsOf name flags f w) (hf' : Fits flagsOf name flags f' w') :
    Agree flagsOf (.ok f) w (.ok f') w' := by
  obtain ⟨given, hgiven, hiff⟩ := hf.flag
  obtain ⟨given', hgiven', hiff'⟩ := hf'.flag
  exact .made (hf.name_eq.trans hf'.name_eq.symm)
    (hf.allowsSealing_eq.trans hf'.allowsSealing_eq.symm)
    (hf.closeOnExec_eq.trans hf'.closeOnExec_eq.symm)
    ⟨given, given', hgiven, hgiven', hiff.trans hiff'.symm⟩

section Ends

variable {src : Sources ω} {name : String} {flags : UInt32} {w : ω}

/-- The first candidate is opened. -/
theorem opened_of_generous (law : Generous kernel flagsOf) {left count : Nat} {e : Emulator}
    {p : Played ω (Outcome Error Provisional × Emulator)}
    (hend : ExclusiveEnd (kernel.checkingNames.hostIn src) name (left + 1) count e w p) :
    ∃ o, p.value.1 = .ok o ∧ Passes o.name := by
  cases hend with
  | @opened _ _ _ _ bits _ _ fd _ hdrawn hopen => exact ⟨_, rfl, passes_proposal e name bits⟩
  | @taken _ _ _ _ bits _ _ _ _ _ hdrawn hopen hnote hrest =>
    have hok := law.opens (passes_proposal e name bits) hopen
    cases hok
  | @failed _ _ _ _ bits _ _ _ _ hdrawn hne hopen =>
    have hok := law.opens (passes_proposal e name bits) hopen
    cases hok
  | @panicked _ _ _ _ bits _ _ _ _ hdrawn hopen =>
    have hok := law.opens (passes_proposal e name bits) hopen
    cases hok

/-- No step towards handing the object out fails. -/
theorem not_halted_of_generous (law : Generous kernel flagsOf) {o : Provisional}
    (hname : Passes o.name) {closeOnExec linked : Bool} {toError : Errno → Error}
    {passed : List Event} {c : Call} {answer : c.Answer} {w' : ω}
    (hstep : FinishStep (kernel.checkingNames.hostIn src) o closeOnExec w linked toError passed c
      answer w') : answer.isOk = true := by
  cases hstep with
  | unlink hunlink => exact law.unlinks hname hunlink
  | @flag v w₁ passed c answer w' hunlink hstep =>
    have hkernel : ∃ w₂, kernel c w₂ = (answer, w') := by
      cases hstep with
      | read hread => exact ⟨_, hread⟩
      | write hread hwrite => exact ⟨_, hwrite⟩
    obtain ⟨w₂, hcall⟩ := hkernel
    exact law.isOk hcall

/-- **The emulation** makes the file of every request without fault. -/
theorem fits_of_createEnd (law : Generous kernel flagsOf) {e : Emulator}
    {p : Played ω (Outcome Error AnonymousFile × Emulator)} (hfault : fault? name flags = none)
    (hend : CreateEnd (kernel.checkingNames.hostIn src) name flags e w p) :
    ∃ f, p.value.1 = .ok f ∧ Fits flagsOf name flags f p.host := by
  obtain ⟨left, hleft⟩ := Nat.exists_eq_succ_of_ne_zero (Nat.ne_of_gt e.config.attempts_pos)
  cases hend with
  | refused hrefused =>
    rw [hfault] at hrefused
    cases hrefused
  | unopened _ hsearch hfail =>
    rw [hleft] at hsearch
    obtain ⟨o, ho, -⟩ := opened_of_generous law hsearch
    exact absurd ho (Outcome.ne_ok hfail.isOk_part)
  | @opened o e₁ es w₁ p _ hsearch hfinish =>
    rw [hleft] at hsearch
    obtain ⟨o', ho, hname⟩ := opened_of_generous law hsearch
    obtain rfl : o = o' := by cases ho; rfl
    cases hfinish with
    | halted hstep hfail hback =>
      have hok := not_halted_of_generous law hname hstep
      rw [hfail.isOk_part] at hok
      cases hok
    | @finished v w₂ given w₃ v' w₄ w' hunlink hread hwrite hnote =>
      -- Remarks leave the state alone, so the flags are those that were written.
      have hw : w₄ = w' := hnote
      have hflags : flagsOf w₄ o.fd = some (withCloseOnExec given (wantsCloseOnExec flags)) :=
        law.written hwrite
      refine ⟨_, rfl, rfl, rfl, rfl, _, hw ▸ hflags, ?_⟩
      rw [closeOnExec_of_withCloseOnExec, wantsCloseOnExec, decide_eq_true_iff]

/-- **The native provider** makes it unless the name has a NUL. -/
theorem nativeEnd_of_generous (law : Generous kernel flagsOf) {σ : Type} {s : σ}
    {p : Played ω (Outcome Error AnonymousFile × σ)} (hfault : fault? name flags = none)
    (hend : NativeEnd (kernel.checkingNames.hostIn src) name flags s w p) :
    (Char.ofNat 0 ∈ name.toList → p.value.1 = .fail (.create .einval)) ∧
      (Char.ofNat 0 ∉ name.toList →
        ∃ f, p.value.1 = .ok f ∧ Fits flagsOf name flags f p.host) := by
  have hchecked : (kernel.checkingNames.hostIn src).answer (.call (.memfdCreate name flags)) w =
      if Char.ofNat 0 ∈ name.toList then (.fail .einval, w)
      else kernel (.memfdCreate name flags) w := by
    simp [Gateway.hostIn, Gateway.checkingNames]
  cases hend with
  | refused hrefused =>
    rw [hfault] at hrefused
    cases hrefused
  | failed _ hcall hfail =>
    rw [hchecked] at hcall
    split at hcall
    · next hnul =>
      cases hcall
      cases hfail with
      | fail e => exact ⟨fun _ => rfl, fun hno => absurd hnul hno⟩
    · have hok := law.isOk hcall
      rw [hfail.isOk_part] at hok
      cases hok
  | @created fd w₁ w' _ hcall hnote =>
    rw [hchecked] at hcall
    split at hcall
    · cases hcall
    · next hnul =>
      have hw : w₁ = w' := hnote
      obtain ⟨given, hgiven, hiff⟩ := law.created hcall
      refine ⟨fun hyes => absurd hyes hnul, fun _ => ⟨_, rfl, ?_⟩⟩
      exact ⟨rfl, rfl, rfl, given, hw ▸ hgiven, hiff⟩

end Ends

/-- **Interchange.** Over a kernel in which every call succeeds, and whatever the states are, the
two providers agree on a request, exactly unless it is without fault and its name has a NUL. -/
theorem agree_iff_of_generous (law : Generous kernel flagsOf) (src : Sources ω) (name : String)
    (flags : UInt32) (e : Emulator) (w w' : ω) :
    let p := (Provider.create name flags .native).run (kernel.checkingNames.hostIn src) w
    let q := (Provider.create name flags (.emulated e)).run (kernel.checkingNames.hostIn src) w'
    Agree flagsOf p.value.1 p.host q.value.1 q.host ↔
      ¬ (fault? name flags = none ∧ Char.ofNat 0 ∈ name.toList) := by
  have hnative := native_ends (kernel.checkingNames.hostIn src) name flags Provider.native w
  have hcreate := create_ends (kernel.checkingNames.hostIn src) name flags e w'
  rw [run_create_emulated]
  show let p := (Native.create name flags Provider.native).run (kernel.checkingNames.hostIn src) w
    let q := (Emulator.create name flags e).run (kernel.checkingNames.hostIn src) w'
    Agree flagsOf p.value.1 p.host q.value.1 q.host ↔ _
  generalize (Native.create name flags Provider.native).run (kernel.checkingNames.hostIn src) w = p
    at hnative
  generalize (Emulator.create name flags e).run (kernel.checkingNames.hostIn src) w' = q at hcreate
  dsimp only
  cases hfault : fault? name flags with
  | some error =>
    rw [hnative.value_of_fault hfault, hcreate.value_of_fault hfault]
    exact ⟨fun _ hno => (nomatch hno.1), fun _ => .failed error _ _⟩
  | none =>
    obtain ⟨f', hq, hfits'⟩ := fits_of_createEnd law hfault hcreate
    obtain ⟨hnul, hplain⟩ := nativeEnd_of_generous law hfault hnative
    by_cases hname : Char.ofNat 0 ∈ name.toList
    · rw [hnul hname, hq]
      refine ⟨fun hagree => ?_, fun hno => absurd ⟨rfl, hname⟩ hno⟩
      cases hagree
    · obtain ⟨f, hp, hfits⟩ := hplain hname
      rw [hp, hq]
      exact ⟨fun _ hno => hname hno.2, fun _ => hfits.agree hfits'⟩

/-! ## An ample kernel -/

/-- The open descriptors with their flags. -/
abbrev Descriptors := Table Fd Int32

/-- Open a descriptor with the given flags. -/
def Descriptors.opened (t : Descriptors) (flags : Int32) : Outcome Errno Fd × Descriptors :=
  let fd := lowestFree (fun fd => (t.get? fd).isSome) t.size 3
  (.ok fd, t.insert fd flags)

/-- A kernel that never runs out of anything, and keeps nothing but descriptors. -/
def ample : Gateway Descriptors
  | .mmap .., t => (.ok (0x1000 : Address), t)
  | .shmOpen _ _ _, t => t.opened 0
  | .memfdCreate _ flags, t =>
    t.opened (if flags &&& Memfd.closeOnExec ≠ 0 then FdFlag.closeOnExec else 0)
  | .getFdFlags fd, t => (.ok ((t.get? fd).getD 0), t)
  | .setFdFlags fd flags, t => (.ok (), t.insert fd flags)
  | .close fd, t => (.ok (), t.erase fd)
  | .munmap _, t => (.ok (), t)
  | .mprotect _ _, t => (.ok (), t)
  | .mlock _, t => (.ok (), t)
  | .munlock _, t => (.ok (), t)
  | .madvise _ _, t => (.ok (), t)
  | .msync _ _, t => (.ok (), t)
  | .shmUnlink _, t => (.ok (), t)
  | .ftruncate _ _, t => (.ok (), t)

theorem generous_ample : Generous ample Table.get? where
  succeeds c t := by cases c <;> rfl
  created := by
    intro name flags t fd t' h
    cases h
    refine ⟨_, by rw [Table.get?_insert, if_pos rfl], ?_⟩
    split
    · next hflag => exact ⟨fun _ => hflag, fun _ => by decide⟩
    · next hflag => exact ⟨fun h => absurd (by decide) h, fun h => absurd h hflag⟩
  written := by
    intro fd flags t v t' h
    cases h
    rw [Table.get?_insert, if_pos rfl]

/-- No random bits, a clock that stands still, and no second descriptors. -/
def bare : Sources Descriptors where
  draw t := (none, t)
  clock t := (0, t)
  release fd t := t.erase fd
  duplicate _ t := (.error .emfile, t)

/-- A name with slashes and letters outside the ASCII range. -/
def oddName : String := "../päge 1"

theorem agree_oddName :
    let flags := Memfd.closeOnExec ||| Memfd.hugeTlb ||| Memfd.hugeSize 21
    let t : Descriptors := Table.empty.insert 3 0
    let p := (Provider.create oddName flags .native).run (ample.checkingNames.hostIn bare) .empty
    let q := (Provider.create oddName flags (.emulated (.start .standard))).run
      (ample.checkingNames.hostIn bare) t
    fault? oddName flags = none ∧ Agree Table.get? p.value.1 p.host q.value.1 q.host := by
  intro flags t
  have h := agree_iff_of_generous generous_ample bare oddName flags (.start .standard) .empty t
  refine ⟨by decide +kernel, h.mpr ?_⟩
  rintro ⟨-, hnul⟩
  exact absurd hnul (by decide +kernel)

/-- **A NUL parts the providers.** The check of names refuses the name to the native provider, and
never sees it from the emulation. -/
theorem nul_parts_providers :
    ¬ ∀ (kernel : Gateway Descriptors) (flagsOf : Descriptors → Fd → Option Int32),
      Generous kernel flagsOf → ∀ (src : Sources Descriptors) (name : String) (flags : UInt32)
        (e : Emulator) (w w' : Descriptors),
        let p := (Provider.create name flags .native).run (kernel.checkingNames.hostIn src) w
        let q := (Provider.create name flags (.emulated e)).run (kernel.checkingNames.hostIn src) w'
        Agree flagsOf p.value.1 p.host q.value.1 q.host := by
  intro h
  have hagree := h ample Table.get? generous_ample bare "a\x00b" 0 (.start .standard) .empty .empty
  have hnative : ((Provider.create "a\x00b" 0 .native).run (ample.checkingNames.hostIn bare)
      .empty).value.1 = .fail (.create .einval) := by decide +kernel
  have hemulated : ((Provider.create "a\x00b" 0 (.emulated (.start .standard))).run
      (ample.checkingNames.hostIn bare) .empty).value.1.isOk = true := by decide +kernel
  dsimp only at hagree
  rw [hnative] at hagree
  generalize ((Provider.create "a\x00b" 0 (.emulated (.start .standard))).run
    (ample.checkingNames.hostIn bare) .empty).value.1 = o at hagree hemulated
  cases hagree
  cases hemulated

end SharedPages.File
