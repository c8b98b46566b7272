import SharedPages.Host.Scripted
import SharedPages.Proofs.Context.Run

/-!
# Who is to blame for an error

An error says by its kind whether the system refused or the library did. It says so rightly but
for two errors, in which the library makes up the number of a system error itself: the length of a
file that is no file size, and a mapping at the null address. Proved here, for every gateway in
any surroundings:

* `blamed_of_createEnd`, `blamed_of_removeEnd`, …: who is to blame for the errors of each
  operation;
* `failed_iff_of_syscall`: an error of kind `syscall` has the number of a call that failed,
  exactly unless the library has made it up; any other error is an invalid argument or a resource
  fault;
* `made_up_errors`: the library does make up such errors.
-/

namespace SharedPages

variable {ω : Type}

/-- A call failed with the number. -/
def Failed (es : List Event) (errno : Errno) : Prop := ∃ c : Call, c.event (.fail errno) ∈ es

theorem Failed.of_mem {es : List Event} {errno : Errno} {c : Call}
    (h : c.event (.fail errno) ∈ es) : Failed es errno := ⟨c, h⟩

theorem Failed.mono {es es' : List Event} {errno : Errno} (h : Failed es errno) (hes : es ⊆ es') :
    Failed es' errno := by
  obtain ⟨c, hc⟩ := h
  exact ⟨c, hes hc⟩

/-- An error of this kind and number tells who is to blame: the system, a call of which failed
with the number, or the library. -/
inductive Blamed (kind : ErrorKind) (errno : Errno) (es : List Event) : Prop
  | system (hkind : kind = .syscall) (hfailed : Failed es errno)
  | library (hkind : kind = .invalidArgument ∨ kind = .resourceFault)

theorem Blamed.mono {kind : ErrorKind} {errno : Errno} {es es' : List Event}
    (h : Blamed kind errno es) (hes : es ⊆ es') : Blamed kind errno es' := by
  cases h with
  | system hkind hfailed => exact .system hkind (hfailed.mono hes)
  | library hkind => exact .library hkind

/-! ## Files -/

namespace File

variable {h : Host ω} {w : ω} {e : Error}

theorem kind_of_fault {name : String} {flags : UInt32} (hfault : fault? name flags = some e) :
    e.kind = .invalidArgument ∨ e.kind = .resourceFault := by
  cases early_of_fault hfault with
  | unsupportedFlags bits => exact Or.inl rfl
  | emptyName => exact Or.inr rfl
  | nameTooLong len max => exact Or.inl rfl

/-- The search for a free name fails with a call, or because no name is free. -/
theorem blamed_of_exclusiveEnd {name : String} {left count : Nat} {emulator : Emulator}
    {p : Played ω (Outcome Error Provisional × Emulator)}
    (hend : ExclusiveEnd h name left count emulator w p) (hfail : p.value.1 = .fail e) :
    Blamed e.kind e.errno p.events := by
  induction hend with
  | exhausted =>
    cases hfail
    exact .library (Or.inr rfl)
  | opened hdrawn hopen => cases hfail
  | taken hdrawn hopen hnote hrest ih =>
    refine (ih hfail).mono fun event hevent => ?_
    exact List.mem_append_right _ (List.mem_cons_of_mem _ (List.mem_cons_of_mem _ hevent))
  | failed hdrawn hne hopen =>
    cases hfail
    exact .system rfl (.of_mem (List.mem_append_right _ List.mem_cons_self))
  | panicked hdrawn hopen => cases hfail

theorem blamed_of_finishStep {o : Provisional} {closeOnExec linked : Bool} {w' : ω}
    {toError : Errno → Error} {passed : List Event} {c : Call} {answer : c.Answer} {α : Type}
    {failure : Outcome Error α} {back : List Event}
    (hstep : FinishStep h o closeOnExec w linked toError passed c answer w')
    (hpass : Outcome.PassedOn toError answer failure) (hfail : failure = .fail e) :
    Blamed e.kind e.errno (passed ++ c.event answer :: back) := by
  cases hpass with
  | panic text => cases hfail
  | fail errno =>
    cases hfail
    have hmem : c.event (.fail errno) ∈ passed ++ c.event (.fail errno) :: back :=
      List.mem_append_right _ List.mem_cons_self
    cases hstep with
    | unlink hunlink => exact .system rfl (.of_mem hmem)
    | flag hunlink hstep => exact .system rfl (.of_mem hmem)

theorem blamed_of_createEnd {name : String} {flags : UInt32} {emulator : Emulator}
    {p : Played ω (Outcome Error AnonymousFile × Emulator)}
    (hend : CreateEnd h name flags emulator w p) (hfail : p.value.1 = .fail e) :
    Blamed e.kind e.errno p.events := by
  cases hend with
  | refused hfault =>
    cases hfail
    exact .library (kind_of_fault hfault)
  | unopened hfault hsearch hpass =>
    cases hpass with
    | panic text => cases hfail
    | fail error =>
      cases hfail
      exact blamed_of_exclusiveEnd hsearch rfl
  | opened hfault hsearch hfinish =>
    cases hfinish with
    | finished hunlink hread hwrite hnote => cases hfail
    | halted hstep hpass hback =>
      have hfailure := behind_eq_fail hback.not_fail hfail
      exact (blamed_of_finishStep hstep hpass hfailure).mono (List.subset_append_right _ _)

theorem blamed_of_nativeEnd {name : String} {flags : UInt32} {σ : Type} {s : σ}
    {p : Played ω (Outcome Error AnonymousFile × σ)} (hend : NativeEnd h name flags s w p)
    (hfail : p.value.1 = .fail e) : Blamed e.kind e.errno p.events := by
  cases hend with
  | refused hfault =>
    cases hfail
    exact .library (kind_of_fault hfault)
  | failed hfault hcall hpass =>
    cases hpass with
    | panic text => cases hfail
    | fail errno =>
      cases hfail
      exact .system rfl (.of_mem List.mem_cons_self)
  | created hfault hcall hnote => cases hfail

/-- What fails when a descriptor is handed on is a step of clearing the flag, not the closing. -/
theorem blamed_of_removeEnd {fd : Fd} {σ : Type} {s : σ} {p : Played ω (Outcome Error Fd × σ)}
    (hend : RemoveEnd h fd s w p) (hfail : p.value.1 = .fail e) :
    Blamed e.kind e.errno p.events := by
  cases hend with
  | cleared hread hwrite => cases hfail
  | @failed passed c w₁ errno u es w' hstep hclose =>
    have hfailure := behind_eq_fail (fun e' => by rintro rfl; exact hclose.not_fail) hfail
    cases hfailure
    exact .system rfl (.of_mem (List.mem_append_right _ List.mem_cons_self))
  | panicked hstep hrelease => cases hfail

end File

/-! ## Mappings -/

namespace Mapping

variable {g : Gateway ω} {live : LiveSet} {w : ω} {e : Error}

theorem blamed_of_refusal (r : Range) (es : List Event) :
    Blamed (refusal r).kind (refusal r).errno es := by
  unfold refusal
  split <;> exact .library (Or.inl rfl)

/-- The mapping lay at the null address and was unmapped again, and no call failed with the number
of an invalid argument. -/
def Nulled (q : MapRequest) (es : List Event) : Prop :=
  ∃ answer : Outcome Errno Unit, answer ≠ .fail .einval ∧
    es = [q.toCall.event (.ok (0 : Address)), Call.event (.munmap ⟨0, q.len⟩) answer]

theorem Nulled.not_failed {q : MapRequest} {es : List Event} (h : Nulled q es) :
    ¬ Failed es .einval := by
  obtain ⟨answer, hanswer, rfl⟩ := h
  rintro ⟨c, hc⟩
  rcases List.mem_cons.mp hc with hmap | hc
  · cases hmap
  · obtain hunmap := List.mem_singleton.mp hc
    cases hunmap
    exact hanswer rfl

theorem blamed_of_mapEnd {q : MapRequest} {p : Played ω (Outcome Error Range × LiveSet)}
    (hend : MapEnd g q live w p) (hfail : p.value.1 = .fail e) :
    (Blamed e.kind e.errno p.events ∧ ¬ Nulled q p.events) ∨
      (e = .map .einval ∧ Nulled q p.events) := by
  cases hend with
  | empty hlen =>
    cases hfail
    refine Or.inl ⟨.library (Or.inl rfl), ?_⟩
    rintro ⟨answer, -, hes⟩
    cases hes
  | split hlen hfixed hsplit =>
    cases hfail
    refine Or.inl ⟨.library (Or.inl rfl), ?_⟩
    rintro ⟨answer, -, hes⟩
    cases hes
  | failed hq hmap =>
    cases hfail
    refine Or.inl ⟨.system rfl (.of_mem List.mem_cons_self), ?_⟩
    rintro ⟨answer, -, hes⟩
    cases hes
  | panicked hq hmap => cases hfail
  | null hq hmap hunmap =>
    cases hfail
    exact Or.inr ⟨rfl, _, by rintro ⟨⟩, rfl⟩
  | @nullKept w₁ errno w' hq hmap hunmap =>
    cases hfail
    by_cases herrno : errno = .einval
    · subst herrno
      refine Or.inl ⟨.system rfl (.of_mem (List.mem_cons_of_mem _ List.mem_cons_self)), ?_⟩
      rintro ⟨answer, hanswer, hes⟩
      cases hes
      exact hanswer rfl
    · refine Or.inr ⟨rfl, _, ?_, rfl⟩
      rintro ⟨⟩
      exact herrno rfl
  | nullPanicked hq hmap hunmap => cases hfail
  | mapped hq hbase hmap => cases hfail

theorem blamed_of_unmapEnd {r : Range} {p : Played ω (Outcome Error Unit × LiveSet)}
    (hend : UnmapEnd g r live w p) (hfail : p.value.1 = .fail e) :
    Blamed e.kind e.errno p.events := by
  cases hend with
  | refused hr =>
    cases hfail
    exact blamed_of_refusal r []
  | unmapped hr hunmap => cases hfail
  | failed hr hunmap =>
    cases hfail
    exact .system rfl (.of_mem List.mem_cons_self)
  | panicked hr hunmap => cases hfail

theorem blamed_of_passEnd {a : Action} {r : Range} {c : Call} {toError : Errno → Error}
    {p : Played ω (Outcome Error c.Value × LiveSet)} (ha : a.Passes r c toError)
    (hend : PassEnd g r c toError live w p) (hfail : p.value.1 = .fail e) :
    Blamed e.kind e.errno p.events := by
  cases hend with
  | refused hr =>
    cases hfail
    exact blamed_of_refusal r []
  | @answered known answer w' hr hcall =>
    cases answer with
    | ok v => cases hfail
    | panic text => cases hfail
    | fail errno =>
      cases hfail
      cases ha <;> exact .system rfl (.of_mem List.mem_cons_self)

end Mapping

/-! ## Contexts -/

namespace Context

open Mapping (Nulled)

/-- The library makes up the number of a system error. -/
def MadeUp : Action → List Event → Prop
  | .registry (.map q), es => Nulled q es
  | .mapFile fd len prot, es =>
    fileSize? len = none ∨ ∃ size es', es = Call.event (.ftruncate fd size) (.ok ()) :: es' ∧
      Nulled (wholeFile fd len prot) es'
  | _, _ => False

/-- What is known of an error: it tells who is to blame and is not made up, or it is made up and
no call failed with its number. -/
inductive Verdict (a : Action) (e : ContextError) (es : List Event) : Prop
  | told (hblamed : Blamed e.kind e.errno es) (htrue : ¬ MadeUp a es)
  | madeUp (hkind : e.kind = .syscall) (hmade : MadeUp a es) (hno : ¬ Failed es e.errno)

section Verdicts

variable {g : Gateway ω} {src : Sources ω} {c : Context} {w : ω} {e : ContextError}

theorem verdict_of_registryEnd {a : Mapping.Action}
    {p : Played ω (Outcome Mapping.Error Mapping.Reply × Mapping.LiveSet)} {e : Mapping.Error}
    (hend : Mapping.ActionEnd g c.live w a p) (hfail : p.value.1 = .fail e) :
    Verdict (.registry a) (.mapping e) p.events := by
  cases hend with
  | map hend =>
    have hcases := Mapping.blamed_of_mapEnd hend (Outcome.eq_fail_of_map hfail)
    rcases hcases with ⟨hblamed, htrue⟩ | ⟨rfl, hnull⟩
    · exact .told hblamed htrue
    · exact .madeUp rfl hnull hnull.not_failed
  | unmap hend => exact .told (Mapping.blamed_of_unmapEnd hend (Outcome.eq_fail_of_map hfail)) id
  | pass ha hend =>
    have hblamed := Mapping.blamed_of_passEnd ha hend (Outcome.eq_fail_of_map hfail)
    cases ha <;> exact .told hblamed id
  | look ha => cases hfail

theorem verdict_of_mapFileEnd {fd : Fd} {len : UInt64} {prot : Int32}
    {p : Played ω (Outcome ContextError Range × Context)}
    (hend : MapFileEnd g fd len prot c w p) (hfail : p.value.1 = .fail e) :
    Verdict (.mapFile fd len prot) e p.events := by
  cases hend with
  | empty hlen =>
    cases hfail
    subst hlen
    refine .told (.library (Or.inl rfl)) ?_
    rintro (hsize | ⟨size, es', hes, -⟩)
    · cases hsize
    · cases hes
  | oversized hsize =>
    cases hfail
    refine .madeUp rfl (Or.inl hsize) ?_
    rintro ⟨call, hcall⟩
    cases hcall
  | unsized hlen hsize hresize hpass =>
    cases hpass with
    | panic text => cases hfail
    | fail errno =>
      cases hfail
      refine .told (.system rfl (.of_mem List.mem_cons_self)) ?_
      rintro (hnone | ⟨size, es', hes, -⟩)
      · cases hnone.symm.trans hsize
      · cases hes
  | @unmapped size v w₁ p failure hlen hsize hresize hmap hpass =>
    rcases p with ⟨⟨o, live⟩, es, w₂⟩
    cases hpass with
    | panic text => cases hfail
    | fail error =>
      cases hfail
      rcases Mapping.blamed_of_mapEnd hmap rfl with ⟨hblamed, htrue⟩ | ⟨rfl, hnull⟩
      · refine .told (hblamed.mono (List.subset_cons_self _ _)) ?_
        rintro (hnone | ⟨size', es', hes, hnull⟩)
        · cases hnone.symm.trans hsize
        · obtain ⟨-, rfl⟩ := List.cons.inj hes
          exact htrue hnull
      · refine .madeUp rfl (Or.inr ⟨size, es, rfl, hnull⟩) ?_
        rintro ⟨call, hcall⟩
        rcases List.mem_cons.mp hcall with hresized | hcall
        · cases hresized
        · exact hnull.not_failed ⟨call, hcall⟩
  | mapped hlen hsize hresize hmap hr => cases hfail

theorem blamed_of_creationEnd {h : Host ω} {name : String} {flags : UInt32}
    {provider : File.Provider} {w : ω} {error : File.Error}
    {p : Played ω (Outcome File.Error File.AnonymousFile × File.Provider)}
    (hend : CreationEnd h name flags provider w p) (hfail : p.value.1 = .fail error) :
    Blamed error.kind error.errno p.events := by
  cases hend with
  | native hend => exact File.blamed_of_nativeEnd hend hfail
  | emulated hend => exact File.blamed_of_createEnd hend hfail

/-- **Errors of a context.** There is no error without a verdict. -/
theorem verdict_of_actionEnd {a : Action} {p : Played ω (Outcome ContextError Reply × Context)}
    (hend : ActionEnd g src c w a p) (hfail : p.value.1 = .fail e) : Verdict a e p.events := by
  cases hend with
  | registry hend =>
    obtain ⟨error, herror, rfl⟩ := Outcome.eq_fail_of_mapError (Outcome.eq_fail_of_map hfail)
    exact verdict_of_registryEnd hend herror
  | mapFile hend => exact verdict_of_mapFileEnd hend (Outcome.eq_fail_of_map hfail)
  | @create a name flags p ha hend =>
    obtain ⟨error, herror, rfl⟩ := Outcome.eq_fail_of_mapError (Outcome.eq_fail_of_map hfail)
    have hblamed := blamed_of_creationEnd hend herror
    cases ha <;> exact .told hblamed id
  | removeCloseOnExec hend =>
    obtain ⟨error, herror, rfl⟩ := Outcome.eq_fail_of_mapError (Outcome.eq_fail_of_map hfail)
    exact .told (File.blamed_of_removeEnd hend herror) id

end Verdicts

/-- **Kinds of errors.** An error of kind `syscall` has the number of a call of the operation that
failed, exactly unless the library has made it up; and an error of any other kind is an invalid
argument or a resource fault. -/
theorem failed_iff_of_syscall (g : Gateway ω) (src : Sources ω) (a : Action) (c : Context) (w : ω)
    (e : ContextError) (hfail : ((a.operation c).run (g.hostIn src) w).value.1 = .fail e) :
    let es := ((a.operation c).run (g.hostIn src) w).events
    (e.kind = .syscall → (Failed es e.errno ↔ ¬ MadeUp a es)) ∧
      (e.kind ≠ .syscall → e.kind = .invalidArgument ∨ e.kind = .resourceFault) := by
  intro es
  have hverdict : Verdict a e es := verdict_of_actionEnd (action_ends g src a c w) hfail
  cases hverdict with
  | told hblamed htrue =>
    cases hblamed with
    | system hkind hfailed =>
      exact ⟨fun _ => ⟨fun _ => htrue, fun _ => hfailed⟩, fun h => absurd hkind h⟩
    | library hkind =>
      refine ⟨fun h => ?_, fun _ => hkind⟩
      rw [h] at hkind
      rcases hkind with hkind | hkind <;> cases hkind
  | madeUp hkind hmade hno =>
    exact ⟨fun _ => ⟨fun h => absurd h hno, fun h => absurd hmade h⟩, fun h => absurd hkind h⟩

/-! ## A scripted context -/

/-- The scripted system as the surroundings of its own gateway. -/
def scriptedSources : Sources Scripted where
  draw s := Scripted.host.answer .draw s
  clock s := Scripted.host.answer .clock s
  release fd s := (Scripted.host.answer (.release fd) s).2
  duplicate fd s := Scripted.host.answer (.duplicate fd) s

/-- Carry out an action in the scripted system, with an emulation and without mappings. -/
def rehearse (a : Action) (s : Scripted) : Played Scripted (Outcome ContextError Reply × Context) :=
  (a.operation (.start (.emulated (.start .standard)))).run
    (Scripted.perform.hostIn scriptedSources) s

/-- A system in which flags cannot be written, and the roll-back fails with another number. -/
def obstinate : Scripted :=
  ((Scripted.start [] 1 []).script .setFdFlags [.fail .einval] none).script .close [.fail .ebadf]
    none

theorem failed_obstinate :
    (rehearse (.create "notes" 0) obstinate).value.1 = .fail (.file (.closeOnExec .einval)) ∧
      Failed (rehearse (.create "notes" 0) obstinate).events .einval := by
  have hfail : (rehearse (.create "notes" 0) obstinate).value.1 =
      .fail (.file (.closeOnExec .einval)) := by decide +kernel
  have h := failed_iff_of_syscall Scripted.perform scriptedSources (.create "notes" 0) _ obstinate
    (.file (.closeOnExec .einval)) hfail
  exact ⟨hfail, (h.1 rfl).mpr id⟩

/-- **Made-up errors.** A length that is no file size is reported as a failure of the system, which
has not been asked for anything. -/
theorem made_up_errors :
    ¬ ∀ (g : Gateway Scripted) (src : Sources Scripted) (a : Action) (c : Context) (w : Scripted)
      (e : ContextError), ((a.operation c).run (g.hostIn src) w).value.1 = .fail e →
        e.kind = .syscall → Failed ((a.operation c).run (g.hostIn src) w).events e.errno := by
  intro h
  obtain ⟨call, hcall⟩ := h Scripted.perform scriptedSources
    (.mapFile 3 0x8000000000000000 Prot.readWrite) _ (.start [] 0 []) (.resize .einval)
    (by decide +kernel : (rehearse (.mapFile 3 0x8000000000000000 Prot.readWrite)
      (.start [] 0 [])).value.1 = _) rfl
  cases hcall

end Context

end SharedPages
