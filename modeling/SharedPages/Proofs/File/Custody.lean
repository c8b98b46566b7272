import SharedPages.Proofs.File.Client
import SharedPages.Proofs.File.Orderly
import SharedPages.Proofs.File.Records

/-!
# Live files

Which files of an emulation are live is a matter of the handles that its client holds. Proved
here, for every system that opens descriptors under numbers that are not open (`FreshNumbers`),
whatever fails or panics:

* `Custody.created`, `Custody.forgotten`, `Custody.released`: what happens when handles come and
  go;
* `leads_create`, `leads_drop`, `leads_removeCloseOnExec`, …: each operation keeps the custody;
* `records_of_run`: in every run of a client the table of each emulation is exactly the set of its
  live files.
-/

namespace SharedPages.File

open Operation

variable {ω ε : Type} {h : Host ω} {isOpen : ω → Fd → Prop}

/-! ## Live files -/

/-- The file that a handle is, if it belongs to the provider. -/
def Handle.file? (maker : Nat) : Handle → Option AnonymousFile
  | file m f => if m = maker then some f else none
  | owned _ => none
  | ordinary _ => none

/-- The handle is no file. -/
def Handle.IsLoose (handle : Handle) : Prop := ∀ maker, handle.file? maker = none

theorem loose_owned (fd : Fd) : (Handle.owned fd).IsLoose := fun _ => rfl

theorem loose_ordinary (fd : Fd) : (Handle.ordinary fd).IsLoose := fun _ => rfl

/-- The files of a provider among handles. -/
def filesAmong (maker : Nat) (hs : List Handle) : List AnonymousFile :=
  hs.filterMap (Handle.file? maker)

/-- The live files of a provider. -/
def Client.files (maker : Nat) (c : Client) : List AnonymousFile := filesAmong maker c.handles

theorem fd_of_file? {maker : Nat} {handle : Handle} {f : AnonymousFile}
    (hf : handle.file? maker = some f) : handle.fd = f.fd := by
  cases handle with
  | file m g =>
    simp only [Handle.file?] at hf
    split at hf
    · cases hf; rfl
    · cases hf
  | owned fd => cases hf
  | ordinary fd => cases hf

theorem filesAmong_loose {x : Handle} (hx : x.IsLoose) (maker : Nat) (hs : List Handle) :
    filesAmong maker (x :: hs) = filesAmong maker hs :=
  List.filterMap_cons_none (hx maker)

theorem filesAmong_file (maker m : Nat) (f : AnonymousFile) (hs : List Handle) :
    filesAmong maker (.file m f :: hs) =
      if m = maker then f :: filesAmong maker hs else filesAmong maker hs := by
  by_cases hm : m = maker <;> simp [filesAmong, Handle.file?, hm]

theorem fds_sublist (maker : Nat) (hs : List Handle) :
    ((filesAmong maker hs).map AnonymousFile.fd).Sublist (hs.map Handle.fd) := by
  induction hs with
  | nil => exact .slnil
  | cons handle hs ih =>
    cases hf : handle.file? maker with
    | none => simpa [filesAmong, hf] using ih.cons handle.fd
    | some f => simpa [filesAmong, hf, fd_of_file? hf] using ih.cons_cons f.fd

/-- A client of emulations, before it has done anything. -/
def Client.emulating (configs : Nat → Config) : Client :=
  ⟨fun maker => .emulated (.start (configs maker)), []⟩

/-! ## Custody -/

/-- The handles own different descriptors, all of them open, and the table of each provider has
the records of its files among them. -/
structure Custody (isOpen : Fd → Prop) (providers : Nat → Provider) (hs : List Handle) : Prop where
  owning : Owning isOpen (hs.map Handle.fd)
  recorded : ∀ maker, Recorded (providers maker) (filesAmong maker hs)

section Custody

variable {opens opens' : Fd → Prop} {providers : Nat → Provider} {hs hs' : List Handle}

theorem custody_start (configs : Nat → Config) :
    Custody opens (Client.emulating configs).providers [] :=
  ⟨⟨List.nodup_nil, by simp⟩, fun maker => recorded_start (configs maker)⟩

theorem Custody.perm (hc : Custody opens providers hs) (hperm : hs.Perm hs') :
    Custody opens providers hs' :=
  ⟨hc.owning.perm (hperm.map _), fun maker => (hc.recorded maker).perm (hperm.filterMap _)⟩

/-- A change of one provider, and of its files among the handles. -/
theorem recorded_update {maker : Nat} {provider : Provider}
    (hrecorded : ∀ m, Recorded (providers m) (filesAmong m hs))
    (hmaker : Recorded provider (filesAmong maker hs'))
    (hothers : ∀ m ≠ maker, filesAmong m hs' = filesAmong m hs) (m : Nat) :
    Recorded (Function.update providers maker provider m) (filesAmong m hs') := by
  by_cases hm : m = maker
  · subst hm
    rwa [Function.update_self]
  · rw [Function.update_of_ne hm, hothers m hm]
    exact hrecorded m

/-- **Creations.** A file with a number of its own is recorded by its provider. -/
theorem Custody.created {maker : Nat} {e e' : Emulator} {f : AnonymousFile}
    (hc : Custody opens providers hs) (he : providers maker = .emulated e)
    (hfiles : e'.files = e.files.insert f.fd f.record) (htracked : f.tracked = true)
    (hnew : ¬ opens f.fd) (hopen : opens' f.fd) (hkept : ∀ fd, opens fd → opens' fd) :
    Custody opens' (Function.update providers maker (.emulated e')) (.file maker f :: hs) := by
  refine ⟨hc.owning.cons hnew hopen hkept, recorded_update hc.recorded ?_ fun m hm => ?_⟩
  · have hown := hc.owning.not_mem hnew
    rw [filesAmong_file, if_pos rfl]
    exact (he ▸ hc.recorded maker).insert hfiles htracked fun hmem =>
      hown ((fds_sublist maker hs).subset hmem)
  · rw [filesAmong_file, if_neg hm.symm]

/-- A creation that returns no file leaves the records alone. -/
theorem Custody.uncreated {maker : Nat} {e e' : Emulator} (hc : Custody opens providers hs)
    (he : providers maker = .emulated e) (hfiles : e'.files = e.files)
    (hkept : ∀ fd, opens fd → opens' fd) :
    Custody opens' (Function.update providers maker (.emulated e')) hs := by
  refine ⟨hc.owning.keep fun fd _ => hkept fd, recorded_update hc.recorded ?_ fun _ _ => rfl⟩
  exact (he ▸ hc.recorded maker).congr hfiles

/-- **Ends of files.** The record goes, and the descriptor stays in hand. -/
theorem Custody.forgotten {maker : Nat} {f : AnonymousFile}
    (hc : Custody opens providers (.file maker f :: hs)) :
    Custody opens (Function.update providers maker ((providers maker).forget f))
      (.owned f.fd :: hs) := by
  refine ⟨hc.owning, recorded_update hc.recorded ?_ fun m hm => ?_⟩
  · have hown : f.fd ∉ hs.map Handle.fd := (List.nodup_cons.mp hc.owning.nodup).1
    have hrecorded := hc.recorded maker
    rw [filesAmong_file, if_pos rfl] at hrecorded
    rw [filesAmong_loose (loose_owned f.fd)]
    exact hrecorded.forget fun hmem => hown ((fds_sublist maker hs).subset hmem)
  · rw [filesAmong_loose (loose_owned f.fd), filesAmong_file, if_neg hm.symm]

/-- A handle that is no file comes into hand. -/
theorem Custody.acquired {x : Handle} (hx : x.IsLoose) (hc : Custody opens providers hs)
    (hnew : ¬ opens x.fd) (hopen : opens' x.fd) (hkept : ∀ fd, opens fd → opens' fd) :
    Custody opens' providers (x :: hs) := by
  refine ⟨hc.owning.cons hnew hopen hkept, fun maker => ?_⟩
  rw [filesAmong_loose hx]
  exact hc.recorded maker

/-- A handle that is no file goes, and its descriptor may be closed. -/
theorem Custody.released {x : Handle} (hx : x.IsLoose) (hc : Custody opens providers (x :: hs))
    (hkept : ∀ fd ≠ x.fd, opens fd → opens' fd) : Custody opens' providers hs := by
  refine ⟨hc.owning.tail hkept, fun maker => ?_⟩
  have hrecorded := hc.recorded maker
  rwa [filesAmong_loose hx] at hrecorded

/-- Two handles that are no files may stand for each other if they own the same descriptor. -/
theorem Custody.renamed {x y : Handle} (hc : Custody opens providers (x :: hs)) (hx : x.IsLoose)
    (hy : y.IsLoose) (hfd : x.fd = y.fd) : Custody opens providers (y :: hs) := by
  refine ⟨?_, fun maker => ?_⟩
  · have howning := hc.owning
    rwa [List.map_cons, hfd] at howning
  · have hrecorded := hc.recorded maker
    rwa [filesAmong_loose hx, ← filesAmong_loose hy] at hrecorded

end Custody

/-! ## Operations -/

/-- What is in hand and what the client holds is in custody. -/
def Held (isOpen : ω → Fd → Prop) (hand : List Handle) (c : Client) (w : ω) : Prop :=
  Custody (isOpen w) c.providers (hand ++ c.handles)

theorem Held.renamed {x y : Handle} {c : Client} {w : ω} (hc : Held isOpen [x] c w)
    (hx : x.IsLoose) (hy : y.IsLoose) (hfd : x.fd = y.fd) : Held isOpen [y] c w := by
  have hcustody : Custody (isOpen w) c.providers (x :: c.handles) := hc
  exact hcustody.renamed hx hy hfd

theorem leads_create (sys : FreshNumbers h isOpen) (maker : Nat) (name : String)
    (flags : UInt32) :
    Leads h (Held isOpen []) (Client.onProvider maker (Provider.create name flags))
      (fun f => Held isOpen [.file maker f]) (Held isOpen []) := by
  intro c w hc
  obtain ⟨e, he⟩ := (hc.recorded maker).emulated
  have hmade := made_of_createEnd sys (create_ends h name flags e w)
    (Program.after_events h (Emulator.create name flags e) w)
  rw [Client.onProvider, run_within, he, run_create_emulated]
  generalize (Emulator.create name flags e).run h w = p at hmade ⊢
  obtain ⟨hkept, hfiles, hfile⟩ := hmade
  rcases p with ⟨⟨o, e'⟩, es, w'⟩
  cases o with
  | ok f => exact hc.created he hfiles hfile.1 hfile.2.1 hfile.2.2 hkept
  | fail error => exact hc.uncreated he hfiles hkept
  | panic text => exact hc.uncreated he hfiles hkept

theorem leads_release (sys : FreshNumbers h isOpen) {x : Handle} (hx : x.IsLoose) :
    Leads h (Held isOpen [x]) (ask (.release x.fd) : Operation Client ε Unit)
      (fun _ => Held isOpen []) (Held isOpen []) := by
  refine leads_ask fun c w hc => hc.released hx fun fd hne hopen => ?_
  exact sys.kept hopen fun heq => hne (Option.some.inj heq).symm

/-- A file ends before its descriptor is closed. -/
theorem leads_drop (sys : FreshNumbers h isOpen) (handle : Handle) :
    Leads h (Held isOpen [handle]) (handle.drop : Operation Client ε Unit)
      (fun _ => Held isOpen []) (Held isOpen []) := by
  cases handle with
  | owned fd => exact leads_release sys (loose_owned fd)
  | ordinary fd => exact leads_release sys (loose_ordinary fd)
  | file maker f =>
    intro c w hc
    have hrelease : Leads h (Held isOpen [.owned f.fd])
        (ask (.release f.fd) : Operation Client ε Unit) (fun _ => Held isOpen [])
        (Held isOpen []) := leads_release sys (loose_owned f.fd)
    have hclosed := hrelease (c.withProvider maker ((c.providers maker).forget f)) w hc.forgotten
    rw [Handle.drop, Client.onProvider, run_within]
    exact hclosed

/-- The descriptor of a handle stays in hand. -/
theorem leads_intoFd (handle : Handle) :
    Leads h (Held isOpen [handle]) (handle.intoFd : Operation Client ε Fd)
      (fun fd => Held isOpen [.owned fd]) (Held isOpen []) := by
  cases handle with
  | owned fd => exact leads_pure fd fun _ _ hc => hc
  | ordinary fd =>
    exact leads_pure fd fun _ _ hc => hc.renamed (loose_ordinary fd) (loose_owned fd) rfl
  | file maker f =>
    intro c w hc
    rw [Handle.intoFd, Client.onProvider, run_within]
    exact hc.forgotten

theorem leads_keep (handle : Handle) :
    Leads h (Held isOpen [handle]) (modify (Client.keep handle) : Operation Client ε Unit)
      (fun _ => Held isOpen []) (Held isOpen []) :=
  leads_modify fun _ _ hc => hc.perm List.perm_append_comm

/-- An ordinary file is made of a descriptor in hand. -/
theorem leads_keepOrdinary (fd : Fd) :
    Leads h (Held isOpen [.owned fd])
      (modify (Client.keep (.ordinary fd)) : Operation Client ε Unit)
      (fun _ => Held isOpen []) (Held isOpen []) :=
  leads_weaken (leads_keep (.ordinary fd)) fun _ _ hc =>
    hc.renamed (loose_owned fd) (loose_ordinary fd) rfl

/-- **Handing on.** The descriptor stays in hand, or it is the only one that is closed. -/
theorem leads_removeCloseOnExec (sys : FreshNumbers h isOpen) (fd : Fd) :
    Leads h (Held isOpen [.owned fd]) (removeCloseOnExec fd : Operation Client Error Fd)
      (fun fd => Held isOpen [.owned fd]) (Held isOpen []) := by
  intro c w hc
  have hend := removeCloseOnExec_ends h fd c w
  have hafter :=
    Program.after_events h (removeCloseOnExec fd c : Program (Outcome Error Fd × Client)) w
  generalize (removeCloseOnExec fd c).run h w = p at hend hafter ⊢
  obtain ⟨hstate, hhanded⟩ := hend.handed
  have hclosing := hend.closing
  rcases p with ⟨⟨o, c'⟩, es, w'⟩
  dsimp only at hstate hhanded hclosing hafter ⊢
  subst hstate hafter
  have hgone : Held isOpen [] c' (h.after w es) := by
    refine hc.released (loose_owned fd) fun fd' hne hopen => isOpen_after sys hopen fun hmem => ?_
    exact hne (hclosing fd' hmem)
  cases o with
  | ok fd' =>
    obtain ⟨rfl, hnone⟩ := hhanded
    refine ⟨hc.owning.keep fun fd'' _ hopen => ?_, hc.recorded⟩
    exact isOpen_after sys hopen (by simp [hnone])
  | fail e => exact hgone
  | panic text => exact hgone

/-- A second descriptor of a file has no record. -/
theorem leads_clone (sys : FreshNumbers h isOpen) (clones : FreshClones h isOpen)
    (handle : Handle) :
    Leads h (Held isOpen []) handle.clone (fun _ => Held isOpen []) (Held isOpen []) := by
  cases handle with
  | owned fd => exact leads_pure () fun _ _ hc => hc
  | ordinary fd => exact leads_pure () fun _ _ hc => hc
  | file maker f =>
    have hask : Leads h (Held isOpen []) (Client.onProvider maker (Provider.clone f))
        (fun fd => Held isOpen [.ordinary fd]) (Held isOpen []) := by
      intro c w hc
      have hkept (fd : Fd) (hopen : isOpen w fd) : isOpen (h.answer (.duplicate f.fd) w).2 fd :=
        sys.kept hopen (by rintro ⟨⟩)
      have hsame : c.withProvider maker (c.providers maker) = c := by
        simp [Client.withProvider]
      rw [Client.onProvider, run_within, Provider.clone, run_bind, run_ask]
      rcases hclone : h.answer (.duplicate f.fd) w with ⟨answer, w'⟩
      rw [hclone] at hkept
      cases answer with
      | ok fd =>
        obtain ⟨hnew, hopen⟩ := clones.cloned hclone
        have hacquired := hc.acquired (loose_ordinary fd) hnew hopen hkept
        simpa [run_pure, hsame, Outcome.Meets, Held] using hacquired
      | error e =>
        have hsaved : Held isOpen [] c w' := ⟨hc.owning.keep fun fd _ => hkept fd, hc.recorded⟩
        simpa [run_fail, hsame, Outcome.Meets] using hsaved
    exact leads_bind hask fun fd => leads_keep (.ordinary fd)

/-! ## Actions -/

theorem leads_taking {i : Nat} {f : Handle → Operation Client ε Unit}
    (hf : ∀ handle, Leads h (Held isOpen [handle]) (f handle) (fun _ => Held isOpen [])
      (Held isOpen [])) :
    Leads h (Held isOpen []) (taking i f) (fun _ => Held isOpen []) (Held isOpen []) := by
  intro c w hc
  rw [taking_eq]
  cases hi : c.handles[i]? with
  | none => exact hc
  | some handle => exact hf handle (c.without i) w (hc.perm (Client.perm_cons_eraseIdx hi))

theorem leads_lending {i : Nat} {f : Handle → Operation Client ε Unit}
    (hf : ∀ handle, Leads h (Held isOpen []) (f handle) (fun _ => Held isOpen [])
      (Held isOpen [])) :
    Leads h (Held isOpen []) (lending i f) (fun _ => Held isOpen []) (Held isOpen []) := by
  intro c w hc
  rw [lending_eq]
  cases hi : c.handles[i]? with
  | none => exact hc
  | some handle => exact hf handle c w hc

/-- **One action.** Begun and ended with empty hands, it keeps the custody. -/
theorem leads_perform (sys : FreshNumbers h isOpen) (a : Action)
    (hclone : ∀ i, a = .clone i → FreshClones h isOpen) :
    Leads h (Held isOpen []) a.perform (fun _ => Held isOpen []) (Held isOpen []) := by
  cases a with
  | create maker name flags =>
    exact leads_bind (leads_mapError _ (leads_create sys maker name flags)) fun f =>
      leads_keep (.file maker f)
  | createUnnamed maker =>
    exact leads_bind (leads_mapError _ (leads_create sys maker unnamed 0)) fun f =>
      leads_keep (.file maker f)
  | drop i => exact leads_taking (leads_drop sys)
  | intoFd i =>
    exact leads_taking fun handle =>
      leads_bind (leads_intoFd handle) fun fd => leads_keep (.owned fd)
  | intoFile i =>
    exact leads_taking fun handle =>
      leads_bind (leads_intoFd handle) fun fd => leads_keepOrdinary fd
  | removeCloseOnExec i =>
    refine leads_taking fun handle => leads_bind (leads_intoFd handle) fun fd => ?_
    exact leads_bind (leads_mapError _ (leads_removeCloseOnExec sys fd)) fun fd =>
      leads_keep (.owned fd)
  | clone i => exact leads_lending (leads_clone sys (hclone i rfl))

/-- **Many actions.** Each begins with what the ones before it have left. -/
theorem leads_performAll (sys : FreshNumbers h isOpen) (as : List Action)
    (hclone : ∀ i, .clone i ∈ as → FreshClones h isOpen) :
    Leads h (Held isOpen []) (Action.performAll as) (fun _ => Held isOpen [])
      (Held isOpen []) := by
  induction as with
  | nil => exact leads_pure () fun _ _ hc => hc
  | cons a as ih =>
    have hfirst := leads_perform sys a fun i ha => hclone i (ha ▸ List.mem_cons_self)
    refine leads_bind (leads_attempt hfirst) fun o c w hc => ?_
    exact ih (fun i hi => hclone i (List.mem_cons_of_mem _ hi)) c w (Outcome.meets_same hc)

/-- The table of a provider is the set of its live files: what is found under a number is the
record of the one live file that has it, every live file finds its own record, and there are as
many records as live files. -/
structure Client.Knows (c : Client) (maker : Nat) : Prop where
  lookup_iff : ∀ fd r, (c.providers maker).lookup fd = some r ↔
    ∃ f, (c.files maker).filter (fun g => g.fd = fd) = [f] ∧ f.record = r
  lookup_own : ∀ f ∈ c.files maker, (c.providers maker).lookup f.fd = some f.record
  openFiles_eq : (c.providers maker).openFiles = some (c.files maker).length

theorem Custody.knows {opens : Fd → Prop} {c : Client}
    (hc : Custody opens c.providers c.handles) (maker : Nat) : c.Knows maker := by
  have hrecorded : Recorded (c.providers maker) (c.files maker) := hc.recorded maker
  have hnodup : ((c.files maker).map AnonymousFile.fd).Nodup :=
    hc.owning.nodup.sublist (fds_sublist maker c.handles)
  refine ⟨hrecorded.lookup_iff_single hnodup, fun f hf => ?_, hrecorded.openFiles_eq hnodup⟩
  exact (hrecorded.lookup_iff f.fd f.record).mpr ⟨f, hf, rfl, rfl⟩

/-- **Records.** After every run of a client of emulations, whatever fails or panics in it, the
table of each of them is the set of its live files. -/
theorem records_of_run (sys : FreshNumbers h isOpen) (configs : Nat → Config)
    (as : List Action) (w : ω) (hclone : ∀ i, .clone i ∈ as → FreshClones h isOpen)
    (maker : Nat) :
    ((Action.performAll as (Client.emulating configs)).run h w).value.2.Knows maker := by
  have hled := leads_performAll sys as hclone _ w (custody_start configs)
  have hheld := Outcome.meets_same hled
  exact Custody.knows hheld maker

/-! ## The orderly system -/

theorem freshClones_orderly : FreshClones Scripted.orderlyHost fun s => (world s).IsOpen where
  cloned := by
    intro fd s fd' s' hclone
    obtain ⟨hnew, given, hworld⟩ := cloningSystem_orderly.cloned hclone
    refine ⟨fun hopen => hopen hnew, ?_⟩
    rw [hworld, World.isOpen_put_some]
    exact Or.inl rfl

theorem freshNumbers_orderly : FreshNumbers Scripted.orderlyHost fun s => (world s).IsOpen where
  opened := by
    intro name flags mode s fd s' hcreate hexclusive hopen
    obtain ⟨given, hopens⟩ := objectSystem_orderly.opened hcreate hexclusive hopen
    refine ⟨fun hfd => hfd hopens.fd_new, ?_⟩
    rw [hopens.after, World.isOpen_put_some]
    exact Or.inl rfl
  kept := by
    intro r fd s hopen hclosing
    cases r with
    | call c =>
      refine isOpen_of_orderly rfl hopen ?_
      rintro rfl
      exact hclosing rfl
    | release fd' =>
      have hne : fd ≠ fd' := fun heq => hclosing (congrArg some heq.symm)
      rw [descriptorSystem_orderly.released, World.isOpen_put_none]
      exact ⟨hne, hopen⟩
    | duplicate fd' =>
      rcases hclone : Scripted.orderlyHost.answer (.duplicate fd') s with ⟨answer, s'⟩
      cases answer with
      | ok fd₂ =>
        obtain ⟨-, given, hworld⟩ := cloningSystem_orderly.cloned hclone
        rw [hworld, World.isOpen_put_some]
        exact Or.inr hopen
      | error e =>
        rw [cloningSystem_orderly.failed hclone]
        exact hopen
    | draw => rwa [objectSystem_orderly.aside .draw s rfl]
    | clock => exact hopen
    | note entry => exact hopen

/-- Files of two emulations are made, in vain too, cloned, taken over, handed on and dropped, and
the numbers of closed descriptors are used again. -/
def turnover : List Action :=
  [.create 0 "a" Memfd.closeOnExec, .create 1 "b" 0, .create 0 "" 0, .createUnnamed 0, .drop 0,
   .create 0 "c" Memfd.allowSealing, .clone 0, .create 1 "d" 0, .intoFd 1, .removeCloseOnExec 1,
   .createUnnamed 1, .drop 4, .create 0 "e" 0]

/-- A system in which a removal of a name fails and another one panics. -/
def unsteady : Scripted :=
  (Scripted.start [] 1 []).script .shmUnlink [.proceed, .fail .eperm, .proceed, .proceed,
    .panic "boom"] none

/-- What the run leaves. -/
def turnedOver : Played Scripted (Outcome Errno Unit × Client) :=
  (Action.performAll turnover (Client.emulating fun _ => .standard)).run Scripted.orderlyHost
    unsteady

theorem records_turnover :
    (∃ event ∈ turnedOver.events, event.isPanic = true) ∧
    (turnedOver.value.2.files 0).map AnonymousFile.fd = [101, 104] ∧
    turnedOver.value.2.Knows 0 := by
  refine ⟨by decide +kernel, by decide +kernel, ?_⟩
  exact records_of_run freshNumbers_orderly (fun _ => .standard) turnover unsteady
    (fun _ _ => freshClones_orderly) 0

end SharedPages.File
