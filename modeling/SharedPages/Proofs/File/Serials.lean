import SharedPages.Proofs.File.Ends
import SharedPages.Proofs.File.Orderly
import SharedPages.Proofs.File.Reading
import SharedPages.Proofs.Rules

/-!
# Serial numbers of candidates

What keeps candidates apart is their serial number alone: it stands in a field of fixed width, so
it can be read off a candidate whatever the random bits are, and every proposal uses one up,
whatever becomes of it. Proved here, for any system, any random bits and any clock:

* `Numbered.nodup`: candidates with successive serial numbers differ, until the numbers wrap;
* `ExclusiveEnd.advances`: a search uses up one serial number for each name that it proposes;
* `proposals_nodup`: over its whole life an emulation proposes no name twice, and no two of its
  files have the same name.
-/

namespace SharedPages

/-- The name under which a request is to open a new object. -/
def Request.proposing? : Request → Option String
  | .call (.shmOpen name _ _) => some name
  | _ => none

namespace File

open Operation Emulator

/-! ## Candidates -/

/-- Candidates with successive serial numbers. -/
inductive Numbered (stem : String) : UInt32 → List String → Prop
  | nil {serial} : Numbered stem serial []
  | cons {serial mixed names} (hnames : Numbered stem (serial + 1) names) :
      Numbered stem serial (candidate stem serial mixed :: names)

section Numbered

variable {stem : String} {serial : UInt32} {names names' : List String}

theorem add_ofNat_succ (serial : UInt32) (n : Nat) :
    serial + 1 + UInt32.ofNat n = serial + UInt32.ofNat (n + 1) := by
  rw [UInt32.ofNat_add, UInt32.add_assoc, UInt32.add_comm 1]
  rfl

theorem Numbered.append (hnames : Numbered stem serial names)
    (hnames' : Numbered stem (serial + UInt32.ofNat names.length) names') :
    Numbered stem serial (names ++ names') := by
  induction hnames with
  | nil => simpa using hnames'
  | cons _ ih =>
    rw [List.length_cons, ← add_ofNat_succ] at hnames'
    exact .cons (ih hnames')

theorem Numbered.exists_of_mem (hnames : Numbered stem serial names) {name : String}
    (hname : name ∈ names) :
    ∃ i < names.length, ∃ mixed, name = candidate stem (serial + UInt32.ofNat i) mixed := by
  induction hnames with
  | nil => cases hname
  | @cons serial mixed names _ ih =>
    rcases List.mem_cons.mp hname with rfl | hname
    · exact ⟨0, Nat.zero_lt_succ _, mixed, by simp⟩
    · obtain ⟨i, hi, mixed, rfl⟩ := ih hname
      exact ⟨i + 1, Nat.succ_lt_succ hi, mixed, by rw [add_ofNat_succ]⟩

/-- **Distinct candidates.** There are as many serial numbers as 32 bits have values. -/
theorem Numbered.nodup (hnames : Numbered stem serial names) (hfew : names.length ≤ 2 ^ 32) :
    names.Nodup := by
  induction hnames with
  | nil => exact List.nodup_nil
  | @cons serial mixed names hnames ih =>
    rw [List.length_cons] at hfew
    refine List.nodup_cons.mpr ⟨fun hmem => ?_, ih (by omega)⟩
    obtain ⟨i, hi, mixed', heq⟩ := hnames.exists_of_mem hmem
    have hserial := (candidate_inj.mp heq).2.1
    rw [add_ofNat_succ] at hserial
    have hzero : UInt32.ofNat (i + 1) = 0 := by
      simpa using hserial.symm
    have hfits : i + 1 < UInt32.size := by simp only [UInt32.size]; omega
    have hvalue := congrArg UInt32.toNat hzero
    rw [UInt32.toNat_ofNat_of_lt' hfits] at hvalue
    cases hvalue

end Numbered

/-! ## The names that a search proposes -/

section Search

variable {ω : Type} {h : Host ω} {w w' : ω} {name : String} {left count : Nat} {e : Emulator}
  {p : Played ω (Outcome Error Provisional × Emulator)}

/-- The names under which events tried to open a new object, in order. -/
def proposals (es : List Event) : List String := es.filterMap (·.request.proposing?)

@[simp] theorem proposals_nil : proposals [] = [] := rfl

@[simp] theorem proposals_append (es es' : List Event) :
    proposals (es ++ es') = proposals es ++ proposals es' := List.filterMap_append

@[simp] theorem proposals_open (name : String) (answer : (openCall name).Answer) (es : List Event) :
    proposals ((openCall name).event answer :: es) = name :: proposals es := rfl

@[simp] theorem proposals_note (entry : Journal.Entry) (es : List Event) :
    proposals (entry.event :: es) = proposals es := rfl

/-- Nothing but a call proposes a name. -/
theorem proposals_eq_filterMap (es : List Event) :
    proposals es = (calls es).filterMap fun c => (Request.call c).proposing? := by
  rw [proposals, calls, List.filterMap_filterMap]
  refine List.filterMap_congr fun event _ => ?_
  cases event.request <;> rfl

theorem Drawn.proposals_eq_nil {bits : UInt64} {es : List Event} (hdrawn : Drawn h w bits es w') :
    proposals es = [] := by
  cases hdrawn <;> rfl

theorem Drawn.calls_eq_nil {bits : UInt64} {es : List Event} (hdrawn : Drawn h w bits es w') :
    calls es = [] := by
  cases hdrawn <;> rfl

/-- A search makes no other calls than to open the names that it proposes. -/
theorem ExclusiveEnd.calls_eq (hend : ExclusiveEnd h name left count e w p) :
    calls p.events = (proposals p.events).map openCall := by
  induction hend with
  | exhausted => rfl
  | opened hdrawn _ => simp [hdrawn.calls_eq_nil, hdrawn.proposals_eq_nil]
  | taken hdrawn _ _ _ ih => simp [hdrawn.calls_eq_nil, hdrawn.proposals_eq_nil, ih]
  | failed hdrawn _ _ => simp [hdrawn.calls_eq_nil, hdrawn.proposals_eq_nil]
  | panicked hdrawn _ => simp [hdrawn.calls_eq_nil, hdrawn.proposals_eq_nil]

/-- The emulation after the serial numbers of so many candidates were used up. -/
def Emulator.advancedBy (e : Emulator) (n : Nat) : Emulator :=
  { e with serial := e.serial + UInt32.ofNat n }

@[simp] theorem advancedBy_zero (e : Emulator) : e.advancedBy 0 = e := by
  simp [Emulator.advancedBy]

theorem advanced_advancedBy (e : Emulator) (n : Nat) :
    (e.advancedBy n).advanced = e.advancedBy (n + 1) := by
  simp only [Emulator.advancedBy, Emulator.advanced, UInt32.ofNat_add, UInt32.add_assoc]
  rfl

theorem advancedBy_advanced (e : Emulator) (n : Nat) :
    e.advanced.advancedBy n = e.advancedBy (n + 1) := by
  simp only [Emulator.advancedBy, Emulator.advanced, add_ofNat_succ]

/-- **Serial numbers of a search.** Each name that is proposed uses up one, whatever the answer. -/
theorem ExclusiveEnd.advances (hend : ExclusiveEnd h name left count e w p) :
    Numbered e.config.stem e.serial (proposals p.events) ∧
      p.value.2 = e.advancedBy (proposals p.events).length := by
  have single {e : Emulator} {bits : UInt64} :
      Numbered e.config.stem e.serial [e.proposal name bits] := .cons .nil
  induction hend with
  | exhausted => exact ⟨.nil, (advancedBy_zero _).symm⟩
  | opened hdrawn _ => simpa [hdrawn.proposals_eq_nil] using ⟨single, rfl⟩
  | taken hdrawn _ _ _ ih =>
    obtain ⟨hnumbered, hstate⟩ := ih
    simp only [proposals_append, hdrawn.proposals_eq_nil, proposals_open, proposals_note,
      List.nil_append, List.length_cons]
    exact ⟨.cons hnumbered, by rw [hstate, advancedBy_advanced]⟩
  | failed hdrawn _ _ => simpa [hdrawn.proposals_eq_nil] using ⟨single, rfl⟩
  | panicked hdrawn _ => simpa [hdrawn.proposals_eq_nil] using ⟨single, rfl⟩

end Search

/-! ## The names of an opened object -/

section Finish

variable {ω : Type} {h : Host ω} {w : ω} {o : Provisional}

theorem Provisional.Concerns.proposing?_eq_none {r : Request} (hr : o.Concerns r) :
    r.proposing? = none := by
  cases r with
  | call c => cases c <;> first | rfl | cases hr
  | _ => rfl

theorem FinishEnd.proposals_eq_nil {name : String} {flags : UInt32} {e : Emulator}
    {p : Played ω (Outcome Error AnonymousFile × Emulator)}
    (hend : FinishEnd h name flags o e w p) : proposals p.events = [] :=
  List.filterMap_eq_nil_iff.mpr fun event hevent =>
    (hend.concerns event hevent).proposing?_eq_none

end Finish

/-! ## The life of an emulation -/

section Life

variable {ω : Type}

/-- What happens in the life of a provider: files are made and end, and between two operations
anything may happen to the system. -/
inductive Use (ω : Type)
  | create (name : String) (flags : UInt32)
  | createUnnamed
  | drop (f : AnonymousFile)
  | intoFd (f : AnonymousFile)
  | meanwhile (change : ω → ω)

/-- The files that an operation returned: one, or none. -/
def returned : Outcome Error AnonymousFile → List AnonymousFile
  | .ok f => [f]
  | _ => []

theorem returned_of_not_ok {o : Outcome Error AnonymousFile} (ho : o.isOk = false) :
    returned o = [] := by
  cases o with
  | ok f => cases ho
  | fail e => rfl
  | panic text => rfl

/-- One part of a life: the files that were made in it, and the provider after it. A panic is
caught by the client, who goes on with the provider. -/
def Use.play (h : Host ω) (provider : Provider) (w : ω) :
    Use ω → Played ω (List AnonymousFile × Provider)
  | create name flags =>
    let p := (Provider.create name flags provider).run h w
    ⟨(returned p.value.1, p.value.2), p.events, p.host⟩
  | createUnnamed =>
    let p := (Provider.createUnnamed provider).run h w
    ⟨(returned p.value.1, p.value.2), p.events, p.host⟩
  | drop f =>
    let p := ((Provider.drop f : Operation Provider Error Unit) provider).run h w
    ⟨([], p.value.2), p.events, p.host⟩
  | intoFd f =>
    let p := ((Provider.intoFd f : Operation Provider Error Fd) provider).run h w
    ⟨([], p.value.2), p.events, p.host⟩
  | meanwhile change => ⟨([], provider), [], change w⟩

/-- The life of a provider: all files that were made in it, in order. -/
def life (h : Host ω) : List (Use ω) → Provider → ω → Played ω (List AnonymousFile × Provider)
  | [], provider, w => ⟨([], provider), [], w⟩
  | use :: uses, provider, w =>
    let first := use.play h provider w
    let rest := life h uses first.value.2 first.host
    ⟨(first.value.1 ++ rest.value.1, rest.value.2), first.events ++ rest.events, rest.host⟩

/-- What a part of the life of an emulation makes of its serial number: each name that was
proposed used up one, and the files that were made have names among them, in order. -/
structure Advances (e : Emulator) (p : Played ω (List AnonymousFile × Provider)) : Prop where
  numbered : Numbered e.config.stem e.serial (proposals p.events)
  provider : ∃ e', p.value.2 = .emulated e' ∧ e'.config = e.config ∧
    e'.serial = e.serial + UInt32.ofNat (proposals p.events).length
  named : (p.value.1.map (·.record.uniqueName)).Sublist ((proposals p.events).map some)

/-- Nothing was proposed and nothing made. -/
theorem advances_of_quiet {e e' : Emulator} {es : List Event} {w : ω}
    (hconfig : e'.config = e.config) (hserial : e'.serial = e.serial) (hes : proposals es = []) :
    Advances e ⟨([], .emulated e'), es, w⟩ where
  numbered := by rw [hes]; exact .nil
  provider := ⟨e', rfl, hconfig, by simp [hes, hserial]⟩
  named := List.nil_sublist _

variable {h : Host ω} {name : String} {flags : UInt32} {e : Emulator} {w : ω}

/-- An object keeps its name when it is handed out, and the emulation its serial number. -/
theorem FinishEnd.keeps {o : Provisional} {p : Played ω (Outcome Error AnonymousFile × Emulator)}
    (hend : FinishEnd h name flags o e w p) :
    p.value.2.config = e.config ∧ p.value.2.serial = e.serial ∧
      ((returned p.value.1).map (·.record.uniqueName)).Sublist [some o.name] := by
  cases hend with
  | @halted _ _ _ _ _ _ failure u _ _ _ hfail _ =>
    have hnone : returned (u.behind failure) = [] :=
      returned_of_not_ok (Outcome.isOk_behind hfail.isOk)
    exact ⟨rfl, rfl, by rw [hnone]; exact List.nil_sublist _⟩
  | finished hunlink hread hwrite hnote => exact ⟨rfl, rfl, List.Sublist.refl _⟩

/-- **One creation.** -/
theorem advances_create (h : Host ω) (name : String) (flags : UInt32) (e : Emulator) (w : ω) :
    Advances e ((Use.create name flags).play h (.emulated e) w) := by
  rw [Use.play, run_create_emulated]
  have hend := create_ends h name flags e w
  generalize (Emulator.create name flags e).run h w = p at hend
  cases hend with
  | refused hfault => exact advances_of_quiet rfl rfl rfl
  | @unopened o e' es w' failure hfault hsearch hfail =>
    obtain ⟨hnumbered, hstate⟩ := hsearch.advances
    dsimp only at hstate
    refine ⟨hnumbered, ⟨e', rfl, by rw [hstate]; rfl, by rw [hstate]; rfl⟩, ?_⟩
    rw [returned_of_not_ok hfail.isOk]
    exact List.nil_sublist _
  | @opened o e₁ es w₁ p hfault hsearch hfinish =>
    obtain ⟨hnumbered, hstate⟩ := hsearch.advances
    obtain ⟨hconfig, hserial, hname⟩ := hfinish.keeps
    obtain ⟨earlier, hevents, -, -⟩ := hsearch.opening rfl
    dsimp only at hnumbered hstate hevents
    have hes : proposals (es ++ p.events) = proposals es := by
      rw [proposals_append, hfinish.proposals_eq_nil, List.append_nil]
    have hmem : o.name ∈ proposals es := by simp [hevents]
    refine ⟨by rw [hes]; exact hnumbered, ⟨p.value.2, rfl, ?_, ?_⟩, ?_⟩
    · rw [hconfig, hstate]
      rfl
    · rw [hserial, hstate, hes]
      rfl
    · rw [hes]
      exact hname.trans ((List.singleton_sublist.mpr hmem).map some)

/-- **One part of a life.** -/
theorem advances_play (h : Host ω) (use : Use ω) (e : Emulator) (w : ω) :
    Advances e (use.play h (.emulated e) w) := by
  cases use with
  | create name flags => exact advances_create h name flags e w
  | createUnnamed => exact advances_create h unnamed 0 e w
  | drop f =>
    rw [Use.play, Provider.drop, run_bind, run_modify, Played.andThen_ok_nil, run_ask,
      Provider.forget]
    split
    · exact advances_of_quiet rfl rfl rfl
    · exact advances_of_quiet rfl rfl rfl
  | intoFd f =>
    rw [Use.play, Provider.intoFd, run_bind, run_modify, Played.andThen_ok_nil, run_pure,
      Provider.forget]
    split
    · exact advances_of_quiet rfl rfl rfl
    · exact advances_of_quiet rfl rfl rfl
  | meanwhile change => exact advances_of_quiet rfl rfl rfl

/-- **A whole life.** The serial numbers go on from one part to the next. -/
theorem advances_life (h : Host ω) (uses : List (Use ω)) (e : Emulator) (w : ω) :
    Advances e (life h uses (.emulated e) w) := by
  induction uses generalizing e w with
  | nil => exact advances_of_quiet rfl rfl rfl
  | cons use uses ih =>
    have hfirst := advances_play h use e w
    rw [life]
    generalize use.play h (.emulated e) w = p at hfirst ⊢
    rcases p with ⟨⟨made, provider⟩, es, w₁⟩
    obtain ⟨e₁, hprovider, hconfig, hserial⟩ := hfirst.provider
    dsimp only at hprovider
    subst hprovider
    obtain ⟨hnumbered, ⟨e₂, hprovider₂, hconfig₂, hserial₂⟩, hnamed⟩ := ih e₁ w₁
    rw [hconfig, hserial] at hnumbered
    constructor
    · rw [proposals_append]
      exact hfirst.numbered.append hnumbered
    · refine ⟨e₂, hprovider₂, hconfig₂.trans hconfig, ?_⟩
      rw [hserial₂, hserial, proposals_append, List.length_append, UInt32.ofNat_add,
        UInt32.add_assoc]
    · rw [proposals_append, List.map_append, List.map_append]
      exact hfirst.named.append hnamed

/-- **Distinct names.** Whatever the system answers, whatever the random bits are and the names
that are asked for, an emulation that has proposed no more names than there are serial numbers has
proposed none twice. So its files have different names, each of them one that was proposed. -/
theorem proposals_nodup (h : Host ω) (uses : List (Use ω)) (e : Emulator) (w : ω)
    (hfew : (proposals (life h uses (.emulated e) w).events).length ≤ 2 ^ 32) :
    let past := life h uses (.emulated e) w
    (proposals past.events).Nodup ∧ (past.value.1.map (·.record.uniqueName)).Nodup ∧
      ∀ f ∈ past.value.1, ∃ name ∈ proposals past.events, f.record.uniqueName = some name := by
  intro past
  have hlife : Advances e past := advances_life h uses e w
  have hnodup : (proposals past.events).Nodup := hlife.numbered.nodup hfew
  refine ⟨hnodup, (hnodup.map fun _ _ => Option.some.inj).sublist hlife.named, fun f hf => ?_⟩
  have hmem := hlife.named.subset (List.mem_map_of_mem hf)
  obtain ⟨name, hname, heq⟩ := List.mem_map.mp hmem
  exact ⟨name, hname, heq.symm⟩

/-- A system without random bits whose clock stands still. The first candidate for a file `a`
exists already, and the fourth attempt to open one panics. -/
def stale : Scripted :=
  (Scripted.start ["/" ++ candidate Config.defaultStem 0xffffffff (mix 0 "a")] 0
    (List.replicate 5 none)).script .shmOpen [.proceed, .proceed, .proceed, .panic "boom"] none

/-- An emulation that has come to its last serial number. -/
def worn : Emulator := ⟨.standard, 0xffffffff, .empty⟩

/-- The same name is asked for again and again, while files end and others take up their names. -/
def monotony : List (Use Scripted) :=
  [.create "a" 0, .create "" 0, .create "a" 0, .meanwhile fun s => { s with names := ["/other"] },
   .create "a" 0, .drop ⟨100, ⟨"a", none, false, false⟩, true⟩, .create "a" 0]

theorem proposals_monotony :
    let past := life Scripted.orderlyHost monotony (.emulated worn) stale
    (proposals past.events).length = 5 ∧ past.value.1.map AnonymousFile.fd = [100, 101, 100] ∧
    (proposals past.events).Nodup ∧ (past.value.1.map (·.record.uniqueName)).Nodup := by
  intro past
  have hcount : (proposals past.events).length = 5 := by decide +kernel
  have hfds : past.value.1.map AnonymousFile.fd = [100, 101, 100] := by decide +kernel
  obtain ⟨hnodup, hfiles, -⟩ :=
    proposals_nodup Scripted.orderlyHost monotony worn stale (hcount.le.trans (by decide))
  exact ⟨hcount, hfds, hnodup, hfiles⟩

end Life

end File

end SharedPages
