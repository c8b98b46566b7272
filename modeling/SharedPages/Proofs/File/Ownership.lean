import SharedPages.Proofs.File.Balance
import SharedPages.Proofs.File.Client
import SharedPages.Proofs.File.Orderly

/-!
# Who owns the open descriptors

What the operations on files and handles take in hand and leave, in the logic of descriptors.
Proved here, for every system whose descriptors behave (`DescriptorSystem`):

* `balanced_of_rollBack`: a roll-back closes the descriptor of its object;
* `balances_create`, `balances_removeCloseOnExec`, …: the balance of each operation;
* `balanced_of_run`: in every run of a client the open descriptors are those that were open from
  the start and those of its handles, and what is closed is open.
-/

namespace SharedPages.File

open Operation

variable {ω ν σ ε : Type} {h : Host ω} {view : ω → World ν} {object : String → ν}
  {start : World ν}

/-! ## Roll-backs -/

section RollBacks

variable {rest : List Fd} {w w' : ω} {u : Outcome Error Unit} {es : List Event}

/-- A descriptor in hand is closed. -/
theorem closed_of_closeBack (sys : DescriptorSystem h view object) {fd : Fd}
    {entry : Errno → Journal.Entry} (hb : Balanced start (view w) (fd :: rest))
    (hend : UndoEnd h (.close fd) entry w u es w') :
    u = .ok () ∧ es = [Call.event (.close fd) (.ok ())] ∧ view w' = (view w).put fd none := by
  have hcloses := sys.closes (hb.isOpen List.mem_cons_self)
  cases hend with
  | done hcall => exact ⟨rfl, rfl, sys.closed hcall⟩
  | noted hcall hnote =>
    rw [hcall] at hcloses
    cases hcloses
  | panicked hcall =>
    rw [hcall] at hcloses
    cases hcloses

theorem careful_close {fd : Fd} (hb : Balanced start (view w) (fd :: rest)) :
    Careful h view w [Call.event (.close fd) (.ok ())] := by
  refine careful_cons (fun fd' hfd' => ?_) (careful_nil _)
  obtain rfl : fd = fd' := Option.some.inj hfd'
  exact hb.isOpen List.mem_cons_self

/-- An unlinking in a roll-back leaves the descriptors alone, and says whether it succeeded. -/
theorem world_of_unlinking (sys : ObjectSystem h view object) {o : Provisional}
    (hend : UndoEnd h (.shmUnlink o.name) (.rollbackUnlinkFailed o.name) w u es w') :
    ∃ done, es.filterMap Event.unlinked? = [done] ∧
      view w' = if done then (view w).unlink (object o.name) else view w := by
  cases hend with
  | done hcall => exact ⟨true, rfl, sys.unlinked hcall⟩
  | noted hcall hnote =>
    exact ⟨false, rfl, (sys.world_of_note hnote).trans (sys.halted hcall rfl)⟩
  | panicked hcall => exact ⟨false, rfl, sys.halted hcall rfl⟩

/-- **Roll-backs.** The descriptor of the object is closed, while it is open. The name goes if
it was still there and its removal succeeds. -/
theorem balanced_of_rollBack (sys : DescriptorSystem h view object) {o : Provisional}
    {linked : Bool} (hb : Balanced start (view w) (o.fd :: rest))
    (hback : RollBackEnd h o w linked u es w') (hcalm : ∀ event ∈ es, event.isPanic = false) :
    Balanced start (view w') rest ∧ Careful h view w es ∧
      ∃ done, es.filterMap Event.unlinked? = (if linked then [done] else []) ∧
        view w' = (if linked && done then (view w).unlink (object o.name) else view w).put o.fd
          none := by
  cases hback with
  | closed hclose =>
    obtain ⟨rfl, rfl, hworld⟩ := closed_of_closeBack sys hb hclose
    exact ⟨hworld ▸ hb.closed, careful_close hb, true, rfl, hworld⟩
  | @unlinked es₁ w₁ u es₂ w' hunlink hclose =>
    obtain ⟨done, hdone, hw₁⟩ := world_of_unlinking sys.toObjectSystem hunlink
    have hb₁ : Balanced start (view w₁) (o.fd :: rest) := by
      rw [hw₁]
      cases done <;> exact hb.congr fun _ => Iff.rfl
    obtain ⟨rfl, rfl, hworld⟩ := closed_of_closeBack sys hb₁ hclose
    refine ⟨hworld ▸ hb₁.closed, careful_append (careful_of_closing_eq_nil ?_) ?_, done, ?_, ?_⟩
    · cases hunlink <;> rfl
    · rw [hunlink.after_eq]
      exact careful_close hb₁
    · rw [List.filterMap_append, hdone]
      rfl
    · rw [hworld, hw₁, Bool.true_and]
  | stuck hunlink =>
    cases hunlink with
    | panicked hcall => simp [Event.isPanic, Call.event] at hcalm

end RollBacks

/-! ## Creations -/

/-- The removal of the name of an object fails, if it is the step that does not return. -/
theorem FinishStep.unlinked_eq {o : Provisional} {closeOnExec linked : Bool} {w w' : ω}
    {toError : Errno → Error} {passed : List Event} {c : Call} {answer : c.Answer}
    (hstep : FinishStep h o closeOnExec w linked toError passed c answer w')
    (hanswer : answer.isOk = false) :
    (passed ++ [c.event answer]).filterMap Event.unlinked? = [!linked] := by
  cases hstep with
  | unlink hunlink => exact congrArg (fun b => [b]) hanswer
  | flag hunlink hstep => cases hstep <;> rfl

theorem Balanced.opens {s s' : World ν} {x : ν} {fd : Fd} {given : Int32} {rest : List Fd}
    (hb : Balanced start s rest) (hopens : s.Opens x fd given s') :
    Balanced start s' (fd :: rest) := by
  have hlinked : Balanced start (s.link x) rest := hb.congr fun _ => Iff.rfl
  rw [hopens.after]
  exact hlinked.opened hopens.fd_new given

/-- **Roll-backs of creations.** What was opened is closed, and the names are what they were
unless its name could not be removed twice. -/
theorem turn_of_halted (sys : DescriptorSystem h view object) {rest : List Fd} {o : Provisional}
    {closeOnExec linked : Bool} {w w₁ w₂ w' : ω} {given : Int32} {toError : Errno → Error}
    {passed back : List Event} {c : Call} {answer : c.Answer} {u : Outcome Error Unit}
    (hb : Balanced start (view w) rest)
    (hopens : (view w).Opens (object o.name) o.fd given (view w₁))
    (hstep : FinishStep h o closeOnExec w₁ linked toError passed c answer w₂)
    (hanswer : answer.isOk = false) (hback : RollBackEnd h o w₂ linked u back w')
    (hcalm : ∀ event ∈ back, event.isPanic = false) :
    Balanced start (view w') rest ∧ Careful h view w₁ (passed ++ c.event answer :: back) ∧
      (¬ FailsTwice (passed ++ c.event answer :: back) → (view w').names = (view w).names) := by
  have hworld₂ := sys.world_of_finishStep hstep hanswer
  have hb₂ : Balanced start (view w₂) (o.fd :: rest) := by
    rw [hworld₂]
    cases linked <;> exact (hb.opens hopens).congr fun _ => Iff.rfl
  obtain ⟨hb', hcareful, done, hdone, hworld⟩ := balanced_of_rollBack sys hb₂ hback hcalm
  rw [List.append_cons]
  refine ⟨hb', careful_append (careful_of_closing_eq_nil hstep.closing_eq_nil) ?_, fun hno => ?_⟩
  · rw [hstep.after_eq]
    exact hcareful
  · rw [FailsTwice, List.filterMap_append, hstep.unlinked_eq hanswer, hdone] at hno
    rw [hworld, hworld₂]
    -- If the object still has its name, the step was the failed removal of this name, and a
    -- roll-back that cannot remove it either is the second failure in turn.
    cases linked with
    | false => exact congrArg World.names hopens.undone
    | true =>
      cases done with
      | false => exact absurd (List.infix_refl _) hno
      | true => exact congrArg World.names hopens.undone

theorem turn_of_createEnd (sys : DescriptorSystem h view object) {name : String} {flags : UInt32}
    {e : Emulator} {w : ω} {p : Played ω (Outcome Error AnonymousFile × Emulator)}
    {rest : List Fd} (hb : Balanced start (view w) rest) (hend : CreateEnd h name flags e w p)
    (hcalm : ∀ event ∈ p.events, event.isPanic = false) :
    Turn h view start (fun _ => rest) (fun f => [f.fd]) w p := by
  cases hend with
  | refused hfault => exact ⟨hb, careful_nil w, fun _ => rfl⟩
  | @unopened o e' es w' failure hfault hsearch hfail =>
    have hworld := (sys.world_of_exclusiveEnd hsearch).2 hfail.isOk_part
    dsimp only at hworld
    refine ⟨?_, careful_of_closing_eq_nil hsearch.closing_eq_nil, fun _ => by rw [hworld]⟩
    rw [owns_of_not_ok _ hfail.isOk, hworld]
    exact hb
  | @opened o e₁ es w₁ p hfault hsearch hfinish =>
    obtain ⟨given, hopens⟩ := (sys.world_of_exclusiveEnd hsearch).1 o rfl
    have hsearched : Careful h view w es := careful_of_closing_eq_nil hsearch.closing_eq_nil
    have hafter : h.after w es = w₁ := hsearch.after_eq
    cases hfinish with
    | finished hunlink hread hwrite hnote =>
      obtain ⟨rfl, hworld⟩ := sys.world_of_handedOut hopens hunlink hread hwrite hnote
      refine ⟨?_, careful_append hsearched (careful_of_closing_eq_nil rfl), fun _ => ?_⟩
      · rw [hworld]
        exact hb.opened hopens.fd_new _
      · rw [hworld]
        rfl
    | @halted linked toError passed c answer w₂ failure u back w' hstep hfail hback =>
      obtain ⟨hb', hcareful, hnames⟩ := turn_of_halted sys hb hopens hstep hfail.isOk_part hback
        fun event hevent => hcalm event (by simp [hevent])
      refine ⟨?_, careful_append hsearched ?_, fun hno => ?_⟩
      · rw [owns_of_not_ok _ (Outcome.isOk_behind hfail.isOk)]
        exact hb'
      · rw [hafter]
        exact hcareful
      · exact hnames fun htwice => hno (htwice.append_right es)

theorem turn_of_nativeEnd (sys : DescriptorSystem h view object) {name : String} {flags : UInt32}
    {s : σ} {w : ω} {p : Played ω (Outcome Error AnonymousFile × σ)}
    {rest : List Fd} (hb : Balanced start (view w) rest) (hend : NativeEnd h name flags s w p) :
    Turn h view start (fun _ => rest) (fun f => [f.fd]) w p := by
  cases hend with
  | refused hfault => exact ⟨hb, careful_nil w, fun _ => rfl⟩
  | failed hfault hcall hfail =>
    have hworld := sys.halted hcall hfail.isOk_part
    refine ⟨?_, careful_of_closing_eq_nil rfl, fun _ => by rw [hworld]⟩
    rw [owns_of_not_ok _ hfail.isOk, hworld]
    exact hb
  | created hfault hcall hnote =>
    obtain ⟨hnew, given, hworld⟩ := sys.created hcall
    rw [← sys.world_of_note hnote] at hworld
    refine ⟨?_, careful_of_closing_eq_nil rfl, fun _ => ?_⟩
    · rw [hworld]
      exact hb.opened hnew given
    · rw [hworld]
      rfl

/-- **Creations.** A file owns a new descriptor, and an error owns nothing. -/
theorem balances_create (sys : DescriptorSystem h view object) (name : String) (flags : UInt32)
    (rest : List Fd) :
    Balances h view start (fun _ => rest) [] (fun f => [f.fd]) (Provider.create name flags) := by
  intro provider w hb hcalm
  cases provider with
  | native => exact turn_of_nativeEnd sys hb (native_ends h name flags Provider.native w)
  | emulated e =>
    rw [run_create_emulated] at hcalm ⊢
    obtain ⟨hbalanced, hcareful, hnames⟩ :=
      turn_of_createEnd sys hb (create_ends h name flags e w) hcalm
    exact ⟨hbalanced, hcareful, hnames⟩

/-! ## The ends of files -/

/-- The record of a file ends, and its descriptor stays in hand. -/
theorem balances_forget (f : AnonymousFile) (rest : List Fd) :
    Balances h view start (fun _ => rest) [f.fd] (fun _ => [f.fd])
      (modify (Provider.forget f) : Operation Provider ε Unit) :=
  balances_modify fun _ => .refl _

theorem balances_dropFile (sys : DescriptorSystem h view object) (f : AnonymousFile)
    (rest : List Fd) :
    Balances h view start (fun _ => rest) [f.fd] (fun _ => [])
      (Provider.drop f : Operation Provider ε Unit) :=
  balances_bind (balances_forget f rest) fun _ => balances_release sys f.fd

theorem balances_fileIntoFd (f : AnonymousFile) (rest : List Fd) :
    Balances h view start (fun _ => rest) [f.fd] (fun fd => [fd])
      (Provider.intoFd f : Operation Provider ε Fd) :=
  balances_bind (balances_forget f rest) fun _ => balances_pure f.fd rfl

theorem balances_clone (sys : CloningSystem h view) (f : AnonymousFile) (rest : List Fd) :
    Balances h view start (fun _ => rest) [] (fun fd => [fd]) (Provider.clone f) := by
  have hask : Balances h view start (fun _ => rest) []
      (fun answer : Except Errno Fd => answer.toOption.toList)
      (ask (.duplicate f.fd) : Operation Provider Errno (Request.duplicate f.fd).Answer) := by
    intro provider w hb _
    rw [run_ask]
    rcases hclone : h.answer (.duplicate f.fd) w with ⟨answer, w'⟩
    cases answer with
    | ok fd =>
      obtain ⟨hnew, given, hworld⟩ := sys.cloned hclone
      refine ⟨?_, careful_of_closing_eq_nil rfl, fun _ => ?_⟩
      · rw [hworld]
        exact hb.opened hnew given
      · rw [hworld]
        rfl
    | error e =>
      have hworld := sys.failed hclone
      exact ⟨by rw [hworld]; exact hb, careful_of_closing_eq_nil rfl, fun _ => by rw [hworld]⟩
  refine balances_bind hask fun answer => ?_
  cases answer with
  | ok fd => exact balances_pure fd rfl
  | error e => exact balances_fail e

/-! ## Handing on -/

/-- **Handing on.** The descriptor stays in hand, or it is closed. -/
theorem balances_removeCloseOnExec (sys : DescriptorSystem h view object) {held : σ → List Fd}
    (fd : Fd) :
    Balances h view start held [fd] (fun fd => [fd])
      (removeCloseOnExec fd : Operation σ Error Fd) := by
  intro s w hb hcalm
  have hend := removeCloseOnExec_ends h fd s w
  generalize (removeCloseOnExec fd s).run h w = p at hend hcalm ⊢
  cases hend with
  | @cleared given w₁ v w' hread hwrite =>
    have hopen : (view w).IsOpen fd := hb.isOpen List.mem_cons_self
    have hworld : view w' = (view w).put fd (some (withCloseOnExec given false)) := by
      rw [sys.written hwrite, (sys.read hread).2]
    refine ⟨?_, careful_of_closing_eq_nil rfl, fun _ => by rw [hworld]; rfl⟩
    rw [hworld]
    refine hb.congr fun fd' => ?_
    rw [World.isOpen_put_some]
    exact or_iff_right_of_imp fun heq => heq ▸ hopen
  | @failed passed c w₁ e u es w' hstep hclose =>
    have hworld₁ := sys.world_of_flagStep hstep rfl
    have hb₁ := hb
    rw [← hworld₁] at hb₁
    obtain ⟨rfl, rfl, hworld⟩ := closed_of_closeBack sys hb₁ hclose
    have hnames : (view w').names = (view w).names := by
      rw [hworld, hworld₁]
      rfl
    refine ⟨?_, ?_, fun _ => hnames⟩
    · rw [hworld]
      exact hb₁.closed
    · rw [List.append_cons]
      refine careful_append (careful_of_closing_eq_nil hstep.closing_eq_nil) ?_
      rw [hstep.after_eq]
      exact careful_close hb₁
  | @panicked passed c w₁ text w' hstep hrelease =>
    have hpanic := hcalm (c.event (.panic text)) (by simp)
    cases hpanic

/-! ## Handles -/

theorem balances_onProvider {α : Type} {hand : List Fd} {own : α → List Fd} (maker : Nat)
    {x : Operation Provider ε α}
    (hx : ∀ rest, Balances h view start (fun _ => rest) hand own x) :
    Balances h view start Client.owned hand own (Client.onProvider maker x) :=
  balances_within (fun _ _ => rfl) hx

theorem balances_keep (handle : Handle) :
    Balances h view start Client.owned [handle.fd] (fun _ => [])
      (modify (Client.keep handle) : Operation Client ε Unit) :=
  balances_modify fun c => by
    rw [Client.owned_keep]
    exact List.perm_append_comm

theorem balances_drop (sys : DescriptorSystem h view object) (handle : Handle) :
    Balances h view start Client.owned [handle.fd] (fun _ => [])
      (handle.drop : Operation Client ε Unit) := by
  cases handle with
  | file maker f => exact balances_onProvider maker (balances_dropFile sys f)
  | owned fd => exact balances_release sys fd
  | ordinary fd => exact balances_release sys fd

theorem balances_intoFd (handle : Handle) :
    Balances h view start Client.owned [handle.fd] (fun fd => [fd])
      (handle.intoFd : Operation Client ε Fd) := by
  cases handle with
  | file maker f => exact balances_onProvider maker (balances_fileIntoFd f)
  | owned fd => exact balances_pure fd rfl
  | ordinary fd => exact balances_pure fd rfl

theorem balances_taking {i : Nat} {f : Handle → Operation Client ε Unit}
    (hf : ∀ handle, Balances h view start Client.owned [handle.fd] (fun _ => []) (f handle)) :
    Balances h view start Client.owned [] (fun _ => []) (taking i f) := by
  intro c w hb hcalm
  rw [taking_eq] at hcalm ⊢
  cases hi : c.handles[i]? with
  | none => exact ⟨hb, careful_nil w, fun _ => rfl⟩
  | some handle =>
    rw [hi] at hcalm
    exact hf handle (c.without i) w (hb.perm (Client.owned_perm_without hi)) hcalm

theorem balances_lending {i : Nat} {f : Handle → Operation Client ε Unit}
    (hf : ∀ handle, Balances h view start Client.owned [] (fun _ => []) (f handle)) :
    Balances h view start Client.owned [] (fun _ => []) (lending i f) := by
  intro c w hb hcalm
  rw [lending_eq] at hcalm ⊢
  cases hi : c.handles[i]? with
  | none => exact ⟨hb, careful_nil w, fun _ => rfl⟩
  | some handle =>
    rw [hi] at hcalm
    exact hf handle c w hb hcalm

/-! ## Runs -/

theorem balances_created (sys : DescriptorSystem h view object) (maker : Nat) (name : String)
    (flags : UInt32) :
    Balances h view start Client.owned [] (fun f => [f.fd])
      (mapError Error.errno (Client.onProvider maker (Provider.create name flags))) :=
  balances_mapError _ (balances_onProvider maker (balances_create sys name flags))

/-- **One action.** Begun and ended with empty hands, it keeps the balance. -/
theorem balances_perform (sys : DescriptorSystem h view object) (a : Action)
    (hclone : ∀ i, a = .clone i → CloningSystem h view) :
    Balances h view start Client.owned [] (fun _ => []) a.perform := by
  cases a with
  | create maker name flags =>
    exact balances_bind (balances_created sys maker name flags) fun f =>
      balances_keep (.file maker f)
  | createUnnamed maker =>
    exact balances_bind (balances_created sys maker unnamed 0) fun f =>
      balances_keep (.file maker f)
  | drop i => exact balances_taking (balances_drop sys)
  | intoFd i =>
    exact balances_taking fun handle =>
      balances_bind (balances_intoFd handle) fun fd => balances_keep (.owned fd)
  | intoFile i =>
    exact balances_taking fun handle =>
      balances_bind (balances_intoFd handle) fun fd => balances_keep (.ordinary fd)
  | removeCloseOnExec i =>
    refine balances_taking fun handle => balances_bind (balances_intoFd handle) fun fd => ?_
    exact balances_bind (balances_mapError _ (balances_removeCloseOnExec sys fd)) fun fd =>
      balances_keep (.owned fd)
  | clone i =>
    refine balances_lending fun handle => ?_
    cases handle with
    | file maker f =>
      exact balances_bind (balances_onProvider maker (balances_clone (hclone i rfl) f)) fun fd =>
        balances_keep (.ordinary fd)
    | owned fd => exact balances_pure () rfl
    | ordinary fd => exact balances_pure () rfl

/-- **Many actions.** Each begins with what the ones before it have left. -/
theorem balances_performAll (sys : DescriptorSystem h view object) (as : List Action)
    (hclone : ∀ i, .clone i ∈ as → CloningSystem h view) :
    Balances h view start Client.owned [] (fun _ => []) (Action.performAll as) := by
  induction as with
  | nil => exact balances_pure () rfl
  | cons a as ih =>
    have hfirst : Balances h view start Client.owned [] (fun _ => []) a.perform :=
      balances_perform sys a fun i ha => hclone i (ha ▸ List.mem_cons_self)
    refine balances_bind (balances_attempt hfirst) fun o => ?_
    rw [owns_nothing]
    exact ih fun i hi => hclone i (List.mem_cons_of_mem _ hi)

/-- **Ownership.** In every run of a client that panics nowhere, what is open is what was open
from the start and what the handles own, each of them something else; what is closed is open at
that moment; and the names are what they were, unless two removals of names failed in turn. -/
theorem balanced_of_run (sys : DescriptorSystem h view object) (providers : Nat → Provider)
    (as : List Action) (w : ω) (hclone : ∀ i, .clone i ∈ as → CloningSystem h view)
    (hcalm : ∀ event ∈ ((Action.performAll as ⟨providers, []⟩).run h w).events,
      event.isPanic = false) :
    let p := (Action.performAll as ⟨providers, []⟩).run h w
    Balanced (view w) (view p.host) p.value.2.owned ∧
    (∀ m ∈ (Action.performAll as ⟨providers, []⟩).moments h w, ∀ fd,
      m.request.closing? = some fd → (view m.before).IsOpen fd) ∧
    (¬ FailsTwice p.events → (view p.host).names = (view w).names) := by
  have hturn := balances_performAll sys as hclone ⟨providers, []⟩ w balanced_start hcalm
  have hbalanced := hturn.balanced
  rw [owns_nothing, List.nil_append] at hbalanced
  refine ⟨hbalanced, ?_, hturn.names⟩
  rw [Program.moments_eq_replay]
  exact hturn.careful

/-- Files of an emulation and of the native provider are made, some in vain, taken over, cloned,
handed on, in vain too, and closed; the numbers of closed descriptors are used again. -/
def bustle : List Action :=
  [.create 0 "a" Memfd.closeOnExec, .create 0 "b" 0, .createUnnamed 1, .create 0 "c" 0, .intoFd 0,
   .removeCloseOnExec 1, .clone 0, .intoFile 0, .create 0 "" 0, .createUnnamed 0, .drop 1,
   .removeCloseOnExec 0, .create 1 "d" Memfd.allowSealing]

/-- A system in which one file is open, every other removal of a name fails, and some flags cannot
be read or written. -/
def faulty : Scripted :=
  ((((Scripted.start ["/other"] 1 []).openFd none 0).2.script .shmUnlink
    [.fail .eperm, .proceed, .proceed, .fail .enoent] none).script .getFdFlags
    [.proceed, .proceed, .proceed, .fail .ebadf] none).script .setFdFlags
    [.proceed, .proceed, .fail .einval] none

/-- An emulation, and native providers. -/
def makers : Nat → Provider
  | 0 => .emulated (.start .standard)
  | _ => .native

theorem balanced_bustle :
    let p := (Action.performAll bustle ⟨makers, []⟩).run Scripted.orderlyHost faulty
    (∀ event ∈ p.events, event.isPanic = false) ∧ ¬ FailsTwice p.events ∧
    Balanced (world faulty) (world p.host) p.value.2.owned ∧
    (world p.host).names = (world faulty).names := by
  intro p
  have hcalm : ∀ event ∈ p.events, event.isPanic = false := by decide +kernel
  have htwice : ¬ FailsTwice p.events := by
    unfold FailsTwice
    decide +kernel
  obtain ⟨hbalanced, -, hnames⟩ := balanced_of_run descriptorSystem_orderly makers bustle faulty
    (fun _ _ => cloningSystem_orderly) hcalm
  exact ⟨hcalm, htwice, hbalanced, hnames htwice⟩

end SharedPages.File
