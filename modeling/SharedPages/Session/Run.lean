import SharedPages.Session.State

/-!
# Running a session

`step` carries out a command on the state of a session; `finish` ends the files that
are left. A command that names what does not exist is refused: it has no result.
-/

namespace SharedPages.Session

open Operation

/-! ## Playing operations -/

/-- What came of a command: how it ended, the events on the way, and the state after it. -/
structure Result (α : Type) where
  outcome : Outcome Failure α
  events : List Event
  state : State

namespace Result

variable {α β : Type}

/-- Nothing happened, and this is the reply. -/
def reply (s : State) (a : α) : Result α := ⟨.ok a, [], s⟩

/-- Go on with the value and the state of a command that returned. -/
def andThen (r : Result α) (f : α → State → β × State) : Result β :=
  match r.outcome with
  | .ok a => let (b, s) := f a r.state; ⟨.ok b, r.events, s⟩
  | .fail e => ⟨.fail e, r.events, r.state⟩
  | .panic text => ⟨.panic text, r.events, r.state⟩

/-- Change the state, however the command ended. -/
def mapState (r : Result α) (f : State → State) : Result α := { r with state := f r.state }

end Result

variable {ε α : Type}

/-- Play an operation of the context, with calls answered by `gateway`. -/
def playBy (gateway : Gateway Machine) (toFailure : ε → Failure) (x : Operation Context ε α)
    (s : State) : Result α :=
  let played := (x s.context).run (Machine.hostBy gateway) s.machine
  ⟨played.value.1.mapError toFailure, played.events,
   { s with context := played.value.2, machine := played.host }⟩

/-- Play an operation of the context through the gateway of the machine. -/
def play (toFailure : ε → Failure) (x : Operation Context ε α) (s : State) : Result α :=
  playBy Machine.call toFailure x s

/-- Play an operation of the registry that returns nothing. -/
def playMapping (x : Operation Mapping.LiveSet Mapping.Error Unit) (s : State) : Result Reply :=
  (play .mapping (Context.onMappings x) s).andThen fun _ s => (.nothing, s)

/-- Give the range that an operation returned a handle. -/
def withMapping (r : Result Range) : Result Reply :=
  r.andThen fun range s => (.mapped s.mappings.length range, s.addMapping range)

/-- Play an operation that makes a file, and give the file a handle. -/
def playCreate (x : Operation File.Provider File.Error File.AnonymousFile) (s : State) :
    Result Reply :=
  (play .file (Context.onFiles x) s).andThen fun file s =>
    (.created s.files.length file, s.addFile (.file file))

/-- End what a handle holds, and leave the handle empty. -/
def dropHolder (f : Nat) (h : Holder) (s : State) : Result Unit :=
  let x : Operation Context Failure Unit :=
    match h with
    | .file file => Context.onFiles (File.Provider.drop file)
    | .owned fd => ask (.release fd)
    | .ordinary fd => ask (.release fd)
    | .empty => pure ()
  (play id x s).mapState fun s => s.setFile f .empty

/-- Take the descriptor out of a handle. The record of a file ends. -/
def takeFd (h : Holder) (s : State) : Option (Result Fd) :=
  match h with
  | .file file => some (play id (Context.onFiles (File.Provider.intoFd file)) s)
  | .owned fd => some (.reply s fd)
  | .ordinary fd => some (.reply s fd)
  | .empty => none

/-- Turn what a handle holds into something else that holds the same descriptor. -/
def convert (f : Nat) (into : Fd → Holder) (s : State) : Option (Result Reply) := do
  let taken ← takeFd (← s.holder? f) s
  return taken.andThen fun fd s => (.nothing, s.setFile f (into fd))

/-- Clear close-on-exec of what a handle holds. If that fails the handle is empty. -/
def removeCloseOnExec (f : Nat) (gateway : Gateway Machine) (s : State) : Option (Result Reply) := do
  let taken ← takeFd (← s.holder? f) s
  match taken.outcome with
  | .ok fd =>
    let s := taken.state.setFile f .empty
    let removed := playBy gateway .file (File.removeCloseOnExec fd) s
    return { removed.andThen fun fd s => (.nothing, s.setFile f (.owned fd)) with
      events := taken.events ++ removed.events }
  | _ => return taken.andThen fun _ s => (.nothing, s)

/-! ## Direct calls -/

/-- The answer of a direct call as a reply. New descriptors get handles, and new mappings are
unmapped at once. -/
def directReply : (c : Call) → c.Value → State → Reply × State
  | .mmap _ len _ _ _ _, base, s =>
    (.nothing, { s with machine := (Machine.callDirectly (.munmap ⟨base, len⟩) s.machine).2 })
  | .shmOpen .., fd, s => (.direct s.directs.length, s.addDirect fd)
  | .memfdCreate .., fd, s => (.direct s.directs.length, s.addDirect fd)
  | .getFdFlags _, flags, s => (.number flags.toInt, s)
  | _, _, s => (.nothing, s)

/-- Issue a call through the gateway of the machine. -/
def playDirect (c : Call) (s : State) : Result Reply :=
  (play .bare (call c id) s).andThen fun v s => directReply c v s

/-! ## Looking -/

/-- All registrations with their handles: in the order of their ranges, or of their handles where
nobody can know the addresses. -/
def listActive (s : State) : Reply :=
  let active := s.context.live.active
  let sorted := (active.zip active.tail).all fun e => e.1.range.base.toNat ≤ e.2.range.base.toNat
  let entries := active.map fun g => (g, s.handleOf? g.range)
  let key (e : Mapping.Registration × Option Nat) : Nat :=
    match e.2 with
    | some m => m + 1
    | none => 0
  .active sorted
    (if s.machine.hidesEntropy then entries.mergeSort fun a b => key a ≤ key b else entries)

/-- What is shown as text. -/
def display? (s : State) : Shown → Option String
  | .registry => some s.context.live.display
  | .context => some s.context.display
  | .provider =>
    match s.context.provider with
    | .emulated e => some e.display
    | .native => none
  | .file f =>
    match s.holder? f with
    | some (.file file) => some file.display
    | _ => none

/-! ## Commands on machines -/

def withScripted (s : State) (f : Scripted → Scripted) : Option State :=
  match s.machine with
  | .scripted m => some { s with machine := .scripted (f m) }
  | _ => none

def withInjector (s : State) (f : Injector → Injector) : Option State :=
  match s.machine with
  | .rehearsed j k => some { s with machine := .rehearsed (f j) k }
  | _ => none

/-- Issue a call that passes by the failure injection. -/
def playAround (c : Call) (s : State) : Result c.Value :=
  let (answer, machine) := Machine.callDirectly c s.machine
  ⟨answer.mapError .bare, [], { s with machine := machine }⟩

/-! ## Commands -/

/-- Carry out a command, unless it names what does not exist. -/
def step (s : State) : Command → Option (Result Reply)
  | .map hint len prot flags fd offset => do
    let hint ← s.hint? hint
    let fd ← match fd with
      | some ref => (s.fd? ref).map some
      | none => some none
    let request : Mapping.MapRequest := ⟨hint, len, prot, flags, fd, offset⟩
    return withMapping (play .mapping (Context.onMappings (Mapping.map request)) s)
  | .mapFile file len prot => do
    return withMapping (play .context (Context.mapFile (← s.fd? file) len prot) s)
  | .unmap r => do return playMapping (Mapping.unmap (← s.range? r)) s
  | .lock r => do return playMapping (Mapping.lock (← s.range? r)) s
  | .unlock r => do return playMapping (Mapping.unlock (← s.range? r)) s
  | .protect r prot => do return playMapping (Mapping.protect (← s.range? r) prot) s
  | .advise r advice => do return playMapping (Mapping.advise (← s.range? r) advice) s
  | .sync r flags => do return playMapping (Mapping.sync (← s.range? r) flags) s
  | .contains r => do return .reply s (.flag (s.context.live.contains (← s.range? r)))
  | .info r => do
    let r ← s.range? r
    let found := (s.context.live.info r).map fun g => (g, decide (g.range.base = r.base))
    return .reply s (.info found)
  | .active => some (.reply s (listActive s))
  | .isEmpty => some (.reply s (.flag (s.context.live.size = 0)))
  | .create name flags => some (playCreate (File.Provider.create name flags) s)
  | .createUnnamed => some (playCreate File.Provider.createUnnamed s)
  | .fileInfo f => do
    match ← s.holder? f with
    | .file file => return .reply s (.fileInfo file)
    | _ => none
  | .lookup fd => do return .reply s (.record (s.context.provider.lookup (← s.fd? fd)))
  | .config =>
    match s.context.provider with
    | .emulated e => some (.reply s (.config e.config))
    | .native => some (.reply s (.config none))
  | .drop f => do
    return (dropHolder f (← s.holder? f) s).andThen fun _ s => (.nothing, s)
  | .intoFd f => convert f .owned s
  | .intoFile f => convert f .ordinary s
  | .clone f => do
    match ← s.holder? f with
    | .file file =>
      return (play .bare (Context.onFiles (File.Provider.clone file)) s).andThen fun fd s =>
        (.cloned s.files.length, s.addFile (.ordinary fd))
    | _ => none
  | .removeCloseOnExec f directly =>
    removeCloseOnExec f (if directly then Machine.callDirectly else Machine.call) s
  | .display what => do return .reply s (.text (← display? s what))
  | .script kind queue standing => do
    return .reply (← withScripted s fun m => m.script kind queue standing) .nothing
  | .setBehaviour kind behaviour => do
    return .reply (← withInjector s fun j => j.setBehaviour kind behaviour) .nothing
  | .reset => do return .reply (← withInjector s Injector.reset) .nothing
  | .recorded =>
    match s.machine with
    | .rehearsed j _ => some (.reply s (.recorded j))
    | _ => none
  | .read r offset n => do
    let r ← s.range? r
    let k ← s.machine.paged?
    return .reply s (.bytes (k.read (r.base.toNat + offset) n))
  | .write r offset data => do
    let r ← s.range? r
    let k ← s.machine.paged?
    return .reply { s with machine := s.machine.withPaged (k.write (r.base.toNat + offset) data) }
      .nothing
  | .fdFlags fd => do
    let _ ← s.machine.paged?
    return (playAround (.getFdFlags (← s.fd? fd)) s).andThen fun flags s =>
      (.number (Int32.toInt flags), s)
  | .size f => do
    let k ← s.machine.paged?
    match k.sizeOf? (← (← s.holder? f).fd?) with
    | some size => return .reply s (.number size)
    | none => return ⟨.fail (.bare .ebadf), [], s⟩
  | .setSize f size => do
    let _ ← s.machine.paged?
    match ← s.holder? f with
    | .ordinary fd => return (playAround (.ftruncate fd size) s).andThen fun _ s => (.nothing, s)
    | _ => none
  | .direct fd addr c => do
    let _ ← s.machine.paged?
    return playDirect (c (← s.fd? fd) (← s.hint? addr)) s

/-- End what the handles hold, in their order. -/
def finish (s : State) : State :=
  s.files.zipIdx.foldl (fun s e => (dropHolder e.2 e.1 s).state) s

end SharedPages.Session
