import SharedPages.Gateway.Layer
import SharedPages.Host.Numbering

/-!
# A scripted operating system

A small deterministic system for rehearsals: a set of object names, a table of open
descriptors with their flags, and a cursor from which addresses are handed out. Each
kind of call can be scripted: the next calls take the outcomes of a queue, later
ones an outcome that stays. Calls without an outcome behave as described at
`Scripted.perform`. Random bits come from a list, and are zero after its end.
-/

namespace SharedPages

/-- A scripted outcome of a call. An outcome that a call does not know is as `proceed`. -/
inductive Directive
  | proceed
  | fail (errno : Errno)
  | panic (text : String)
  /-- A mapping lies at this address. -/
  | address (a : Address)
  /-- A new descriptor has this number. -/
  | descriptor (fd : Fd)
  deriving DecidableEq, Repr

/-- The number that a directive forces on a new descriptor. -/
def Directive.forcedFd : Directive → Option Fd
  | .descriptor fd => some fd
  | _ => none

/-- The state of the scripted system. -/
structure Scripted where
  names : List String
  fds : Table Fd Int32
  cursor : Address
  queue : CallKind → List Directive
  standing : CallKind → Option Directive
  /-- Flags of the descriptors of new objects. -/
  openFlags : Int32
  entropy : List (Option UInt64)
  /-- Second descriptors of open files, which calls do not know. -/
  outside : Table Fd Unit

namespace Scripted

/-- A system with the given names and nothing open. -/
def start (names : List String) (openFlags : Int32) (entropy : List (Option UInt64)) : Scripted :=
  ⟨names.eraseDups, .empty, 0x100000000, fun _ => [], fun _ => none, openFlags, entropy, .empty⟩

/-! ## Scripting -/

/-- Replace what is scripted for a kind of call. -/
def script (s : Scripted) (k : CallKind) (queue : List Directive) (standing : Option Directive) :
    Scripted :=
  { s with
    queue := fun k' => if k' = k then queue else s.queue k'
    standing := fun k' => if k' = k then standing else s.standing k' }

/-- The outcome for the next call of a kind, and the system without it. -/
def takeDirective (s : Scripted) (k : CallKind) : Directive × Scripted :=
  match s.queue k with
  | d :: rest => (d, s.script k rest (s.standing k))
  | [] => ((s.standing k).getD .proceed, s)

/-! ## Descriptors -/

/-- The descriptor is open for calls. -/
def isOpen (s : Scripted) (fd : Fd) : Bool := (s.fds.get? fd).isSome

/-- The number belongs to a descriptor of either kind. -/
def isTaken (s : Scripted) (fd : Fd) : Bool := s.isOpen fd || (s.outside.get? fd).isSome

/-- The number for a new descriptor: the lowest free one from 100 on, or the scripted one if it
lies between 100 and 900 and is free. -/
def newFd? (s : Scripted) (forced : Option Fd) : Option Fd :=
  match forced with
  | none => some (lowestFree s.isOpen s.fds.size 100)
  | some fd => if fd < 100 || 900 < fd || s.isOpen fd then none else some fd

/-- Close a descriptor. -/
def release (s : Scripted) (fd : Fd) : Scripted :=
  { s with fds := s.fds.erase fd, outside := s.outside.erase fd }

/-- Open a descriptor with the given flags. -/
def openFd (s : Scripted) (forced : Option Fd) (flags : Int32) : Outcome Errno Fd × Scripted :=
  match s.newFd? forced with
  | none => (.fail .emfile, s)
  | some fd => (.ok fd, { s with fds := s.fds.insert fd flags })

/-! ## Calls -/

/-- Largest mapping without a hint. -/
def maxMapping : UInt64 := 0x400000000000

/-- The length in whole pages. -/
def roundUp (len : UInt64) : UInt64 := (len + 4095) &&& ~~~4095

/-- Place a mapping: at the hint if there is one or the mapping is fixed, else at the cursor. -/
def place (s : Scripted) (hint : Address) (len : UInt64) (flags : Int32) :
    Outcome Errno Address × Scripted :=
  if hint ≠ 0 || flags &&& MapFlag.fixed ≠ 0 then (.ok hint, s)
  else if maxMapping < len then (.fail .enomem, s)
  else (.ok s.cursor, { s with cursor := s.cursor + roundUp len })

/-- Create an object under a name that is free. -/
def createObject (s : Scripted) (forced : Option Fd) (name : String) :
    Outcome Errno Fd × Scripted :=
  match ObjectName.normalize name with
  | .error e => (.fail e, s)
  | .ok name =>
    if s.names.contains name then (.fail .eexist, s)
    else match s.openFd forced s.openFlags with
      | (.ok fd, s) => (.ok fd, { s with names := name :: s.names })
      | (o, s) => (o, s)

/-- Remove the name of an object. -/
def unlinkObject (s : Scripted) (name : String) : Outcome Errno Unit × Scripted :=
  match ObjectName.normalize name with
  | .error e => (.fail e, s)
  | .ok name =>
    if s.names.contains name then (.ok (), { s with names := s.names.filter (· ≠ name) })
    else (.fail .enoent, s)

/-- Open a memory file without a name. -/
def createMemory (s : Scripted) (forced : Option Fd) (name : String) (flags : UInt32) :
    Outcome Errno Fd × Scripted :=
  if name.toList.contains (Char.ofNat 0) then (.fail .einval, s)
  else s.openFd forced (flags &&& Memfd.closeOnExec).toInt32

/-- Do something with an open descriptor. -/
def withFd {α : Type} (s : Scripted) (fd : Fd) (f : Int32 → α × Scripted) :
    Outcome Errno α × Scripted :=
  match s.fds.get? fd with
  | none => (.fail .ebadf, s)
  | some flags => let (a, s) := f flags; (.ok a, s)

/-- The behaviour of a call that is neither made to fail nor to panic. Calls on mapped ranges
succeed; object names are normalised, created once and unlinked once; calls on descriptors need
an open one. -/
def behave (d : Directive) : Gateway Scripted
  | .mmap hint len _ flags _ _, s =>
    match d with
    | .address a => (.ok a, s)
    | _ => s.place hint len flags
  | .munmap _, s => (.ok (), s)
  | .mprotect _ _, s => (.ok (), s)
  | .mlock _, s => (.ok (), s)
  | .munlock _, s => (.ok (), s)
  | .madvise _ _, s => (.ok (), s)
  | .msync _ _, s => (.ok (), s)
  | .shmOpen name _ _, s => s.createObject d.forcedFd name
  | .shmUnlink name, s => s.unlinkObject name
  | .memfdCreate name flags, s => s.createMemory d.forcedFd name flags
  | .getFdFlags fd, s => s.withFd fd fun flags => (flags, s)
  | .setFdFlags fd flags, s => s.withFd fd fun _ => ((), { s with fds := s.fds.insert fd flags })
  | .ftruncate fd _, s => s.withFd fd fun _ => ((), s)
  | .close fd, s => s.withFd fd fun _ => ((), s.release fd)

/-- A call takes its directive, and then fails, panics or behaves. -/
def perform : Gateway Scripted := fun c s =>
  match s.takeDirective c.kind with
  | (.fail e, s) => (.fail e, s)
  | (.panic text, s) => (.panic text, s)
  | (d, s) => behave d c s

/-- Open a second descriptor for an open file: the lowest one from 3 on that is not taken. -/
def openOutside (s : Scripted) : Fd × Scripted :=
  let fd := lowestFree s.isTaken (s.fds.size + s.outside.size) 3
  (fd, { s with outside := s.outside.insert fd () })

/-- The scripted system as a host. The clock stands still. -/
def host : Host Scripted where
  answer
    | .call c, s => perform c s
    | .draw, s =>
      match s.entropy with
      | [] => (some 0, s)
      | bits :: rest => (bits, { s with entropy := rest })
    | .clock, s => (0, s)
    | .release fd, s => ((), s.release fd)
    | .duplicate _, s => let (fd, s) := s.openOutside; (.ok fd, s)
    | .note _, s => ((), s)

end Scripted

end SharedPages
