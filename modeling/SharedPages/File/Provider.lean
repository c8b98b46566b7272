import SharedPages.File.Provisional
import SharedPages.File.Record
import SharedPages.File.Request

/-!
# Providers of anonymous files

A provider makes anonymous files. The native provider asks the system for one; the
emulation creates a named object under a name that nobody holds, unlinks it at once,
and sets its close-on-exec flag.

* `Provider.create`, `Provider.createUnnamed`: a new file;
* `Provider.lookup`, `Provider.openFiles`: the files of the emulation that are live;
* `Provider.drop`, `Provider.intoFd`: the two ends that a file can have;
* `Provider.clone`: a second descriptor for the same open file.
-/

namespace SharedPages.File

open Operation

/-! ## The emulation -/

/-- The state of the emulation: the serial number of the next candidate, and the live files. -/
structure Emulator where
  config : Config
  serial : UInt32
  files : FileTable

namespace Emulator

/-- The emulation before its first file. -/
def start (config : Config) : Emulator := ⟨config, 0, .empty⟩

/-- Random bits, or the time where there are none. -/
def entropy : Operation Emulator Error UInt64 := do
  match ← ask .draw with
  | some bits => pure bits
  | none =>
    note .entropyFailed
    ask .clock

/-- The next candidate for a file of this name. Its serial number is used up. -/
def propose (name : String) : Operation Emulator Error String := do
  let e ← get
  set { e with serial := e.serial + 1 }
  let bits ← entropy
  return candidate e.config.stem e.serial (mix bits name)

/-- Flags that create a new object and refuse an existing one. -/
def openFlags : Int32 :=
  OpenFlag.readWrite ||| OpenFlag.create ||| OpenFlag.exclusive ||| OpenFlag.noFollow

def openMode : UInt32 := Mode.ownerRead ||| Mode.ownerWrite

/-- Try candidates until one is free. `left` attempts remain; `count` is the number of the next. -/
def createExclusive (name : String) : (left count : Nat) → Operation Emulator Error Provisional
  | 0, _ => do fail (.namesExhausted (← get).config.maxAttempts)
  | left + 1, count => do
    let candidate ← propose name
    match ← perform (.shmOpen candidate openFlags openMode) with
    | .ok fd => return ⟨fd, candidate⟩
    | .error e =>
      if e = .eexist then
        note (.candidateTaken count candidate)
        createExclusive name left (count + 1)
      else fail (.create e)

/-- Make a file of a request without fault. -/
def make (name : String) (flags : UInt32) : Operation Emulator Error AnonymousFile := do
  let object ← createExclusive name (← get).config.maxAttempts 1
  object.unlink
  object.settle (wantsCloseOnExec flags)
  note (.createdEmulated object.fd name object.name (wantsCloseOnExec flags))
  let record : Record := ⟨name, some object.name, wantsSealing flags, wantsCloseOnExec flags⟩
  modify fun e => { e with files := e.files.insert object.fd record }
  return ⟨object.fd, record, true⟩

/-- Make a file. -/
def create (name : String) (flags : UInt32) : Operation Emulator Error AnonymousFile :=
  match fault? name flags with
  | some error => fail error
  | none => make name flags

/-- How the emulation is shown. -/
def display (e : Emulator) : String :=
  "EmulatedProvider \x7b config: " ++ e.config.display ++ ", open_files: "
    ++ toString e.files.size ++ ", .. \x7d"

end Emulator

/-! ## The native provider -/

namespace Native

variable {σ : Type}

/-- Make a file of a request without fault. -/
def make (name : String) (flags : UInt32) : Operation σ Error AnonymousFile := do
  let fd : Fd ← call (.memfdCreate name flags) .create
  note (.createdNative fd name flags)
  return ⟨fd, ⟨name, none, wantsSealing flags, wantsCloseOnExec flags⟩, false⟩

/-- Make a file. -/
def create (name : String) (flags : UInt32) : Operation σ Error AnonymousFile :=
  match fault? name flags with
  | some error => fail error
  | none => make name flags

end Native

/-! ## Providers -/

/-- A maker of anonymous files. -/
inductive Provider
  | native
  | emulated (state : Emulator)

namespace Provider

/-- Run an operation of the emulation. -/
def emulating {ε α : Type} (x : Operation Emulator ε α) (e : Emulator) :
    Program (Outcome ε α × Provider) :=
  (x e).bind fun (o, e) => .done (o, emulated e)

/-- Make an anonymous file. -/
def create (name : String) (flags : UInt32) : Operation Provider Error AnonymousFile
  | native => Native.create name flags native
  | emulated e => emulating (Emulator.create name flags) e

/-- Make a file without a name of its own, which other programs inherit. -/
def createUnnamed : Operation Provider Error AnonymousFile := create unnamed 0

/-- The record of a live file of the emulation. -/
def lookup : Provider → Fd → Option Record
  | native, _ => none
  | emulated e, fd => e.files.get? fd

/-- Number of live files of the emulation. -/
def openFiles : Provider → Option Nat
  | native => none
  | emulated e => some e.files.size

/-- The provider without the record of a file that ends. -/
def forget (f : AnonymousFile) : Provider → Provider
  | native => native
  | emulated e => emulated (if f.tracked then { e with files := e.files.erase f.fd } else e)

variable {ε : Type}

/-- End a file and close its descriptor. -/
def drop (f : AnonymousFile) : Operation Provider ε Unit := do
  modify (forget f)
  ask (.release f.fd)

/-- End a file and keep its descriptor. -/
def intoFd (f : AnonymousFile) : Operation Provider ε Fd := do
  modify (forget f)
  return f.fd

/-- A second descriptor for the open file. It has no record. -/
def clone (f : AnonymousFile) : Operation Provider Errno Fd := do
  match ← ask (.duplicate f.fd) with
  | .ok fd => return fd
  | .error e => fail e

end Provider

end SharedPages.File
