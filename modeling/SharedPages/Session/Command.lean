import SharedPages.Context
import SharedPages.Gateway.Injection
import SharedPages.Host.Scripted

/-!
# Commands of a session

What a session can be told to do, and what it replies. Mappings, files and the
descriptors of direct calls are numbered in the order in which they were made; a
command names them by these handles.
-/

namespace SharedPages.Session

/-! ## References -/

/-- A range: a mapping, a part at a distance from its base, or any range. -/
inductive RangeRef
  | handle (m : Nat)
  | near (m : Nat) (delta len : UInt64)
  | exact (r : Range)

/-- A hint: an address, or a distance from the base of a mapping. -/
inductive HintRef
  | address (a : Address)
  | near (m : Nat) (delta : UInt64)

/-- A descriptor: a number, the one of a file, or the one of a direct call. -/
inductive FdRef
  | number (fd : Fd)
  | file (f : Nat)
  | direct (g : Nat)

/-! ## Commands -/

/-- What can be shown as text. -/
inductive Shown
  | registry
  | context
  | provider
  | file (f : Nat)

inductive Command
  | map (hint : HintRef) (len : UInt64) (prot flags : Int32) (fd : Option FdRef) (offset : Int64)
  | mapFile (file : FdRef) (len : UInt64) (prot : Int32)
  | unmap (r : RangeRef)
  | lock (r : RangeRef)
  | unlock (r : RangeRef)
  | protect (r : RangeRef) (prot : Int32)
  | advise (r : RangeRef) (advice : Int32)
  | sync (r : RangeRef) (flags : Int32)
  | contains (r : RangeRef)
  | info (r : RangeRef)
  | active
  | isEmpty
  | create (name : String) (flags : UInt32)
  | createUnnamed
  | fileInfo (f : Nat)
  | lookup (fd : FdRef)
  | config
  | drop (f : Nat)
  | intoFd (f : Nat)
  | intoFile (f : Nat)
  | clone (f : Nat)
  /-- Clear close-on-exec; `directly` passes by the failure injection. -/
  | removeCloseOnExec (f : Nat) (directly : Bool)
  | display (what : Shown)
  | script (kind : CallKind) (queue : List Directive) (standing : Option Directive)
  | setBehaviour (kind : CallKind) (behaviour : Behaviour)
  | reset
  | recorded
  | read (r : RangeRef) (offset n : Nat)
  | write (r : RangeRef) (offset : Nat) (data : List UInt8)
  | fdFlags (fd : FdRef)
  | size (f : Nat)
  | setSize (f : Nat) (size : Int64)
  /-- A call of the gateway itself, on a descriptor and at an address if it takes them. -/
  | direct (fd : FdRef) (addr : HintRef) (call : Fd → Address → Call)

/-! ## Replies -/

inductive Reply
  | nothing
  | flag (b : Bool)
  | number (n : Int)
  | text (s : String)
  | mapped (m : Nat) (r : Range)
  /-- A registration, and whether its base is that of the range asked for. -/
  | info (found : Option (Mapping.Registration × Bool))
  /-- Registrations with the last handle of the same range, and whether they came in order. -/
  | active (sorted : Bool) (entries : List (Mapping.Registration × Option Nat))
  | created (f : Nat) (file : File.AnonymousFile)
  | fileInfo (file : File.AnonymousFile)
  | record (found : Option File.Record)
  | config (found : Option File.Config)
  | cloned (f : Nat)
  | recorded (injector : Injector)
  | bytes (data : List UInt8)
  | direct (g : Nat)

/-- Why a command failed. -/
inductive Failure
  | mapping (error : Mapping.Error)
  | file (error : File.Error)
  | context (error : ContextError)
  | bare (errno : Errno)

end SharedPages.Session
