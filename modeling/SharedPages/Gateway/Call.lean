import SharedPages.Outcome
import SharedPages.Errno.Basic
import SharedPages.Range

/-!
# Calls of the operating system

The fourteen calls through which the library reaches the operating system, as data.
`Call.Value` is the type of the answer that a call has when it succeeds; any call
may instead fail with an error number, and a gateway may panic.
-/

namespace SharedPages

/-- A descriptor number. -/
abbrev Fd := Int32

instance : Ranked Int32 where
  rank fd := (fd.toInt + 0x80000000).toNat
  rank_injective a b h := by
    have ha := a.le_toInt
    have hb := b.le_toInt
    exact Int32.toInt_inj.mp (by omega)

/-- The kinds of calls. -/
inductive CallKind
  | mmap | munmap | mprotect | mlock | munlock | madvise | msync
  | shmOpen | shmUnlink | memfdCreate | getFdFlags | setFdFlags | ftruncate | close
  deriving DecidableEq, Repr

namespace CallKind

/-- Every kind, once. -/
def all : List CallKind :=
  [mmap, munmap, mprotect, mlock, munlock, madvise, msync,
   shmOpen, shmUnlink, memfdCreate, getFdFlags, setFdFlags, ftruncate, close]

/-- The name under which calls of the kind are reported. -/
def name : CallKind → String
  | mmap => "mmap"
  | munmap => "munmap"
  | mprotect => "mprotect"
  | mlock => "mlock"
  | munlock => "munlock"
  | madvise => "madvise"
  | msync => "msync"
  | shmOpen => "shm_open"
  | shmUnlink => "shm_unlink"
  | memfdCreate => "memfd_create"
  | getFdFlags => "get_fd_flags"
  | setFdFlags => "set_fd_flags"
  | ftruncate => "ftruncate"
  | close => "close"

/-- The answer of a call that succeeds. -/
abbrev Value : CallKind → Type
  | mmap => Address
  | shmOpen => Fd
  | memfdCreate => Fd
  | getFdFlags => Int32
  | munmap => Unit
  | mprotect => Unit
  | mlock => Unit
  | munlock => Unit
  | madvise => Unit
  | msync => Unit
  | shmUnlink => Unit
  | setFdFlags => Unit
  | ftruncate => Unit
  | close => Unit

end CallKind

/-- A call with its arguments. -/
inductive Call
  | mmap (hint : Address) (len : UInt64) (prot flags : Int32) (fd : Fd) (offset : Int64)
  | munmap (range : Range)
  | mprotect (range : Range) (prot : Int32)
  | mlock (range : Range)
  | munlock (range : Range)
  | madvise (range : Range) (advice : Int32)
  | msync (range : Range) (flags : Int32)
  | shmOpen (name : String) (flags : Int32) (mode : UInt32)
  | shmUnlink (name : String)
  | memfdCreate (name : String) (flags : UInt32)
  | getFdFlags (fd : Fd)
  | setFdFlags (fd : Fd) (flags : Int32)
  | ftruncate (fd : Fd) (size : Int64)
  | close (fd : Fd)
  deriving DecidableEq, Repr

namespace Call

abbrev kind : Call → CallKind
  | mmap .. => .mmap
  | munmap .. => .munmap
  | mprotect .. => .mprotect
  | mlock .. => .mlock
  | munlock .. => .munlock
  | madvise .. => .madvise
  | msync .. => .msync
  | shmOpen .. => .shmOpen
  | shmUnlink .. => .shmUnlink
  | memfdCreate .. => .memfdCreate
  | getFdFlags .. => .getFdFlags
  | setFdFlags .. => .setFdFlags
  | ftruncate .. => .ftruncate
  | close .. => .close

/-- The answer of the call when it succeeds. -/
abbrev Value (c : Call) : Type := c.kind.Value

/-- How the call may end. -/
abbrev Answer (c : Call) : Type := Outcome Errno c.Value

end Call

end SharedPages
