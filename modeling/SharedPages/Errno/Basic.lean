/-!
# Error numbers

An `Errno` is the number with which an operating-system call reports failure.
`ErrorKind` sorts every error of the library into four causes; `Errno.kind` is
the guess made for a bare number, seen outside any typed error.
-/

namespace SharedPages

/-- A raw error number of the operating system. -/
structure Errno where
  code : Int32
  deriving DecidableEq, Repr

/-- What an error is about. -/
inductive ErrorKind
  /-- A bad length, range, flag set or name. -/
  | invalidArgument
  /-- An empty name, or no free name within the bound on attempts. -/
  | resourceFault
  /-- The object exists already. -/
  | alreadyExists
  /-- The operating system refused. -/
  | syscall
  deriving DecidableEq, Repr

namespace Errno

def eperm : Errno := ⟨1⟩
def enoent : Errno := ⟨2⟩
def ebadf : Errno := ⟨9⟩
def enomem : Errno := ⟨12⟩
def efault : Errno := ⟨14⟩
def eexist : Errno := ⟨17⟩
def einval : Errno := ⟨22⟩
def emfile : Errno := ⟨24⟩

/-- The kind suggested by a bare number. -/
def kind (e : Errno) : ErrorKind :=
  if e = einval then .invalidArgument
  else if e = efault then .resourceFault
  else if e = eexist then .alreadyExists
  else .syscall

end Errno

end SharedPages
