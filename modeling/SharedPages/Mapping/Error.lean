import SharedPages.Errno.Text

/-!
# Errors of the mapping registry

Three requests are turned down by the registry itself; the other errors carry the
number with which a call failed. An error of a call is always of kind `syscall`,
whatever its number.
-/

namespace SharedPages.Mapping

inductive Error
  /-- The range is empty. -/
  | zeroLength
  /-- The range is not exactly one live registration. -/
  | unknownRange
  /-- A fixed mapping covers a part of a live registration. -/
  | partialOverlap
  | map (errno : Errno)
  | unmap (errno : Errno)
  | protect (errno : Errno)
  | lock (errno : Errno)
  | unlock (errno : Errno)
  | advise (errno : Errno)
  | sync (errno : Errno)
  deriving DecidableEq, Repr

namespace Error

/-- The number of the error; a request turned down counts as an invalid argument. -/
def errno : Error → Errno
  | zeroLength => .einval
  | unknownRange => .einval
  | partialOverlap => .einval
  | map e => e
  | unmap e => e
  | protect e => e
  | lock e => e
  | unlock e => e
  | advise e => e
  | sync e => e

def kind : Error → ErrorKind
  | zeroLength => .invalidArgument
  | unknownRange => .invalidArgument
  | partialOverlap => .invalidArgument
  | _ => .syscall

def message : Error → String
  | zeroLength => "mapping length must be non-zero"
  | unknownRange => "range does not match a live mapping"
  | partialOverlap => "fixed mapping partially overlaps a live mapping"
  | map e => "mmap failed: " ++ e.display
  | unmap e => "munmap failed: " ++ e.display
  | protect e => "mprotect failed: " ++ e.display
  | lock e => "mlock failed: " ++ e.display
  | unlock e => "munlock failed: " ++ e.display
  | advise e => "madvise failed: " ++ e.display
  | sync e => "msync failed: " ++ e.display

end Error

end SharedPages.Mapping
