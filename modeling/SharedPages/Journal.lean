import SharedPages.Errno.Text
import SharedPages.Gateway.Call

/-!
# The journal

What the library reports while it works, besides its results. An entry is one of a
fixed set of remarks; `level`, `message` and `fields` say how it is shown.
-/

namespace SharedPages.Journal

inductive Level
  | debug
  | warn
  deriving DecidableEq, Repr

/-- The value of a field of an entry. -/
inductive Field
  | number (n : Int)
  | flag (b : Bool)
  | text (s : String)
  deriving DecidableEq, Repr

inductive Entry
  /-- A fixed mapping was refused: it would take a part of a registration. -/
  | splitRefused (range : Range)
  /-- A registration went because a fixed mapping lies over it. -/
  | replaced (range : Range)
  | registered (range : Range)
  | unmapFailed (range : Range) (errno : Errno)
  | unregistered (range : Range)
  | entropyFailed
  | candidateTaken (attempt : Nat) (candidate : String)
  | rollbackUnlinkFailed (name : String) (errno : Errno)
  | rollbackCloseFailed (fd : Fd) (errno : Errno)
  | createdEmulated (fd : Fd) (name uniqueName : String) (closeOnExec : Bool)
  | createdNative (fd : Fd) (name : String) (flags : UInt32)
  /-- The descriptor whose flags could not be changed could not be closed either. -/
  | discardFailed (fd : Fd) (errno : Errno)
  | mappedFile (fd : Fd) (range : Range)
  deriving DecidableEq, Repr

namespace Entry

def level : Entry → Level
  | unmapFailed .. => .warn
  | entropyFailed => .warn
  | rollbackUnlinkFailed .. => .warn
  | rollbackCloseFailed .. => .warn
  | discardFailed .. => .warn
  | _ => .debug

def message : Entry → String
  | splitRefused _ => "MAP_FIXED would split a registration"
  | replaced _ => "dropping registration replaced by MAP_FIXED"
  | registered _ => "registered mapping"
  | unmapFailed .. => "munmap failed, mapping stays registered"
  | unregistered _ => "unregistered mapping"
  | entropyFailed => "getrandom failed, mixing in the clock instead"
  | candidateTaken .. => "candidate name taken, retrying"
  | rollbackUnlinkFailed .. => "rollback: shm_unlink failed"
  | rollbackCloseFailed .. => "rollback: close failed"
  | createdEmulated .. => "created emulated memfd"
  | createdNative .. => "created memfd"
  | discardFailed .. => "close after failed fcntl failed"
  | mappedFile .. => "mapped anonymous file"

/-- The two fields of a range. -/
def rangeFields (r : Range) : List (String × Field) :=
  [("base", .number (Int.ofNat r.base.toNat)), ("len", .number (Int.ofNat r.len.toNat))]

def fields : Entry → List (String × Field)
  | splitRefused r => rangeFields r
  | replaced r => rangeFields r
  | registered r => rangeFields r
  | unmapFailed r e => rangeFields r ++ [("errno", .text e.display)]
  | unregistered r => rangeFields r
  | entropyFailed => [("err", .text "entropy unavailable")]
  | candidateTaken attempt candidate =>
    [("attempt", .number (Int.ofNat attempt)), ("candidate", .text candidate)]
  | rollbackUnlinkFailed name e => [("name", .text name), ("errno", .text e.display)]
  | rollbackCloseFailed fd e => [("fd", .number fd.toInt), ("errno", .text e.display)]
  | createdEmulated fd name uniqueName closeOnExec =>
    [("fd", .number fd.toInt), ("name", .text name), ("unique_name", .text uniqueName),
     ("close_on_exec", .flag closeOnExec)]
  | createdNative fd name flags =>
    [("fd", .number fd.toInt), ("name", .text name), ("flags", .number (Int.ofNat flags.toNat))]
  | discardFailed fd e => [("fd", .number fd.toInt), ("errno", .text e.display)]
  | mappedFile fd r => ("fd", .number fd.toInt) :: rangeFields r

end Entry

end SharedPages.Journal
