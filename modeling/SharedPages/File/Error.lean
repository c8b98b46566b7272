import SharedPages.Errno.Text
import SharedPages.Text.Quoted

/-!
# Errors of anonymous files

Requests that are turned down before the system is asked, the failure to find a
free name, and the failures of the calls that make a file.
-/

namespace SharedPages.File

inductive Error
  /-- Flag bits outside the supported set. -/
  | unsupportedFlags (bits : UInt32)
  | emptyName
  /-- The name has more bytes than are allowed. -/
  | nameTooLong (len max : Nat)
  /-- Every candidate name was taken. -/
  | namesExhausted (attempts : Nat)
  /-- The text cannot stand in front of generated names. -/
  | invalidStem (stem : String)
  | create (errno : Errno)
  | unlink (errno : Errno)
  | closeOnExec (errno : Errno)
  deriving DecidableEq, Repr

namespace Error

/-- The number of the error. An empty name and an exhausted name space count as bad addresses. -/
def errno : Error → Errno
  | unsupportedFlags _ => .einval
  | nameTooLong .. => .einval
  | invalidStem _ => .einval
  | emptyName => .efault
  | namesExhausted _ => .efault
  | create e => e
  | unlink e => e
  | closeOnExec e => e

def kind : Error → ErrorKind
  | unsupportedFlags _ => .invalidArgument
  | nameTooLong .. => .invalidArgument
  | invalidStem _ => .invalidArgument
  | emptyName => .resourceFault
  | namesExhausted _ => .resourceFault
  | create _ => .syscall
  | unlink _ => .syscall
  | closeOnExec _ => .syscall

def message : Error → String
  | unsupportedFlags bits => "unsupported flags " ++ Text.hexMarked bits.toNat
  | emptyName => "name must not be empty"
  | nameTooLong len max =>
    "name is " ++ toString len ++ " bytes, at most " ++ toString max ++ " are allowed"
  | namesExhausted attempts => "no free object name after " ++ toString attempts ++ " attempts"
  | invalidStem stem => "invalid name prefix " ++ Text.quoted stem
  | create e => "creating the backing object failed: " ++ e.display
  | unlink e => "unlinking the backing object failed: " ++ e.display
  | closeOnExec e => "updating close-on-exec failed: " ++ e.display

end Error

end SharedPages.File
