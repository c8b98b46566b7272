import SharedPages.Flag
import SharedPages.File.Config

/-!
# Requests for anonymous files

Every provider judges a request in the same way, and before it asks the system:
first the flags, then the name.
-/

namespace SharedPages.File

/-- Longest name of a file, in bytes. -/
def maxNameLength : Nat := Limit.pathComponent - Config.defaultStem.utf8ByteSize

/-- The name of a file that was asked for without one. -/
def unnamed : String := "shm_anon"

/-- The flag bits allowed beside the given ones: a huge-page size needs huge pages. -/
def allowedFlags (flags : UInt32) : UInt32 :=
  if flags &&& Memfd.hugeTlb ≠ 0 then
    Memfd.plainFlags ||| (Memfd.hugeMask <<< Memfd.hugeShift)
  else Memfd.plainFlags

/-- The bits that are not allowed. -/
def unsupportedBits (flags : UInt32) : UInt32 := flags &&& ~~~allowedFlags flags

/-- What is wrong with a request, if anything. -/
def fault? (name : String) (flags : UInt32) : Option Error :=
  if unsupportedBits flags ≠ 0 then some (.unsupportedFlags (unsupportedBits flags))
  else if name = "" then some .emptyName
  else if maxNameLength < name.utf8ByteSize then
    some (.nameTooLong name.utf8ByteSize maxNameLength)
  else none

/-- The flags ask for a descriptor that is closed on execution of another program. -/
def wantsCloseOnExec (flags : UInt32) : Bool := flags &&& Memfd.closeOnExec ≠ 0

/-- The flags ask for sealing operations. -/
def wantsSealing (flags : UInt32) : Bool := flags &&& Memfd.allowSealing ≠ 0

end SharedPages.File
