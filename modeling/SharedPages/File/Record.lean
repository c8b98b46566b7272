import SharedPages.Gateway.Call
import SharedPages.Text.Quoted

/-!
# Anonymous files

An anonymous file is a descriptor for memory that has no name. Its record says what
it was asked to be. A file of the emulation is tracked: its provider keeps the
record under the descriptor as long as the file lives.
-/

namespace SharedPages.File

/-- What is known about an anonymous file. -/
structure Record where
  /-- The name that was asked for. -/
  name : String
  /-- The name that the object had for a moment, if it ever had one. -/
  uniqueName : Option String
  allowsSealing : Bool
  closeOnExec : Bool
  deriving DecidableEq, Repr

/-- A file that owns its descriptor. -/
structure AnonymousFile where
  fd : Fd
  record : Record
  tracked : Bool
  deriving DecidableEq, Repr

/-- The records of the live files of a provider, by descriptor. -/
abbrev FileTable := Table Fd Record

/-- How a truth value is shown. -/
def displayBool (b : Bool) : String := if b then "true" else "false"

def Record.display (r : Record) : String :=
  "FileRecord \x7b name: " ++ Text.quoted r.name ++ ", unique_name: "
    ++ (match r.uniqueName with
        | some n => "Some(" ++ Text.quoted n ++ ")"
        | none => "None")
    ++ ", allows_sealing: " ++ displayBool r.allowsSealing
    ++ ", close_on_exec: " ++ displayBool r.closeOnExec ++ " \x7d"

def AnonymousFile.display (f : AnonymousFile) : String :=
  "AnonymousFile \x7b fd: " ++ toString f.fd.toInt ++ ", record: " ++ f.record.display
    ++ ", tracked: " ++ displayBool f.tracked ++ " \x7d"

end SharedPages.File
