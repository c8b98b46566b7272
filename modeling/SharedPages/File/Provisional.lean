import SharedPages.File.CloseOnExec

/-!
# Provisional objects

Between its creation and the moment when it is handed out, a named object is
provisional: whoever fails on the way rolls it back. The roll-back unlinks the name
if it is still linked and closes the descriptor; what fails there is noted, and the
failure that caused it stays the result.
-/

namespace SharedPages.File

open Operation

variable {σ : Type}

/-- A freshly created object that is not handed out yet. -/
structure Provisional where
  fd : Fd
  name : String
  deriving DecidableEq, Repr

namespace Provisional

/-- Remove the name of the object. -/
def unlinkBack (o : Provisional) : Operation σ Error Unit := do
  match ← perform (.shmUnlink o.name) with
  | .ok _ => pure ()
  | .error e => note (.rollbackUnlinkFailed o.name e)

/-- Close the descriptor of the object. -/
def closeBack (o : Provisional) : Operation σ Error Unit := do
  match ← perform (.close o.fd) with
  | .ok _ => pure ()
  | .error e => note (.rollbackCloseFailed o.fd e)

/-- Give up the object; `linked` says whether it still has its name. -/
def rollBack (o : Provisional) (linked : Bool) : Operation σ Error Unit := do
  if linked then o.unlinkBack
  o.closeBack

/-- Remove the name from the name space, or roll back. -/
def unlink (o : Provisional) : Operation σ Error Unit :=
  onFailure (call (.shmUnlink o.name) .unlink) (o.rollBack true)

/-- Set or clear close-on-exec of an object without a name, or roll back. -/
def settle (o : Provisional) (closeOnExec : Bool) : Operation σ Error Unit :=
  onFailure (mapError .closeOnExec (setCloseOnExec o.fd closeOnExec)) (o.rollBack false)

end Provisional

end SharedPages.File
