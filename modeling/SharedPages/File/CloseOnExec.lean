import SharedPages.Flag
import SharedPages.File.Error
import SharedPages.Gateway.Program

/-!
# The close-on-exec flag

Setting and clearing the flag of a descriptor, and handing on a descriptor with the
flag cleared: if that fails the descriptor is closed, once.

* `closeOnExec_of_withCloseOnExec`, `others_of_withCloseOnExec`: the flag is as asked for, and
  the other flags are as they were.
-/

namespace SharedPages.File

open Operation

variable {σ : Type}

/-- Descriptor flags with close-on-exec set or cleared and the others as they were. -/
def withCloseOnExec (flags : Int32) (enabled : Bool) : Int32 :=
  if enabled then flags ||| FdFlag.closeOnExec else flags &&& ~~~FdFlag.closeOnExec

theorem closeOnExec_of_withCloseOnExec (flags : Int32) (enabled : Bool) :
    withCloseOnExec flags enabled &&& FdFlag.closeOnExec ≠ 0 ↔ enabled = true := by
  cases enabled with
  | true =>
    have h : (flags ||| FdFlag.closeOnExec) &&& FdFlag.closeOnExec = FdFlag.closeOnExec := by
      rw [← Int32.toBitVec_inj]
      ext i
      simp +contextual
    simp only [withCloseOnExec, ↓reduceIte, h]
    decide
  | false => simp [withCloseOnExec, Int32.and_assoc]

theorem others_of_withCloseOnExec (flags : Int32) (enabled : Bool) :
    withCloseOnExec flags enabled &&& ~~~FdFlag.closeOnExec = flags &&& ~~~FdFlag.closeOnExec := by
  cases enabled with
  | true =>
    rw [← Int32.toBitVec_inj]
    ext i
    simp [withCloseOnExec, Bool.and_or_distrib_right]
  | false => simp [withCloseOnExec, Int32.and_assoc]

/-- Read the flags of a descriptor and write them back with close-on-exec set or cleared. -/
def setCloseOnExec (fd : Fd) (enabled : Bool) : Operation σ Errno Unit := do
  let flags : Int32 ← call (.getFdFlags fd) id
  call (.setFdFlags fd (withCloseOnExec flags enabled)) id

/-- Clear close-on-exec of a descriptor that is owned, so that it survives the execution of
another program. After an error the descriptor is closed through the gateway, after a panic by
its owner. -/
def removeCloseOnExec (fd : Fd) : Operation σ Error Fd := do
  match ← attempt (setCloseOnExec fd false) with
  | .ok _ => pure fd
  | .fail e =>
    match ← perform (.close fd) with
    | .ok _ => fail (.closeOnExec e)
    | .error closing =>
      note (.discardFailed fd closing)
      fail (.closeOnExec e)
  | .panic text =>
    ask (.release fd)
    leave (.panic text)

end SharedPages.File
