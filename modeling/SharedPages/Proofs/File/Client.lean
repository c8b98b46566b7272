import Mathlib.Logic.Function.Basic
import SharedPages.File.Provider

/-!
# Clients

A client has providers and handles. A handle owns a descriptor: it is a file of one of the
providers, or a descriptor or an ordinary file that was made out of one. An action takes at most
one handle and makes at most one; `performAll` carries out one action after the other, whether
they fail or not.
-/

namespace SharedPages.File

open Operation

variable {ε α : Type}

/-- What owns a descriptor. A file belongs to the provider with the given number. -/
inductive Handle
  | file (maker : Nat) (f : AnonymousFile)
  | owned (fd : Fd)
  | ordinary (fd : Fd)
  deriving DecidableEq, Repr

def Handle.fd : Handle → Fd
  | file _ f => f.fd
  | owned fd => fd
  | ordinary fd => fd

/-- Providers, by number, and the handles that are alive. -/
structure Client where
  providers : Nat → Provider
  handles : List Handle

namespace Client

/-- The descriptors that are owned by handles. -/
def owned (c : Client) : List Fd := c.handles.map Handle.fd

/-- A handle comes to life. -/
def keep (handle : Handle) (c : Client) : Client := { c with handles := c.handles ++ [handle] }

/-- The handle at a position is taken away. -/
def without (i : Nat) (c : Client) : Client := { c with handles := c.handles.eraseIdx i }

def withProvider (maker : Nat) (p : Provider) (c : Client) : Client :=
  { c with providers := Function.update c.providers maker p }

/-- An operation of one of the providers. -/
def onProvider (maker : Nat) (x : Operation Provider ε α) : Operation Client ε α :=
  within (·.providers maker) (withProvider maker) x

@[simp] theorem owned_keep (c : Client) (handle : Handle) :
    (c.keep handle).owned = c.owned ++ [handle.fd] := by
  simp [owned, keep]

theorem perm_cons_eraseIdx {hs : List Handle} {i : Nat} {handle : Handle}
    (hi : hs[i]? = some handle) : hs.Perm (handle :: hs.eraseIdx i) := by
  induction hs generalizing i with
  | nil => cases hi
  | cons first hs ih =>
    cases i with
    | zero =>
      cases hi
      exact .refl _
    | succ i => exact ((ih hi).cons first).trans (.swap ..)

/-- What is taken away and what is left are all there was. -/
theorem owned_perm_without {c : Client} {i : Nat} {handle : Handle}
    (hi : c.handles[i]? = some handle) : c.owned.Perm (handle.fd :: (c.without i).owned) :=
  (perm_cons_eraseIdx hi).map Handle.fd

end Client

open Client

/-! ## Actions -/

/-- End a handle and close its descriptor. -/
def Handle.drop : Handle → Operation Client ε Unit
  | file maker f => onProvider maker (Provider.drop f)
  | owned fd => ask (.release fd)
  | ordinary fd => ask (.release fd)

/-- End a handle and keep its descriptor. -/
def Handle.intoFd : Handle → Operation Client ε Fd
  | file maker f => onProvider maker (Provider.intoFd f)
  | owned fd => pure fd
  | ordinary fd => pure fd

/-- Make an ordinary file that shares the open file of an anonymous file. -/
def Handle.clone : Handle → Operation Client Errno Unit
  | file maker f => do
    let fd ← onProvider maker (Provider.clone f)
    modify (keep (.ordinary fd))
  | owned _ => pure ()
  | ordinary _ => pure ()

/-- What a client can do. Handles are named by their positions. -/
inductive Action
  | create (maker : Nat) (name : String) (flags : UInt32)
  | createUnnamed (maker : Nat)
  | drop (i : Nat)
  | intoFd (i : Nat)
  | intoFile (i : Nat)
  | removeCloseOnExec (i : Nat)
  | clone (i : Nat)
  deriving DecidableEq, Repr

/-- Take a handle, if it exists, and do something with it. -/
def taking (i : Nat) (f : Handle → Operation Client ε Unit) : Operation Client ε Unit := do
  match (← get).handles[i]? with
  | none => pure ()
  | some handle =>
    modify (without i)
    f handle

theorem taking_eq {i : Nat} {f : Handle → Operation Client ε Unit} {c : Client} :
    taking i f c =
      (match c.handles[i]? with
      | none => .done (.ok (), c)
      | some handle => f handle (c.without i)) := by
  show (match c.handles[i]? with
    | none => pure ()
    | some handle => modify (without i) >>= fun _ => f handle : Operation Client ε Unit) c = _
  cases c.handles[i]? <;> rfl

/-- Do something with a handle, if it exists, and leave it where it is. -/
def lending (i : Nat) (f : Handle → Operation Client ε Unit) : Operation Client ε Unit := do
  match (← get).handles[i]? with
  | none => pure ()
  | some handle => f handle

theorem lending_eq {i : Nat} {f : Handle → Operation Client ε Unit} {c : Client} :
    lending i f c =
      (match c.handles[i]? with
      | none => .done (.ok (), c)
      | some handle => f handle c) := by
  show (match c.handles[i]? with
    | none => pure ()
    | some handle => f handle : Operation Client ε Unit) c = _
  cases c.handles[i]? <;> rfl

namespace Action

/-- Carry out an action. It fails with the number of the error. -/
def perform : Action → Operation Client Errno Unit
  | create maker name flags => do
    let f ← mapError Error.errno (onProvider maker (Provider.create name flags))
    modify (keep (.file maker f))
  | createUnnamed maker => do
    let f ← mapError Error.errno (onProvider maker Provider.createUnnamed)
    modify (keep (.file maker f))
  | drop i => taking i Handle.drop
  | intoFd i => taking i fun handle => do
    let fd ← handle.intoFd
    modify (keep (.owned fd))
  | intoFile i => taking i fun handle => do
    let fd ← handle.intoFd
    modify (keep (.ordinary fd))
  | removeCloseOnExec i => taking i fun handle => do
    let fd ← handle.intoFd
    let fd ← mapError Error.errno (File.removeCloseOnExec fd)
    modify (keep (.owned fd))
  | clone i => lending i Handle.clone

/-- Carry out one action after the other, whether they fail or not. -/
def performAll : List Action → Operation Client Errno Unit
  | [] => pure ()
  | a :: as => do
    let _ ← (attempt a.perform : Operation Client Errno (Outcome Errno Unit))
    performAll as

end Action

end SharedPages.File
