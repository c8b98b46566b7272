import SharedPages.Gateway.Injection
import SharedPages.Host.Paged
import SharedPages.Host.Scripted
import SharedPages.Text.Fnv

/-!
# Machines

The surroundings in which a session runs: a scripted system, a paged system behind
failure injection, or a paged system alone. Random bits of the paged systems are
real, so nothing may depend on them; `hidesEntropy` marks them.
-/

namespace SharedPages

inductive Machine
  | scripted (s : Scripted)
  | rehearsed (injector : Injector) (k : Paged)
  | plain (k : Paged)

namespace Machine

/-- Nobody can know the random bits of the machine. -/
def hidesEntropy : Machine → Bool
  | scripted _ => false
  | _ => true

/-- A call through the gateway of the machine. -/
def call : Gateway Machine
  | c, scripted s => let (answer, s) := Scripted.perform c s; (answer, scripted s)
  | c, rehearsed j k =>
    let (answer, j, k) := Gateway.injecting Paged.call c (j, k)
    (answer, rehearsed j k)
  | c, plain k => let (answer, k) := Paged.call c k; (answer, plain k)

/-- A call that passes by the failure injection. -/
def callDirectly : Gateway Machine
  | c, scripted s => let (answer, s) := Scripted.perform c s; (answer, scripted s)
  | c, rehearsed j k => let (answer, k) := Paged.call c k; (answer, rehearsed j k)
  | c, plain k => let (answer, k) := Paged.call c k; (answer, plain k)

/-- The object names that exist. -/
def names : Machine → List String
  | scripted s => s.names
  | rehearsed _ k => k.names.map Prod.fst
  | plain k => k.names.map Prod.fst

/-- What the clock shows, and the random bits of the paged systems: a digest of the names that
exist. Names made of it are masked, so the word itself does not matter; but such a name must not
exist yet, and since the digest depends on every name, that is as unlikely as with true random
bits. -/
def hiddenBits (m : Machine) : UInt64 :=
  Text.fnv1a (m.names.flatMap Text.bytesOf) * 0x9e3779b97f4a7c15

def draw : Machine → Option UInt64 × Machine
  | scripted s => let (bits, s) := Scripted.host.answer .draw s; (bits, scripted s)
  | m => (some m.hiddenBits, m)

def release (fd : Fd) : Machine → Machine
  | scripted s => scripted (Scripted.host.answer (.release fd) s).2
  | rehearsed j k => rehearsed j (k.release fd)
  | plain k => plain (k.release fd)

def duplicate (fd : Fd) : Machine → Except Errno Fd × Machine
  | scripted s => let (answer, s) := Scripted.host.answer (.duplicate fd) s; (answer, scripted s)
  | rehearsed j k => let (answer, k) := k.duplicate fd; (answer, rehearsed j k)
  | plain k => let (answer, k) := k.duplicate fd; (answer, plain k)

/-- The machine as a host, with calls answered by `gateway`. -/
def hostBy (gateway : Gateway Machine) : Host Machine where
  answer
    | .call c, m => gateway c m
    | .draw, m => m.draw
    | .clock, m => (m.hiddenBits, m)
    | .release fd, m => ((), m.release fd)
    | .duplicate fd, m => m.duplicate fd
    | .note _, m => ((), m)

/-- The paged system of the machine, if it has one. -/
def paged? : Machine → Option Paged
  | scripted _ => none
  | rehearsed _ k => some k
  | plain k => some k

/-- Put another paged system in the place of the machine's. -/
def withPaged (k : Paged) : Machine → Machine
  | scripted s => scripted s
  | rehearsed j _ => rehearsed j k
  | plain _ => plain k

end Machine

end SharedPages
