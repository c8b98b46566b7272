import SharedPages.Host.Machine
import SharedPages.Session.Command

/-!
# State of a session

A context on a machine, and what the handles of the session stand for.
-/

namespace SharedPages.Session

/-- What a file handle holds. -/
inductive Holder
  | file (f : File.AnonymousFile)
  /-- An owned descriptor. -/
  | owned (fd : Fd)
  /-- An ordinary file, which can be given a size. -/
  | ordinary (fd : Fd)
  | empty

/-- The descriptor that a handle holds. -/
def Holder.fd? : Holder → Option Fd
  | file f => some f.fd
  | owned fd => some fd
  | ordinary fd => some fd
  | empty => none

structure State where
  context : Context
  machine : Machine
  mappings : List Range
  files : List Holder
  directs : List Fd

namespace State

/-- A session before its first command. -/
def start (provider : File.Provider) (machine : Machine) : State :=
  ⟨Context.start provider, machine, [], [], []⟩

/-! ## Handles -/

def mapping? (s : State) (m : Nat) : Option Range := s.mappings[m]?

/-- What the file handle holds, unless it is empty. -/
def holder? (s : State) (f : Nat) : Option Holder :=
  match s.files[f]? with
  | some .empty => none
  | h => h

def range? (s : State) : RangeRef → Option Range
  | .handle m => s.mapping? m
  | .near m delta len => (s.mapping? m).map fun r => ⟨r.base + delta, len⟩
  | .exact r => some r

def hint? (s : State) : HintRef → Option Address
  | .address a => some a
  | .near m delta => (s.mapping? m).map fun r => r.base + delta

def fd? (s : State) : FdRef → Option Fd
  | .number fd => some fd
  | .file f => (s.holder? f).bind Holder.fd?
  | .direct g => s.directs[g]?

/-- The last handle that stands for exactly this range. -/
def handleOf? (s : State) (r : Range) : Option Nat :=
  (s.mappings.zipIdx.reverse.find? fun e => e.1 = r).map Prod.snd

/-- Give a range the next handle. -/
def addMapping (s : State) (r : Range) : State := { s with mappings := s.mappings ++ [r] }

/-- Give something that holds a descriptor the next handle. -/
def addFile (s : State) (h : Holder) : State := { s with files := s.files ++ [h] }

/-- Let a handle hold something else. -/
def setFile (s : State) (f : Nat) (h : Holder) : State := { s with files := s.files.set f h }

/-- Give the descriptor of a direct call the next handle. -/
def addDirect (s : State) (fd : Fd) : State := { s with directs := s.directs ++ [fd] }

end State

end SharedPages.Session
