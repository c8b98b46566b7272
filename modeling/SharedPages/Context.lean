import SharedPages.Mapping.Registry
import SharedPages.File.Provider

/-!
# Shared-memory contexts

A context puts a registry of mappings and a provider of files together. `mapFile`
sizes a file and maps all of it; every other operation is one of its two parts'.
-/

namespace SharedPages

/-! ## Errors -/

/-- An error of a context. -/
inductive ContextError
  | mapping (error : Mapping.Error)
  | file (error : File.Error)
  /-- Sizing a file failed. -/
  | resize (errno : Errno)
  deriving DecidableEq, Repr

namespace ContextError

def errno : ContextError → Errno
  | mapping e => e.errno
  | file e => e.errno
  | resize e => e

def kind : ContextError → ErrorKind
  | mapping e => e.kind
  | file e => e.kind
  | resize _ => .syscall

def message : ContextError → String
  | mapping e => e.message
  | file e => e.message
  | resize e => "ftruncate failed: " ++ e.display

end ContextError

/-! ## Operations -/

/-- A registry of mappings and a provider of files. -/
structure Context where
  live : Mapping.LiveSet
  provider : File.Provider

namespace Context

open Operation

variable {ε α : Type}

/-- A context without mappings. -/
def start (provider : File.Provider) : Context := ⟨.empty, provider⟩

/-- An operation of the registry. -/
def onMappings (x : Operation Mapping.LiveSet ε α) : Operation Context ε α :=
  within (·.live) (fun live c => { c with live := live }) x

/-- An operation of the provider. -/
def onFiles (x : Operation File.Provider ε α) : Operation Context ε α :=
  within (·.provider) (fun provider c => { c with provider := provider }) x

/-- A length as a file size, if it is one. -/
def fileSize? (len : UInt64) : Option Int64 :=
  if len.toNat < 0x8000000000000000 then some (Int64.ofNat len.toNat) else none

/-- The request for a shared mapping of a whole file. -/
def wholeFile (fd : Fd) (len : UInt64) (prot : Int32) : Mapping.MapRequest :=
  ⟨0, len, prot, MapFlag.shared, some fd, 0⟩

/-- Size a file and map all of it, shared. The mapping outlives the file. -/
def mapFile (fd : Fd) (len : UInt64) (prot : Int32) : Operation Context ContextError Range := do
  require (len ≠ 0) (.mapping .zeroLength)
  match fileSize? len with
  | none => fail (.resize .einval)
  | some size =>
    call (.ftruncate fd size) .resize
    let range ← onMappings (mapError .mapping (Mapping.map (wholeFile fd len prot)))
    note (.mappedFile fd range)
    return range

/-- How a context is shown. -/
def display (c : Context) : String :=
  "SharedMemory \x7b registry: " ++ c.live.display ++ ", .. \x7d"

end Context

end SharedPages
