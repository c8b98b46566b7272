import SharedPages.Flag
import SharedPages.Gateway.Call

/-!
# Live mappings

What was asked for and what came of it: a request, the registration of the range
that it was given, and the live set of all registrations, in the order of their
ranges.

* `LiveSet.info`, `LiveSet.contains`, `LiveSet.active`: what is registered;
* `LiveSet.wouldSplit`, `LiveSet.covered`: how a fixed mapping would meet it;
* `info_insert`, `info_erase`, `info_uncovered`: what each change does to look-ups.
-/

namespace SharedPages.Mapping

/-! ## Registrations -/

/-- A request for a mapping. Without a descriptor the memory is backed by no file. -/
structure MapRequest where
  hint : Address
  len : UInt64
  prot : Int32
  flags : Int32
  fd : Option Fd
  offset : Int64
  deriving DecidableEq, Repr

namespace MapRequest

/-- The mapping is to lie exactly at the hint. -/
def isFixed (q : MapRequest) : Bool := q.flags &&& MapFlag.fixed ≠ 0

/-- The range that a fixed mapping asks for. -/
def range (q : MapRequest) : Range := ⟨q.hint, q.len⟩

/-- The call that the request makes. -/
abbrev toCall (q : MapRequest) : Call :=
  .mmap q.hint q.len q.prot q.flags (q.fd.getD (-1)) q.offset

end MapRequest

/-- What is known about a live mapping: where it lies, and how it was asked for. -/
structure Registration where
  range : Range
  prot : Int32
  flags : Int32
  fd : Option Fd
  offset : Int64
  deriving DecidableEq, Repr

/-- The registration of a request that was given a range. -/
def MapRequest.register (q : MapRequest) (range : Range) : Registration :=
  ⟨range, q.prot, q.flags, q.fd, q.offset⟩

/-! ## Live sets -/

/-- The live registrations, by their ranges. -/
abbrev LiveSet := Table Range Registration

namespace LiveSet

/-- The registration of exactly this range. An empty range has none. -/
def info (live : LiveSet) (r : Range) : Option Registration :=
  if r.isEmpty then none else live.get? r

def contains (live : LiveSet) (r : Range) : Bool := (live.info r).isSome

/-- All registrations, by base address. -/
def active (live : LiveSet) : List Registration := live.values

/-- Some registration would be split by a fixed mapping of the range. -/
def wouldSplit (live : LiveSet) (r : Range) : Bool := live.active.any fun g => r.splits g.range

/-- The registrations that lie wholly inside the range. -/
def covered (live : LiveSet) (r : Range) : List Registration :=
  live.active.filter fun g => r.covers g.range

/-- The live set without the registrations that lie wholly inside the range. -/
def uncovered (live : LiveSet) (r : Range) : LiveSet :=
  live.filter fun e => !r.covers e.2.range

@[simp] theorem info_of_isEmpty (live : LiveSet) {r : Range} (h : r.isEmpty = true) :
    live.info r = none := by
  simp [info, h]

theorem contains_iff (live : LiveSet) (r : Range) :
    live.contains r = true ↔ ∃ g, live.info r = some g := Option.isSome_iff_exists

theorem info_insert (live : LiveSet) {r : Range} (s : Range) (g : Registration)
    (h : r.isEmpty = false) :
    info (live.insert r g) s = if s = r then some g else live.info s := by
  by_cases hs : s = r
  · subst hs
    simp [info, h]
  · simp [info, hs]

theorem info_erase (live : LiveSet) (r s : Range) :
    info (live.erase r) s = if s = r then none else live.info s := by
  by_cases hs : s = r
  · simp [info, hs]
  · simp [info, hs]

theorem info_uncovered (live : LiveSet) (r s : Range) :
    (live.uncovered r).info s = (live.info s).filter fun g => !r.covers g.range := by
  by_cases hs : s.isEmpty = true
  · simp [hs]
  · simp [info, uncovered, hs]

/-- How a registry is shown. -/
def display (live : LiveSet) : String :=
  "MappingRegistry \x7b active: " ++ toString live.size ++ ", .. \x7d"

end LiveSet

end SharedPages.Mapping
