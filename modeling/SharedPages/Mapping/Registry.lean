import SharedPages.Gateway.Program
import SharedPages.Mapping.Error
import SharedPages.Mapping.LiveSet

/-!
# The mapping registry

The registry remembers every range that was mapped through it, and passes on a
request about a range only if the range is exactly one live registration: same base,
same length. So nothing is unmapped twice, in part, or without having been mapped.

* `map`: map memory and register it;
* `unmap`: the entry is taken out before the call and put back if the call fails;
* `protect`, `lock`, `unlock`, `advise`, `sync`: one call each on a live range.
-/

namespace SharedPages.Mapping

open Operation

/-- The registration of the range, or the reason why it has none. -/
def find (r : Range) : Operation LiveSet Error Registration := fun live =>
  if r.isEmpty then .done (.fail .zeroLength, live)
  else match live.get? r with
    | some g => .done (.ok g, live)
    | none => .done (.fail .unknownRange, live)

/-- Turn down a fixed mapping that would split a registration. -/
def refuseSplit (q : MapRequest) : Operation LiveSet Error Unit := do
  if q.isFixed && (← get).wouldSplit q.range then
    note (.splitRefused q.range)
    fail .partialOverlap

/-- Drop what a fixed mapping has replaced. -/
def dropCovered (r : Range) : Operation LiveSet Error Unit := do
  noteAll (((← get).covered r).map fun g => .replaced g.range)
  modify fun live => live.uncovered r

/-- Register the range that a request was given. -/
def enter (q : MapRequest) (r : Range) : Operation LiveSet Error Unit := do
  if q.isFixed then dropCovered r
  modify fun live => live.insert r (q.register r)
  note (.registered r)

/-- Map memory and register the range. No registration lies at the null address: what was mapped
there is unmapped again, and the request refused. -/
def map (q : MapRequest) : Operation LiveSet Error Range := do
  require (q.len ≠ 0) .zeroLength
  refuseSplit q
  let base : Address ← call q.toCall .map
  if base = 0 then
    let _ ← perform (.munmap ⟨0, q.len⟩)
    fail (.map .einval)
  else
    enter q ⟨base, q.len⟩
    return ⟨base, q.len⟩

/-- Unmap a live range. If the call fails the range stays registered. -/
def unmap (r : Range) : Operation LiveSet Error Unit := do
  let g ← find r
  modify fun live => live.erase r
  match ← perform (.munmap r) with
  | .ok _ => note (.unregistered g.range)
  | .error e =>
    note (.unmapFailed g.range e)
    modify fun live => live.insert r g
    fail (.unmap e)

/-- Change the protection of a live range. The registration keeps the one it was mapped with. -/
def protect (r : Range) (prot : Int32) : Operation LiveSet Error Unit := do
  let _ ← find r
  call (.mprotect r prot) .protect

/-- Lock a live range into memory. -/
def lock (r : Range) : Operation LiveSet Error Unit := do
  let _ ← find r
  call (.mlock r) .lock

def unlock (r : Range) : Operation LiveSet Error Unit := do
  let _ ← find r
  call (.munlock r) .unlock

/-- Advise the system about the use of a live range. -/
def advise (r : Range) (advice : Int32) : Operation LiveSet Error Unit := do
  let _ ← find r
  call (.madvise r advice) .advise

/-- Write a live range back to its object. -/
def sync (r : Range) (flags : Int32) : Operation LiveSet Error Unit := do
  let _ ← find r
  call (.msync r flags) .sync

end SharedPages.Mapping
