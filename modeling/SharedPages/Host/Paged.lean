import SharedPages.Gateway.Layer
import SharedPages.Host.Numbering

/-!
# A system with paged memory

A model of a kernel as far as shared memory goes: objects with a size and bytes,
names and descriptors for them, and an address space made of areas. An area shows
an object, shared or as a private copy made page by page on the first write, or
zeros that are private to it. Pages have 4096 bytes.

* `Paged.call`: the calls of a process;
* `Paged.readAt`, `Paged.writeAt`: the bytes that the process sees and writes.
-/

namespace SharedPages

/-! ## Bytes and objects -/

/-- Bytes at positions, the latest first. Any other byte is zero. -/
abbrev Bytes := List (Nat × UInt8)

def Bytes.at (b : Bytes) (i : Nat) : UInt8 := (b.lookup i).getD 0

/-- A memory object. -/
structure MemoryObject where
  size : Nat
  bytes : Bytes

/-- Objects are numbered in the order of their creation. -/
abbrev ObjectId := Nat

instance : Ranked Nat where
  rank := id
  rank_injective _ _ h := h

/-- Cut or extend with zeros. -/
def MemoryObject.resize (o : MemoryObject) (size : Nat) : MemoryObject :=
  ⟨size, o.bytes.filter fun e => e.1 < size⟩

/-! ## Areas -/

/-- A stretch of pages from `lo` up to `hi`. -/
structure Area where
  lo : Nat
  hi : Nat
  /-- The object shown, and the position in it that lies at `lo`. -/
  source : Option (ObjectId × Nat)
  shared : Bool
  /-- Private copies: the address of the page, and its bytes by address. -/
  copies : List (Nat × Bytes)

/-- The address space without the addresses from `lo` up to `hi`. -/
def removeAreas (lo hi : Nat) (areas : List Area) : List Area :=
  areas.flatMap fun a =>
    let left : Area :=
      { a with hi := min a.hi lo, copies := a.copies.filter fun c => c.1 < lo }
    let right : Area :=
      { a with
        lo := max a.lo hi
        source := a.source.map fun s => (s.1, s.2 + (max a.lo hi - a.lo))
        copies := a.copies.filter fun c => hi ≤ c.1 }
    [left, right].filter fun b => b.lo < b.hi

/-- The area at an address. -/
def areaAt (areas : List Area) (addr : Nat) : Option Area :=
  areas.find? fun a => a.lo ≤ addr && addr < a.hi

/-- Where the areas that begin at or below `addr` without a gap end. -/
def reach (areas : List Area) : (bound : Nat) → Nat → Nat
  | 0, addr => addr
  | bound + 1, addr =>
    match areaAt areas addr with
    | some a => reach areas bound a.hi
    | none => addr

/-- Every address from `lo` up to `hi` is mapped. -/
def isMapped (areas : List Area) (lo hi : Nat) : Bool := hi ≤ reach areas areas.length lo

/-! ## The system -/

/-- An open descriptor: its object and its flags. -/
structure OpenFile where
  object : ObjectId
  flags : Int32

structure Paged where
  objects : Table ObjectId MemoryObject
  nextObject : ObjectId
  names : List (String × ObjectId)
  fds : Table Fd OpenFile
  areas : List Area

namespace Paged

/-- A system with nothing in it. -/
def start : Paged := ⟨.empty, 0, [], .empty, []⟩

def pageSize : Nat := Limit.page

/-- The first page boundary at or after a position. -/
def pageUp (n : Nat) : Nat := (n + (pageSize - 1)) / pageSize * pageSize

/-- The last page boundary at or before a position. -/
def pageDown (n : Nat) : Nat := n / pageSize * pageSize

def isAligned (n : Nat) : Bool := n % pageSize = 0

/-- The end of the addresses that a process may use. -/
def userTop : Nat := 0x7ffffffff000

/-- New mappings are placed below this address. -/
def placeTop : Nat := 0x7fff00000000

/-! ## Objects and descriptors -/

/-- Add an object. -/
def newObject (k : Paged) (size : Nat) : ObjectId × Paged :=
  (k.nextObject,
   { k with
     objects := k.objects.insert k.nextObject ⟨size, []⟩
     nextObject := k.nextObject + 1 })

/-- Open a descriptor for an object. -/
def openObject (k : Paged) (object : ObjectId) (flags : Int32) : Fd × Paged :=
  let fd := lowestFree (fun fd => (k.fds.get? fd).isSome) k.fds.size 3
  (fd, { k with fds := k.fds.insert fd ⟨object, flags⟩ })

/-- The object behind a descriptor. -/
def objectOf? (k : Paged) (fd : Fd) : Option (ObjectId × MemoryObject) :=
  (k.fds.get? fd).bind fun f => (k.objects.get? f.object).map fun o => (f.object, o)

/-- The size of the object behind a descriptor. -/
def sizeOf? (k : Paged) (fd : Fd) : Option Nat := (k.objectOf? fd).map fun o => o.2.size

/-- Open a named object: an existing one unless a new one is demanded, or a new one if that is
allowed. -/
def openNamed (k : Paged) (name : String) (flags : Int32) : Outcome Errno Fd × Paged :=
  match k.names.lookup name with
  | some object =>
    if flags &&& OpenFlag.create ≠ 0 && flags &&& OpenFlag.exclusive ≠ 0 then (.fail .eexist, k)
    else let (fd, k) := k.openObject object FdFlag.closeOnExec; (.ok fd, k)
  | none =>
    if flags &&& OpenFlag.create = 0 then (.fail .enoent, k)
    else
      let (object, k) := k.newObject 0
      let (fd, k) := { k with names := (name, object) :: k.names }.openObject object
        FdFlag.closeOnExec
      (.ok fd, k)

/-- Remove the name of an object, which lives on as long as it is used. -/
def unlinkNamed (k : Paged) (name : String) : Outcome Errno Unit × Paged :=
  match k.names.lookup name with
  | some _ => (.ok (), { k with names := k.names.filter (·.1 ≠ name) })
  | none => (.fail .enoent, k)

/-- Longest name of a memory file, in bytes. -/
def maxMemoryName : Nat := 249

/-- The flags of memory files that the system knows. -/
def knownMemoryFlags (flags : UInt32) : UInt32 :=
  if flags &&& Memfd.hugeTlb ≠ 0 then 0x1f ||| (Memfd.hugeMask <<< Memfd.hugeShift) else 0x1f

/-- Open a memory file without a name. -/
def openMemory (k : Paged) (name : String) (flags : UInt32) : Outcome Errno Fd × Paged :=
  if flags &&& ~~~knownMemoryFlags flags ≠ 0 || maxMemoryName < name.utf8ByteSize then
    (.fail .einval, k)
  else
    let (object, k) := k.newObject 0
    let (fd, k) := k.openObject object (flags &&& Memfd.closeOnExec).toInt32
    (.ok fd, k)

/-- Set the size of an object. -/
def truncate (k : Paged) (fd : Fd) (size : Int64) : Outcome Errno Unit × Paged :=
  if size < 0 then (.fail .einval, k)
  else match k.objectOf? fd with
    | none => (.fail .ebadf, k)
    | some (id, o) =>
      (.ok (), { k with objects := k.objects.insert id (o.resize size.toInt.toNat) })

/-- Do something with an open descriptor. -/
def withFd {α : Type} (k : Paged) (fd : Fd) (f : OpenFile → α × Paged) :
    Outcome Errno α × Paged :=
  match k.fds.get? fd with
  | none => (.fail .ebadf, k)
  | some file => let (a, k) := f file; (.ok a, k)

/-! ## Mapping -/

/-- The range from `lo` on is free and below the end of user addresses. -/
def isFree (k : Paged) (lo size : Nat) : Bool :=
  lo + size ≤ userTop && k.areas.all fun a => a.hi ≤ lo || lo + size ≤ a.lo

/-- The highest free place for `size` bytes below `placeTop`: it ends there, or where an area
begins. -/
def highestFree (k : Paged) (size : Nat) : Option Nat :=
  ((placeTop :: k.areas.map (·.lo)).filter fun hi =>
    size < hi && hi ≤ placeTop && k.isFree (hi - size) size).foldl
    (fun best hi => some (max (best.getD 0) (hi - size))) none

/-- What a mapping shows. Pages that belong to no file are private zeros, or an object of their
own when they are shared. -/
def backing (k : Paged) (size : Nat) (shared : Bool) (file : Option ObjectId) (offset : Nat) :
    Option (ObjectId × Nat) × Paged :=
  match file with
  | some object => (some (object, offset), k)
  | none =>
    if shared then let (object, k) := k.newObject size; (some (object, 0), k) else (none, k)

/-- Put an area in place of whatever lies there. -/
def putArea (k : Paged) (lo size : Nat) (shared : Bool) (file : Option ObjectId) (offset : Nat) :
    Paged :=
  let (source, k) := k.backing size shared file offset
  { k with areas := ⟨lo, lo + size, source, shared, []⟩ :: removeAreas lo (lo + size) k.areas }

/-- Where a mapping of `size` bytes goes. -/
def choose (k : Paged) (hint size : Nat) (fixed : Bool) : Except Errno Nat :=
  if fixed then
    if userTop < hint + size then .error .enomem
    else if !isAligned hint then .error .einval
    else .ok hint
  else if hint ≠ 0 && k.isFree (pageUp hint) size then .ok (pageUp hint)
  else match k.highestFree size with
    | some lo => .ok lo
    | none => .error .enomem

/-- Map memory. -/
def mapMemory (k : Paged) (hint : Address) (len : UInt64) (flags : Int32) (fd : Fd)
    (offset : Int64) : Outcome Errno Address × Paged :=
  let anonymous : Bool := flags &&& MapFlag.anonymous ≠ 0
  let shared : Bool := flags &&& MapFlag.shared ≠ 0
  let size := pageUp len.toNat
  let file := if anonymous then none else (k.objectOf? fd).map (·.1)
  if offset.toInt % (pageSize : Int) ≠ 0 then (.fail .einval, k)
  else if !anonymous && file.isNone then (.fail .ebadf, k)
  else if len = 0 then (.fail .einval, k)
  else if userTop < size then (.fail .enomem, k)
  else match k.choose hint.toNat size (flags &&& MapFlag.fixed ≠ 0) with
    | .error e => (.fail e, k)
    | .ok lo =>
      if flags &&& (MapFlag.shared ||| MapFlag.privateCopy) = 0 then (.fail .einval, k)
      else (.ok lo.toUInt64, k.putArea lo size shared file offset.toInt.toNat)

/-- Unmap whole pages. Pages that are not mapped are no failure. -/
def unmapMemory (k : Paged) (r : Range) : Outcome Errno Unit × Paged :=
  let size := pageUp r.len.toNat
  if !isAligned r.base.toNat || size = 0 || userTop < r.base.toNat + size then (.fail .einval, k)
  else (.ok (), { k with areas := removeAreas r.base.toNat (r.base.toNat + size) k.areas })

/-- A check on mapped pages, in this order: alignment, then an empty range passes, then the
arguments, then whether every page is mapped. -/
def checkPages (k : Paged) (r : Range) (valid : Bool) : Option Errno :=
  if !isAligned r.base.toNat then some .einval
  else if r.len = 0 then none
  else if !valid then some .einval
  else if !isMapped k.areas r.base.toNat (r.base.toNat + pageUp r.len.toNat) then some .enomem
  else none

/-- Locking and unlocking start at the page that the range starts in. -/
def checkLock (k : Paged) (r : Range) : Option Errno :=
  if r.len = 0 then none
  else if !isMapped k.areas (pageDown r.base.toNat) (pageUp (r.base.toNat + r.len.toNat)) then
    some .enomem
  else none

/-- The protection bits that the system knows. -/
def knownProt : Int32 := 0xf

/-- The advice that the system knows and every process may give. -/
def isAdvice (advice : Int32) : Bool :=
  (0 ≤ advice && advice ≤ 4) || (8 ≤ advice && advice ≤ 25)

/-- Forget the private copies of the pages from `lo` up to `hi`. -/
def dropCopies (k : Paged) (lo hi : Nat) : Paged :=
  { k with areas := k.areas.map fun a =>
      { a with copies := a.copies.filter fun c => c.1 < lo || hi ≤ c.1 } }

/-- The end of a call that reports at most an error. -/
def finish (k : Paged) : Option Errno → Outcome Errno Unit × Paged
  | none => (.ok (), k)
  | some e => (.fail e, k)

/-- Take advice. Pages that are not needed show their object again, or zeros; where some pages of
the range are not mapped, the others take the advice all the same. -/
def advise (k : Paged) (r : Range) (advice : Int32) : Outcome Errno Unit × Paged :=
  if !isAdvice advice || !isAligned r.base.toNat then (.fail .einval, k)
  else
    let lo := r.base.toNat
    let k := if advice = Advice.dontNeed then k.dropCopies lo (lo + pageUp r.len.toNat) else k
    k.finish (k.checkPages r true)

/-- The flags for writing back make sense together. -/
def validSync (flags : Int32) : Bool :=
  flags &&& ~~~(SyncFlag.async ||| SyncFlag.invalidate ||| SyncFlag.sync) = 0
    && !(flags &&& SyncFlag.async ≠ 0 && flags &&& SyncFlag.sync ≠ 0)

/-- Write back. Unknown flags are refused even for an empty range. -/
def writeBack (k : Paged) (r : Range) (flags : Int32) : Outcome Errno Unit × Paged :=
  if !validSync flags then (.fail .einval, k) else k.finish (k.checkPages r true)

/-! ## Calls -/

/-- The calls of a process, with names as the kernel sees them. -/
def kernel : Gateway Paged
  | .mmap hint len _ flags fd offset, k => k.mapMemory hint len flags fd offset
  | .munmap r, k => k.unmapMemory r
  | .mprotect r prot, k => k.finish (k.checkPages r (prot &&& ~~~knownProt = 0))
  | .mlock r, k => k.finish (k.checkLock r)
  | .munlock r, k => k.finish (k.checkLock r)
  | .madvise r advice, k => k.advise r advice
  | .msync r flags, k => k.writeBack r flags
  | .shmOpen name flags _, k => k.openNamed name flags
  | .shmUnlink name, k => k.unlinkNamed name
  | .memfdCreate name flags, k => k.openMemory name flags
  | .getFdFlags fd, k => k.withFd fd fun file => (file.flags, k)
  | .setFdFlags fd flags, k => k.withFd fd fun file =>
      ((), { k with fds := k.fds.insert fd { file with flags := flags &&& FdFlag.closeOnExec } })
  | .ftruncate fd size, k => k.truncate fd size
  | .close fd, k => k.withFd fd fun _ => ((), { k with fds := k.fds.erase fd })

/-- The gateway of a process: names are checked on the way to the kernel. -/
def call : Gateway Paged := Gateway.checkingNames kernel

/-- A second descriptor for the object behind a descriptor. -/
def duplicate (k : Paged) (fd : Fd) : Except Errno Fd × Paged :=
  match k.fds.get? fd with
  | none => (.error .ebadf, k)
  | some file => let (fd, k) := k.openObject file.object FdFlag.closeOnExec; (.ok fd, k)

/-- Close a descriptor whose owner goes away. -/
def release (k : Paged) (fd : Fd) : Paged := { k with fds := k.fds.erase fd }

/-! ## Bytes in memory -/

/-- A byte of an object; beyond its end there are zeros. -/
def objectByte (k : Paged) (object : ObjectId) (i : Nat) : UInt8 :=
  match k.objects.get? object with
  | some o => o.bytes.at i
  | none => 0

/-- The byte that an area shows at an address. -/
def areaByte (k : Paged) (a : Area) (addr : Nat) : UInt8 :=
  match a.copies.lookup (pageDown addr) with
  | some copy => copy.at addr
  | none =>
    match a.source with
    | some (object, start) => k.objectByte object (start + (addr - a.lo))
    | none => 0

/-- The byte at an address. -/
def readAt (k : Paged) (addr : Nat) : Option UInt8 := (areaAt k.areas addr).map (k.areaByte · addr)

/-- The bytes that a private copy of a page starts with. -/
def copyOfPage (k : Paged) (a : Area) (page : Nat) : Bytes :=
  match a.source with
  | none => []
  | some (object, start) =>
    match k.objects.get? object with
    | none => []
    | some o =>
      (o.bytes.filter fun e =>
        start + (page - a.lo) ≤ e.1 && e.1 < start + (page - a.lo) + pageSize).map
        fun e => (e.1 - start + a.lo, e.2)

/-- A private area after a write: the page is copied on the first one. -/
def writeCopy (k : Paged) (a : Area) (addr : Nat) (b : UInt8) : Area :=
  let page := pageDown addr
  let copy := (a.copies.lookup page).getD (k.copyOfPage a page)
  { a with copies := (page, (addr, b) :: copy) :: a.copies.filter (·.1 ≠ page) }

/-- Write a byte of an object. -/
def writeObject (k : Paged) (object : ObjectId) (i : Nat) (b : UInt8) : Paged :=
  match k.objects.get? object with
  | none => k
  | some o => { k with objects := k.objects.insert object { o with bytes := (i, b) :: o.bytes } }

/-- Write a byte at an address. -/
def writeAt (k : Paged) (addr : Nat) (b : UInt8) : Paged :=
  match areaAt k.areas addr with
  | none => k
  | some a =>
    match a.shared, a.source with
    | true, some (object, start) => k.writeObject object (start + (addr - a.lo)) b
    | _, _ =>
      { k with areas := k.areas.map fun a' =>
          if a'.lo = a.lo then k.writeCopy a' addr b else a' }

/-- The bytes from an address on. -/
def read (k : Paged) (addr n : Nat) : List UInt8 :=
  (List.range n).map fun i => (k.readAt (addr + i)).getD 0

/-- Write bytes from an address on. -/
def write (k : Paged) : Nat → List UInt8 → Paged
  | _, [] => k
  | addr, b :: rest => (k.writeAt addr b).write (addr + 1) rest

end Paged

end SharedPages
