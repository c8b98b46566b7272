/-!
# Flags and limits

The flag words that the calls of the operating system take, with their values on
Linux x86-64, and the limits on names and pages. The flags of anonymous memory
files are defined for every system, so that a flag set can be judged where the
system itself knows none of them.
-/

namespace SharedPages

/-! ## Limits -/

namespace Limit

/-- Longest component of a path, in bytes. -/
def pathComponent : Nat := 255

/-- Longest object name, leading slash included, that every supported system accepts. -/
def portableName : Nat := 31

/-- Bytes of a page. -/
def page : Nat := 4096

end Limit

/-! ## Anonymous memory files -/

namespace Memfd

def closeOnExec : UInt32 := 0x1
def allowSealing : UInt32 := 0x2
def hugeTlb : UInt32 := 0x4

/-- Every flag that does not belong to the field of huge-page sizes. -/
def plainFlags : UInt32 := closeOnExec ||| allowSealing ||| hugeTlb

/-- Position of the field that holds the logarithm of the huge-page size. -/
def hugeShift : UInt32 := 26

/-- The field of huge-page sizes, moved to the lowest bits. -/
def hugeMask : UInt32 := 0x3f

/-- The flag word for huge pages of `2 ^ log` bytes. -/
def hugeSize (log : UInt32) : UInt32 := log <<< hugeShift

end Memfd

/-! ## Mappings -/

namespace Prot

def none : Int32 := 0
def read : Int32 := 1
def write : Int32 := 2
def exec : Int32 := 4
def readWrite : Int32 := read ||| write

end Prot

namespace MapFlag

def shared : Int32 := 0x1
def privateCopy : Int32 := 0x2
def fixed : Int32 := 0x10
def anonymous : Int32 := 0x20
def noReserve : Int32 := 0x4000

end MapFlag

namespace SyncFlag

def async : Int32 := 1
def invalidate : Int32 := 2
def sync : Int32 := 4

end SyncFlag

namespace Advice

def normal : Int32 := 0
def random : Int32 := 1
def sequential : Int32 := 2
def willNeed : Int32 := 3
def dontNeed : Int32 := 4

end Advice

/-! ## Opening and descriptors -/

namespace OpenFlag

def readOnly : Int32 := 0
def readWrite : Int32 := 2
def create : Int32 := 0x40
def exclusive : Int32 := 0x80
def noFollow : Int32 := 0x20000
def closeOnExec : Int32 := 0x80000

end OpenFlag

namespace FdFlag

/-- The descriptor is closed when the process executes another program. -/
def closeOnExec : Int32 := 1

end FdFlag

namespace Mode

def ownerRead : UInt32 := 0x100
def ownerWrite : UInt32 := 0x80

end Mode

/-! ## Symbolic names -/

/-- The limits under their names in the headers of the system. -/
def limitSymbols : List (String × Nat) := [
  ("NAME_MAX", Limit.pathComponent),
  ("SHM_NAME_MAX", Limit.portableName)]

/-- The unsigned flag words under their names in the headers. -/
def unsignedSymbols : List (String × UInt32) := [
  ("MFD_CLOEXEC", Memfd.closeOnExec),
  ("MFD_ALLOW_SEALING", Memfd.allowSealing),
  ("MFD_HUGETLB", Memfd.hugeTlb),
  ("MFD_ALL_FLAGS", Memfd.plainFlags),
  ("MFD_HUGE_SHIFT", Memfd.hugeShift),
  ("MFD_HUGE_MASK", Memfd.hugeMask),
  ("MFD_HUGE_64KB", Memfd.hugeSize 16),
  ("MFD_HUGE_512KB", Memfd.hugeSize 19),
  ("MFD_HUGE_1MB", Memfd.hugeSize 20),
  ("MFD_HUGE_2MB", Memfd.hugeSize 21),
  ("MFD_HUGE_8MB", Memfd.hugeSize 23),
  ("MFD_HUGE_16MB", Memfd.hugeSize 24),
  ("MFD_HUGE_32MB", Memfd.hugeSize 25),
  ("MFD_HUGE_256MB", Memfd.hugeSize 28),
  ("MFD_HUGE_512MB", Memfd.hugeSize 29),
  ("MFD_HUGE_1GB", Memfd.hugeSize 30),
  ("MFD_HUGE_2GB", Memfd.hugeSize 31),
  ("MFD_HUGE_16GB", Memfd.hugeSize 34),
  ("S_IRUSR", Mode.ownerRead),
  ("S_IWUSR", Mode.ownerWrite)]

/-- The signed flag words under their names in the headers. -/
def signedSymbols : List (String × Int32) := [
  ("PROT_NONE", Prot.none),
  ("PROT_READ", Prot.read),
  ("PROT_WRITE", Prot.write),
  ("PROT_EXEC", Prot.exec),
  ("PROT_RDWR", Prot.readWrite),
  ("MAP_SHARED", MapFlag.shared),
  ("MAP_PRIVATE", MapFlag.privateCopy),
  ("MAP_ANONYMOUS", MapFlag.anonymous),
  ("MAP_FIXED", MapFlag.fixed),
  ("MAP_NORESERVE", MapFlag.noReserve),
  ("MS_ASYNC", SyncFlag.async),
  ("MS_SYNC", SyncFlag.sync),
  ("MS_INVALIDATE", SyncFlag.invalidate),
  ("MADV_NORMAL", Advice.normal),
  ("MADV_RANDOM", Advice.random),
  ("MADV_SEQUENTIAL", Advice.sequential),
  ("MADV_WILLNEED", Advice.willNeed),
  ("MADV_DONTNEED", Advice.dontNeed),
  ("O_RDONLY", OpenFlag.readOnly),
  ("O_RDWR", OpenFlag.readWrite),
  ("O_CREAT", OpenFlag.create),
  ("O_EXCL", OpenFlag.exclusive),
  ("O_NOFOLLOW", OpenFlag.noFollow),
  ("O_CLOEXEC", OpenFlag.closeOnExec),
  ("FD_CLOEXEC", FdFlag.closeOnExec)]

/-- The value of a flag or limit, by its name in the headers. -/
def symbol? (name : String) : Option Int :=
  ((limitSymbols.lookup name).map Int.ofNat)
    <|> ((unsignedSymbols.lookup name).map fun v => Int.ofNat v.toNat)
    <|> ((signedSymbols.lookup name).map Int32.toInt)

end SharedPages
