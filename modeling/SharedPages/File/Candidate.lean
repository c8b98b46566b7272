import SharedPages.Flag
import SharedPages.Text.Fnv
import SharedPages.Text.Hex

/-!
# Candidate names

An emulated file needs an object name that nobody else has. A candidate is a stem,
eight digits of a serial number, and sixteen digits of the hash of the file's name
mixed with random bits. With the stem at its longest the candidate and the slash in
front of it just fit the shortest limit that any supported system puts on names.
-/

namespace SharedPages.File

/-- Digits that a candidate has after its stem. -/
def generatedLength : Nat := 8 + 16

/-- Longest stem, in bytes. -/
def maxStemLength : Nat := Limit.portableName - 1 - generatedLength

/-- A text can be a stem: short enough, and free of slashes and NUL. -/
def isStem (stem : String) : Bool :=
  stem.utf8ByteSize ≤ maxStemLength
    && !stem.toList.contains '/' && !stem.toList.contains (Char.ofNat 0)

/-- Random bits mixed with the hash of the name. -/
def mix (random : UInt64) (name : String) : UInt64 := random ^^^ Text.fnv1a (Text.bytesOf name)

/-- The candidate with the given serial number and mixed hash. -/
def candidate (stem : String) (serial : UInt32) (mixed : UInt64) : String :=
  stem ++ String.ofList (Text.hexFixed 8 serial.toNat ++ Text.hexFixed 16 mixed.toNat)

end SharedPages.File
