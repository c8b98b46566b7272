import SharedPages.File.Candidate
import SharedPages.File.Error

/-!
# Configuration of the emulation

The stem of generated names and the bound on attempts. Both are valid in every
configuration, since the only ways to change one keep them so.
-/

namespace SharedPages.File

structure Config where
  stem : String
  maxAttempts : Nat
  stem_valid : isStem stem = true
  attempts_pos : 0 < maxAttempts
  deriving DecidableEq

namespace Config

def defaultStem : String := "memfd:"

def defaultMaxAttempts : Nat := 64

/-- The stem `memfd:` and 64 attempts. -/
def standard : Config := ⟨defaultStem, defaultMaxAttempts, by decide +kernel, by decide⟩

/-- Set the stem, if the text can be one. -/
def withStem (c : Config) (stem : String) : Except Error Config :=
  if h : isStem stem = true then .ok { c with stem := stem, stem_valid := h }
  else .error (.invalidStem stem)

/-- Set the bound on attempts. Zero counts as one. -/
def withMaxAttempts (c : Config) (n : Nat) : Config :=
  { c with maxAttempts := max n 1, attempts_pos := Nat.lt_of_lt_of_le Nat.one_pos (Nat.le_max_right n 1) }

/-- How a configuration is shown. -/
def display (c : Config) : String :=
  "EmulatorConfig \x7b prefix: " ++ Text.quoted c.stem ++ ", max_attempts: "
    ++ toString c.maxAttempts ++ " \x7d"

end Config

end SharedPages.File
