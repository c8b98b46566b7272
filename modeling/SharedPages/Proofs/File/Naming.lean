import Mathlib.Data.String.Basic
import SharedPages.File.Config
import SharedPages.Proofs.ObjectName

/-!
# Candidates as object names

A candidate is its stem and twenty-four digits, so the system takes it as it is. Proved here:

* `utf8ByteSize_candidate`, `utf8ByteSize_candidate_le`: how long a candidate is;
* `eq_or_isHexDigit_of_mem`: what it consists of;
* `normalize_candidate`: as the name of an object it only gets its slash.
-/

namespace SharedPages

/-! ## Digits -/

namespace Text

theorem utf8Size_hexDigit {n : Nat} (h : n < 16) : (hexDigit n).utf8Size = 1 := by
  have all : ∀ m : Fin 16, (hexDigit m.val).utf8Size = 1 := by decide
  exact all ⟨n, h⟩

/-- Every digit takes one byte. -/
theorem utf8Len_hexFixed (width n : Nat) : String.utf8Len (hexFixed width n) = width := by
  induction width generalizing n with
  | zero => rfl
  | succ width ih =>
    have hdigit : (hexDigit (n % 16)).utf8Size = 1 := utf8Size_hexDigit (Nat.mod_lt n (by decide))
    rw [hexFixed, String.utf8Len_append, ih]
    simp [hdigit]

theorem isHexDigit_of_mem_hexFixed {width n : Nat} {c : Char} (hc : c ∈ hexFixed width n) :
    isHexDigit c = true := by
  induction width generalizing n with
  | zero => cases hc
  | succ width ih =>
    rw [hexFixed, List.mem_append, List.mem_singleton] at hc
    rcases hc with hc | rfl
    · exact ih hc
    · exact isHexDigit_hexDigit (Nat.mod_lt n (by decide))

end Text

namespace File

/-! ## Candidates -/

variable {stem : String} {serial : UInt32} {mixed : UInt64}

theorem toList_candidate (stem : String) (serial : UInt32) (mixed : UInt64) :
    (candidate stem serial mixed).toList =
      stem.toList ++ (Text.hexFixed 8 serial.toNat ++ Text.hexFixed 16 mixed.toNat) := by
  rw [candidate, String.toList_append, String.toList_ofList]

theorem utf8ByteSize_candidate (stem : String) (serial : UInt32) (mixed : UInt64) :
    (candidate stem serial mixed).utf8ByteSize = stem.utf8ByteSize + generatedLength := by
  rw [candidate, String.utf8ByteSize_append, String.utf8ByteSize_ofList, String.utf8Len_append,
    Text.utf8Len_hexFixed, Text.utf8Len_hexFixed, generatedLength]

theorem isStem_iff : isStem stem = true ↔ stem.utf8ByteSize ≤ maxStemLength ∧
    '/' ∉ stem.toList ∧ Char.ofNat 0 ∉ stem.toList := by
  simp [isStem, and_assoc]

/-- With the slash in front of it, a candidate is a portable name. -/
theorem utf8ByteSize_candidate_le (hstem : isStem stem = true) :
    (candidate stem serial mixed).utf8ByteSize + 1 ≤ Limit.portableName := by
  have hshort : stem.utf8ByteSize ≤ maxStemLength := (isStem_iff.mp hstem).1
  rw [utf8ByteSize_candidate]
  simp only [maxStemLength, generatedLength, Limit.portableName] at hshort ⊢
  omega

theorem eq_or_isHexDigit_of_mem {c : Char} (hc : c ∈ (candidate stem serial mixed).toList) :
    c ∈ stem.toList ∨ Text.isHexDigit c = true := by
  rw [toList_candidate, List.mem_append, List.mem_append] at hc
  rcases hc with hc | hc | hc
  · exact Or.inl hc
  · exact Or.inr (Text.isHexDigit_of_mem_hexFixed hc)
  · exact Or.inr (Text.isHexDigit_of_mem_hexFixed hc)

/-- What is neither in a stem nor a digit is not in a candidate. -/
theorem not_mem_candidate {c : Char} (hstem : c ∉ stem.toList)
    (hdigit : Text.isHexDigit c = false) : c ∉ (candidate stem serial mixed).toList := by
  intro hc
  rcases eq_or_isHexDigit_of_mem hc with hmem | hhex
  · exact hstem hmem
  · rw [hdigit] at hhex
    cases hhex

theorem candidate_ne_empty : candidate stem serial mixed ≠ "" := by
  intro hempty
  have hsize := utf8ByteSize_candidate stem serial mixed
  simp [hempty, generatedLength] at hsize

/-! ## Object names -/

/-- **Object names.** The system refuses no candidate, and takes it as it is. -/
theorem normalize_candidate (hstem : isStem stem = true) :
    ObjectName.normalize (candidate stem serial mixed) =
      .ok (String.ofList ('/' :: (candidate stem serial mixed).toList)) := by
  obtain ⟨-, hslash, hnul⟩ := isStem_iff.mp hstem
  have hnoslash : '/' ∉ (candidate stem serial mixed).toList :=
    not_mem_candidate hslash (by decide)
  have hnonul : Char.ofNat 0 ∉ (candidate stem serial mixed).toList :=
    not_mem_candidate hnul (by decide)
  have hshort : (candidate stem serial mixed).utf8ByteSize < Limit.pathComponent := by
    have hle : (candidate stem serial mixed).utf8ByteSize + 1 ≤ Limit.portableName :=
      utf8ByteSize_candidate_le hstem
    simp only [Limit.portableName, Limit.pathComponent] at hle ⊢
    omega
  have hcomponent : ObjectName.isComponent (candidate stem serial mixed).toList = true := by
    simp [ObjectName.isComponent, candidate_ne_empty, hshort, hnoslash, hnonul]
  rw [ObjectName.normalize, ObjectName.stripSlashes_of_not_mem hnoslash, if_pos hcomponent]

end File

end SharedPages
