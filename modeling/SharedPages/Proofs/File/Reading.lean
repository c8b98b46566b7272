import Mathlib.Data.List.Induction
import SharedPages.Proofs.File.Naming

/-!
# Reading candidates back

The stem of a candidate has no fixed length and may itself consist of digits, but the two numerals
behind it have one. So a candidate is read from its end. Proved here:

* `hexFixed_hexNumber`: digits are what is written in a field of their width for the number that
  they stand for;
* `parts?_eq_some_iff`: the texts that can be taken apart are the candidates, and each gives back
  the stem, the serial number and the mixed hash that it was made of;
* `candidate_inj`: equal candidates are made of equal parts.
-/

namespace SharedPages

/-! ## Numerals -/

namespace Text

theorem hexNumber_append_singleton (digits : List Char) (c : Char) :
    hexNumber (digits ++ [c]) = hexNumber digits * 16 + hexValue c := by
  simp [hexNumber]

/-- There are no digits but those of the values below sixteen. -/
theorem exists_eq_hexDigit {c : Char} (hc : isHexDigit c = true) : ∃ n < 16, c = hexDigit n := by
  rw [isHexDigit, Bool.or_eq_true, Bool.and_eq_true, decide_eq_true_eq, decide_eq_true_eq] at hc
  rcases hc with hdigit | ⟨hlow, hhigh⟩
  · rw [Char.isDigit, Bool.and_eq_true, decide_eq_true_eq, decide_eq_true_eq] at hdigit
    obtain ⟨hlow, hhigh⟩ : 48 ≤ c.toNat ∧ c.toNat ≤ 57 := hdigit
    refine ⟨c.toNat - 48, by omega, ?_⟩
    rw [hexDigit, if_pos (by omega), Nat.add_sub_cancel' hlow, Char.ofNat_toNat]
  · have hlow : 97 ≤ c.toNat := hlow
    have hhigh : c.toNat ≤ 102 := hhigh
    refine ⟨c.toNat - 87, by omega, ?_⟩
    rw [hexDigit, if_neg (by omega), Nat.add_sub_cancel' (by omega), Char.ofNat_toNat]

/-- **Numerals.** Digits stand for a number that fits in a field of their width, and are what is
written in it. -/
theorem hexFixed_hexNumber {digits : List Char} (hdigits : ∀ c ∈ digits, isHexDigit c = true) :
    hexNumber digits < 16 ^ digits.length ∧
      hexFixed digits.length (hexNumber digits) = digits := by
  -- The last digit is the lowest one.
  induction digits using List.reverseRecOn with
  | nil => exact ⟨Nat.one_pos, rfl⟩
  | append_singleton digits c ih =>
    obtain ⟨hfits, hwritten⟩ := ih fun d hd => hdigits d (List.mem_append_left _ hd)
    obtain ⟨n, hn, rfl⟩ := exists_eq_hexDigit (hdigits c (by simp))
    rw [hexNumber_append_singleton, hexValue_hexDigit hn, List.length_append,
      List.length_singleton, hexFixed, Nat.pow_succ]
    have hhigh : (hexNumber digits * 16 + n) / 16 = hexNumber digits := by omega
    have hlow : (hexNumber digits * 16 + n) % 16 = n := by omega
    rw [hhigh, hlow, hwritten]
    exact ⟨by omega, rfl⟩

end Text

namespace File

/-! ## Candidates -/

/-- What a candidate is made of. -/
structure Parts where
  stem : String
  serial : UInt32
  mixed : UInt64
  deriving DecidableEq, Repr

/-- Take a text apart from its end: sixteen digits of the mixed hash, eight of the serial number,
and the stem in front of them. -/
def parts? (text : String) : Option Parts :=
  let start := text.toList.length - generatedLength
  let digits := text.toList.drop start
  if digits.length = generatedLength ∧ digits.all Text.isHexDigit = true then
    some ⟨String.ofList (text.toList.take start),
      UInt32.ofNat (Text.hexNumber (digits.take 8)), UInt64.ofNat (Text.hexNumber (digits.drop 8))⟩
  else none

variable {stem stem' : String} {serial serial' : UInt32} {mixed mixed' : UInt64}

theorem parts?_candidate (stem : String) (serial : UInt32) (mixed : UInt64) :
    parts? (candidate stem serial mixed) = some ⟨stem, serial, mixed⟩ := by
  have hserial : (Text.hexFixed 8 serial.toNat).length = 8 := Text.length_hexFixed ..
  have hmixed : (Text.hexFixed 16 mixed.toNat).length = 16 := Text.length_hexFixed ..
  have hstart : (candidate stem serial mixed).toList.length - generatedLength
      = stem.toList.length := by
    simp [toList_candidate, hserial, hmixed, generatedLength]
  have hdigits : (Text.hexFixed 8 serial.toNat ++ Text.hexFixed 16 mixed.toNat).all
      Text.isHexDigit = true := by
    rw [List.all_append, Bool.and_eq_true, List.all_eq_true, List.all_eq_true]
    exact ⟨fun _ => Text.isHexDigit_of_mem_hexFixed, fun _ => Text.isHexDigit_of_mem_hexFixed⟩
  have hread : Text.hexNumber (Text.hexFixed 8 serial.toNat) = serial.toNat := by
    rw [Text.hexNumber_hexFixed, Nat.mod_eq_of_lt serial.toNat_lt]
  have hread' : Text.hexNumber (Text.hexFixed 16 mixed.toNat) = mixed.toNat := by
    rw [Text.hexNumber_hexFixed, Nat.mod_eq_of_lt mixed.toNat_lt]
  simp only [parts?, hstart]
  rw [toList_candidate, List.drop_left, List.take_left, List.take_left' hserial,
    List.drop_left' hserial, if_pos ⟨by simp [hserial, hmixed, generatedLength], hdigits⟩, hread,
    hread', UInt32.ofNat_toNat, UInt64.ofNat_toNat, String.ofList_toList]

theorem eq_candidate_of_parts? {text : String} (h : parts? text = some ⟨stem, serial, mixed⟩) :
    text = candidate stem serial mixed := by
  simp only [parts?, Option.ite_none_right_eq_some, Option.some.injEq, Parts.mk.injEq] at h
  obtain ⟨⟨hlength, hall⟩, rfl, rfl, rfl⟩ := h
  generalize hstart : text.toList.length - generatedLength = start at hlength hall ⊢
  generalize hdigits : text.toList.drop start = digits at hlength hall ⊢
  rw [List.all_eq_true] at hall
  obtain ⟨hfits, hwritten⟩ :=
    Text.hexFixed_hexNumber fun c hc => hall c (List.mem_of_mem_take (i := 8) hc)
  obtain ⟨hfits', hwritten'⟩ :=
    Text.hexFixed_hexNumber fun c hc => hall c (List.mem_of_mem_drop (i := 8) hc)
  have hwidth : (digits.take 8).length = 8 := by
    rw [List.length_take, hlength]
    rfl
  have hwidth' : (digits.drop 8).length = 16 := by
    rw [List.length_drop, hlength]
    rfl
  rw [hwidth] at hfits hwritten
  rw [hwidth'] at hfits' hwritten'
  rw [candidate, UInt32.toNat_ofNat_of_lt' hfits, UInt64.toNat_ofNat_of_lt' hfits', hwritten,
    hwritten', List.take_append_drop, ← hdigits, ← String.ofList_append, List.take_append_drop,
    String.ofList_toList]

/-- **Reading.** The texts that can be taken apart are the candidates. -/
theorem parts?_eq_some_iff {text : String} :
    parts? text = some ⟨stem, serial, mixed⟩ ↔ text = candidate stem serial mixed :=
  ⟨eq_candidate_of_parts?, fun h => h ▸ parts?_candidate stem serial mixed⟩

example : parts? "00ff0000000c00000000000000ff" = some ⟨"00ff", 12, 255⟩ := by decide +kernel

/-- **Parts.** A longer stem never makes up for other digits. -/
theorem candidate_inj :
    candidate stem serial mixed = candidate stem' serial' mixed' ↔
      stem = stem' ∧ serial = serial' ∧ mixed = mixed' := by
  rw [← parts?_eq_some_iff, parts?_candidate, Option.some.injEq, Parts.mk.injEq]

end File

end SharedPages
