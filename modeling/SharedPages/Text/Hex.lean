/-!
# Hexadecimal digits

Lower-case hexadecimal numerals: `hexFixed` writes the low digits of a number in a
field of fixed width, `hexShort` writes a number without leading zeros, `hexNumber`
reads digits back.

* `length_hexFixed`: a field has its width;
* `hexNumber_hexFixed`: what is read back is the number, less what did not fit.
-/

namespace SharedPages.Text

/-- The digit for a value below sixteen. -/
def hexDigit (n : Nat) : Char := if n < 10 then Char.ofNat (48 + n) else Char.ofNat (87 + n)

/-- The `width` lowest digits of `n`, zeros in front where `n` is shorter. -/
def hexFixed : Nat → Nat → List Char
  | 0, _ => []
  | width + 1, n => hexFixed width (n / 16) ++ [hexDigit (n % 16)]

theorem length_hexFixed (width n : Nat) : (hexFixed width n).length = width := by
  induction width generalizing n with
  | zero => rfl
  | succ width ih => simp [hexFixed, ih]

/-- The character is a lower-case hexadecimal digit. -/
def isHexDigit (c : Char) : Bool := c.isDigit || ('a' ≤ c && c ≤ 'f')

/-- The value of a digit. -/
def hexValue (c : Char) : Nat := if c.isDigit then c.toNat - 48 else c.toNat - 87

/-- The number that digits stand for. -/
def hexNumber (digits : List Char) : Nat := digits.foldl (fun n c => n * 16 + hexValue c) 0

theorem hexValue_hexDigit {n : Nat} (h : n < 16) : hexValue (hexDigit n) = n := by
  have all : ∀ m : Fin 16, hexValue (hexDigit m.val) = m.val := by decide
  exact all ⟨n, h⟩

theorem isHexDigit_hexDigit {n : Nat} (h : n < 16) : isHexDigit (hexDigit n) = true := by
  have all : ∀ m : Fin 16, isHexDigit (hexDigit m.val) = true := by decide
  exact all ⟨n, h⟩

theorem hexNumber_hexFixed (width n : Nat) :
    hexNumber (hexFixed width n) = n % Nat.pow 16 width := by
  induction width generalizing n with
  | zero => exact (Nat.mod_one n).symm
  | succ width ih =>
    have hread : hexNumber (hexFixed (width + 1) n)
        = hexNumber (hexFixed width (n / 16)) * 16 + hexValue (hexDigit (n % 16)) := by
      simp [hexNumber, hexFixed]
    have hpow : Nat.pow 16 (width + 1) = 16 * Nat.pow 16 width := Nat.mul_comm _ _
    rw [hread, ih, hexValue_hexDigit (Nat.mod_lt n (by decide)), hpow, Nat.mod_mul]
    omega

/-- The digits of `n` without leading zeros; zero has one digit. -/
def hexShort (n : Nat) : List Char :=
  if n < 16 then [hexDigit n] else hexShort (n / 16) ++ [hexDigit (n % 16)]
termination_by n
decreasing_by omega

/-- The numeral with the mark `0x` in front. -/
def hexMarked (n : Nat) : String := "0x" ++ String.ofList (hexShort n)

/-- The bytes as two digits each. -/
def hexBytes (bytes : List UInt8) : String :=
  String.ofList (bytes.flatMap fun b => hexFixed 2 b.toNat)

end SharedPages.Text
