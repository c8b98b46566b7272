/-!
# Blank characters and words

`isBlank` is the Unicode property White_Space, which has 25 characters; `words`
cuts a text into its maximal runs of other characters.
-/

namespace SharedPages.Text

/-! ## Blank characters -/

/-- The code points with the property White_Space outside ASCII. -/
def wideBlanks : List Nat :=
  [0x85, 0xA0, 0x1680, 0x2000, 0x2001, 0x2002, 0x2003, 0x2004, 0x2005, 0x2006, 0x2007, 0x2008,
   0x2009, 0x200A, 0x2028, 0x2029, 0x202F, 0x205F, 0x3000]

/-- Unicode white space: tab to carriage return, the space, and `wideBlanks`. -/
def isBlank (c : Char) : Bool :=
  c = ' ' || (9 ≤ c.toNat && c.toNat ≤ 13) || wideBlanks.contains c.toNat

/-! ## Words -/

/-- A word: a run of characters none of which is blank. -/
abbrev Word := List Char

/-- The list of words with `w` in front, unless `w` is empty. -/
def consWord (w : Word) (ws : List Word) : List Word :=
  if w = [] then ws else w :: ws

/-- The word that the text starts with, empty if it starts with a blank, and the words after it. -/
def headWord : List Char → Word × List Word
  | [] => ([], [])
  | c :: cs =>
    let (w, ws) := headWord cs
    if isBlank c then ([], consWord w ws) else (c :: w, ws)

/-- The maximal runs of characters that are not blank, in order. -/
def words (text : List Char) : List Word :=
  consWord (headWord text).1 (headWord text).2

end SharedPages.Text
