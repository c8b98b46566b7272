import SharedPages.Text.Blank

/-!
# Filling lines

The greedy layout of a text: words go on a line, one space apart, as long as they
fit within the width. A word longer than the width gets a line of its own and is
never broken; a text without words stays as it is.

* `fill`: the lines of a list of words;
* `wrap`: the text filled to a width.
-/

namespace SharedPages.Text

/-- The words that still go on a line with `room` columns left, then the lines after it. -/
def fillRest (width room : Nat) : List Word → List Word × List (List Word)
  | [] => ([], [])
  | w :: ws =>
    if room < w.length + 1 then
      let (line, lines) := fillRest width (width - w.length) ws
      ([], (w :: line) :: lines)
    else
      let (line, lines) := fillRest width (room - (w.length + 1)) ws
      (w :: line, lines)

/-- Greedy lines: each takes words as long as they fit. -/
def fill (width : Nat) : List Word → List (List Word)
  | [] => []
  | w :: ws =>
    let (line, lines) := fillRest width (width - w.length) ws
    (w :: line) :: lines

/-- The texts one after the other, with `sep` between neighbours. -/
def joinWith (sep : Char) : List (List Char) → List Char
  | [] => []
  | [x] => x
  | x :: y :: rest => x ++ sep :: joinWith sep (y :: rest)

/-- A line as text: its words with single spaces between them. -/
def lineText (line : List Word) : List Char := joinWith ' ' line

/-- `wrap` on lists of characters. -/
def wrapChars (width : Nat) (text : List Char) : List Char :=
  match words text with
  | [] => text
  | ws => joinWith '\n' ((fill width ws).map lineText)

/-- Fill the text to lines of at most `width` characters. -/
def wrap (text : String) (width : Nat) : String :=
  String.ofList (wrapChars width text.toList)

end SharedPages.Text
