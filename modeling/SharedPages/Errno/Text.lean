import SharedPages.Errno.Catalogue
import SharedPages.Text.Fill

/-!
# Error numbers in words

What is shown for an error number: name, message, explanation filled to
`helpWidth` columns, and the line used inside other messages. A number that is not
in the catalogue has empty texts and shows as the bare number.
-/

namespace SharedPages.Errno

/-- Columns of an explanation. -/
def helpWidth : Nat := 78

def name (e : Errno) : String := ((describe e).map (·.name)).getD ""

def message (e : Errno) : String := ((describe e).map (·.message)).getD ""

/-- The explanation, filled to `helpWidth` columns. -/
def help (e : Errno) : String := ((describe e).map fun d => Text.wrap d.help helpWidth).getD ""

/-- Name, message and number, or the number alone. -/
def display (e : Errno) : String :=
  match describe e with
  | some d => d.name ++ ": " ++ d.message ++ " (errno " ++ toString e.code.toInt ++ ")"
  | none => "errno " ++ toString e.code.toInt

end SharedPages.Errno
