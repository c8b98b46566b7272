import SharedPages.Text.Hex
import SharedPages.Text.Unprintable
import SharedPages.Text.Extender

/-!
# Quoted texts

A text between double quotes in which every character can be seen: the quote and
the backslash have a backslash in front, NUL, tab, line feed and carriage return
have letters of their own, and what is unprintable or attaches to its neighbour is
written by its code point.
-/

namespace SharedPages.Text

/-- How a character is written between the quotes. -/
def quotedChar (c : Char) : List Char :=
  if c = Char.ofNat 0 then ['\\', '0']
  else if c = '\t' then ['\\', 't']
  else if c = '\n' then ['\\', 'n']
  else if c = '\r' then ['\\', 'r']
  else if c = '"' || c = '\\' then ['\\', c]
  else if isAttachedMark c || isUnprintable c then
    ['\\', 'u', Char.ofNat 0x7b] ++ hexShort c.toNat ++ [Char.ofNat 0x7d]
  else [c]

/-- The text between double quotes. -/
def quoted (text : String) : String :=
  String.ofList ('"' :: text.toList.flatMap quotedChar ++ ['"'])

end SharedPages.Text
