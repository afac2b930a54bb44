import LinkedShapes.Unicode.Printable

/-!
# Quoted text

Messages and shapes show a text between double quotes. Quotes, backslashes, line ends, tabs and
the zero character are written with a backslash; every other character without a visible form
of its own is written as its number in hexadecimal digits between braces.
-/

namespace LinkedShapes.Text

open Unicode

/-- A character that is shown as it is. -/
def isShown (c : Char) : Bool := !unprintable.contains c && !graphemeExtend.contains c

/-- The way a character is written between quotes. -/
def escapeChar (c : Char) : List Char :=
  if c = '\x00' then ['\\', '0']
  else if c = '\t' then ['\\', 't']
  else if c = '\r' then ['\\', 'r']
  else if c = '\n' then ['\\', 'n']
  else if c = '\\' then ['\\', '\\']
  else if c = '\x22' then ['\\', '\x22']
  else if isShown c then [c]
  else ['\\', 'u', '\x7b'] ++ Nat.toDigits 16 c.toNat ++ ['\x7d']

/-- The text between double quotes. -/
def quoted (text : String) : String :=
  String.ofList ('\x22' :: text.toList.flatMap escapeChar ++ ['\x22'])

/-- Texts between square brackets, each of them quoted. -/
def quotedList (texts : List String) : String :=
  "[" ++ ", ".intercalate (texts.map quoted) ++ "]"

end LinkedShapes.Text
