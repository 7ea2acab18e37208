import TypedTemplates.Text.Graphic
import TypedTemplates.Text.Hex

/-!
# Quoted text

`quoted s` writes a text between double quotes so that every character of it can be read: the quote, the
backslash, the usual control characters and all that is not graphic are escaped.
-/

namespace TypedTemplates.Text

/-- A code point escape: the hexadecimal digits between braces. -/
def codePointEscape (c : Char) : List Char :=
  ['\\', 'u', '{'] ++ hexDigits c.toNat ++ ['}']

/-- One character inside double quotes. -/
def quotedChar (c : Char) : List Char :=
  if c = '"' then ['\\', '"']
  else if c = '\\' then ['\\', '\\']
  else if c = '\n' then ['\\', 'n']
  else if c = '\r' then ['\\', 'r']
  else if c = '\t' then ['\\', 't']
  else if c = '\x00' then ['\\', '0']
  else if isGraphic c then [c]
  else codePointEscape c

/-- The text between double quotes, with all that could not be seen escaped. -/
def quoted (s : String) : String :=
  String.ofList ('"' :: s.toList.flatMap quotedChar ++ ['"'])

/-- A list of quoted texts between square brackets. -/
def quotedList (items : List String) : String :=
  "[" ++ ", ".intercalate (items.map quoted) ++ "]"

end TypedTemplates.Text
