import TypedTemplates.Text.CodePoints

/-!
# Blank characters

`isBlank` is the Unicode property White_Space, and `trim` takes the blank characters off both ends of a text.
-/

namespace TypedTemplates.Text

/-- The twenty-five characters with the property White_Space. -/
def blanks : CodePoints :=
  [(0x9, 0xd), (0x20, 0x20), (0x85, 0x85), (0xa0, 0xa0), (0x1680, 0x1680), (0x2000, 0x200a), (0x2028, 0x2029),
   (0x202f, 0x202f), (0x205f, 0x205f), (0x3000, 0x3000)]

def isBlank (c : Char) : Bool :=
  blanks.contains c

/-- The text without its leading and trailing blanks. -/
def trim (cs : List Char) : List Char :=
  ((cs.dropWhile isBlank).reverse.dropWhile isBlank).reverse

end TypedTemplates.Text
