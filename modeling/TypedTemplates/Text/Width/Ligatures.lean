import TypedTemplates.Text.Width.Columns

/-!
# Ligatures

In some scripts two letters are shown as one that takes no more columns than either. `Ligature` says how far such a
letter has been read from its end, and `Ligature.merge?` what a character before it makes of it. Marks that are never
shown may stand anywhere in between, and except in Arabic so may joiners.
-/

namespace TypedTemplates.Text

/-- The Arabic letters of the joining group Alef. -/
def alefs : CodePoints :=
  [(0x622, 0x623), (0x625, 0x625), (0x627, 0x627), (0x671, 0x673), (0x675, 0x675), (0x773, 0x774), (0x870, 0x882)]

/-- The Arabic letters of the joining group Lam. -/
def lams : CodePoints :=
  [(0x644, 0x644), (0x6b5, 0x6b8), (0x76a, 0x76a), (0x8a6, 0x8a6), (0x8c7, 0x8c7)]

/-- The characters without a column whose joining type is not transparent, so that they keep letters apart. -/
def separators : CodePoints :=
  [(0x605, 0x605), (0x890, 0x891), (0x8e2, 0x8e2), (0x9be, 0x9be), (0x9d7, 0x9d7), (0xb3e, 0xb3e),
   (0xb57, 0xb57), (0xbbe, 0xbbe), (0xbd7, 0xbd7), (0xcc0, 0xcc0), (0xcc2, 0xcc2), (0xcc7, 0xcc8),
   (0xcca, 0xccb), (0xcd5, 0xcd6), (0xd3e, 0xd3e), (0xd4e, 0xd4e), (0xd57, 0xd57), (0xdcf, 0xdcf),
   (0xddf, 0xddf), (0x1160, 0x11ff), (0x1715, 0x1715), (0x1734, 0x1734), (0x180e, 0x180e), (0x1b35, 0x1b35),
   (0x1b3b, 0x1b3b), (0x1b3d, 0x1b3d), (0x1b43, 0x1b44), (0x1baa, 0x1baa), (0x1bf2, 0x1bf3),
   (0x200c, 0x200d), (0x2065, 0x2069), (0x302e, 0x302f), (0x3164, 0x3164), (0xa8fa, 0xa8fa),
   (0xa953, 0xa953), (0xa9c0, 0xa9c0), (0xd7b0, 0xd7c6), (0xd7cb, 0xd7fb), (0xffa0, 0xffa0),
   (0xfff0, 0xfff8), (0x111c0, 0x111c0), (0x111c2, 0x111c3), (0x11235, 0x11235), (0x1133e, 0x1133e),
   (0x1134d, 0x1134d), (0x11357, 0x11357), (0x113b8, 0x113b8), (0x113c2, 0x113c2), (0x113c5, 0x113c5),
   (0x113c7, 0x113c9), (0x113cf, 0x113cf), (0x113d1, 0x113d1), (0x114b0, 0x114b0), (0x114bd, 0x114bd),
   (0x115af, 0x115af), (0x116b6, 0x116b6), (0x11930, 0x11930), (0x1193d, 0x1193d), (0x1193f, 0x1193f),
   (0x11941, 0x11941), (0x11a84, 0x11a89), (0x11d46, 0x11d46), (0x11f02, 0x11f02), (0x11f41, 0x11f41),
   (0x16ff0, 0x16ff1), (0x1d165, 0x1d166), (0x1d16d, 0x1d172), (0xe0000, 0xe0000), (0xe0002, 0xe001f),
   (0xe0080, 0xe00ff), (0xe01f0, 0xe0fff)]

/-- The Khmer letters that have a subscript form below the letter before them. -/
def subscriptLetters : CodePoints :=
  [(0x1780, 0x1782), (0x1784, 0x1787), (0x1789, 0x178c), (0x178e, 0x1793), (0x1795, 0x1798), (0x179b, 0x179d),
   (0x17a0, 0x17a0), (0x17a2, 0x17a2), (0x17a7, 0x17a7), (0x17ab, 0x17ac), (0x17af, 0x17af)]

/-- The consonants of the Tifinagh script. -/
def tifinaghConsonants : CodePoints :=
  [(0x2d31, 0x2d65), (0x2d6f, 0x2d6f)]

/-- The marks that are never shown. -/
def ignorableMarks : CodePoints :=
  [(0x34f, 0x34f), (0x17b4, 0x17b5), (0x180b, 0x180d), (0x180f, 0x180f), (0xfe00, 0xfe0f), (0xe0100, 0xe01ef)]

def zeroWidthJoiner : Char := '\u200D'

/-- The letter with which a ligature ends, and what has been read before it. -/
inductive Ligature where
  /-- The Arabic letter alef, with which a lam before it is shown as one. -/
  | alef
  /-- The Hebrew letter lamed. -/
  | lamed (joined : Bool)
  /-- The Buginese letter ya. -/
  | ya (joined : Bool)
  /-- The Buginese vowel i, a joiner and the letter ya. -/
  | vowelAndYa
  | tifinagh (joined : Bool)
  /-- The Tifinagh consonant joiner and a consonant. -/
  | joinerAndTifinagh
  /-- The Lisu tone letters that may be the second of two. -/
  | lisuTone
  /-- The Old Turkic letter i. -/
  | orkhonI (joined : Bool)
  /-- A Khmer letter that has a subscript form. -/
  | subscriptLetter
  deriving DecidableEq, Repr

namespace Ligature

/-- The ligature that may end with this letter. -/
def endingWith? (c : Char) : Option Ligature :=
  if alefs.contains c then some .alef
  else if c.toNat = 0x5dc then some (.lamed false)
  else if c.toNat = 0x1a10 then some (.ya false)
  else if tifinaghConsonants.contains c then some (.tifinagh false)
  else if c.toNat = 0xa4fc || c.toNat = 0xa4fd then some .lisuTone
  else if c.toNat = 0x10c03 then some (.orkhonI false)
  else if subscriptLetters.contains c then some .subscriptLetter
  else none

/-- The ligature after a joiner before it. -/
def joined : Ligature → Ligature
  | .lamed _ => .lamed true
  | .ya _ => .ya true
  | .tifinagh _ => .tifinagh true
  | .orkhonI _ => .orkhonI true
  | l => l

/-- Whether a character may stand within the ligature without a change to it. -/
def passes (c : Char) : Ligature → Bool
  | .alef => zeroWidths.contains c && !separators.contains c
  | _ => ignorableMarks.contains c

/-- The columns of a text and the ligature at its front after one more character before it, if that belongs to the
ligature. A ligature that is complete is none any more. -/
def merge? (columns : Nat) (c : Char) (l : Ligature) : Option (Nat × Option Ligature) :=
  if l.passes c then some (columns, l)
  else if c = zeroWidthJoiner && l ≠ .alef then some (columns, l.joined)
  else
    match l with
    | .alef => if lams.contains c then some (columns, none) else none
    | .lamed true => if c.toNat = 0x5d0 then some (columns, none) else none
    | .ya true => if c.toNat = 0x1a17 then some (columns, some .vowelAndYa) else none
    | .vowelAndYa => if c.toNat = 0x1a15 then some (columns, none) else none
    | .tifinagh joined =>
      if c.toNat = 0x2d7f then some (columns + 1, some .joinerAndTifinagh)
      else if joined && tifinaghConsonants.contains c then some (columns, none)
      else none
    | .joinerAndTifinagh => if tifinaghConsonants.contains c then some (columns - 1, none) else none
    | .lisuTone => if 0xa4f8 ≤ c.toNat && c.toNat ≤ 0xa4fb then some (columns, none) else none
    | .orkhonI true => if c.toNat = 0x10c32 then some (columns, none) else none
    | .subscriptLetter => if c.toNat = 0x17d2 then some (columns - 1, none) else none
    | _ => none

end Ligature

end TypedTemplates.Text
