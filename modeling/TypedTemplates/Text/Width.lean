import TypedTemplates.Text.Width.Ligatures
import TypedTemplates.Text.Width.Pictographs

/-!
# Display width

The number of terminal columns a line of text takes. Most characters take the columns that they take alone, but some
sequences are narrower or wider than their parts: ligatures, pictographs with a variation selector or a skin tone,
pictographs joined into one, flags, and a line break of two characters. A line is read from its end, and `Ahead` keeps
what the characters read so far mean for the one before them.
-/

namespace TypedTemplates.Text

/-- A variation selector: it says how the character before it is to be shown. -/
inductive Selector where
  | pictograph
  | text
  | fullWidth
  deriving DecidableEq, Repr

def Selector.ofChar? (c : Char) : Option Selector :=
  if c = '\uFE0F' then some .pictograph
  else if c = '\uFE0E' then some .text
  else if c = '\uFE01' then some .fullWidth
  else none

/-- What a text means for the character before it. -/
inductive Ahead where
  | nothing
  | lineFeed
  | skinTone
  | pictograph
  /-- So many flag letters. -/
  | flagLetters (count : Nat)
  /-- A joiner and a pictograph: a pictograph before them merges into it. -/
  | joined
  /-- An enclosing keycap before a joiner and a pictograph. -/
  | joinedKeycap
  /-- So many flag letters before a joiner and a pictograph. -/
  | joinedFlagLetters (count : Nat)
  /-- So many tag letters and tag digits, and the last tag, before a joiner and a pictograph. -/
  | joinedTags (letters digits : Nat)
  /-- The vowel sign e of the Kirat Rai script, of which longer vowels are made. -/
  | vowelE
  /-- The vowel sign ai of the Kirat Rai script. -/
  | vowelAi
  | ligature (l : Ligature)
  deriving DecidableEq, Repr

namespace Ahead

/-- What the text still means when a selector stands before it. -/
def behind : Selector → Ahead → Ahead
  | _, .ligature l => .ligature l
  | .pictograph, .joined => .joined
  | .pictograph, .joinedKeycap => .joinedKeycap
  | _, _ => .nothing

/-- What the text still means when the selector before it has found no use. -/
def afterSelector : Ahead → Ahead
  | .ligature l => .ligature l
  | _ => .nothing

def ofLigature : Option Ligature → Ahead
  | some l => .ligature l
  | none => .nothing

/-- The columns of a text and its meaning after one more character before it, if that character and the text are
shown together. -/
def merge? (columns : Nat) (c : Char) : Ahead → Option (Nat × Ahead)
  | .ligature l => (l.merge? columns c).map fun (columns, rest) => (columns, ofLigature rest)
  | .skinTone =>
    if skinToned.contains c then some (columns, .pictograph)
    else if c = zeroWidthJoiner then some (columns, .joined)
    else none
  | .pictograph => if c = zeroWidthJoiner then some (columns, .joined) else none
  | .flagLetters n =>
    if isFlagLetter c then some (columns + 1, .flagLetters (n + 1))
    else if c = zeroWidthJoiner && 2 ≤ n then some (columns, .joined)
    else none
  | .joined =>
    if c.toNat = 0x20e3 then some (columns, .joinedKeycap)
    else if isFlagLetter c then some (columns + 1, .joinedFlagLetters 1)
    else if isSkinTone c then some (columns, .skinTone)
    else if c.toNat = 0xe007f then some (columns, .joinedTags 0 0)
    else if pictographs.contains c then some (columns, .pictograph)
    else none
  | .joinedFlagLetters n =>
    if isFlagLetter c then some (if n % 2 = 1 then columns - 1 else columns + 3, .joinedFlagLetters (n + 1))
    else if c = zeroWidthJoiner && 2 ≤ n then some (columns, .joined)
    else none
  | .joinedTags letters digits =>
    if isTagLetter c && letters < 6 && digits = 0 then some (columns, .joinedTags (letters + 1) 0)
    else if isTagDigit c && letters ≤ 4 && digits < 3 then some (columns, .joinedTags letters (digits + 1))
    else if c.toNat = 0x1f3f4 && (digits = 3 || (digits = 0 && 3 ≤ letters)) then some (columns, .pictograph)
    else none
  | .vowelE =>
    if c.toNat = 0x16d63 || c.toNat = 0x16d69 then some (columns, .nothing)
    else if c.toNat = 0x16d67 then some (columns, .vowelAi)
    else if c.toNat = 0x16d68 then some (columns + 1, .vowelE)
    else none
  | .vowelAi => if c.toNat = 0x16d63 then some (columns, .nothing) else none
  | .nothing | .lineFeed | .joinedKeycap => none

/-- What a character alone means for the one before it. -/
def ofChar (c : Char) : Ahead :=
  if pictographs.contains c then .pictograph
  else if isSkinTone c then .skinTone
  else if isFlagLetter c then .flagLetters 1
  else if c.toNat = 0x16d67 then .vowelE
  else if c.toNat = 0x16d68 then .vowelAi
  else ofLigature (Ligature.endingWith? c)

end Ahead

/-- The end of a line that has been read: its columns, what it means for the character before it, and the selector at
its front. -/
structure Tail where
  columns : Nat
  ahead : Ahead
  selector? : Option Selector
  deriving DecidableEq, Repr

namespace Tail

def empty : Tail :=
  ⟨0, .nothing, none⟩

/-- The tail with a character before it to which no selector applies. -/
def cons (c : Char) (columns : Nat) (ahead : Ahead) : Tail :=
  if c = '\n' then ⟨columns + 1, .lineFeed, none⟩
  else if c = '\r' && ahead = .lineFeed then ⟨columns, .nothing, none⟩
  else if c.toNat ≤ 0xa0 then ⟨columns + 1, .nothing, none⟩
  else
    match Selector.ofChar? c with
    | some selector => ⟨columns, ahead.behind selector, some selector⟩
    | none =>
      match ahead.merge? columns c with
      | some (columns, ahead) => ⟨columns, ahead, none⟩
      | none => ⟨columns + charWidth c, .ofChar c, none⟩

/-- Whether the text begins with a joiner and a pictograph, or a keycap before them. -/
def isJoined (t : Tail) : Bool :=
  t.ahead = .joined || t.ahead = .joinedKeycap

/-- The quotation marks that can be shown in full width. -/
def isQuotationMark (c : Char) : Bool :=
  c.toNat = 0x2018 || c.toNat = 0x2019 || c.toNat = 0x201c || c.toNat = 0x201d

/-- The tail with a character before it. -/
def before (c : Char) (t : Tail) : Tail :=
  match t.selector? with
  | none => cons c t.columns t.ahead
  | some .pictograph =>
    if takesPictographSelector c then ⟨t.columns + if t.isJoined then 0 else 2, .pictograph, none⟩
    else cons c t.columns t.ahead.afterSelector
  | some .text =>
    if takesTextSelector c then ⟨t.columns + 1, .nothing, none⟩
    else cons c t.columns t.ahead.afterSelector
  | some .fullWidth =>
    if isQuotationMark c then ⟨t.columns + 2, .nothing, none⟩
    else cons c t.columns t.ahead.afterSelector

end Tail

/-- The columns of a line of text. -/
def lineWidth (line : List Char) : Nat :=
  (line.foldr Tail.before .empty).columns

end TypedTemplates.Text
