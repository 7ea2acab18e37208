import TypedTemplates.Text.Blank

/-!
# Typing lines

What is typed at a terminal arrives as characters, and each line of it is made by keys: most insert a character at the
cursor, some move the cursor or take a character away, and Enter ends the line. Typing ends with an interrupt.
-/

namespace TypedTemplates.Keyboard

/-! ### Keys -/

/-- A key that has an effect on the line. -/
inductive Key where
  | enter
  | backspace
  | left
  | right
  | wordLeft
  | wordRight
  | character (c : Char)
  /-- Control and C. -/
  | interrupt
  deriving DecidableEq, Repr

/-- How far a sequence that begins with the escape character has been read. -/
inductive Escape where
  /-- There is none. -/
  | outside
  | begun
  /-- After the bracket. -/
  | bracketed
  /-- One more byte belongs to it. -/
  | ending
  deriving DecidableEq, Repr

/-- The key of a character that stands for itself. Other control characters than these have no effect. -/
def keyOf? (c : Char) : Option Key :=
  if c = '\n' || c = '\r' then some .enter
  else if c = '\x7f' || c = '\x08' then some .backspace
  else if c = '\x03' then some .interrupt
  else if c.toNat < 0x20 then none
  else some (.character c)

/-- The keys of the bytes of a character that an escape sequence leaves over. Each of them counts as a character. -/
def leftOver (c : Char) (taken : Nat) : List Key :=
  ((String.utf8EncodeChar c).drop taken).map fun b => .character (Char.ofNat b.toNat)

/-- The keys that send these characters. An escape sequence that is not known takes two bytes more after a bracket,
else one. -/
def keys (escape : Escape) : List Char → List Key
  | [] => []
  | c :: rest =>
    match escape with
    | .outside => if c = '\x1b' then keys .begun rest else (keyOf? c).toList ++ keys .outside rest
    | .begun =>
      if c = '[' then keys .bracketed rest
      else if c = 'b' then .wordLeft :: keys .outside rest
      else if c = 'f' then .wordRight :: keys .outside rest
      else leftOver c 1 ++ keys .outside rest
    | .bracketed =>
      if c = 'C' then .right :: keys .outside rest
      else if c = 'D' then .left :: keys .outside rest
      else if c = 'A' || c = 'B' || c = 'F' || c = 'H' || c = 'Z' then keys .outside rest
      else if c.utf8Size = 1 then keys .ending rest
      else leftOver c 2 ++ keys .outside rest
    | .ending => leftOver c 1 ++ keys .outside rest

/-! ### Lines -/

/-- A line that is being typed. -/
structure Draft where
  /-- The characters before the cursor, the nearest first. -/
  before : List Char
  /-- The characters after the cursor. -/
  after : List Char
  deriving DecidableEq, Repr

namespace Draft

def empty : Draft :=
  ⟨[], []⟩

def text (d : Draft) : List Char :=
  d.before.reverse ++ d.after

def moveLeft (d : Draft) (n : Nat) : Draft :=
  ⟨d.before.drop n, (d.before.take n).reverse ++ d.after⟩

def moveRight (d : Draft) (n : Nat) : Draft :=
  ⟨(d.after.take n).reverse ++ d.before, d.after.drop n⟩

/-- How many characters at the front are such, with those after them that are not. -/
def stretch (first : Char → Bool) (cs : List Char) : Nat :=
  (cs.takeWhile first).length + ((cs.dropWhile first).takeWhile fun c => !first c).length

/-- The line after a key. -/
def press (d : Draft) : Key → Draft
  | .enter | .interrupt => d
  | .backspace => ⟨d.before.tail, d.after⟩
  | .left => d.moveLeft 1
  | .right => d.moveRight 1
  | .wordLeft => d.moveLeft (stretch Text.isBlank d.before)
  | .wordRight => d.moveRight (stretch (fun c => !Text.isBlank c) d.after)
  | .character c => ⟨c :: d.before, d.after⟩

end Draft

/-- The lines that keys type, from one that has been begun. The last one is not ended. -/
def linesFrom (d : Draft) : List Key → List String
  | [] | .interrupt :: _ => [String.ofList d.text]
  | .enter :: rest => String.ofList d.text :: linesFrom .empty rest
  | key :: rest => linesFrom (d.press key) rest

/-- The keys of texts, each of them ended by Enter. -/
def typed (texts : List String) : List Key :=
  keys .outside (texts.flatMap fun s => s.toList ++ ['\n'])

/-- The lines that are read when texts are typed. -/
def lines (texts : List String) : List String :=
  linesFrom .empty (typed texts)

/-- Those of the lines that are ended. -/
def endedLines (texts : List String) : List String :=
  (lines texts).dropLast

def interrupts (texts : List String) : Bool :=
  (typed texts).contains .interrupt

end TypedTemplates.Keyboard
