/-!
# JSON texts as trees

The shape of a JSON text with its literals as they were written. Whether a literal has a value (a number may be too
large, an escape may be half of a pair) is not asked here, so that a reader can skip over parts it does not need.
-/

namespace TypedTemplates.Json

/-- One step of a string literal: a character, or an escape that gives a 16-bit unit. -/
inductive Symbol where
  | char (c : Char)
  | unit (code : Nat)
  deriving DecidableEq, Repr

/-- A number as written: the digits before the point, after it, and of the exponent. -/
structure NumberLiteral where
  negative : Bool
  whole : List Nat
  fraction : Option (List Nat)
  exponent : Option (Bool × List Nat)
  deriving DecidableEq, Repr

inductive Tree where
  | null
  | bool (b : Bool)
  | number (literal : NumberLiteral)
  | string (literal : List Symbol)
  | array (items : List Tree)
  | object (members : List (List Symbol × Tree))

mutual

/-- The number of arrays and objects around the innermost part, the tree itself included. -/
def Tree.depth : Tree → Nat
  | .array items => Tree.depthOfItems items + 1
  | .object members => Tree.depthOfMembers members + 1
  | _ => 0

def Tree.depthOfItems : List Tree → Nat
  | [] => 0
  | t :: ts => max t.depth (Tree.depthOfItems ts)

def Tree.depthOfMembers : List (List Symbol × Tree) → Nat
  | [] => 0
  | (_, t) :: ms => max t.depth (Tree.depthOfMembers ms)

end

end TypedTemplates.Json
