/-!
# Values of a TOML document

A table remembers how it came to be, because that decides which later lines may add to it. Floats and date-times are
kept as they were written.
-/

namespace TypedTemplates.Toml

/-- How a table came to be. -/
inductive Origin where
  /-- It has a header of its own, or is the whole document. -/
  | header
  /-- Headers of tables below it have been seen, but none of its own. -/
  | passed
  /-- A dotted key has gone through it. -/
  | dotted
  /-- It is written between braces. -/
  | inline
  deriving DecidableEq, Repr

inductive Value where
  | string (s : String)
  | integer (n : Int)
  | float (literal : List Char)
  | boolean (b : Bool)
  | dateTime (literal : List Char)
  | array (items : List Value)
  | table (origin : Origin) (members : List (String × Value))
  /-- Tables that share one header between double brackets, of which the last is open to additions. -/
  | tables (earlier : List (List (String × Value))) (last : List (String × Value))

end TypedTemplates.Toml
