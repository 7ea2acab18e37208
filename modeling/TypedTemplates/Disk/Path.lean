import TypedTemplates.Text.Split

/-!
# Paths

A path is kept as it was written; only `parent?` and `names` look into it. Names are separated by slashes, repeated
slashes count as one, and a name that is a single point means the directory reached so far.
-/

namespace TypedTemplates

structure Path where
  text : String
  deriving DecidableEq, Repr, Inhabited

namespace Path

def isAbsolute (p : Path) : Bool :=
  p.text.toList.head? = some '/'

/-- The path `name` seen from the directory `p`. An absolute path stays as it is. -/
def join (p : Path) (name : String) : Path :=
  if (Path.mk name).isAbsolute then ⟨name⟩
  else
    match p.text.toList.getLast? with
    | none | some '/' => ⟨p.text ++ name⟩
    | some _ => ⟨p.text ++ "/" ++ name⟩

/-- The names on the way from the starting directory to the end of the path. -/
def names (p : Path) : List String :=
  ((Text.splitOn '/' p.text.toList).map String.ofList).filter fun name => name ≠ "" && name ≠ "."

/-- Whether the path can only mean a directory, because it ends in a slash or in a single point. -/
def meansDirectory (p : Path) : Bool :=
  match (Text.splitOn '/' p.text.toList).getLast? with
  | some [] | some ['.'] => true
  | _ => false

/-- A path written backwards, without slashes and single points at its end. -/
def dropEnding : List Char → List Char
  | ['/'] => ['/']
  | '/' :: rest => dropEnding rest
  | '.' :: '/' :: rest => dropEnding ('/' :: rest)
  | cs => cs

/-- The path without its last name. The empty path and the root have none. -/
def parent? (p : Path) : Option Path :=
  match dropEnding p.text.toList.reverse with
  | [] | ['/'] => none
  | cs => some ⟨String.ofList (dropEnding (cs.dropWhile (· ≠ '/'))).reverse⟩

end Path

end TypedTemplates
