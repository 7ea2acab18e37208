import TypedTemplates.Keyed
import TypedTemplates.Toml.Value

/-!
# Building tables of TOML

Lines of a document add to its tables one after another. No key may get two values. A dotted key makes the tables
on its way and may add only to tables made by dotted keys. A header opens its table once, and may pass through any
table that is not written between braces.
-/

namespace TypedTemplates.Toml

/-- A dotted key: the keys on the way, and the last one. -/
structure DottedKey where
  way : List String
  last : String
  deriving DecidableEq, Repr

/-- A table as the members it has so far and how it came to be. -/
structure Table where
  origin : Origin
  members : Keyed Value

namespace Table

/-- Changes the table to which the keys lead, making those that are missing. With `viaDots` the keys are those of a
dotted key, which does not enter a table that has a header. -/
def within? (viaDots : Bool) (change : Table → Option (Keyed Value)) (t : Table) :
    List String → Option (Keyed Value)
  | [] => change t
  | key :: keys =>
    match t.members.find? key with
    | none =>
      let origin := if viaDots then .dotted else .passed
      (within? viaDots change ⟨origin, []⟩ keys).map fun inner => t.members.insert key (.table origin inner)
    | some (.table origin inner) =>
      if origin = .inline || (viaDots && origin = .header) then none
      else (within? viaDots change ⟨origin, inner⟩ keys).map fun inner => t.members.insert key (.table origin inner)
    | some (.tables earlier last) =>
      (within? viaDots change ⟨.header, last⟩ keys).map fun last => t.members.insert key (.tables earlier last)
    | some _ => none

/-- Gives a value to a dotted key. -/
def define? (t : Table) (key : DottedKey) (value : Value) : Option (Keyed Value) :=
  t.within? true add key.way
where
  add (target : Table) : Option (Keyed Value) :=
    if key.way ≠ [] && target.origin ≠ .dotted then none
    else if (target.members.find? key.last).isSome then none
    else some (target.members.insert key.last value)

/-- Opens the table of a header. One that was only passed through so far keeps what it has. -/
def openTable? (t : Table) (key : DottedKey) : Option (Keyed Value) :=
  t.within? false add key.way
where
  add (target : Table) : Option (Keyed Value) :=
    match target.members.find? key.last with
    | none => some (target.members.insert key.last (.table .header []))
    | some (.table .passed inner) => some (target.members.insert key.last (.table .header inner))
    | some _ => none

/-- Opens one more of the tables that share a header. -/
def openNext? (t : Table) (key : DottedKey) : Option (Keyed Value) :=
  t.within? false add key.way
where
  add (target : Table) : Option (Keyed Value) :=
    match target.members.find? key.last with
    | none => some (target.members.insert key.last (.tables [] []))
    | some (.tables earlier last) => some (target.members.insert key.last (.tables (earlier ++ [last]) []))
    | some _ => none

/-- The members of a table between braces. -/
def ofPairs? (pairs : List (DottedKey × Value)) : Option (Keyed Value) :=
  pairs.foldlM (fun members pair => define? ⟨.inline, members⟩ pair.1 pair.2) []

end Table

end TypedTemplates.Toml
