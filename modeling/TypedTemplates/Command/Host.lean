import TypedTemplates.Disk.Tree
import TypedTemplates.Log.Event
import TypedTemplates.Settings.Environment

/-!
# What a command works on and what it brings about

A `Host` is all that a run of the program can see: the files, the environment and the terminal. An `Outcome` is all
that a run brings about.
-/

namespace TypedTemplates

/-- Who answers prompts. -/
inductive Terminal where
  /-- There is no terminal. -/
  | absent
  /-- The texts are typed, each of them ended by Enter. -/
  | answering (texts : List String)
  /-- The texts are typed, each of them ended by Enter, and then input comes to its end. -/
  | closing (texts : List String)
  /-- Input is a terminal, but prompts cannot be shown. -/
  | mute
  deriving DecidableEq, Repr

structure Host where
  disk : Disk
  environment : Environment
  terminal : Terminal

structure Outcome where
  exitCode : Nat
  /-- What is written to standard output. -/
  output : String
  /-- What is written to standard error, apart from log events. -/
  notices : List String
  events : List Log.Event
  disk : Disk

end TypedTemplates
