import TypedTemplates.Text.Hex

/-!
# Log events

An event has a severity, a message and fields. A log keeps the events that are at least as severe as its threshold,
each on a line of its own.
-/

namespace TypedTemplates.Log

inductive Severity where
  | error
  | warn
  | info
  | debug
  | trace
  deriving DecidableEq, Repr

namespace Severity

/-- The severities from the gravest on. -/
def rank : Severity → Nat
  | .error => 0
  | .warn => 1
  | .info => 2
  | .debug => 3
  | .trace => 4

def label : Severity → String
  | .error => "ERROR"
  | .warn => "WARN"
  | .info => "INFO"
  | .debug => "DEBUG"
  | .trace => "TRACE"

end Severity

/-- The least grave severity that is logged, or nothing if no event is. -/
abbrev Threshold := Option Severity

/-- The threshold that a word sets, whatever the case of its letters. -/
def Threshold.ofWord? (word : String) : Option Threshold :=
  match word.toLower with
  | "error" => some (some .error)
  | "warn" => some (some .warn)
  | "info" => some (some .info)
  | "debug" => some (some .debug)
  | "trace" => some (some .trace)
  | "off" => some none
  | _ => none

/-- The threshold that a word sets, or the default one if it sets none. -/
def Threshold.ofWord (default : Severity) (word : String) : Threshold :=
  (ofWord? word).getD (some default)

structure Event where
  severity : Severity
  message : String
  /-- Names and values, as they are to be shown. -/
  fields : List (String × String)
  deriving DecidableEq, Repr

/-- A character of a message. Those that could steer a terminal are shown by their numbers. -/
def shownChar (c : Char) : List Char :=
  if c = '\x07' || c = '\x08' || c = '\x0c' || c = '\x1b' || c = '\x7f' then
    ['\\', 'x', Text.hexDigit (c.toNat / 16), Text.hexDigit (c.toNat % 16)]
  else if 0x80 ≤ c.toNat && c.toNat < 0xa0 then ['\\', 'u', '{'] ++ Text.hexDigits c.toNat ++ ['}']
  else [c]

namespace Event

def passes (threshold : Threshold) (e : Event) : Bool :=
  match threshold with
  | some least => e.severity.rank ≤ least.rank
  | none => false

def line (e : Event) : String :=
  e.severity.label ++ " " ++ String.ofList (e.message.toList.flatMap shownChar) ++
    String.join (e.fields.map fun (name, value) => " " ++ name ++ "=" ++ value)

end Event

/-- The text of a log of the events. -/
def text (threshold : Threshold) (events : List Event) : String :=
  String.join ((events.filter (Event.passes threshold)).map fun e => e.line ++ "\n")

end TypedTemplates.Log
