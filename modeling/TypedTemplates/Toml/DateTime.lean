import TypedTemplates.Decimal.Digits

/-!
# Dates and times of TOML

A literal may hold a date, a time, or both, the two parted by the letter T or a blank; an offset may follow if both
are there. Seconds may be left out. The parts must be within their ranges, and the day in its month.
-/

namespace TypedTemplates.Toml

/-- The number written by two digits. -/
def twoDigits? (a b : Char) : Option Nat :=
  match Decimal.digit? a, Decimal.digit? b with
  | some a, some b => some (10 * a + b)
  | _, _ => none

def isLeapYear (year : Nat) : Bool :=
  year % 4 = 0 && (year % 100 ≠ 0 || year % 400 = 0)

def daysInMonth (year month : Nat) : Nat :=
  if month = 2 then if isLeapYear year then 29 else 28
  else if month = 4 || month = 6 || month = 9 || month = 11 then 30
  else 31

/-- What follows the date at the front of a text. -/
def afterDate? : List Char → Option (List Char)
  | y :: y' :: y'' :: y''' :: '-' :: m :: m' :: '-' :: d :: d' :: rest =>
    match twoDigits? y y', twoDigits? y'' y''', twoDigits? m m', twoDigits? d d' with
    | some century, some year, some month, some day =>
      if 1 ≤ month && month ≤ 12 && 1 ≤ day && day ≤ daysInMonth (100 * century + year) month then some rest
      else none
    | _, _, _, _ => none
  | _ => none

/-- What follows a fraction of a second, if there is one. -/
def afterFraction? : List Char → Option (List Char)
  | '.' :: rest =>
    match Decimal.scanDigits rest with
    | ([], _) => none
    | (_, rest) => some rest
  | rest => some rest

/-- What follows the seconds and their fraction, if there are any. A minute may have a leap second. -/
def afterSeconds? : List Char → Option (List Char)
  | ':' :: s :: s' :: rest =>
    match twoDigits? s s' with
    | some second => if second ≤ 60 then afterFraction? rest else none
    | none => none
  | ':' :: _ => none
  | rest => some rest

/-- What follows the time at the front of a text. -/
def afterTime? : List Char → Option (List Char)
  | h :: h' :: ':' :: m :: m' :: rest =>
    match twoDigits? h h', twoDigits? m m' with
    | some hour, some minute => if hour ≤ 23 && minute ≤ 59 then afterSeconds? rest else none
    | _, _ => none
  | _ => none

/-- Whether the text is empty or an offset from universal time of less than a day. -/
def isOffset : List Char → Bool
  | [] | ['Z'] | ['z'] => true
  | [sign, h, h', ':', m, m'] =>
    match twoDigits? h h', twoDigits? m m' with
    | some hours, some minutes => (sign = '+' || sign = '-') && hours ≤ 23 && minutes ≤ 59
    | _, _ => false
  | _ => false

def isDate (cs : List Char) : Bool :=
  afterDate? cs = some []

def isDateTime (cs : List Char) : Bool :=
  match afterDate? cs with
  | some [] => true
  | some (c :: rest) => (c = 'T' || c = 't' || c = ' ') && ((afterTime? rest).map isOffset).getD false
  | none => afterTime? cs = some []

end TypedTemplates.Toml
