import TagTemplate.Number.Read

/-!
# Dates and times

Dates, times of day and both together, with an offset if the day is known. Seconds may be left out;
a fraction counts in billionths. Days are checked against the calendar, and a minute may have a leap
second.

- `Datetime.read?`: the date or time that a token is;
- `Datetime.display`: its text, with a `T` between date and time.
-/

namespace TagTemplate.Toml

/-- A day of the calendar. -/
structure Date where
  year : Nat
  month : Nat
  day : Nat
  deriving Repr, DecidableEq

/-- A time of day. -/
structure Time where
  hour : Nat
  minute : Nat
  second : Option Nat
  nanosecond : Option Nat
  deriving Repr, DecidableEq

/-- The distance to universal time. -/
inductive Offset where
  | zulu
  | minutes (minutes : Int)
  deriving Repr, DecidableEq

/-- A date, a time or both. -/
structure Datetime where
  date : Option Date
  time : Option Time
  offset : Option Offset
  deriving Repr, DecidableEq

/-! ### The calendar -/

/-- The year has a 29th of February. -/
def isLeapYear (year : Nat) : Bool := year % 4 == 0 && (year % 100 != 0 || year % 400 == 0)

/-- The number of days of a month. -/
def daysIn (year month : Nat) : Nat :=
  if month = 2 then (if isLeapYear year then 29 else 28)
  else if month = 4 ∨ month = 6 ∨ month = 9 ∨ month = 11 then 30
  else 31

/-- The day is there. -/
def Date.isValid (d : Date) : Bool :=
  1 ≤ d.month && d.month ≤ 12 && 1 ≤ d.day && d.day ≤ daysIn d.year d.month

/-- The time is there. -/
def Time.isValid (t : Time) : Bool :=
  t.hour ≤ 23 && t.minute ≤ 59 && t.second.all (· ≤ 60)

/-! ### Reading -/

/-- Reads a number of exactly `count` digits. -/
def readFixed (count : Nat) (cs : List Char) : Option (Nat × List Char) :=
  let digits := cs.take count
  if digits.length = count ∧ digits.all Char.isDigit then
    some (Number.digitsValue digits, cs.drop count)
  else none

/-- Reads a mark and a number of exactly two digits. -/
def readMarked (mark : Char) (cs : List Char) : Option (Nat × List Char) :=
  match cs with
  | c :: cs => if c = mark then readFixed 2 cs else none
  | [] => none

/-- Reads a day of the calendar. -/
def readDate (cs : List Char) : Option (Date × List Char) :=
  (readFixed 4 cs).bind fun (year, cs) =>
    (readMarked '-' cs).bind fun (month, cs) =>
      (readMarked '-' cs).bind fun (day, cs) =>
        let date : Date := ⟨year, month, day⟩
        if date.isValid then some (date, cs) else none

/-- Billionths from the digits of a fraction; further digits are cut. -/
def nanoseconds (digits : List Char) : Nat :=
  Number.digitsValue ((digits ++ List.replicate 9 '0').take 9)

/-- Reads the seconds of a time and their fraction, if they are there. -/
def readSeconds (cs : List Char) : Option ((Option Nat × Option Nat) × List Char) :=
  match cs with
  | ':' :: _ =>
    (readMarked ':' cs).bind fun (second, cs) =>
      match cs with
      | '.' :: cs =>
        let (digits, rest) := cs.span Char.isDigit
        if digits.isEmpty then none else some ((some second, some (nanoseconds digits)), rest)
      | cs => some ((some second, none), cs)
  | cs => some ((none, none), cs)

/-- Reads a time of day. -/
def readTime (cs : List Char) : Option (Time × List Char) :=
  (readFixed 2 cs).bind fun (hour, cs) =>
    (readMarked ':' cs).bind fun (minute, cs) =>
      (readSeconds cs).bind fun ((second, nanosecond), cs) =>
        let time : Time := ⟨hour, minute, second, nanosecond⟩
        if time.isValid then some (time, cs) else none

/-- The offset that the end of a token is; nothing is none. -/
def readOffset (cs : List Char) : Option (Option Offset) :=
  match cs with
  | [] => some none
  | ['Z'] => some (some .zulu)
  | ['z'] => some (some .zulu)
  | c :: rest =>
    if c = '+' ∨ c = '-' then
      (readFixed 2 rest).bind fun (hours, rest) =>
        (readMarked ':' rest).bind fun (minutes, rest) =>
          let total : Int := hours * 60 + minutes
          if rest.isEmpty ∧ hours ≤ 23 ∧ minutes ≤ 59 then
            some (some (.minutes (if c = '-' then -total else total)))
          else none
    else none

/-- The character stands between date and time. -/
def isDateEnd (c : Char) : Bool := c = 'T' || c = 't' || c = ' '

/-- The date or time that a token is. -/
def Datetime.read? (token : List Char) : Option Datetime :=
  match readDate token with
  | some (date, []) => some ⟨some date, none, none⟩
  | some (date, c :: rest) =>
    if isDateEnd c then
      (readTime rest).bind fun (time, rest) =>
        (readOffset rest).map fun offset => ⟨some date, some time, offset⟩
    else none
  | none =>
    match readTime token with
    | some (time, []) => some ⟨none, some time, none⟩
    | _ => none

/-! ### Writing -/

/-- A number with zeros in front up to a width. -/
def padded (width n : Nat) : String := String.ofList (Number.paddedDigits width n)

/-- The text of a day. -/
def Date.display (d : Date) : String :=
  padded 4 d.year ++ "-" ++ padded 2 d.month ++ "-" ++ padded 2 d.day

/-- The digits of a fraction without zeros at the end; at least one is written. -/
def fractionDigits (nanosecond : Nat) : String :=
  let digits := ((Number.paddedDigits 9 nanosecond).reverse.dropWhile (· = '0')).reverse
  if digits.isEmpty then "0" else String.ofList digits

/-- The text of a time. -/
def Time.display (t : Time) : String :=
  padded 2 t.hour ++ ":" ++ padded 2 t.minute
    ++ (t.second.map fun second => ":" ++ padded 2 second).getD ""
    ++ (t.nanosecond.map fun nanosecond => "." ++ fractionDigits nanosecond).getD ""

/-- The text of an offset. -/
def Offset.display : Offset → String
  | .zulu => "Z"
  | .minutes total =>
    let size := total.natAbs
    (if total < 0 then "-" else "+") ++ padded 2 (size / 60) ++ ":" ++ padded 2 (size % 60)

/-- The text of a date or time. -/
def Datetime.display (d : Datetime) : String :=
  let date := (d.date.map Date.display).getD ""
  let time := (d.time.map Time.display).getD ""
  let between := if d.date.isSome ∧ d.time.isSome then "T" else ""
  date ++ between ++ time ++ (d.offset.map Offset.display).getD ""

end TagTemplate.Toml
