import RestQuery.Text.Basic

/-!
# Dates and times

Calendar dates, times of day and moments, the latter two with an optional offset from UTC, and
their ISO 8601 texts.
-/

namespace RestQuery

structure Date where
  year : Nat
  month : Nat
  day : Nat
  deriving DecidableEq

/-- A time of day; the offset from UTC is in microseconds. -/
structure Clock where
  hour : Nat
  minute : Nat
  second : Nat
  micro : Nat
  offset : Option Int
  deriving DecidableEq

/-- A date and a time of day. -/
structure Moment where
  date : Date
  clock : Clock
  deriving DecidableEq

namespace Calendar

open Text

/-- How an offset is written. -/
inductive OffsetStyle where
  /-- In full. -/
  | exact
  /-- To the minute, and with a letter where it is zero; fractions of a second are rounded. -/
  | minutes
  deriving DecidableEq

def fraction (micro : Nat) : String := if micro = 0 then "" else "." ++ padded 6 micro

/-- Hours and minutes of a number of minutes. -/
def hoursText (minutes : Nat) : String := padded 2 (minutes / 60) ++ ":" ++ padded 2 (minutes % 60)

/-- What an offset has beyond whole minutes. -/
def secondsText (micros : Nat) : String :=
  if micros % 60000000 = 0 then ""
  else ":" ++ padded 2 (micros / 1000000 % 60) ++ fraction (micros % 1000000)

def offsetText (style : OffsetStyle) : Option Int → String
  | none => ""
  | some offset =>
    let n := offset.natAbs
    let sign := if offset < 0 then "-" else "+"
    match style with
    | .exact => sign ++ hoursText (n / 60000000) ++ secondsText n
    | .minutes =>
      let seconds := (n + 500000) / 1000000
      if seconds = 0 then "Z" else sign ++ hoursText (seconds / 60)

end Calendar

open Text Calendar

def Date.iso (d : Date) : String :=
  padded 4 d.year ++ "-" ++ padded 2 d.month ++ "-" ++ padded 2 d.day

def Clock.iso (style : OffsetStyle) (t : Clock) : String :=
  padded 2 t.hour ++ ":" ++ padded 2 t.minute ++ ":" ++ padded 2 t.second ++
    fraction t.micro ++ offsetText style t.offset

def Moment.iso (style : OffsetStyle) (m : Moment) : String := m.date.iso ++ "T" ++ m.clock.iso style

/-- The form with a space between date and time. -/
def Moment.spaced (m : Moment) : String := m.date.iso ++ " " ++ m.clock.iso .exact

/-! ### Reading -/

namespace Calendar

/-- A number of exactly `width` ASCII digits, continuing from `acc`. -/
def fixed? (acc : Nat) : Nat → List Char → Option (Nat × List Char)
  | 0, s => some (acc, s)
  | width + 1, c :: s => if c.isDigit then fixed? (acc * 10 + (c.toNat - 48)) width s else none
  | _ + 1, [] => none

/-- `s` without the character `c` at its front. -/
def skip? (c : Char) : List Char → Option (List Char)
  | d :: s => if d = c then some s else none
  | [] => none

def date? (s : List Char) : Option (Date × List Char) := do
  let (year, s) ← fixed? 0 4 s
  let (month, s) ← fixed? 0 2 (← skip? '-' s)
  let (day, s) ← fixed? 0 2 (← skip? '-' s)
  return (⟨year, month, day⟩, s)

def fraction? : List Char → Option (Nat × List Char)
  | '.' :: s => fixed? 0 6 s
  | s => some (0, s)

def seconds? : List Char → Option (Nat × List Char)
  | ':' :: s => fixed? 0 2 s
  | s => some (0, s)

/-- Hours, minutes and optional seconds with an optional fraction, in microseconds. -/
def span? (s : List Char) : Option (Int × List Char) := do
  let (hour, s) ← fixed? 0 2 s
  let (minute, s) ← fixed? 0 2 (← skip? ':' s)
  let (second, s) ← seconds? s
  let (micro, s) ← fraction? s
  return (((hour * 3600 + minute * 60 + second) * 1000000 + micro : Nat), s)

def offset? : List Char → Option (Option Int)
  | [] => some none
  | ['Z'] => some (some 0)
  | '+' :: s => do
    let (n, s) ← span? s
    if s.isEmpty then some (some n) else none
  | '-' :: s => do
    let (n, s) ← span? s
    if s.isEmpty then some (some (-n)) else none
  | _ => none

def clock? (s : List Char) : Option Clock := do
  let (hour, s) ← fixed? 0 2 s
  let (minute, s) ← fixed? 0 2 (← skip? ':' s)
  let (second, s) ← seconds? s
  let (micro, s) ← fraction? s
  return ⟨hour, minute, second, micro, ← offset? s⟩

end Calendar

def Date.parse? (s : String) : Option Date :=
  match date? s.toList with
  | some (d, []) => some d
  | _ => none

def Clock.parse? (s : String) : Option Clock := clock? s.toList

def Moment.parse? (s : String) : Option Moment := do
  let (date, rest) ← date? s.toList
  match rest with
  | 'T' :: rest => return ⟨date, ← clock? rest⟩
  | [] => return ⟨date, ⟨0, 0, 0, 0, none⟩⟩
  | _ => none

/-! ### Comparison -/

/-- The number of a day in the proleptic Gregorian calendar, where the first day of year one is the
first. -/
def Date.dayNumber (d : Date) : Int :=
  -- years are counted from March, so that the leap day comes last
  let y : Int := if d.month ≤ 2 then (d.year : Int) - 1 else d.year
  let m : Int := if d.month ≤ 2 then (d.month : Int) + 9 else (d.month : Int) - 3
  365 * y + y.fdiv 4 - y.fdiv 100 + y.fdiv 400 + (153 * m + 2) / 5 + d.day - 306

/-- Seconds since midnight, the fraction of the last one aside. -/
def Clock.seconds (t : Clock) : Int := ((t.hour * 60 + t.minute) * 60 + t.second : Nat)

/-- Microseconds since midnight. -/
def Clock.micros (t : Clock) : Int := t.seconds * 1000000 + t.micro

/-- Two times of day are equal if they agree in UTC, where only whole seconds of an offset count;
one with an offset is never one without. -/
def Clock.same (a b : Clock) : Bool :=
  a.micro == b.micro && a.offset.isSome == b.offset.isSome &&
    a.seconds - (a.offset.getD 0).fdiv 1000000 == b.seconds - (b.offset.getD 0).fdiv 1000000

def Moment.micros (m : Moment) : Int := m.date.dayNumber * 86400000000 + m.clock.micros

/-- Two moments are equal if they are the same point in time; one with an offset is never one
without. -/
def Moment.same (a b : Moment) : Bool :=
  match a.clock.offset, b.clock.offset with
  | none, none => a.micros == b.micros
  | some o₁, some o₂ => a.micros - o₁ == b.micros - o₂
  | _, _ => false

/-! ### Source form -/

/-- The arguments of a duration, leaving out the parts that are zero. -/
def durationText (micros : Int) : String :=
  let days := micros.fdiv 86400000000
  let rest := micros.fmod 86400000000
  let seconds := rest / 1000000
  let part (name : String) (n : Int) : List String :=
    if n = 0 then [] else [name ++ "=" ++ toString n]
  match part "days" days ++ part "seconds" seconds ++ part "microseconds" (rest % 1000000) with
  | [] => "0"
  | parts => joinWith ", " parts

def offsetLiteral : Option Int → List String
  | none => []
  | some 0 => ["tzinfo=datetime.timezone.utc"]
  | some n => ["tzinfo=datetime.timezone(datetime.timedelta(" ++ durationText n ++ "))"]

/-- The arguments of a time of day, without seconds and microseconds that are zero. -/
def Clock.arguments (t : Clock) : List String :=
  let tail :=
    if t.micro ≠ 0 then [toString t.second, toString t.micro]
    else if t.second ≠ 0 then [toString t.second]
    else []
  toString t.hour :: toString t.minute :: tail ++ offsetLiteral t.offset

def Date.arguments (d : Date) : List String := [toString d.year, toString d.month, toString d.day]

def Date.literal (d : Date) : String := "datetime.date(" ++ joinWith ", " d.arguments ++ ")"

def Clock.literal (t : Clock) : String := "datetime.time(" ++ joinWith ", " t.arguments ++ ")"

def Moment.literal (m : Moment) : String :=
  "datetime.datetime(" ++ joinWith ", " (m.date.arguments ++ m.clock.arguments) ++ ")"

example : (Moment.parse? "2024-01-02T03:04:05-05:30").map (·.iso .exact) =
    some "2024-01-02T03:04:05-05:30" := by decide +kernel

example : (Clock.parse? "10:00:00-00:00:01.500000").map (·.iso .minutes) = some "10:00:00-00:00" := by
  decide +kernel

example : Date.dayNumber ⟨1, 1, 1⟩ = 1 := by decide

example : (Clock.parse? "03:04:00").map Clock.literal = some "datetime.time(3, 4)" := by
  decide +kernel

end RestQuery
