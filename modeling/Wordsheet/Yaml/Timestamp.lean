import Wordsheet.Calendar
import Wordsheet.Text.Digit

/-! # Dates and times of a settings file

A date may have a time of day, and that a zone: the minutes by which its clocks are
ahead. Two times with zones are equal if they are the same instant, and a time
without a zone is equal to none that has one.
-/

namespace Wordsheet

structure Timestamp where
  date : Date
  hour : Nat
  minute : Nat
  second : Nat
  microsecond : Nat
  zone : Option Int
  deriving DecidableEq, Repr

namespace Timestamp

/-! ## Equality -/

/-- The seconds of a time, counted where its zone is none. -/
def seconds (t : Timestamp) : Int :=
  86400 * t.date.number + 3600 * t.hour + 60 * t.minute + t.second - 60 * t.zone.getD 0

def sameInstant (a b : Timestamp) : Bool :=
  a.zone.isSome == b.zone.isSome && a.seconds == b.seconds && a.microsecond == b.microsecond

/-! ## Times in messages -/

/-- A number of minutes as a length of time is shown: in days, of which there may be less than
none, and seconds. -/
def describeDelta (minutes : Int) : String :=
  let days := minutes / 1440
  let seconds := 60 * (minutes % 1440)
  let parts := (if days = 0 then [] else [s!"days={days}"])
    ++ (if seconds = 0 then [] else [s!"seconds={seconds}"])
  "datetime.timedelta(" ++ String.intercalate ", " parts ++ ")"

def describeZone (minutes : Int) : String :=
  if minutes = 0 then "datetime.timezone.utc"
  else s!"datetime.timezone({describeDelta minutes})"

/-- A time as it is shown inside a message. Seconds that are zero are left out at the end. -/
def describe (t : Timestamp) : String :=
  let small :=
    if t.microsecond ≠ 0 then [t.second, t.microsecond]
    else if t.second ≠ 0 then [t.second]
    else []
  let numbers := [t.date.year, t.date.month, t.date.day, t.hour, t.minute] ++ small
  let zone := t.zone.toList.map fun minutes => s!"tzinfo={describeZone minutes}"
  "datetime.datetime(" ++ String.intercalate ", " (numbers.map toString ++ zone) ++ ")"

def zoneText (minutes : Int) : String :=
  let sign := if minutes < 0 then "-" else "+"
  let size := minutes.natAbs
  s!"{sign}{Decimal.padded 2 (size / 60)}:{Decimal.padded 2 (size % 60)}"

def text (t : Timestamp) : String :=
  let clock := String.intercalate ":" ([t.hour, t.minute, t.second].map (Decimal.padded 2))
  let small := if t.microsecond = 0 then "" else s!".{Decimal.padded 6 t.microsecond}"
  s!"{t.date.text} {clock}{small}" ++ t.zone.elim "" zoneText

/-! ## What is no time -/

def zoneFault? (minutes : Int) : Option String :=
  if minutes.natAbs < 1440 then none
  else some ("offset must be a timedelta strictly between -timedelta(hours=24) and "
    ++ s!"timedelta(hours=24), not {describeDelta minutes}.")

/-- What is wrong with a time that is none: the first of its parts that is out of bounds, the zone
before the others. -/
def fault? (t : Timestamp) : Option String :=
  ((t.zone.bind zoneFault?).or t.date.fault?).or <|
    if 24 ≤ t.hour then some "hour must be in 0..23"
    else if 60 ≤ t.minute then some "minute must be in 0..59"
    else if 60 ≤ t.second then some "second must be in 0..59"
    else none

end Timestamp

/-! ## Reading -/

namespace Yaml

open Text

/-- The number that digits at the head of a text spell, not less than `least` and not more than
`most` of them, and the rest. -/
def digits? (least most : Nat) (cs : List Char) : Option (Nat × List Char) :=
  let ds := (cs.take most).takeWhile isPlainDigit
  if ds.length < least then none else some (digitsValue ds, cs.drop ds.length)

def behind? (mark : Char) : List Char → Option (List Char)
  | [] => none
  | c :: rest => if c == mark then some rest else none

def date? (least : Nat) (cs : List Char) : Option (Date × List Char) := do
  let (year, rest) ← digits? 4 4 cs
  let (month, rest) ← digits? least 2 (← behind? '-' rest)
  let (day, rest) ← digits? least 2 (← behind? '-' rest)
  return (⟨year, month, day⟩, rest)

def zone? (cs : List Char) : Option (Option Int) :=
  match cs, cs.dropWhile fun c => c == ' ' || c == '\t' with
  -- only the end of the text right behind the seconds means no zone
  | [], _ => some none
  | _, ['Z'] => some (some 0)
  | _, sign :: rest => do
      let (hours, rest) ← digits? 1 2 rest
      let minutes ←
        if rest.isEmpty then some 0
        else (digits? 2 2 (← behind? ':' rest)).bind fun (minutes, rest) =>
          if rest.isEmpty then some minutes else none
      let size : Int := 60 * hours + minutes
      if sign == '+' then some (some size) else if sign == '-' then some (some (-size)) else none
  | _, [] => none

/-- The microseconds behind a point at the head of a text, further digits left out, and the
rest. -/
def fractionOf : List Char → Nat × List Char
  | '.' :: rest =>
      let ds := (rest.takeWhile isPlainDigit).take 6
      (digitsValue (ds ++ List.replicate (6 - ds.length) '0'), rest.dropWhile isPlainDigit)
  | cs => (0, cs)

def behindDivider? : List Char → Option (List Char)
  | 'T' :: rest | 't' :: rest => some rest
  | c :: rest =>
      if c == ' ' || c == '\t' then some (rest.dropWhile fun c => c == ' ' || c == '\t') else none
  | [] => none

def timestamp? (cs : List Char) : Option Timestamp := do
  let (date, rest) ← date? 1 cs
  let (hour, rest) ← digits? 1 2 (← behindDivider? rest)
  let (minute, rest) ← digits? 2 2 (← behind? ':' rest)
  let (second, rest) ← digits? 2 2 (← behind? ':' rest)
  let (microsecond, rest) := fractionOf rest
  return { date, hour, minute, second, microsecond, zone := ← zone? rest }

def wholeDate? (cs : List Char) : Option Date :=
  match date? 2 cs with
  | some (date, []) => some date
  | _ => none

end Yaml

end Wordsheet
