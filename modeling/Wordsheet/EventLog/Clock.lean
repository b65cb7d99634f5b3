import Wordsheet.Calendar

/-! # Times

How a record shows the time of an event: the date and the time of day in
universal time, down to microseconds.
-/

namespace Wordsheet.EventLog

open Decimal

/-- The time so many microseconds after the start of 1970, as a record shows it. -/
def timeText (microseconds : Nat) : String :=
  let seconds := microseconds / 1000000
  let day := (Date.ofDays (seconds / 86400)).text
  let clock :=
    s!"{padded 2 (seconds / 3600 % 24)}:{padded 2 (seconds / 60 % 60)}:{padded 2 (seconds % 60)}"
  s!"{day}T{clock}.{padded 6 (microseconds % 1000000)}Z"

end Wordsheet.EventLog
