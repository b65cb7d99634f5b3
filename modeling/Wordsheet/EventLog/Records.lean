import Wordsheet.EventLog.Event
import Wordsheet.Json.Reader
import Wordsheet.Json.Writer
import Wordsheet.Text.Blank
import Wordsheet.Text.Lines
import Wordsheet.Text.Utf8

/-! # Records

A log is a file of records, one on each line. Reading looks at the end of the
file only: when that leaves something out, the line that may have been cut is
dropped. Lines that are no JSON object are passed over, but one with a whole number
of too many digits cannot be read, and then no record is.
-/

namespace Wordsheet

/-- Whether a log can hold an event: no whole number in it has too many digits. -/
def Event.isWritable (e : Event) : Bool :=
  e.toJson.isWritable

def Event.line (e : Event) : List Char :=
  e.toJson.write ++ ['\n']

def Event.bytes (e : Event) : List UInt8 :=
  Text.Utf8.encode e.line

namespace EventLog

open Text

/-- The bytes behind the first line feed. -/
def afterLineFeed (bytes : List UInt8) : List UInt8 :=
  (bytes.dropWhile (· != 0x0a)).tail

/-- The last bytes of a log, at most `tail` of them, from the start of a line on. -/
def tailBytes (tail : Int) (log : List UInt8) : List UInt8 :=
  let start := ((log.length : Int) - tail).toNat
  -- a line that starts right at `start` is left out like one that is cut
  if start = 0 then log else afterLineFeed (log.drop start)

def recordOn (line : List Char) : Except Json.ReadError (Option Json) :=
  match Json.read line with
  | .ok (.object fields) => .ok (some (.object fields))
  | .ok _ | .error .malformed => .ok none
  | .error cause => .error cause

def records (tail : Int) (log : List UInt8) : Except Json.ReadError (List Json) :=
  ((lines (Utf8.decodeLossy (tailBytes tail log))).filter (!isAllBlank ·)).filterMapM recordOn

def hasText (record : Json) (key : String) (wanted : Option String) : Bool :=
  wanted.all fun s =>
    match record.field? key with
    | some (.text found) => found == s
    | _ => false

/-- The first records up to a limit; a negative limit counts from the end. -/
def takeLimit {α : Type} (limit : Int) (records : List α) : List α :=
  if limit < 0 then records.take (records.length - limit.natAbs) else records.take limit.toNat

/-- The records at the end of a log that have a level and tell of a happening, newest first. -/
def recent (tail : Int) (level happening : Option String) (limit : Int) (log : List UInt8) :
    Except Json.ReadError (List Json) :=
  let wanted (r : Json) : Bool := hasText r "level" level && hasText r "event_type" happening
  (records tail log).map fun found => takeLimit limit (found.filter wanted).reverse

end EventLog

end Wordsheet
