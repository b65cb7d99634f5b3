import Wordsheet.Csv.Frame
import Wordsheet.Text.Utf8

/-! # Writing CSV

A frame is written as lines of fields in UTF-8, the heading first. A field stands
between double quotes if it is empty or holds a comma, a double quote or a byte
that ends a line; a double quote inside it is doubled.
-/

namespace Wordsheet.Csv

def comma : UInt8 := 0x2c

def quote : UInt8 := 0x22

def lineFeed : UInt8 := 0x0a

def carriageReturn : UInt8 := 0x0d

def needsQuotes (field : List UInt8) : Bool :=
  field.isEmpty
    || field.any fun b => b == comma || b == quote || b == lineFeed || b == carriageReturn

def doubleQuotes (field : List UInt8) : List UInt8 :=
  field.flatMap fun b => if b == quote then [quote, quote] else [b]

def writeField (field : List UInt8) : List UInt8 :=
  if needsQuotes field then quote :: doubleQuotes field ++ [quote] else field

def joinFields : List (List UInt8) → List UInt8
  | [] => []
  | [field] => field
  | field :: rest => field ++ comma :: joinFields rest

def writeLine (fields : List String) : List UInt8 :=
  joinFields (fields.map fun field => writeField (Text.Utf8.encode field.toList)) ++ [lineFeed]

end Wordsheet.Csv

namespace Wordsheet.Frame

def toCsv (f : Frame) : List UInt8 :=
  Csv.writeLine f.names ++ f.records.flatMap fun record => Csv.writeLine (record.map (·.getD ""))

end Wordsheet.Frame
