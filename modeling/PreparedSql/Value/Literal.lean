import PreparedSql.Calendar.Format
import PreparedSql.Number.Shortest
import PreparedSql.Value.Basic

/-! Values written as SQL literals, for logs. A quote inside a text is written twice, bytes are
pairs of hexadecimal digits, and dates and times are quoted in their ISO formats. -/

namespace PreparedSql

namespace Literal

/-- The characters with each single quote written twice. -/
def doubleQuotes : List Char → List Char
  | [] => []
  | character :: rest =>
      if character = '\'' then '\'' :: '\'' :: doubleQuotes rest
      else character :: doubleQuotes rest

def quoted (content : List Char) : List Char :=
  '\'' :: doubleQuotes content ++ ['\'']

def hexDigit (number : Nat) : Char :=
  (Nat.digitChar number).toUpper

def hexByte (byte : UInt8) : List Char :=
  [hexDigit (byte.toNat / 16), hexDigit (byte.toNat % 16)]

def hexadecimal (bytes : List UInt8) : List Char :=
  'X' :: '\'' :: bytes.flatMap hexByte ++ ['\'']

end Literal

open Literal Calendar

def Datum.literalChars : Datum → List Char
  | .bool true => ['T', 'R', 'U', 'E']
  | .bool false => ['F', 'A', 'L', 'S', 'E']
  | .int number => Number.signed number.toInt
  | .float number => number.text.toList
  | .text content => quoted content.toList
  | .blob bytes => hexadecimal bytes
  | .date day => quoted (Format.isoDate.renderChars day.fields)
  | .time clock => quoted (Format.isoTime.renderChars clock.fields)
  | .timestamp moment => quoted (Format.isoTimestamp.renderChars moment.fields)

def Datum.literal (datum : Datum) : String :=
  String.ofList datum.literalChars

def Value.literal (value : Value) : String :=
  match value with
  | some datum => datum.literal
  | none => "NULL"

end PreparedSql
