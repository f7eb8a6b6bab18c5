import PreparedSql.Calendar.TimeOfDay
import PreparedSql.Number.Decimal
import PreparedSql.Text.Blank

/-! Written dates and times. A format is a list of directives; it is printed as a pattern such
as `%Y-%m-%d`, renders the fields of a date or time, and scans them back from a text. -/

namespace PreparedSql

namespace Calendar

inductive Directive where
  | year
  | month
  | day
  | hour
  | minute
  | second
  /-- One character that stands for itself. -/
  | literal (character : Char)
  /-- Rendered as a space; any run of blanks, also an empty one, is scanned. -/
  | space
  deriving DecidableEq, Repr

/-- What a format writes and reads. A date has no clock fields and a time no calendar fields;
the second is the one shown by the clock. -/
structure Fields where
  year : Option Int := none
  month : Option Nat := none
  day : Option Nat := none
  hour : Option Nat := none
  minute : Option Nat := none
  second : Option Nat := none
  deriving DecidableEq, Repr

abbrev Format := List Directive

def Directive.pattern : Directive → String
  | .year => "%Y"
  | .month => "%m"
  | .day => "%d"
  | .hour => "%H"
  | .minute => "%M"
  | .second => "%S"
  | .literal character => character.toString
  | .space => " "

/-- A year has at least four digits, and a sign when it lies outside 0 to 9999. -/
def writtenYear (year : Int) : List Char :=
  if year < 0 then '-' :: Number.padded 4 year.natAbs
  else if 9999 < year then '+' :: Number.padded 4 year.natAbs
  else Number.padded 4 year.natAbs

/-- Two digits; nothing for an absent field. -/
def written (field : Option Nat) : List Char :=
  (field.map (Number.padded 2)).getD []

def Directive.render (fields : Fields) : Directive → List Char
  | .year => (fields.year.map writtenYear).getD []
  | .month => written fields.month
  | .day => written fields.day
  | .hour => written fields.hour
  | .minute => written fields.minute
  | .second => written fields.second
  | .literal character => [character]
  | .space => [' ']

/-- Up to `width` leading digits, at least one, and the text behind them. -/
def scanDigits (width : Nat) (text : List Char) : Option (Nat × List Char) :=
  let found := (text.take width).takeWhile Char.isDigit
  (Number.ofDigits? found).map fun number => (number, text.drop found.length)

/-- One to four digits, or a sign and any number of digits. -/
def scanYear (text : List Char) : Option (Int × List Char) :=
  match text with
  | '-' :: rest => (scanDigits rest.length rest).map fun (year, behind) => (-(year : Int), behind)
  | '+' :: rest => (scanDigits rest.length rest).map fun (year, behind) => ((year : Int), behind)
  | _ => (scanDigits 4 text).map fun (year, behind) => ((year : Int), behind)

/-- A number of one or two digits, with any blanks in front of it. -/
def scanPair (store : Nat → Fields) (text : List Char) : Option (Fields × List Char) :=
  (scanDigits 2 (Text.dropBlanks text)).map fun (number, rest) => (store number, rest)

/-- The fields and the rest of the text after one directive. Blanks in front of a number are
skipped. -/
def Directive.scan (fields : Fields) (text : List Char) :
    Directive → Option (Fields × List Char)
  | .year => (scanYear (Text.dropBlanks text)).map fun (number, rest) =>
      ({ fields with year := some number }, rest)
  | .month => scanPair (fun number => { fields with month := some number }) text
  | .day => scanPair (fun number => { fields with day := some number }) text
  | .hour => scanPair (fun number => { fields with hour := some number }) text
  | .minute => scanPair (fun number => { fields with minute := some number }) text
  | .second => scanPair (fun number => { fields with second := some number }) text
  | .literal character => match text with
      | first :: rest => if first = character then some (fields, rest) else none
      | [] => none
  | .space => some (fields, Text.dropBlanks text)

namespace Format

def pattern (format : Format) : String :=
  String.join (format.map Directive.pattern)

def renderChars (format : Format) (fields : Fields) : List Char :=
  format.flatMap (Directive.render fields)

/-- All directives in order; nothing may be left of the text. -/
def scanChars (fields : Fields) : Format → List Char → Option Fields
  | [], [] => some fields
  | [], _ :: _ => none
  | directive :: format, text =>
      match directive.scan fields text with
      | some (scanned, rest) => scanChars scanned format rest
      | none => none

def render (format : Format) (fields : Fields) : String :=
  String.ofList (format.renderChars fields)

def scan (format : Format) (text : String) : Option Fields :=
  format.scanChars {} text.toList

/-- Year, month and day with a dash between them. -/
def isoDate : Format :=
  [.year, .literal '-', .month, .literal '-', .day]

/-- Hour, minute and second with a colon between them. -/
def isoTime : Format :=
  [.hour, .literal ':', .minute, .literal ':', .second]

/-- The date and the time with a space between them. -/
def isoTimestamp : Format :=
  isoDate ++ .space :: isoTime

end Format

end Calendar

open Calendar

def Date.fields (date : Date) : Fields :=
  { year := some date.year, month := some date.month, day := some date.day }

def TimeOfDay.fields (time : TimeOfDay) : Fields :=
  { hour := some time.hour, minute := some time.minute, second := some time.shownSecond }

def Timestamp.fields (timestamp : Timestamp) : Fields :=
  { timestamp.time.fields with
    year := some timestamp.date.year
    month := some timestamp.date.month
    day := some timestamp.date.day }

def Date.ofFields? (fields : Fields) : Option Date := do
  Date.of? (← fields.year) (← fields.month) (← fields.day)

def TimeOfDay.ofFields? (fields : Fields) : Option TimeOfDay := do
  TimeOfDay.ofShown? (← fields.hour) (← fields.minute) (← fields.second)

def Timestamp.ofFields? (fields : Fields) : Option Timestamp := do
  return ⟨← Date.ofFields? fields, ← TimeOfDay.ofFields? fields⟩

end PreparedSql
