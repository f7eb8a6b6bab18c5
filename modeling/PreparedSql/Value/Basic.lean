import PreparedSql.Calendar.TimeOfDay
import PreparedSql.Number.Binary

/-! Values that callers hand to a statement. NULL is the absence of a datum, so that what must
not be NULL, such as a bound parameter, simply holds a datum. -/

namespace PreparedSql

inductive Datum where
  | bool (flag : Bool)
  | int (number : Int64)
  | float (number : Number.Binary64)
  | text (content : String)
  | blob (bytes : List UInt8)
  | date (date : Date)
  | time (time : TimeOfDay)
  | timestamp (timestamp : Timestamp)
  deriving DecidableEq, Repr, Inhabited

/-- A datum, or NULL. -/
abbrev Value := Option Datum

namespace Value

def null : Value := none

def isNull (value : Value) : Bool :=
  value.isNone

end Value

end PreparedSql
