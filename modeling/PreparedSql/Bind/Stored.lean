import PreparedSql.Bind.Basic
import PreparedSql.Dialect.Basic

/-! What a database stores for a parameter, and what a stored value means for a column. Dates
and times are stored as text in the dialect's formats; booleans may come back as integers. -/

namespace PreparedSql

/-- A parameter in a form that the database stores. -/
inductive Param where
  | bool (flag : Bool)
  | int (number : Int64)
  | float (number : Number.Binary64)
  | text (content : String)
  | blob (bytes : List UInt8)
  deriving DecidableEq, Repr, Inhabited

def Param.datum : Param → Datum
  | .bool flag => .bool flag
  | .int number => .int number
  | .float number => .float number
  | .text content => .text content
  | .blob bytes => .blob bytes

/-- An integer for a boolean column is true unless it is zero; dates and times become text. -/
def Bind.stored (dialect : Dialect) (bind : Bind) : Param :=
  match bind.datum with
  | .bool flag => .bool flag
  | .int number => if bind.type.isBoolean then .bool (number != 0) else .int number
  | .float number => .float number
  | .text content => .text content
  | .blob bytes => .blob bytes
  | .date day => .text (dialect.dateFormat.render day.fields)
  | .time clock => .text (dialect.timeFormat.render clock.fields)
  | .timestamp moment => .text (dialect.timestampFormat.render moment.fields)

/-- A stored text as a date or time, when the column is declared to hold one and the text can be
read as one. -/
def restoreText? (dialect : Dialect) (type : SqlType) (content : String) : Option Datum :=
  match type with
  | .date =>
      ((dialect.dateFormat.scan content).bind Date.ofFields?).map .date
  | .time =>
      ((dialect.timeFormat.scan content).bind TimeOfDay.ofFields?).map .time
  | .timestamp =>
      ((dialect.timestampFormat.scan content).bind Timestamp.ofFields?).map .timestamp
  | _ => none

/-- A stored value as the declared type of its column says; one that does not fit the type is
left as it is. -/
def Value.restore (dialect : Dialect) (type : SqlType) (value : Value) : Value :=
  match value with
  | some (.int number) => if type.isBoolean then some (.bool (number != 0)) else value
  | some (.text content) => some ((restoreText? dialect type content).getD (.text content))
  | _ => value

end PreparedSql
