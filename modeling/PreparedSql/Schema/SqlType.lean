/-! Declared types of columns. -/

namespace PreparedSql

inductive SqlType where
  | boolean
  | tinyint
  | smallint
  | integer
  | bigint
  | float
  | double
  | decimal
  | char
  | varchar
  | longvarchar
  | clob
  | date
  | time
  | timestamp
  | binary
  | blob
  deriving DecidableEq, Repr, Inhabited

namespace SqlType

def name : SqlType → String
  | .boolean => "boolean"
  | .tinyint => "tinyint"
  | .smallint => "smallint"
  | .integer => "integer"
  | .bigint => "bigint"
  | .float => "float"
  | .double => "double"
  | .decimal => "decimal"
  | .char => "char"
  | .varchar => "varchar"
  | .longvarchar => "longvarchar"
  | .clob => "clob"
  | .date => "date"
  | .time => "time"
  | .timestamp => "timestamp"
  | .binary => "binary"
  | .blob => "blob"

def all : List SqlType :=
  [.boolean, .tinyint, .smallint, .integer, .bigint, .float, .double, .decimal, .char,
    .varchar, .longvarchar, .clob, .date, .time, .timestamp, .binary, .blob]

def ofName? (name : String) : Option SqlType :=
  all.find? fun type => type.name == name

/-- Values of the type are text, so that comparisons may ignore their case. -/
def isText : SqlType → Bool
  | .char | .varchar | .longvarchar | .clob => true
  | _ => false

/-- Values of the type are dates or times. -/
def isTemporal : SqlType → Bool
  | .date | .time | .timestamp => true
  | _ => false

def isBoolean : SqlType → Bool
  | .boolean => true
  | _ => false

def isNumeric : SqlType → Bool
  | .tinyint | .smallint | .integer | .bigint | .float | .double | .decimal => true
  | _ => false

def isBinary : SqlType → Bool
  | .binary | .blob => true
  | _ => false

theorem ofName?_name (type : SqlType) : ofName? type.name = some type := by
  cases type <;> decide +kernel

end SqlType

end PreparedSql
