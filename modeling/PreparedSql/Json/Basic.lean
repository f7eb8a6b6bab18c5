/-! JSON values and the tokens they are written with. Numbers stay as they are written. -/

namespace PreparedSql

/-- A JSON value. A string is absent when its escapes leave a surrogate without a partner: it
can be passed over but it is not a text. Members keep their order and may repeat a key. -/
inductive Json where
  | null
  | bool (flag : Bool)
  | number (written : String)
  | string (content : Option String)
  | array (items : List Json)
  | object (members : List (Option String × Json))
  deriving Inhabited

namespace Json

inductive Token where
  | openBrace
  | closeBrace
  | openBracket
  | closeBracket
  | colon
  | comma
  | null
  | bool (flag : Bool)
  | number (written : String)
  | string (content : Option String)
  deriving DecidableEq, Repr

def text? : Json → Option String
  | .string content => content
  | _ => none

def bool? : Json → Option Bool
  | .bool flag => some flag
  | _ => none

def array? : Json → Option (List Json)
  | .array items => some items
  | _ => none

end Json

end PreparedSql
