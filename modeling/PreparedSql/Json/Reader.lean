import PreparedSql.Json.Lexer

/-! Reading tokens into values. What is open is kept in a list of frames, so a text may be
nested to any depth. -/

namespace PreparedSql

namespace Json

/-- A container that a value is being read for, with what it holds so far, the last first. -/
inductive Frame where
  | array (items : List Json)
  | object (members : List (Option String × Json)) (key : Option String)

inductive Reader where
  /-- A value has to follow. -/
  | value (frames : List Frame)
  /-- An array was opened. -/
  | firstItem (frames : List Frame)
  /-- An object was opened. -/
  | firstKey (frames : List Frame)
  | nextKey (members : List (Option String × Json)) (frames : List Frame)
  | colon (members : List (Option String × Json)) (key : Option String) (frames : List Frame)
  /-- A value is complete and belongs into the innermost frame. -/
  | after (value : Json) (frames : List Frame)

namespace Reader

/-- The first token of a value. -/
def start? (frames : List Frame) : Token → Option Reader
  | .null => some (.after .null frames)
  | .bool flag => some (.after (.bool flag) frames)
  | .number written => some (.after (.number written) frames)
  | .string content => some (.after (.string content) frames)
  | .openBracket => some (.firstItem frames)
  | .openBrace => some (.firstKey frames)
  | _ => none

/-- A token behind a value: the innermost container goes on or is closed. -/
def behind? (read : Json) (frames : List Frame) (token : Token) : Option Reader :=
  match frames, token with
  | .array items :: outer, .comma => some (.value (.array (read :: items) :: outer))
  | .array items :: outer, .closeBracket =>
      some (.after (.array (read :: items).reverse) outer)
  | .object members key :: outer, .comma => some (.nextKey ((key, read) :: members) outer)
  | .object members key :: outer, .closeBrace =>
      some (.after (.object ((key, read) :: members).reverse) outer)
  | _, _ => none

def step? (reader : Reader) (token : Token) : Option Reader :=
  match reader with
  | .value frames => start? frames token
  | .firstItem frames =>
      if token = .closeBracket then some (.after (.array []) frames)
      else start? (.array [] :: frames) token
  | .firstKey frames =>
      match token with
      | .closeBrace => some (.after (.object []) frames)
      | .string key => some (.colon [] key frames)
      | _ => none
  | .nextKey members frames =>
      match token with
      | .string key => some (.colon members key frames)
      | _ => none
  | .colon members key frames =>
      if token = .colon then some (.value (.object members key :: frames)) else none
  | .after read frames => behind? read frames token

/-- The value, if it is complete and stands in no container. -/
def finish? : Reader → Option Json
  | .after read [] => some read
  | _ => none

end Reader

def ofTokens? (tokens : List Token) : Option Json :=
  (tokens.foldlM Reader.step? (.value [])).bind Reader.finish?

/-- The value that a text is written for, with nothing but blanks around it. -/
def parse? (text : String) : Option Json :=
  (tokens? text.toList).bind ofTokens?

end Json

end PreparedSql
