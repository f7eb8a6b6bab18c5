import PreparedSql.Bind.Basic
import PreparedSql.Value.Literal

/-! The text of a statement with the literals of its parameters filled in. -/

namespace PreparedSql

/-- Each placeholder outside a quoted literal becomes the literal of the next parameter, as long
as there is one. The literals themselves are not searched. -/
def fillPlaceholders (quoted : Bool) : List Char → List Bind → List Char
  | [], _ => []
  | character :: rest, binds =>
      if character = '\'' then character :: fillPlaceholders (!quoted) rest binds
      else if character = '?' ∧ quoted = false then
        match binds with
        | [] => character :: fillPlaceholders quoted rest []
        | bind :: others => bind.datum.literalChars ++ fillPlaceholders quoted rest others
      else character :: fillPlaceholders quoted rest binds

/-- The SQL with its parameters filled in, for logs. -/
def interpolate (sql : String) (binds : List Bind) : String :=
  String.ofList (fillPlaceholders false sql.toList binds)

end PreparedSql
