import PreparedSql.Schema.SqlType
import PreparedSql.Value.Basic

/-! Parameters of a statement. -/

namespace PreparedSql

/-- A datum that waits for its placeholder, with the declared type of the column it is compared
with or assigned to. -/
structure Bind where
  type : SqlType
  datum : Datum
  deriving DecidableEq, Repr, Inhabited

namespace Bind

/-- NULL is never bound; it is written into the statement. -/
def ofValue? (type : SqlType) (value : Value) : Option Bind :=
  value.map fun datum => { type, datum }

end Bind

end PreparedSql
