import PreparedSql.Fragment
import PreparedSql.Query.Basic

/-! The text of conditions on one column, and of conditions under AND and OR. A query that
occurs in a condition comes in as the fragment it compiles to. -/

namespace PreparedSql

/-- What a condition inherits from around it. -/
structure Scope where
  ignoreCase : Bool := false
  table : Option TableRef := none
  sources : List TableRef := []
  deriving DecidableEq, Repr, Inhabited

namespace Scope

/-- A node's own settings go before those from around it. -/
def enter (scope : Scope) (settings : NodeSettings) : Scope :=
  { scope with
    ignoreCase := settings.ignoreCase.getD scope.ignoreCase
    table := settings.table.or scope.table }

def resolve (scope : Scope) (spec : ColumnSpec) : Except CompileError QualifiedColumn :=
  spec.resolve scope.table scope.sources

end Scope

/-- A column against a placeholder. A text column in a scope that ignores case takes the
dialect's own operator for it, or else both sides are folded. -/
def placeholderTest (dialect : Dialect) (ignoreCase : Bool) (column : QualifiedColumn)
    (operator : Comparison) : String :=
  if ignoreCase && column.isText then
    match dialect.foldedOperator operator with
    | some folded => column.sql ++ " " ++ folded ++ " ?"
    | none =>
        dialect.foldCase column.sql ++ " " ++ operator.sql ++ " " ++ dialect.foldCase "?"
  else column.sql ++ " " ++ operator.sql ++ " ?"

/-- A column against a value. Only `=` and `!=` have a form for NULL. -/
def valueTest (dialect : Dialect) (ignoreCase : Bool) (column : QualifiedColumn)
    (operator : Comparison) : Value → Except CompileError Fragment
  | some datum => .ok
      { sql := placeholderTest dialect ignoreCase column operator
        binds := [⟨column.type, datum⟩] }
  | none =>
      match operator with
      | .equal => .ok (.text (column.sql ++ " IS NULL"))
      | .notEqual => .ok (.text (column.sql ++ " IS NOT NULL"))
      | _ => .error (.nullComparison column.sql operator.sql)

def rawTest (column : QualifiedColumn) (operator : Comparison) (sql : String) : Fragment :=
  .text (column.sql ++ " " ++ operator.sql ++ " " ++ sql)

def parenthesized (fragment : Fragment) : Fragment :=
  .text "(" ++ fragment ++ .text ")"

def queryTest (column : QualifiedColumn) (operator : String) (nested : Fragment) : Fragment :=
  .text (column.sql ++ " " ++ operator ++ " ") ++ parenthesized nested

/-- A column against a list of values, none of which may be NULL. -/
def listTest (column : QualifiedColumn) (operator : Membership) :
    List Value → Except CompileError Fragment
  | [] => .ok (.text operator.emptyList)
  | values =>
      if values.any Value.isNull then .error (.nullComparison column.sql operator.sql)
      else .ok
        { sql := column.sql ++ " " ++ operator.sql ++ " (" ++
            ",".intercalate (values.map fun _ => "?") ++ ")"
          binds := values.filterMap (Bind.ofValue? column.type) }

/-- Conditions under a connective: the neutral constant for none, a single one as it is, and
parentheses around several. -/
def Connective.combine (connective : Connective) : List Fragment → Fragment
  | [] => .text connective.neutral
  | [only] => only
  | pieces => parenthesized (.join connective.separator pieces)

end PreparedSql
