/-! The operators of a condition: comparisons, set membership and the connectives. -/

namespace PreparedSql

inductive Comparison where
  | equal
  | notEqual
  | less
  | lessOrEqual
  | greater
  | greaterOrEqual
  | like
  | notLike
  deriving DecidableEq, Repr, Inhabited

inductive Membership where
  | isIn
  | notIn
  deriving DecidableEq, Repr, Inhabited

inductive Connective where
  | and
  | or
  deriving DecidableEq, Repr, Inhabited

namespace Comparison

def sql : Comparison → String
  | .equal => "="
  | .notEqual => "!="
  | .less => "<"
  | .lessOrEqual => "<="
  | .greater => ">"
  | .greaterOrEqual => ">="
  | .like => "LIKE"
  | .notLike => "NOT LIKE"

def all : List Comparison :=
  [.equal, .notEqual, .less, .lessOrEqual, .greater, .greaterOrEqual, .like, .notLike]

end Comparison

/-- A condition that always holds. -/
def alwaysTrue : String := "1=1"

/-- A condition that never holds. -/
def alwaysFalse : String := "1<>1"

namespace Membership

def sql : Membership → String
  | .isIn => "IN"
  | .notIn => "NOT IN"

/-- Nothing is in the empty list. -/
def emptyList : Membership → String
  | .isIn => alwaysFalse
  | .notIn => alwaysTrue

end Membership

namespace Connective

def separator : Connective → String
  | .and => " AND "
  | .or => " OR "

/-- The connective over no conditions at all. -/
def neutral : Connective → String
  | .and => alwaysTrue
  | .or => alwaysFalse

end Connective

end PreparedSql
