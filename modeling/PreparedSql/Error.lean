import PreparedSql.Number.Decimal

/-! Why a statement cannot be built. -/

namespace PreparedSql

/-- Statements that change rows. -/
inductive Mutation where
  | insert
  | update
  | delete
  deriving DecidableEq, Repr, Inhabited

def Mutation.keyword : Mutation → String
  | .insert => "INSERT"
  | .update => "UPDATE"
  | .delete => "DELETE"

/-- What is wrong with a link from one join of a query to the one it continues. -/
inductive ChainFault where
  /-- Following the links never ends. -/
  | cycle (index : Nat)
  /-- A link leads out of the join list or to a plain join. -/
  | notRelation (index : Nat)
  /-- A link leads to the join itself or to a later place. -/
  | notEarlier (index previous : Nat)
  /-- A link leads to an earlier join that follows no relation. -/
  | plainLink (index previous : Nat)
  deriving DecidableEq, Repr

def ChainFault.message : ChainFault → String
  | .cycle index => "cycle through join #" ++ Number.decimal index
  | .notRelation index =>
      "join #" ++ Number.decimal index ++ " is not a relation join of this query"
  | .notEarlier index previous =>
      "join #" ++ Number.decimal index ++ " continues join #" ++ Number.decimal previous ++
        ", which does not precede it"
  | .plainLink index previous =>
      "join #" ++ Number.decimal index ++ " continues join #" ++ Number.decimal previous ++
        ", which is not a relation join"

inductive CompileError where
  | unknownColumn (table column : String)
  | unknownTable (table : String)
  /-- A bare column name where no table is in scope. -/
  | unboundColumn (column : String)
  | unknownRelation (table relation : String)
  /-- NULL with an operator other than `=` and `!=`. -/
  | nullComparison (column operator : String)
  | brokenChain (fault : ChainFault)
  /-- An UPDATE or DELETE that no condition bounds. -/
  | unboundedMutation (mutation : Mutation) (table : String)
  | unsupported (dialect feature : String)
  | missingAlias
  | unsuitableSource (mutation : Mutation)
  | noAssignments (mutation : Mutation) (table : String)
  /-- An explicit join introduces the primary source a second time. -/
  | joinedPrimary (label : String)
  deriving DecidableEq, Repr

def CompileError.message : CompileError → String
  | .unknownColumn table column => "unknown column '" ++ column ++ "' in table '" ++ table ++ "'"
  | .unknownTable table => "unknown table '" ++ table ++ "'"
  | .unboundColumn column => "column '" ++ column ++ "' has no table context to resolve against"
  | .unknownRelation table relation =>
      "unknown relation '" ++ relation ++ "' on table '" ++ table ++ "'"
  | .nullComparison column operator => "cannot compare " ++ column ++ " " ++ operator ++ " NULL"
  | .brokenChain fault => "invalid join chain: " ++ fault.message
  | .unboundedMutation mutation table =>
      "refusing to perform " ++ mutation.keyword ++ " on table '" ++ table ++
        "' with empty WHERE clause"
  | .unsupported dialect feature => "dialect '" ++ dialect ++ "' does not support " ++ feature
  | .missingAlias => "a sub-query used as a table requires a non-empty alias"
  | .unsuitableSource mutation =>
      mutation.keyword ++ " requires a single unaliased table without joins"
  | .noAssignments mutation table =>
      mutation.keyword ++ " on table '" ++ table ++ "' has no assignments"
  | .joinedPrimary label =>
      "explicit join to '" ++ label ++ "' collides with the primary source; alias one side"

end PreparedSql
