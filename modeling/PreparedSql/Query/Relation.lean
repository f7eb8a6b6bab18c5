import PreparedSql.Query.Basic
import PreparedSql.Text.Split

/-! Joining along a path of relations. A hop that an earlier call has joined is used again, so
the joins form a tree of relations below the primary table. -/

namespace PreparedSql

/-- The join of the same relation, on the same left table, that continues the same join. -/
def JoinEntry.isHop (name : String) (previous : Option Nat) (left : TableRef)
    (entry : JoinEntry) : Bool :=
  entry.hop == some ⟨name, previous⟩ && entry.join.leftTable.key == left.key

/-- The first join of the list that makes the hop, with its place. -/
def findHop? (joins : List JoinEntry) (name : String) (previous : Option Nat)
    (left : TableRef) : Option (Nat × JoinEntry) := do
  let index ← joins.findIdx? (JoinEntry.isHop name previous left)
  let entry ← joins[index]?
  return (index, entry)

/-- The columns of a relation's pair, each on its own side. -/
def resolvePair (left right : TableRef) (pair : String × String) :
    Except CompileError ColumnPair := do
  let own ← left.column pair.1
  let foreign ← right.column pair.2
  return ⟨own, foreign⟩

/-- The join over a relation's pairs; without a pair there is nothing to join on. -/
def relationJoin (relation : Relation) (kind : JoinKind) (name : String)
    (left right : TableRef) : Except CompileError Join :=
  match relation.pairs with
  | [] => .error (.unknownRelation left.table.name name)
  | pair :: pairs => do
      let first ← resolvePair left right pair
      let more ← pairs.mapM (resolvePair left right)
      return { kind, first, more }

/-- The join that follows a relation of the left table, under an alias for its right table. -/
def hopEntry (schema : Schema) (kind : JoinKind) (name : String) (previous : Option Nat)
    (left : TableRef) (aliasName : Option String) : Except CompileError JoinEntry := do
  let relation ← left.table.relation name
  let foreign ← schema.table relation.foreignTable
  let join ← relationJoin relation kind name left { table := foreign, aliasName }
  return { join, hop := some ⟨name, previous⟩ }

/-- The joins after the remaining hops of a path, from the given left table on. The alias is
that of the last hop, which is then joined anew. -/
def joinHops (schema : Schema) (kind : JoinKind) (aliasName : Option String) :
    List String → TableRef → Option Nat → List JoinEntry →
      Except CompileError (List JoinEntry)
  | [], _, _, joins => .ok joins
  | name :: names, left, previous, joins =>
      let renamed := if names.isEmpty then aliasName else none
      let existing := if renamed.isSome then none else findHop? joins name previous left
      match existing with
      | some (index, entry) =>
          joinHops schema kind aliasName names entry.join.rightTable (some index) joins
      | none => do
          let entry ← hopEntry schema kind name previous left renamed
          joinHops schema kind aliasName names entry.join.rightTable (some joins.length)
            (joins ++ [entry])

namespace Query

/-- Joins along a path of relation names with dots between them, from the primary table on. -/
def joinRelation (query : Query) (path : String) (kind : JoinKind)
    (aliasName : Option String := none) : Except CompileError Query := do
  let joins ← joinHops query.schema kind aliasName (Text.splitAll '.' path) query.primary none
    query.joins
  return { query with joins }

end Query

end PreparedSql
