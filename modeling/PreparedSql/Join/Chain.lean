import PreparedSql.Join.Basic

/-! Chains of relation joins. Each relation join names the join it continues by its place in
the query's list; following these links gives the path of relations from the primary table. -/

namespace PreparedSql

namespace Chain

/-- The hop at a place of the list, if a relation join stands there. -/
def hopAt? (joins : List JoinEntry) (index : Nat) : Option Hop :=
  joins[index]?.bind JoinEntry.hop

/-- The relations from the primary table to the join that is linked to. At most `steps` links
are followed; a chain that does not end by then is a cycle. -/
def pathTo (joins : List JoinEntry) : Nat → Option Nat → Except ChainFault (List String)
  | _, none => .ok []
  | 0, some index => .error (.cycle index)
  | steps + 1, some index =>
      match hopAt? joins index with
      | some hop => (pathTo joins steps hop.previous).map (· ++ [hop.relation])
      | none => .error (.notRelation index)

/-- The relations from the primary table to the record that a hop starts from. A chain has no
more links than the list has joins. -/
def parentPath (joins : List JoinEntry) (hop : Hop) : Except CompileError (List String) :=
  (pathTo joins joins.length hop.previous).mapError .brokenChain

/-- The link of the join at a place leads to an earlier relation join. -/
def checkLink (joins : List JoinEntry) (index : Nat) (entry : JoinEntry) :
    Except ChainFault Unit :=
  match entry.hop.bind Hop.previous with
  | none => .ok ()
  | some previous =>
      if index ≤ previous then .error (.notEarlier index previous)
      else if (hopAt? joins previous).isNone then .error (.plainLink index previous)
      else .ok ()

def checkLinks (joins : List JoinEntry) : Nat → List JoinEntry → Except ChainFault Unit
  | _, [] => .ok ()
  | index, entry :: entries => do
      checkLink joins index entry
      checkLinks joins (index + 1) entries

/-- Every relation join continues an earlier relation join; else the first that does not. -/
def check (joins : List JoinEntry) : Except CompileError Unit :=
  (checkLinks joins 0 joins).mapError .brokenChain

end Chain

end PreparedSql
