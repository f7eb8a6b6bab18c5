import PreparedSql.Query.Basic
import PreparedSql.Value.Convert

/-! Building predicates. A node hands its ignore-case flag down to the nodes below that have
none, when the flag is set and when a child is added later. -/

namespace PreparedSql

namespace Predicate

def ofTest (test : Test) : Predicate :=
  .leaf {} test

def raw (sql : String) : Predicate :=
  ofTest (.raw sql)

/-- NULL is compared by `IS NULL` and `IS NOT NULL`. -/
def compare {α : Type} [ToValue α] (column : ColumnSpec) (operator : Comparison) (value : α) :
    Predicate :=
  ofTest (.compareValue column operator (toValue value))

def isNull (column : ColumnSpec) : Predicate :=
  compare column .equal Value.null

def isNotNull (column : ColumnSpec) : Predicate :=
  compare column .notEqual Value.null

def compareRaw (column : ColumnSpec) (operator : Comparison) (sql : String) : Predicate :=
  ofTest (.compareRaw column operator sql)

def compareQuery (column : ColumnSpec) (operator : Comparison) (query : Query) : Predicate :=
  ofTest (.compareQuery column operator query)

def inList {α : Type} [ToValue α] (column : ColumnSpec) (operator : Membership)
    (values : List α) : Predicate :=
  ofTest (.inList column operator (values.map toValue))

def inQuery (column : ColumnSpec) (operator : Membership) (query : Query) : Predicate :=
  ofTest (.inQuery column operator query)

def settings : Predicate → NodeSettings
  | .leaf settings _ => settings
  | .node settings _ _ => settings

mutual

/-- No test stands anywhere in the tree. Such a tree asks for nothing. -/
def isEmpty : Predicate → Bool
  | .leaf _ _ => false
  | .node _ _ children => allEmpty children

def allEmpty : List Predicate → Bool
  | [] => true
  | child :: children => isEmpty child && allEmpty children

end

mutual

/-- Takes over a flag from above, unless the predicate has one of its own. -/
def inherit (flag : Bool) : Predicate → Predicate
  | .leaf settings test =>
      match settings.ignoreCase with
      | some _ => .leaf settings test
      | none => .leaf { settings with ignoreCase := some flag } test
  | .node settings connective children =>
      match settings.ignoreCase with
      | some _ => .node settings connective children
      | none =>
          .node { settings with ignoreCase := some flag } connective (inheritAll flag children)

def inheritAll (flag : Bool) : List Predicate → List Predicate
  | [] => []
  | child :: children => inherit flag child :: inheritAll flag children

end

/-- The child as a node with the given settings takes it in. -/
def adopt (settings : NodeSettings) (child : Predicate) : Predicate :=
  match settings.ignoreCase with
  | some flag => child.inherit flag
  | none => child

/-- A new node takes its children as they are. -/
def all (children : List Predicate) : Predicate :=
  .node {} .and children

def any (children : List Predicate) : Predicate :=
  .node {} .or children

/-- Adds a child to a node; a test becomes the AND of both. -/
def push (predicate child : Predicate) : Predicate :=
  match predicate with
  | .node settings connective children =>
      .node settings connective (children ++ [adopt settings child])
  | .leaf settings test => all [.leaf settings test, child]

/-- Both hold; an AND is extended. -/
def and (predicate other : Predicate) : Predicate :=
  match predicate with
  | .node settings .and children => push (.node settings .and children) other
  | _ => all [predicate, other]

/-- One of both holds; an OR is extended. -/
def or (predicate other : Predicate) : Predicate :=
  match predicate with
  | .node settings .or children => push (.node settings .or children) other
  | _ => any [predicate, other]

/-- Sets the flag of the predicate; those below that have a flag keep it. -/
def ignoreCase (flag : Bool) (predicate : Predicate) : Predicate :=
  match predicate with
  | .leaf settings test => .leaf { settings with ignoreCase := some flag } test
  | .node settings connective children =>
      .node { settings with ignoreCase := some flag } connective (inheritAll flag children)

/-- Sets the table on which bare column names are looked up. -/
def inTable (table : TableRef) (predicate : Predicate) : Predicate :=
  match predicate with
  | .leaf settings test => .leaf { settings with table := some table } test
  | .node settings connective children =>
      .node { settings with table := some table } connective children

end Predicate

end PreparedSql
