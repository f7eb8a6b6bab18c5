import PreparedSql.Json.Basic

/-! Records in JSON: an object with known keys, or an array of the fields in their order. -/

namespace PreparedSql

namespace Json

/-- The value of the first member of a key. -/
def member? (members : List (Option String × Json)) (key : String) : Option Json :=
  (members.find? (·.1 == some key)).map Prod.snd

/-- No known key stands twice, and every key is a text. Unknown keys are passed over. -/
def hasProperKeys (keys : List String) (members : List (Option String × Json)) : Bool :=
  members.all (·.1.isSome) &&
    keys.all fun key => (members.filter (·.1 == some key)).length ≤ 1

/-- The fields of a record, in the order of the keys; absent ones may be left out. An array
leaves out fields at its end and has no more items than there are fields. -/
def fields? (keys : List String) : Json → Option (List (Option Json))
  | .object members =>
      if hasProperKeys keys members then some (keys.map (member? members)) else none
  | .array items =>
      if items.length ≤ keys.length then
        some (items.map some ++ List.replicate (keys.length - items.length) none)
      else none
  | _ => none

/-- A field that may be left out, but not be null. -/
def orDefault {α : Type} (value : α) (read? : Json → Option α) : Option Json → Option α
  | none => some value
  | some json => read? json

/-- A field that may be left out or be null. -/
def orNull {α : Type} (read? : Json → Option α) : Option Json → Option (Option α)
  | none | some .null => some none
  | some json => (read? json).map some

def listOf {α : Type} (read? : Json → Option α) (json : Json) : Option (List α) := do
  (← json.array?).mapM read?

end Json

end PreparedSql
