/-! Cutting a dotted name: at its first dot, or at every dot. -/

namespace PreparedSql.Text

/-- The parts between the separators; one more than there are separators. -/
def splitChars (separator : Char) : List Char → List (List Char)
  | [] => [[]]
  | character :: rest =>
      if character = separator then [] :: splitChars separator rest
      else match splitChars separator rest with
        | [] => [[character]]
        | part :: parts => (character :: part) :: parts

def splitAll (separator : Char) (text : String) : List String :=
  (splitChars separator text.toList).map String.ofList

/-- What stands before and after the first separator, if there is one. -/
def cutChars (separator : Char) : List Char → Option (List Char × List Char)
  | [] => none
  | character :: rest =>
      if character = separator then some ([], rest)
      else (cutChars separator rest).map fun (before, after) => (character :: before, after)

def cutFirst (separator : Char) (text : String) : Option (String × String) :=
  (cutChars separator text.toList).map fun (before, after) =>
    (String.ofList before, String.ofList after)

theorem splitChars_ne_nil (separator : Char) (text : List Char) :
    splitChars separator text ≠ [] := by
  cases text with
  | nil => simp only [splitChars, ne_eq, List.cons_ne_nil, not_false_eq_true]
  | cons character rest =>
    unfold splitChars
    split
    next => simp only [ne_eq, List.cons_ne_nil, not_false_eq_true]
    next => split <;> simp only [ne_eq, List.cons_ne_nil, not_false_eq_true]

theorem cutChars_eq_none {separator : Char} {text : List Char} :
    cutChars separator text = none ↔ separator ∉ text := by
  induction text with
  | nil => simp [cutChars]
  | cons character rest ih =>
    unfold cutChars
    split
    next same => simp [same]
    next different =>
      simp only [Option.map_eq_none_iff, ih, List.mem_cons, not_or]
      exact ⟨fun absent => ⟨fun same => different same.symm, absent⟩, fun both => both.2⟩

end PreparedSql.Text
