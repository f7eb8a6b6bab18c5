import PreparedSql.Value.Basic

/-! Records read from result rows, with the records related to them attached by name. -/

namespace PreparedSql

/-- The columns of one table in one row. The attached records are sorted by the name of their
relation, each name once. -/
structure Record where
  /-- The alias or name of the table. -/
  table : String
  /-- Logical names and values, in SELECT order. -/
  values : List (String × Value) := []
  related : List (String × Record) := []
  deriving Inhabited

/-- The first record of a name. -/
def findRelated? (name : String) : List (String × Record) → Option Record
  | [] => none
  | entry :: entries => if entry.1 = name then some entry.2 else findRelated? name entries

/-- Puts a record in its place among sorted names; one of the same name is replaced. -/
def insertRelated (name : String) (record : Record) :
    List (String × Record) → List (String × Record)
  | [] => [(name, record)]
  | entry :: entries =>
      if name = entry.1 then (name, record) :: entries
      else if name < entry.1 then (name, record) :: entry :: entries
      else entry :: insertRelated name record entries

/-- Changes the first record of a name; none if there is no such record or no change of it. -/
def modifyRelated? (name : String) (change : Record → Option Record) :
    List (String × Record) → Option (List (String × Record))
  | [] => none
  | entry :: entries =>
      if entry.1 = name then (change entry.2).map fun changed => (entry.1, changed) :: entries
      else (modifyRelated? name change entries).map (entry :: ·)

namespace Record

/-- The first value of a logical name. -/
def get? (record : Record) (field : String) : Option Value :=
  (record.values.find? (·.1 == field)).map Prod.snd

def related? (record : Record) (name : String) : Option Record :=
  findRelated? name record.related

def attach (record : Record) (name : String) (child : Record) : Record :=
  { record with related := insertRelated name child record.related }

/-- The record at the end of a path of relations, if every one of them is attached. -/
def at? (record : Record) : List String → Option Record
  | [] => some record
  | name :: names => (record.related? name).bind (·.at? names)

/-- Changes the record at the end of a path, if every relation on the way is attached. -/
def modifyAt? (change : Record → Record) (record : Record) : List String → Option Record
  | [] => some (change record)
  | name :: names =>
      (modifyRelated? name (fun child => child.modifyAt? change names) record.related).map
        fun related => { record with related }

end Record

theorem findRelated?_insertRelated (name : String) (record : Record)
    (entries : List (String × Record)) :
    findRelated? name (insertRelated name record entries) = some record := by
  induction entries with
  | nil => simp only [insertRelated, findRelated?, if_true]
  | cons entry entries ih =>
    unfold insertRelated
    split
    next => simp only [findRelated?, if_true]
    next different =>
      split
      next => simp only [findRelated?, if_true]
      next => rw [findRelated?, if_neg (Ne.symm different), ih]

theorem findRelated?_insertRelated_of_ne {name other : String} (different : other ≠ name)
    (record : Record) (entries : List (String × Record)) :
    findRelated? other (insertRelated name record entries) = findRelated? other entries := by
  induction entries with
  | nil => simp only [insertRelated, findRelated?, if_neg different.symm]
  | cons entry entries ih =>
    unfold insertRelated
    split
    next same =>
      subst same
      simp only [findRelated?, if_neg different.symm]
    next =>
      split
      next => rw [findRelated?, if_neg different.symm]
      next => simp only [findRelated?, ih]

/-- After a change, what is found under the name is the changed record; without one, either
nothing was there or it could not be changed. -/
theorem findRelated?_modifyRelated? (name : String) (change : Record → Option Record)
    (entries : List (String × Record)) :
    (modifyRelated? name change entries).bind (findRelated? name) =
      (findRelated? name entries).bind change := by
  induction entries with
  | nil => rfl
  | cons entry entries ih =>
    unfold modifyRelated?
    split
    next same =>
      cases changed : change entry.2 <;> simp [findRelated?, same, changed]
    next different =>
      rw [findRelated?, if_neg different, ← ih]
      cases modifyRelated? name change entries <;> simp [findRelated?, different]

theorem modifyRelated?_isSome (name : String) (change : Record → Option Record)
    (entries : List (String × Record)) :
    (modifyRelated? name change entries).isSome =
      ((findRelated? name entries).bind change).isSome := by
  induction entries with
  | nil => rfl
  | cons entry entries ih =>
    unfold modifyRelated?
    split
    next same => simp [findRelated?, same]
    next different => simp [findRelated?, different, ih]

namespace Record

/-- What is attached is found again. -/
theorem related?_attach (record child : Record) (name : String) :
    (record.attach name child).related? name = some child :=
  findRelated?_insertRelated name child record.related

/-- Other relations are not touched. -/
theorem related?_attach_of_ne (record child : Record) {name other : String}
    (different : other ≠ name) :
    (record.attach name child).related? other = record.related? other :=
  findRelated?_insertRelated_of_ne different child record.related

/-- A change at the end of a path is possible exactly where a record is found there. -/
theorem modifyAt?_isSome (change : Record → Record) (record : Record) (path : List String) :
    (record.modifyAt? change path).isSome = (record.at? path).isSome := by
  induction path generalizing record with
  | nil => rfl
  | cons name names ih =>
    rw [modifyAt?, Option.isSome_map, modifyRelated?_isSome, at?, related?]
    cases findRelated? name record.related with
    | none => rfl
    | some child => exact ih child

/-- A change at the end of a path is found there. -/
theorem at?_modifyAt? (change : Record → Record) (record : Record) (path : List String) :
    (record.modifyAt? change path).bind (·.at? path) = (record.at? path).map change := by
  induction path generalizing record with
  | nil => rfl
  | cons name names ih =>
    have found := findRelated?_modifyRelated? name (·.modifyAt? change names) record.related
    have possible := modifyRelated?_isSome name (·.modifyAt? change names) record.related
    simp only [modifyAt?, at?, related?]
    cases changed : modifyRelated? name (·.modifyAt? change names) record.related with
    | none =>
      rw [changed] at possible
      cases before : findRelated? name record.related with
      | none => rfl
      | some child =>
        rw [before] at possible
        have missing : (child.at? names).isSome = false := by
          rw [← modifyAt?_isSome change]
          exact possible.symm
        simp only [Option.isSome_eq_false_iff, Option.isNone_iff_eq_none] at missing
        simp [missing]
    | some related =>
      rw [changed] at found
      cases before : findRelated? name record.related with
      | none =>
        rw [before] at found
        have nothing : findRelated? name related = none := found
        simp [nothing]
      | some child =>
        rw [before] at found
        have after : findRelated? name related = child.modifyAt? change names := found
        simpa [after] using ih child

end Record

end PreparedSql
