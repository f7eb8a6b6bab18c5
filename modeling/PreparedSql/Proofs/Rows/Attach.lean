import Mathlib.Data.String.Basic
import PreparedSql.Record.Basic

/-! What attaching a record does to a graph: the new record is found at the end of its path, and
everything that is not below it stays. Attaching keeps the names of a record sorted, so that
what is reached by a path is found by it, and nothing else hides in the graph. -/

namespace PreparedSql

section Entries

variable {name other : String} {record child : Record} {entries changed : List (String × Record)}
  {change : Record → Option Record}

theorem findRelated?_modifyRelated?_of_ne (different : other ≠ name)
    (modified : modifyRelated? name change entries = some changed) :
    findRelated? other changed = findRelated? other entries := by
  induction entries generalizing changed with
  | nil => cases modified
  | cons entry entries ih =>
    unfold modifyRelated? at modified
    split at modified
    next same =>
      obtain ⟨next, -, rfl⟩ := Option.map_eq_some_iff.1 modified
      have passed : entry.1 ≠ other := fun here => different (here.symm.trans same)
      rw [findRelated?, findRelated?, if_neg passed, if_neg passed]
    next =>
      obtain ⟨rest, later, rfl⟩ := Option.map_eq_some_iff.1 modified
      rw [findRelated?, findRelated?, ih later]

theorem modifyRelated?_names (modified : modifyRelated? name change entries = some changed) :
    changed.map Prod.fst = entries.map Prod.fst := by
  induction entries generalizing changed with
  | nil => cases modified
  | cons entry entries ih =>
    unfold modifyRelated? at modified
    split at modified
    next =>
      obtain ⟨next, -, rfl⟩ := Option.map_eq_some_iff.1 modified
      rfl
    next =>
      obtain ⟨rest, later, rfl⟩ := Option.map_eq_some_iff.1 modified
      rw [List.map_cons, List.map_cons, ih later]

theorem mem_of_modifyRelated? (modified : modifyRelated? name change entries = some changed)
    (member : (other, record) ∈ changed) :
    (other, record) ∈ entries ∨
      ∃ before, (other, before) ∈ entries ∧ change before = some record := by
  induction entries generalizing changed with
  | nil => cases modified
  | cons entry entries ih =>
    unfold modifyRelated? at modified
    split at modified
    next =>
      obtain ⟨next, made, rfl⟩ := Option.map_eq_some_iff.1 modified
      rcases List.mem_cons.1 member with same | later
      · cases same
        exact Or.inr ⟨entry.2, List.mem_cons_self, made⟩
      · exact Or.inl (List.mem_cons_of_mem entry later)
    next =>
      obtain ⟨rest, later, rfl⟩ := Option.map_eq_some_iff.1 modified
      rcases List.mem_cons.1 member with rfl | inside
      · exact Or.inl List.mem_cons_self
      · rcases ih later inside with old | ⟨before, old, made⟩
        · exact Or.inl (List.mem_cons_of_mem entry old)
        · exact Or.inr ⟨before, List.mem_cons_of_mem entry old, made⟩

theorem mem_of_insertRelated (member : (other, record) ∈ insertRelated name child entries) :
    (other, record) = (name, child) ∨ (other, record) ∈ entries := by
  induction entries with
  | nil => exact Or.inl (List.mem_singleton.1 member)
  | cons entry entries ih =>
    unfold insertRelated at member
    split at member
    next => exact (List.mem_cons.1 member).imp_right (List.mem_cons_of_mem entry)
    next =>
      split at member
      next => exact List.mem_cons.1 member
      next =>
        rcases List.mem_cons.1 member with rfl | later
        · exact Or.inr List.mem_cons_self
        · exact (ih later).imp_right (List.mem_cons_of_mem entry)

/-- Each name stands once, in order. -/
def SortedNames (entries : List (String × Record)) : Prop :=
  entries.Pairwise fun first second => first.1 < second.1

namespace SortedNames

theorem insertRelated (sorted : SortedNames entries) :
    SortedNames (insertRelated name child entries) := by
  induction entries with
  | nil => exact List.pairwise_singleton _ _
  | cons entry entries ih =>
    obtain ⟨first, rest⟩ := List.pairwise_cons.1 sorted
    unfold PreparedSql.insertRelated
    split
    next same => exact List.pairwise_cons.2 ⟨fun later member => same ▸ first later member, rest⟩
    next different =>
      split
      next before =>
        refine List.pairwise_cons.2 ⟨fun later member => ?_, sorted⟩
        rcases List.mem_cons.1 member with rfl | inside
        · exact before
        · exact lt_trans before (first later inside)
      next behind =>
        have after : entry.1 < name := lt_of_le_of_ne (not_lt.1 behind) (Ne.symm different)
        refine List.pairwise_cons.2 ⟨fun later member => ?_, ih rest⟩
        rcases mem_of_insertRelated member with same | inside
        · cases same
          exact after
        · exact first later inside

theorem modifyRelated? (sorted : SortedNames entries)
    (modified : modifyRelated? name change entries = some changed) : SortedNames changed := by
  have names := modifyRelated?_names modified
  rw [SortedNames, ← List.pairwise_map] at sorted ⊢
  rwa [names]

/-- The first record of a name is the only one. -/
theorem findRelated?_eq_some_iff (sorted : SortedNames entries) :
    findRelated? name entries = some record ↔ (name, record) ∈ entries := by
  induction entries with
  | nil => simp [findRelated?]
  | cons entry entries ih =>
    obtain ⟨first, rest⟩ := List.pairwise_cons.1 sorted
    rw [findRelated?, List.mem_cons]
    split
    next same =>
      rw [Option.some.injEq]
      constructor
      · rintro rfl
        exact Or.inl (Prod.ext same.symm rfl)
      · rintro (here | later)
        · rw [← here]
        · exact absurd (first (name, record) later) (same ▸ lt_irrefl _)
    next different =>
      rw [ih rest]
      refine ⟨Or.inr, ?_⟩
      rintro (here | later)
      · exact absurd (congrArg Prod.fst here).symm different
      · exact later

end SortedNames

end Entries

namespace Record

/-- What a record says by itself, whatever is attached to it. -/
def content (record : Record) : String × List (String × Value) :=
  (record.table, record.values)

def contentAt? (record : Record) (path : List String) : Option (String × List (String × Value)) :=
  (record.at? path).map content

variable {record changed child : Record} {name other : String} {path names : List String}
  {change : Record → Record}

/-- A change further down goes through one related record and keeps everything beside it. -/
theorem modifyAt?_cons (modified : record.modifyAt? change (name :: names) = some changed) :
    ∃ before after, record.related? name = some before ∧
      before.modifyAt? change names = some after ∧ changed.related? name = some after ∧
      (∀ other, other ≠ name → changed.related? other = record.related? other) ∧
      changed.content = record.content := by
  obtain ⟨related, done, rfl⟩ := Option.map_eq_some_iff.1 modified
  have found := findRelated?_modifyRelated? name (·.modifyAt? change names) record.related
  have possible := modifyRelated?_isSome name (·.modifyAt? change names) record.related
  rw [done] at found possible
  obtain ⟨after, passed⟩ := Option.isSome_iff_exists.1 possible.symm
  obtain ⟨before, here, made⟩ := Option.bind_eq_some_iff.1 passed
  exact ⟨before, after, here, made, found.trans passed,
    fun other different => findRelated?_modifyRelated?_of_ne different done, rfl⟩

theorem at?_cons (record : Record) (name : String) (names : List String) :
    record.at? (name :: names) = (record.related? name).bind (·.at? names) := rfl

/-- A path is followed part by part. -/
theorem at?_append (record : Record) (front back : List String) :
    record.at? (front ++ back) = (record.at? front).bind (·.at? back) := by
  induction front generalizing record with
  | nil => rfl
  | cons name front ih =>
    rw [List.cons_append, at?_cons, at?_cons]
    cases record.related? name with
    | none => rfl
    | some child => exact ih child

/-- A path that is not found breaks off at a record without the next relation. -/
theorem at?_eq_none_iff : record.at? names = none ↔
    ∃ front name back parent, names = front ++ name :: back ∧ record.at? front = some parent ∧
      parent.related? name = none := by
  constructor
  · intro missing
    induction names generalizing record with
    | nil => cases missing
    | cons name names ih =>
      rw [at?_cons] at missing
      cases related : record.related? name with
      | none => exact ⟨[], name, names, record, rfl, rfl, related⟩
      | some child =>
        rw [related] at missing
        obtain ⟨front, next, back, parent, rfl, found, lacking⟩ := ih missing
        refine ⟨name :: front, next, back, parent, rfl, ?_, lacking⟩
        rw [at?_cons, related]
        exact found
  · rintro ⟨front, name, back, parent, rfl, found, lacking⟩
    rw [at?_append, found, Option.bind_some, at?_cons, lacking]
    rfl

/-- From the changed record on, the graph goes on as what it has become. -/
theorem at?_modified {object : Record} (modified : record.modifyAt? change path = some changed)
    (there : record.at? path = some object) (names : List String) :
    changed.at? (path ++ names) = (change object).at? names := by
  have here := at?_modifyAt? change record path
  rw [modified, there] at here
  rw [at?_append, show changed.at? path = some (change object) from here]
  rfl

/-- Everywhere else the graph says what it has said. -/
theorem contentAt?_modified (modified : record.modifyAt? change path = some changed)
    (apart : ¬ path <+: names) : changed.contentAt? names = record.contentAt? names := by
  induction path generalizing record changed names with
  | nil => exact absurd List.nil_prefix apart
  | cons step path ih =>
    obtain ⟨before, after, here, made, found, beside, same⟩ := modifyAt?_cons modified
    cases names with
    | nil => exact congrArg some same
    | cons first rest =>
      rw [contentAt?, contentAt?, at?_cons, at?_cons]
      by_cases onWay : first = step
      · subst onWay
        rw [here, found]
        exact ih made fun deeper => apart (List.cons_prefix_cons.2 ⟨rfl, deeper⟩)
      · rw [beside first onWay]

/-- What can be changed is there. -/
theorem exists_at? (modified : record.modifyAt? change path = some changed) :
    ∃ object, record.at? path = some object := by
  rw [← Option.isSome_iff_exists, ← modifyAt?_isSome change, modified]
  rfl

/-- Where a record has been attached, the graph goes on as that record. -/
theorem at?_attached (attached : record.modifyAt? (·.attach name child) path = some changed)
    (names : List String) : changed.at? (path ++ name :: names) = child.at? names := by
  obtain ⟨object, there⟩ := exists_at? attached
  rw [at?_modified attached there, at?_cons, related?_attach]
  rfl

/-- Attaching changes nothing but what is below the new relation. -/
theorem contentAt?_attached (attached : record.modifyAt? (·.attach name child) path = some changed)
    (apart : ¬ path ++ [name] <+: names) : changed.contentAt? names = record.contentAt? names := by
  by_cases below : path <+: names
  · obtain ⟨rest, rfl⟩ := below
    obtain ⟨object, there⟩ := exists_at? attached
    unfold contentAt?
    rw [at?_modified attached there, at?_append, there, Option.bind_some]
    cases rest with
    | nil => rfl
    | cons first rest =>
      have different : first ≠ name := by
        rintro rfl
        exact apart ⟨rest, by rw [List.append_assoc]; rfl⟩
      rw [at?_cons, at?_cons, related?_attach_of_ne object child different]
  · exact contentAt?_modified attached below

/-- The names of the attached records are sorted, in these records too. -/
inductive Sorted : Record → Prop where
  | intro {record : Record} : SortedNames record.related →
      (∀ name child, (name, child) ∈ record.related → Sorted child) → Sorted record

/-- A record that can be reached in a graph, by any of the attached ones on the way. -/
inductive Holds : Record → List String → Record → Prop where
  | here (record : Record) : Holds record [] record
  | further {record child found : Record} {name : String} {names : List String} :
      (name, child) ∈ record.related → Holds child names found → Holds record (name :: names) found

namespace Sorted

theorem of_related_nil (nothing : record.related = []) : record.Sorted := by
  refine .intro ?_ ?_
  · rw [nothing]
    exact List.Pairwise.nil
  · intro name child member
    rw [nothing] at member
    cases member

theorem attach (sorted : record.Sorted) (below : child.Sorted) :
    (record.attach name child).Sorted := by
  obtain ⟨names, children⟩ := sorted
  refine .intro names.insertRelated fun other found member => ?_
  rcases mem_of_insertRelated member with new | old
  · cases new
    exact below
  · exact children other found old

theorem modifyAt? (sorted : record.Sorted)
    (each : ∀ found : Record, found.Sorted → (change found).Sorted)
    (modified : record.modifyAt? change path = some changed) : changed.Sorted := by
  induction path generalizing record changed with
  | nil =>
    cases modified
    exact each record sorted
  | cons name names ih =>
    obtain ⟨related, done, rfl⟩ := Option.map_eq_some_iff.1 modified
    obtain ⟨sortedNames, children⟩ := sorted
    refine .intro (sortedNames.modifyRelated? done) fun other found member => ?_
    rcases mem_of_modifyRelated? done member with old | ⟨before, old, made⟩
    · exact children other found old
    · exact ih (children other before old) made

/-- What can be reached by a path is what is found at its end. -/
theorem holds_iff {found : Record} (sorted : record.Sorted) :
    record.Holds names found ↔ record.at? names = some found := by
  induction names generalizing record with
  | nil =>
    constructor
    · rintro ⟨⟩
      rfl
    · intro same
      cases same
      exact .here _
  | cons name names ih =>
    obtain ⟨sortedNames, children⟩ := sorted
    rw [at?_cons, Option.bind_eq_some_iff]
    constructor
    · intro reached
      cases reached with
      | @further _ child _ _ _ member rest =>
        exact ⟨child, sortedNames.findRelated?_eq_some_iff.2 member,
          (ih (children name child member)).1 rest⟩
    · rintro ⟨child, related, rest⟩
      have member := sortedNames.findRelated?_eq_some_iff.1 related
      exact .further member ((ih (children name child member)).2 rest)

end Sorted

end Record

end PreparedSql
