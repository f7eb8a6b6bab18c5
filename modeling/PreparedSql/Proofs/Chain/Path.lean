import Mathlib.Data.List.Induction
import Mathlib.Data.List.Nodup
import PreparedSql.Join.Chain
import PreparedSql.Proofs.Attempt

/-! Paths through a list of joins: the relations on the links from the primary table down to a
join. A path is what is found by following the links; where every link leads to an earlier relation
join, each relation join has one. -/

namespace PreparedSql.Chain

variable {joins : List JoinEntry}

/-- The relations on the way from the primary table to a place of the list. Without a place,
the way ends at the primary table itself. -/
inductive Path (joins : List JoinEntry) : Option Nat → List String → Prop where
  | primary : Path joins none []
  | hop {index : Nat} {hop : Hop} {names : List String} :
      hopAt? joins index = some hop → Path joins hop.previous names →
        Path joins (some index) (names ++ [hop.relation])

/-- Every relation join that continues another one continues an earlier relation join. -/
def Ordered (joins : List JoinEntry) : Prop :=
  ∀ index hop previous, hopAt? joins index = some hop → hop.previous = some previous →
    previous < index ∧ ∃ before, hopAt? joins previous = some before

/-- No two relation joins follow the same relation from the same place. -/
def Distinct (joins : List JoinEntry) : Prop :=
  ∀ first second hop, hopAt? joins first = some hop → hopAt? joins second = some hop →
    first = second

theorem hopAt?_eq_some {index : Nat} {hop : Hop} :
    hopAt? joins index = some hop ↔
      ∃ entry, joins[index]? = some entry ∧ entry.hop = some hop :=
  Option.bind_eq_some_iff

theorem lt_length_of_hopAt? {index : Nat} {hop : Hop} (here : hopAt? joins index = some hop) :
    index < joins.length := by
  obtain ⟨entry, found, -⟩ := hopAt?_eq_some.1 here
  exact (List.getElem?_eq_some_iff.1 found).1

/-- No hop stands twice in the list. -/
theorem distinct_of_nodup (nodup : (joins.filterMap JoinEntry.hop).Nodup) : Distinct joins := by
  have apart : joins.Pairwise fun before after =>
      ∀ hop, before.hop = some hop → after.hop ≠ some hop := by
    refine (List.pairwise_filterMap.1 nodup).imp fun different hop here there => ?_
    exact different hop here hop there rfl
  have behind (first second : Nat) (hop : Hop) (later : first < second)
      (here : hopAt? joins first = some hop) : hopAt? joins second ≠ some hop := by
    intro there
    obtain ⟨entry, found, own⟩ := hopAt?_eq_some.1 here
    obtain ⟨other, found', own'⟩ := hopAt?_eq_some.1 there
    obtain ⟨bound, rfl⟩ := List.getElem?_eq_some_iff.1 found
    obtain ⟨bound', rfl⟩ := List.getElem?_eq_some_iff.1 found'
    exact List.pairwise_iff_getElem.1 apart first second bound bound' later hop own own'
  intro first second hop here there
  rcases Nat.lt_trichotomy first second with before | same | after
  · exact absurd there (behind first second hop before here)
  · exact same
  · exact absurd here (behind second first hop after there)

namespace Path

variable {place other : Option Nat} {names : List String}

theorem nil_iff : Path joins place [] ↔ place = none := by
  constructor
  · intro path
    generalize empty : ([] : List String) = names at path
    cases path with
    | primary => rfl
    | hop here rest => simp at empty
  · rintro rfl
    exact .primary

/-- The last relation of a path is that of the join it leads to. -/
theorem append_singleton_iff {relation : String} :
    Path joins place (names ++ [relation]) ↔
      ∃ index hop, place = some index ∧ hopAt? joins index = some hop ∧
        hop.relation = relation ∧ Path joins hop.previous names := by
  constructor
  · intro path
    generalize same : names ++ [relation] = whole at path
    cases path with
    | primary => simp at same
    | @hop index hop front here rest =>
      obtain ⟨rfl, last⟩ := List.append_inj' same rfl
      exact ⟨index, hop, rfl, here, (List.singleton_inj.1 last).symm, rest⟩
  · rintro ⟨index, hop, rfl, here, rfl, rest⟩
    exact .hop here rest

/-- A place is reached by one path only. -/
theorem eq_of_place (path : Path joins place names) {others : List String}
    (second : Path joins place others) : names = others := by
  induction path generalizing others with
  | primary => cases second; rfl
  | hop here rest ih =>
    cases second with
    | hop again more =>
      rw [here] at again
      cases again
      rw [ih more]

/-- A path leads to one place only. -/
theorem eq_of_names (distinct : Distinct joins) (path : Path joins place names)
    (second : Path joins other names) : place = other := by
  induction path generalizing other with
  | primary => rw [nil_iff.1 second]
  | @hop index hop names here rest ih =>
    obtain ⟨index', ⟨relation, previous⟩, rfl, again, same, more⟩ :=
      append_singleton_iff.1 second
    obtain rfl : hop.previous = previous := ih more
    subst same
    rw [distinct index index' hop here again]

/-- The first part of a path leads to a place further up. -/
theorem exists_of_append (ordered : Ordered joins) {index : Nat} {front back : List String}
    (more : back ≠ []) (path : Path joins (some index) (front ++ back)) :
    ∃ place, Path joins place front ∧ ∀ before, place = some before → before < index := by
  induction back using List.reverseRecOn generalizing index with
  | nil => exact absurd rfl more
  | append_singleton back last ih =>
    rw [← List.append_assoc] at path
    obtain ⟨_, hop, same, here, -, rest⟩ := append_singleton_iff.1 path
    cases same
    cases back with
    | nil =>
      rw [List.append_nil] at rest
      exact ⟨hop.previous, rest, fun before linked => (ordered _ hop before here linked).1⟩
    | cons name back =>
      cases linked : hop.previous with
      | none =>
        rw [linked] at rest
        have empty : front ++ name :: back = [] := rest.eq_of_place .primary
        simp at empty
      | some previous =>
        rw [linked] at rest
        have above := (ordered _ hop previous here linked).1
        obtain ⟨place, path, earlier⟩ := ih (List.cons_ne_nil name back) rest
        exact ⟨place, path, fun before same => Nat.lt_trans (earlier before same) above⟩

/-- The places on a path are as many as its relations, and no place is met twice: it would have a
path longer than itself. -/
theorem exists_places (path : Path joins place names) :
    ∃ places : List Nat, places.length = names.length ∧ places.Nodup ∧
      ∀ index ∈ places, index < joins.length ∧
        ∃ front, Path joins (some index) front ∧ front.length ≤ names.length := by
  induction path with
  | primary => exact ⟨[], rfl, List.nodup_nil, List.forall_mem_nil _⟩
  | @hop index hop names here rest ih =>
    obtain ⟨places, length, nodup, each⟩ := ih
    have whole : Path joins (some index) (names ++ [hop.relation]) := .hop here rest
    have longer : (names ++ [hop.relation]).length = names.length + 1 := List.length_append
    have fresh : index ∉ places := by
      intro again
      obtain ⟨-, front, shorter, bound⟩ := each index again
      rw [shorter.eq_of_place whole] at bound
      omega
    refine ⟨index :: places, by rw [longer, ← length]; rfl, List.nodup_cons.2 ⟨fresh, nodup⟩, ?_⟩
    refine List.forall_mem_cons.2 ⟨⟨lt_length_of_hopAt? here, _, whole, Nat.le_refl _⟩, ?_⟩
    intro earlier member
    obtain ⟨inside, front, shorter, bound⟩ := each earlier member
    exact ⟨inside, front, shorter, by omega⟩

/-- A path has no more relations than the list has joins. -/
theorem length_le (path : Path joins place names) : names.length ≤ joins.length := by
  obtain ⟨places, length, nodup, each⟩ := path.exists_places
  have inside : places ⊆ List.range joins.length :=
    fun index member => List.mem_range.2 (each index member).1
  have bound := nodup.length_le_of_subset inside
  rwa [length, List.length_range] at bound

end Path

/-- With a given number of steps, following the links finds just the paths of at most so many
relations. -/
theorem pathTo_eq_ok_iff {steps : Nat} {place : Option Nat} {names : List String} :
    pathTo joins steps place = .ok names ↔ Path joins place names ∧ names.length ≤ steps := by
  induction steps generalizing place names with
  | zero =>
    cases place with
    | none =>
      constructor
      · rintro ⟨⟩
        exact ⟨.primary, Nat.le_refl 0⟩
      · rintro ⟨path, -⟩
        rw [path.eq_of_place .primary]
        rfl
    | some index =>
      refine ⟨nofun, fun ⟨path, short⟩ => ?_⟩
      rw [List.length_eq_zero_iff.1 (Nat.le_zero.1 short)] at path
      cases Path.nil_iff.1 path
  | succ steps ih =>
    cases place with
    | none =>
      constructor
      · rintro ⟨⟩
        exact ⟨.primary, Nat.zero_le _⟩
      · rintro ⟨path, -⟩
        rw [path.eq_of_place .primary]
        rfl
    | some index =>
      cases here : hopAt? joins index with
      | none =>
        have stuck : pathTo joins (steps + 1) (some index) = .error (.notRelation index) := by
          simp only [pathTo, here]
        rw [stuck]
        refine ⟨nofun, fun ⟨path, _⟩ => ?_⟩
        cases path with
        | hop there rest => cases here.symm.trans there
      | some hop =>
        have further : pathTo joins (steps + 1) (some index) =
            (pathTo joins steps hop.previous).map (· ++ [hop.relation]) := by
          simp only [pathTo, here]
        rw [further, Attempt.map_eq_ok]
        constructor
        · rintro ⟨front, found, rfl⟩
          obtain ⟨path, short⟩ := ih.1 found
          refine ⟨.hop here path, ?_⟩
          rw [List.length_append]
          exact Nat.succ_le_succ short
        · rintro ⟨path, short⟩
          cases path with
          | @hop _ again front there rest =>
            cases here.symm.trans there
            rw [List.length_append] at short
            exact ⟨front, ih.2 ⟨rest, Nat.le_of_succ_le_succ short⟩, rfl⟩

/-- As many steps as there are joins are enough for every path, in whatever way the list is
linked. -/
theorem parentPath_eq_ok_iff {hop : Hop} {names : List String} :
    parentPath joins hop = .ok names ↔ Path joins hop.previous names := by
  have lifted : parentPath joins hop = .ok names ↔
      pathTo joins joins.length hop.previous = .ok names := by
    unfold parentPath
    cases pathTo joins joins.length hop.previous <;> simp [Except.mapError]
  rw [lifted, pathTo_eq_ok_iff]
  exact ⟨And.left, fun path => ⟨path, path.length_le⟩⟩

/-- A join has a path when the joins it continues have one, so by going down the list all do. -/
theorem exists_path (ordered : Ordered joins) {index : Nat} {hop : Hop}
    (here : hopAt? joins index = some hop) : ∃ names, Path joins hop.previous names := by
  induction index using Nat.strongRecOn generalizing hop with
  | ind index ih =>
    cases linked : hop.previous with
    | none => exact ⟨[], .primary⟩
    | some previous =>
      obtain ⟨above, before, there⟩ := ordered index hop previous here linked
      obtain ⟨names, path⟩ := ih previous above there
      exact ⟨names ++ [before.relation], .hop there path⟩

theorem checkLink_eq_ok_iff {index : Nat} {entry : JoinEntry} :
    checkLink joins index entry = .ok () ↔
      ∀ hop previous, entry.hop = some hop → hop.previous = some previous →
        previous < index ∧ ∃ before, hopAt? joins previous = some before := by
  unfold checkLink
  split
  next unlinked =>
    refine ⟨fun _ hop previous here linked => ?_, fun _ => rfl⟩
    simp [here, linked] at unlinked
  next previous linked =>
    obtain ⟨hop, here, continues⟩ := Option.bind_eq_some_iff.1 linked
    constructor
    · intro passed hop' previous' here' continues'
      cases here.symm.trans here'
      cases continues.symm.trans continues'
      split at passed
      next => cases passed
      next earlier =>
        split at passed
        next => cases passed
        next present =>
          exact ⟨Nat.lt_of_not_le earlier, Option.ne_none_iff_exists'.1 (by simpa using present)⟩
    · intro links
      obtain ⟨earlier, before, there⟩ := links hop previous here continues
      rw [if_neg (Nat.not_le_of_lt earlier), there]
      rfl

theorem checkLinks_eq_ok_iff {index : Nat} {entries : List JoinEntry} :
    checkLinks joins index entries = .ok () ↔
      ∀ offset entry, entries[offset]? = some entry →
        checkLink joins (index + offset) entry = .ok () := by
  induction entries generalizing index with
  | nil => simp [checkLinks]
  | cons first rest ih =>
    unfold checkLinks
    rw [Attempt.bind_eq_ok]
    simp only [ih]
    constructor
    · rintro ⟨⟨⟩, here, later⟩ offset entry found
      cases offset with
      | zero => cases found; exact here
      | succ offset =>
        rw [← Nat.add_assoc, Nat.add_right_comm]
        exact later offset entry found
    · intro all
      refine ⟨(), all 0 first rfl, fun offset entry found => ?_⟩
      rw [Nat.add_right_comm, Nat.add_assoc]
      exact all (offset + 1) entry found

/-- The chains of a list pass the check just when every link leads to an earlier relation
join. -/
theorem check_eq_ok_iff : check joins = .ok () ↔ Ordered joins := by
  have lifted : check joins = .ok () ↔ checkLinks joins 0 joins = .ok () := by
    unfold check
    cases checkLinks joins 0 joins <;> simp [Except.mapError]
  rw [lifted, checkLinks_eq_ok_iff]
  simp only [Nat.zero_add, checkLink_eq_ok_iff]
  constructor
  · intro links index hop previous here linked
    obtain ⟨entry, found, same⟩ := hopAt?_eq_some.1 here
    exact links index entry found hop previous same linked
  · intro ordered index entry found hop previous same linked
    exact ordered index hop previous (hopAt?_eq_some.2 ⟨entry, found, same⟩) linked

section Growing

variable {entry : JoinEntry}

theorem getElem?_append_iff {found : JoinEntry} {index : Nat} :
    (joins ++ [entry])[index]? = some found ↔
      joins[index]? = some found ∨ index = joins.length ∧ entry = found := by
  rcases Nat.lt_trichotomy index joins.length with below | rfl | above
  · rw [List.getElem?_append_left below]
    simp [Nat.ne_of_lt below]
  · simp
  · have beyond : joins[index]? = none := List.getElem?_eq_none (Nat.le_of_lt above)
    have outside : (joins ++ [entry])[index]? = none :=
      List.getElem?_eq_none (by rw [List.length_append]; exact above)
    simp [beyond, outside, Nat.ne_of_gt above]

theorem hopAt?_append_iff {index : Nat} {hop : Hop} :
    hopAt? (joins ++ [entry]) index = some hop ↔
      hopAt? joins index = some hop ∨ index = joins.length ∧ entry.hop = some hop := by
  simp only [hopAt?_eq_some, getElem?_append_iff]
  constructor
  · rintro ⟨found, here | ⟨last, rfl⟩, same⟩
    · exact Or.inl ⟨found, here, same⟩
    · exact Or.inr ⟨last, same⟩
  · rintro (⟨found, here, same⟩ | ⟨last, same⟩)
    · exact ⟨found, Or.inl here, same⟩
    · exact ⟨entry, Or.inr ⟨last, rfl⟩, same⟩

theorem Distinct.append (distinct : Distinct joins)
    (fresh : ∀ index hop, entry.hop = some hop → hopAt? joins index ≠ some hop) :
    Distinct (joins ++ [entry]) := by
  intro first second hop here again
  rcases hopAt?_append_iff.1 here with old | ⟨rfl, new⟩ <;>
    rcases hopAt?_append_iff.1 again with old' | ⟨rfl, new'⟩
  · exact distinct first second hop old old'
  · exact absurd old (fresh first hop new')
  · exact absurd old' (fresh second hop new)
  · rfl

namespace Path

variable {place : Option Nat} {names : List String}

theorem append (path : Path joins place names) : Path (joins ++ [entry]) place names := by
  induction path with
  | primary => exact .primary
  | hop here rest ih => exact .hop (hopAt?_append_iff.2 (Or.inl here)) ih

/-- A path to a place of the shorter list does not come by the new join. -/
theorem of_append (ordered : Ordered (joins ++ [entry]))
    (path : Path (joins ++ [entry]) place names)
    (inside : ∀ index, place = some index → index < joins.length) : Path joins place names := by
  induction path with
  | primary => exact .primary
  | @hop index hop names here rest ih =>
    rcases hopAt?_append_iff.1 here with old | ⟨last, -⟩
    · refine .hop old (ih fun previous linked => ?_)
      have above := (ordered index hop previous here linked).1
      exact Nat.lt_trans above (inside index rfl)
    · exact absurd last (Nat.ne_of_lt (inside index rfl))

end Path

/-- The new join adds its own path. -/
theorem exists_path_append_iff (ordered : Ordered (joins ++ [entry])) {names : List String} :
    (∃ index, Path (joins ++ [entry]) (some index) names) ↔
      (∃ index, Path joins (some index) names) ∨
        ∃ hop front, entry.hop = some hop ∧ Path joins hop.previous front ∧
          names = front ++ [hop.relation] := by
  constructor
  · rintro ⟨index, path⟩
    cases path with
    | @hop index hop front here rest =>
      have inside : ∀ previous, hop.previous = some previous → previous < joins.length := by
        intro previous linked
        have above := (ordered index hop previous here linked).1
        have bound := lt_length_of_hopAt? here
        rw [List.length_append, List.length_singleton] at bound
        omega
      have before := rest.of_append ordered inside
      rcases hopAt?_append_iff.1 here with old | ⟨-, new⟩
      · exact Or.inl ⟨index, .hop old before⟩
      · exact Or.inr ⟨hop, front, new, before, rfl⟩
  · rintro (⟨index, path⟩ | ⟨hop, front, new, before, rfl⟩)
    · exact ⟨index, path.append⟩
    · exact ⟨joins.length, .hop (hopAt?_append_iff.2 (Or.inr ⟨rfl, new⟩)) before.append⟩

end Growing

end PreparedSql.Chain
