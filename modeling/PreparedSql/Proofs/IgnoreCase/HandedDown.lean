import PreparedSql.Proofs.IgnoreCase.Nearest

/-! Predicates as they are built, call by call. The calls hand flags down at two moments, when a
node is flagged and when a child is added to a flagged node. As long as no node is flagged twice,
nothing of this can be told from the outcome: it is that of a tree in which each flag stays where it
was set. -/

namespace PreparedSql

namespace Predicate

/-- Adds a child as it is. -/
def attach (predicate child : Predicate) : Predicate :=
  match predicate with
  | .node settings connective children => .node settings connective (children ++ [child])
  | .leaf settings test => all [.leaf settings test, child]

def attachAnd (predicate other : Predicate) : Predicate :=
  match predicate with
  | .node settings .and children => attach (.node settings .and children) other
  | _ => all [predicate, other]

def attachOr (predicate other : Predicate) : Predicate :=
  match predicate with
  | .node settings .or children => attach (.node settings .or children) other
  | _ => any [predicate, other]

end Predicate

/-- The calls that build a predicate from tests. -/
inductive Draft where
  | ofTest (test : Test)
  | all (children : List Draft)
  | any (children : List Draft)
  | push (draft child : Draft)
  | and (draft other : Draft)
  | or (draft other : Draft)
  | inTable (table : TableRef) (draft : Draft)
  | ignoreCase (flag : Bool) (draft : Draft)

namespace Draft

mutual

/-- The predicate that the calls return. -/
def predicate : Draft → Predicate
  | .ofTest test => .ofTest test
  | .all children => .all (predicates children)
  | .any children => .any (predicates children)
  | .push draft child => draft.predicate.push child.predicate
  | .and draft other => draft.predicate.and other.predicate
  | .or draft other => draft.predicate.or other.predicate
  | .inTable table draft => draft.predicate.inTable table
  | .ignoreCase flag draft => draft.predicate.ignoreCase flag

def predicates : List Draft → List Predicate
  | [] => []
  | draft :: drafts => draft.predicate :: predicates drafts

end

mutual

/-- The same tree with each flag at the node it was set on, and nowhere else. -/
def plain : Draft → Predicate
  | .ofTest test => .ofTest test
  | .all children => .all (plains children)
  | .any children => .any (plains children)
  | .push draft child => draft.plain.attach child.plain
  | .and draft other => draft.plain.attachAnd other.plain
  | .or draft other => draft.plain.attachOr other.plain
  | .inTable table draft => draft.plain.inTable table
  | .ignoreCase flag draft => draft.plain.mark flag

def plains : List Draft → List Predicate
  | [] => []
  | draft :: drafts => draft.plain :: plains drafts

end

mutual

/-- No call flags a node that has been flagged before. -/
def flagsOnce : Draft → Bool
  | .ofTest _ => true
  | .all children | .any children => flagOnce children
  | .push draft other | .and draft other | .or draft other => draft.flagsOnce && other.flagsOnce
  | .inTable _ draft => draft.flagsOnce
  | .ignoreCase _ draft => draft.plain.settings.ignoreCase.isNone && draft.flagsOnce

def flagOnce : List Draft → Bool
  | [] => true
  | draft :: drafts => draft.flagsOnce && flagOnce drafts

end

end Draft

namespace Predicate

theorem spellOutAll_append (outer : Bool) (path : List NodeSettings)
    (children more : List Predicate) :
    spellOutAll outer path (children ++ more) =
      spellOutAll outer path children ++ spellOutAll outer path more := by
  induction children with
  | nil => rfl
  | cons child children ih => rw [List.cons_append, spellOutAll, spellOutAll, ih, List.cons_append]

theorem spellOut_adopt (outer : Bool) (settings : NodeSettings) (child : Predicate) :
    (adopt settings child).spellOut outer [settings] = child.spellOut outer [settings] := by
  unfold adopt
  split
  next flag own =>
    rw [spellOut_inherit, spellOut_above child outer, nearestFlag_cons, own]
    rfl
  next => rfl

mutual

theorem isEmpty_spellOut {outer : Bool} : (predicate : Predicate) → {path : List NodeSettings} →
    (predicate.spellOut outer path).isEmpty = predicate.isEmpty
  | .leaf _ _, _ => rfl
  | .node _ _ children, _ => allEmpty_spellOutAll children

theorem allEmpty_spellOutAll {outer : Bool} : (children : List Predicate) →
    {path : List NodeSettings} →
    allEmpty (spellOutAll outer path children) = allEmpty children
  | [], _ => rfl
  | child :: children, _ => by
      rw [spellOutAll, allEmpty, allEmpty, isEmpty_spellOut child, allEmpty_spellOutAll children]

end

/-- Two predicates with the same settings whose tests have the same flags, whatever the flag around
them. Below the root the flags may be at different nodes. -/
inductive SameFlags : Predicate → Predicate → Prop where
  | leaf (settings : NodeSettings) (test : Test) :
      SameFlags (.leaf settings test) (.leaf settings test)
  | node {settings : NodeSettings} {connective : Connective} {children twins : List Predicate} :
      (∀ outer, spellOutAll outer [settings] children = spellOutAll outer [settings] twins) →
      SameFlags (.node settings connective children) (.node settings connective twins)

namespace SameFlags

variable {predicate other child twin : Predicate}

theorem spellOut_eq (same : SameFlags predicate other) (outer : Bool) (path : List NodeSettings) :
    predicate.spellOut outer path = other.spellOut outer path := by
  rw [spellOut_above predicate, spellOut_above other]
  cases same with
  | leaf settings test => rfl
  | node below => rw [spellOut, spellOut, below]

/-- Two children under a new node. -/
theorem pair (same : SameFlags predicate other) (below : SameFlags child twin)
    (connective : Connective) :
    SameFlags (.node {} connective [predicate, child]) (.node {} connective [other, twin]) := by
  refine .node fun outer => ?_
  simp only [spellOutAll, same.spellOut_eq, below.spellOut_eq]

theorem push (same : SameFlags predicate other) (below : SameFlags child twin) :
    SameFlags (predicate.push child) (other.attach twin) := by
  cases same with
  | leaf settings test => exact (SameFlags.leaf settings test).pair below .and
  | node siblings =>
    -- What the child takes over from the node it would have been given by the node anyway.
    refine .node fun outer => ?_
    rw [spellOutAll_append, spellOutAll_append, siblings]
    simp only [spellOutAll, spellOut_adopt, below.spellOut_eq]

theorem and (same : SameFlags predicate other) (below : SameFlags child twin) :
    SameFlags (predicate.and child) (other.attachAnd twin) := by
  cases same with
  | leaf settings test => exact (SameFlags.leaf settings test).pair below .and
  | @node settings connective children twins siblings =>
    have whole : SameFlags (.node settings connective children)
        (.node settings connective twins) := .node siblings
    cases connective with
    | and => exact whole.push below
    | or => exact whole.pair below .and

theorem or (same : SameFlags predicate other) (below : SameFlags child twin) :
    SameFlags (predicate.or child) (other.attachOr twin) := by
  cases same with
  | leaf settings test => exact (SameFlags.leaf settings test).pair below .or
  | @node settings connective children twins siblings =>
    have whole : SameFlags (.node settings connective children)
        (.node settings connective twins) := .node siblings
    cases connective with
    | and => exact whole.pair below .or
    | or => exact whole.push below

theorem inTable (same : SameFlags predicate other) (table : TableRef) :
    SameFlags (predicate.inTable table) (other.inTable table) := by
  cases same with
  | leaf settings test => exact .leaf _ test
  | @node settings connective children twins below =>
    refine .node fun outer => ?_
    have free (siblings : List Predicate) :
        spellOutAll outer [{ settings with table := some table }] siblings =
          spellOutAll outer [settings] siblings :=
      (spellOutAll_eq_iff siblings).2 (Or.inl rfl)
    rw [free, free, below]

/-- Flagging a node for the first time. Before, its tests followed any flag around it, so the new
flag may as well be written on them. -/
theorem ignoreCase (same : SameFlags predicate other)
    (first : other.settings.ignoreCase = none) (flag : Bool) :
    SameFlags (predicate.ignoreCase flag) (other.mark flag) := by
  cases same with
  | leaf settings test => exact .leaf _ test
  | @node settings connective children twins below =>
    have unset : nearestFlag [settings] flag = flag := by
      rw [nearestFlag_cons, show settings.ignoreCase = none from first]
      rfl
    refine .node fun outer => ?_
    calc spellOutAll outer [{ settings with ignoreCase := some flag }] (inheritAll flag children)
        = spellOutAll flag [] children := spellOutAll_inheritAll flag children
      _ = spellOutAll flag [settings] children := (spellOutAll_of_nearest unset children).symm
      _ = spellOutAll flag [settings] twins := below flag
      _ = spellOutAll flag [] twins := spellOutAll_of_nearest unset twins
      _ = spellOutAll outer [{ settings with ignoreCase := some flag }] twins :=
          (spellOutAll_below_flag outer flag settings.table [] twins).symm

end SameFlags

end Predicate

namespace Draft

mutual

/-- Every call keeps the flags of the tests the same on both sides. -/
theorem sameFlags : (draft : Draft) → draft.flagsOnce = true →
    draft.predicate.SameFlags draft.plain
  | .ofTest test, _ => .leaf {} test
  | .all children, once => .node fun outer => spellOutAll_predicates children once outer [{}]
  | .any children, once => .node fun outer => spellOutAll_predicates children once outer [{}]
  | .push draft child, once => by
      obtain ⟨first, second⟩ := Bool.and_eq_true_iff.1 once
      exact (draft.sameFlags first).push (child.sameFlags second)
  | .and draft other, once => by
      obtain ⟨first, second⟩ := Bool.and_eq_true_iff.1 once
      exact (draft.sameFlags first).and (other.sameFlags second)
  | .or draft other, once => by
      obtain ⟨first, second⟩ := Bool.and_eq_true_iff.1 once
      exact (draft.sameFlags first).or (other.sameFlags second)
  | .inTable table draft, once => (draft.sameFlags once).inTable table
  | .ignoreCase flag draft, once => by
      obtain ⟨free, earlier⟩ := Bool.and_eq_true_iff.1 once
      exact (draft.sameFlags earlier).ignoreCase (Option.isNone_iff_eq_none.1 free) flag

theorem spellOutAll_predicates : (drafts : List Draft) → flagOnce drafts = true →
    ∀ outer path, Predicate.spellOutAll outer path (predicates drafts) =
      Predicate.spellOutAll outer path (plains drafts)
  | [], _ => fun _ _ => rfl
  | draft :: drafts, once => by
      obtain ⟨first, rest⟩ := Bool.and_eq_true_iff.1 once
      intro outer path
      rw [predicates, plains, Predicate.spellOutAll, Predicate.spellOutAll,
        (draft.sameFlags first).spellOut_eq, spellOutAll_predicates drafts rest]

end

end Draft

theorem Predicate.SameFlags.build_eq {predicate other : Predicate}
    (same : predicate.SameFlags other) (dialect : Dialect) :
    predicate.build dialect = other.build dialect := by
  have presence : predicate.isEmpty = other.isEmpty := by
    rw [← isEmpty_spellOut predicate, same.spellOut_eq false [], isEmpty_spellOut]
  unfold Predicate.build
  rw [presence, compile_congr (same.spellOut_eq _ [])]

/-- Where each node is flagged once at most, each test is compiled with the flag of the nearest node
above it that was flagged, itself included, or else with that of the scope; and the predicate comes
out as if no flag had been handed down. -/
theorem handed_down_as_looked_up {draft : Draft} (once : draft.flagsOnce = true)
    (dialect : Dialect) (scope : Scope) :
    (∀ outer, draft.predicate.spellOut outer [] = draft.plain.spellOut outer []) ∧
      draft.predicate.compile dialect scope =
        (draft.plain.spellOut scope.ignoreCase []).compile dialect scope ∧
      draft.predicate.compile dialect scope = draft.plain.compile dialect scope ∧
      draft.predicate.build dialect = draft.plain.build dialect := by
  have same := draft.sameFlags once
  have flags (outer : Bool) : draft.predicate.spellOut outer [] = draft.plain.spellOut outer [] :=
    same.spellOut_eq outer []
  refine ⟨flags, ?_, Predicate.compile_congr (flags _) dialect, same.build_eq dialect⟩
  rw [← flags]
  exact draft.predicate.compile_eq_spellOut dialect scope

def titled (title : String) : Draft :=
  .ofTest (.compareValue (.named "title") .equal (some (.text title)))

/-- Flags before and after the children they are for, and one on a single test. -/
def flaggedDraft : Draft :=
  let ored : Draft := .or (.any [titled "a"]) (.and (.ignoreCase false (titled "b")) (titled "c"))
  let late : Draft := .push (.ignoreCase false (.all [])) (titled "d")
  .inTable notesOfTitles (.push (.push (.ignoreCase true ored) late) (titled "e"))

theorem handed_down_as_looked_up_flaggedDraft :
    flaggedDraft.flagsOnce = true ∧
      flaggedDraft.predicate.compile .postgres {} = flaggedDraft.plain.compile .postgres {} ∧
      (flaggedDraft.plain.compile .postgres {}).map Fragment.sql =
        .ok ("(UPPER(note.title) = UPPER(?) OR (note.title = ? AND UPPER(note.title) = UPPER(?))" ++
          " OR note.title = ? OR UPPER(note.title) = UPPER(?))") := by
  have once : flaggedDraft.flagsOnce = true := rfl
  exact ⟨once, (handed_down_as_looked_up once .postgres {}).2.2.1, rfl⟩

end PreparedSql
