import Mathlib.Logic.Function.Iterate
import Mathlib.Logic.Relation
import PreparedSql.Proofs.Chain.Path

/-! Where following the links goes wrong, in a list of joins that is linked in whatever way. From a
place on the links end at the primary table, and then there is a path, or they lead out of the list
or to a plain join, or they go on for ever. -/

namespace PreparedSql.Chain

variable {joins : List JoinEntry} {start index previous : Nat}

/-- One link: the relation join at the first place continues the second place. -/
def Continues (joins : List JoinEntry) (index previous : Nat) : Prop :=
  ∃ hop, hopAt? joins index = some hop ∧ hop.previous = some previous

/-- The links from a place on do not end at the primary table. -/
inductive Astray (joins : List JoinEntry) (start : Nat) : Prop where
  | outside {index : Nat} : Relation.ReflTransGen (Continues joins) start index →
      joins.length ≤ index → Astray joins start
  | plain {index : Nat} {entry : JoinEntry} :
      Relation.ReflTransGen (Continues joins) start index → joins[index]? = some entry →
        entry.hop = none → Astray joins start
  | endless (walk : Nat → Nat) : walk 0 = start →
      (∀ step, Continues joins (walk step) (walk (step + 1))) → Astray joins start

/-- The links of a hop go astray. -/
def StartsAstray (joins : List JoinEntry) (hop : Hop) : Prop :=
  ∃ start, hop.previous = some start ∧ Astray joins start

theorem hopAt?_eq_none_iff : hopAt? joins index = none ↔
    joins.length ≤ index ∨ ∃ entry, joins[index]? = some entry ∧ entry.hop = none := by
  unfold hopAt?
  cases found : joins[index]? with
  | none => simp [List.getElem?_eq_none_iff.1 found]
  | some entry =>
    have inside := (List.getElem?_eq_some_iff.1 found).1
    simp [Nat.not_le_of_lt inside]

/-- A place has a path just when the place that it continues has one. -/
theorem Continues.exists_path_iff (link : Continues joins index previous) :
    (∃ names, Path joins (some index) names) ↔ ∃ names, Path joins (some previous) names := by
  obtain ⟨hop, here, linked⟩ := link
  constructor
  · rintro ⟨_, path⟩
    cases path with
    | @hop _ again names there rest =>
      cases here.symm.trans there
      exact ⟨names, linked ▸ rest⟩
  · rintro ⟨names, path⟩
    exact ⟨names ++ [hop.relation], .hop here (linked.symm ▸ path)⟩

theorem exists_path_iff_of_reached
    (reached : Relation.ReflTransGen (Continues joins) start index) :
    (∃ names, Path joins (some start) names) ↔ ∃ names, Path joins (some index) names := by
  induction reached with
  | refl => exact Iff.rfl
  | tail _ link ih => exact ih.trans link.exists_path_iff

/-- No path leads along links without an end. -/
theorem Path.not_endless {place : Option Nat} {names : List String}
    (path : Path joins place names) {walk : Nat → Nat}
    (links : ∀ step, Continues joins (walk step) (walk (step + 1))) (step : Nat) :
    place ≠ some (walk step) := by
  induction path generalizing step with
  | primary => exact nofun
  | @hop index hop names here rest ih =>
    intro same
    obtain ⟨again, there, linked⟩ := links step
    cases same
    cases here.symm.trans there
    exact ih (step + 1) linked

/-- Where no link that can be reached is the last one, the links go on for ever. -/
theorem astray_of_continuing
    (each : ∀ index, Relation.ReflTransGen (Continues joins) start index →
      ∃ previous, Continues joins index previous) : Astray joins start := by
  let next (index : Nat) : Nat := ((hopAt? joins index).bind Hop.previous).getD index
  have link (index : Nat) (reached : Relation.ReflTransGen (Continues joins) start index) :
      Continues joins index (next index) := by
    obtain ⟨previous, hop, here, linked⟩ := each index reached
    have same : next index = previous := by simp only [next, here, Option.bind_some, linked,
      Option.getD_some]
    exact same ▸ ⟨hop, here, linked⟩
  have reached (step : Nat) :
      Relation.ReflTransGen (Continues joins) start (next^[step] start) := by
    induction step with
    | zero => exact .refl
    | succ step ih =>
      rw [Function.iterate_succ_apply']
      exact ih.tail (link _ ih)
  refine .endless (fun step => next^[step] start) rfl fun step => ?_
  rw [Function.iterate_succ_apply']
  exact link _ (reached step)

/-- The links from a place go astray just when no path leads to it. -/
theorem astray_iff : Astray joins start ↔ ¬ ∃ names, Path joins (some start) names := by
  constructor
  · intro astray path
    have apart {index : Nat} (reached : Relation.ReflTransGen (Continues joins) start index) :
        hopAt? joins index ≠ none := by
      obtain ⟨names, path⟩ := (exists_path_iff_of_reached reached).1 path
      cases path with
      | hop here rest => simp [here]
    cases astray with
    | outside reached beyond => exact apart reached (hopAt?_eq_none_iff.2 (Or.inl beyond))
    | plain reached found own =>
      exact apart reached (hopAt?_eq_none_iff.2 (Or.inr ⟨_, found, own⟩))
    | endless walk first links =>
      obtain ⟨names, path⟩ := path
      exact path.not_endless links 0 (congrArg some first.symm)
  · intro pathless
    by_cases every : ∀ index, Relation.ReflTransGen (Continues joins) start index →
        ∃ previous, Continues joins index previous
    · exact astray_of_continuing every
    · simp only [not_forall] at every
      obtain ⟨index, reached, last⟩ := every
      cases here : hopAt? joins index with
      | none =>
        rcases hopAt?_eq_none_iff.1 here with beyond | ⟨entry, found, own⟩
        · exact .outside reached beyond
        · exact .plain reached found own
      | some hop =>
        cases linked : hop.previous with
        | some previous => exact absurd ⟨previous, hop, here, linked⟩ last
        | none =>
          have path : Path joins (some index) ([] ++ [hop.relation]) :=
            .hop here (linked.symm ▸ .primary)
          exact absurd ((exists_path_iff_of_reached reached).2 ⟨_, path⟩) pathless

/-- A hop whose links do not go astray starts from the end of a path. -/
theorem startsAstray_iff {hop : Hop} :
    StartsAstray joins hop ↔ ¬ ∃ names, Path joins hop.previous names := by
  unfold StartsAstray
  cases hop.previous with
  | none =>
    refine ⟨nofun, fun pathless => ?_⟩
    exact absurd ⟨[], .primary⟩ pathless
  | some start =>
    rw [← astray_iff]
    constructor
    · rintro ⟨_, ⟨⟩, astray⟩
      exact astray
    · exact fun astray => ⟨start, rfl, astray⟩

/-- Following the links fails just where they go astray, and then for what is wrong with them. -/
theorem parentPath_fails_iff {hop : Hop} :
    (∃ fault, parentPath joins hop = .error (.brokenChain fault)) ↔ StartsAstray joins hop := by
  rw [startsAstray_iff]
  simp only [← parentPath_eq_ok_iff]
  unfold parentPath
  cases pathTo joins joins.length hop.previous with
  | error fault => simp [Except.mapError]
  | ok names => simp [Except.mapError]

end PreparedSql.Chain
