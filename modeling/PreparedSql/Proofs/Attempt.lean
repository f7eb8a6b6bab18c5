import Mathlib.Data.List.Forall2

/-! Chains of steps that may fail: what the outcome of a chain says about its steps, and how a
function applied to the result moves through the chain. -/

namespace PreparedSql.Attempt

variable {ε α β γ : Type}

theorem bind_eq_ok {first : Except ε α} {next : α → Except ε β} {result : β} :
    (first >>= next) = .ok result ↔ ∃ value, first = .ok value ∧ next value = .ok result := by
  cases first with
  | error reason => simp [bind, Except.bind]
  | ok value => simp [bind, Except.bind]

theorem bind_eq_error {first : Except ε α} {next : α → Except ε β} {reason : ε} :
    (first >>= next) = .error reason ↔
      first = .error reason ∨ ∃ value, first = .ok value ∧ next value = .error reason := by
  cases first with
  | error other => simp [bind, Except.bind]
  | ok value => simp [bind, Except.bind]

theorem map_eq_ok {first : Except ε α} {f : α → β} {result : β} :
    first.map f = .ok result ↔ ∃ value, first = .ok value ∧ f value = result := by
  cases first <;> simp [Except.map]

theorem map_eq_error {first : Except ε α} {f : α → β} {reason : ε} :
    first.map f = .error reason ↔ first = .error reason := by
  cases first <;> simp [Except.map]

theorem pure_eq_ok {value result : α} : (pure value : Except ε α) = .ok result ↔ value = result :=
  ⟨Except.ok.inj, congrArg Except.ok⟩

theorem map_map (first : Except ε α) (f : α → β) (g : β → γ) :
    (first.map f).map g = first.map fun value => g (f value) := by
  cases first <;> rfl

theorem map_bind (first : Except ε α) (next : α → Except ε β) (f : β → γ) :
    (first >>= next).map f = first >>= fun value => (next value).map f := by
  cases first <;> rfl

theorem bind_map (first : Except ε α) (f : α → β) (next : β → Except ε γ) :
    first.map f >>= next = first >>= fun value => next (f value) := by
  cases first <;> rfl

theorem map_pure (value : α) (f : α → β) :
    (pure value : Except ε α).map f = pure (f value) := rfl

theorem bind_congr {first : Except ε α} {next other : α → Except ε β}
    (same : ∀ value, next value = other value) : first >>= next = first >>= other := by
  rw [funext same]

/-- Running a step on every entry succeeds when it does so on each, in the same order. -/
theorem mapM_eq_ok {step : α → Except ε β} {entries : List α} {results : List β} :
    entries.mapM step = .ok results ↔
      List.Forall₂ (fun entry result => step entry = .ok result) entries results := by
  induction entries generalizing results with
  | nil =>
    rw [List.mapM_nil, pure_eq_ok, List.forall₂_nil_left_iff, eq_comm]
  | cons entry entries ih =>
    rw [List.mapM_cons, bind_eq_ok, List.forall₂_cons_left_iff]
    simp only [bind_eq_ok, pure_eq_ok, ih]
    constructor
    · rintro ⟨result, ran, rest, others, rfl⟩
      exact ⟨result, rest, ran, others, rfl⟩
    · rintro ⟨result, rest, ran, others, rfl⟩
      exact ⟨result, ran, rest, others, rfl⟩

theorem exists_of_mem_mapM {step : α → Except ε β} {entries : List α} {results : List β}
    {result : β} (ran : entries.mapM step = .ok results) (member : result ∈ results) :
    ∃ entry ∈ entries, step entry = .ok result := by
  have paired := mapM_eq_ok.1 ran
  clear ran
  induction paired with
  | nil => cases member
  | cons here rest ih =>
    rcases List.mem_cons.1 member with rfl | later
    · exact ⟨_, List.mem_cons_self, here⟩
    · obtain ⟨entry, inside, found⟩ := ih later
      exact ⟨entry, List.mem_cons_of_mem _ inside, found⟩

/-- What the results have in common is what the entries have in common. -/
theorem forall_mem_mapM_iff {step : α → Except ε β} {entries : List α} {results : List β}
    {P : β → Prop} {Q : α → Prop} (ran : entries.mapM step = .ok results)
    (each : ∀ entry ∈ entries, ∀ result, step entry = .ok result → (P result ↔ Q entry)) :
    (∀ result ∈ results, P result) ↔ ∀ entry ∈ entries, Q entry := by
  have paired := mapM_eq_ok.1 ran
  clear ran
  induction paired with
  | nil => exact ⟨fun _ => List.forall_mem_nil _, fun _ => List.forall_mem_nil _⟩
  | cons here rest ih =>
    obtain ⟨first, later⟩ := List.forall_mem_cons.1 each
    rw [List.forall_mem_cons, List.forall_mem_cons]
    exact and_congr (first _ here) (ih later)

/-- A list can be run through when each of its entries can. -/
theorem exists_mapM_iff {step : α → Except ε β} {entries : List α} :
    (∃ results, entries.mapM step = .ok results) ↔
      ∀ entry ∈ entries, ∃ result, step entry = .ok result := by
  simp only [mapM_eq_ok]
  induction entries with
  | nil => exact ⟨fun _ => nofun, fun _ => ⟨[], .nil⟩⟩
  | cons entry entries ih =>
    rw [List.forall_mem_cons, ← ih]
    constructor
    · rintro ⟨_, here | ⟨here, rest⟩⟩
      exact ⟨⟨_, here⟩, _, rest⟩
    · rintro ⟨⟨result, here⟩, results, rest⟩
      exact ⟨result :: results, .cons here rest⟩

/-- Changing the entries changes the results when each step says so. -/
theorem mapM_map {step : α → Except ε β} (change : α → α) (effect : β → β)
    (each : ∀ entry, step (change entry) = (step entry).map effect) (entries : List α) :
    (entries.map change).mapM step = (entries.mapM step).map (List.map effect) := by
  induction entries with
  | nil => rfl
  | cons entry entries ih =>
    simp only [List.map_cons, List.mapM_cons, each, ih, map_bind, bind_map, map_pure]

/-- Changing the entries does not show in the results when no step shows it. -/
theorem map_mapM_map {step : α → Except ε β} (change : α → α) (shown : β → γ)
    (each : ∀ entry, (step (change entry)).map shown = (step entry).map shown)
    (entries : List α) :
    ((entries.map change).mapM step).map (List.map shown) =
      (entries.mapM step).map (List.map shown) := by
  have split (first : Except ε β) (rest : Except ε (List β)) :
      (first >>= fun result => rest >>= fun results => pure (result :: results)).map
          (List.map shown) =
        first.map shown >>= fun result =>
          rest.map (List.map shown) >>= fun results => pure (result :: results) := by
    cases first with
    | error reason => rfl
    | ok result => cases rest <;> rfl
  induction entries with
  | nil => rfl
  | cons entry entries ih =>
    rw [List.map_cons, List.mapM_cons, List.mapM_cons, split, split, each, ih]

/-- A run over a list fails as the step does at an entry, when it succeeds at all before it. -/
theorem mapM_eq_error_iff {step : α → Except ε β} {entries : List α} {reason : ε} :
    entries.mapM step = .error reason ↔
      ∃ before entry after, entries = before ++ entry :: after ∧
        (∀ earlier ∈ before, ∃ result, step earlier = .ok result) ∧
        step entry = .error reason := by
  induction entries with
  | nil =>
    constructor
    · intro failed
      cases failed
    · rintro ⟨before, entry, after, split, -⟩
      simp at split
  | cons first rest ih =>
    rw [List.mapM_cons, bind_eq_error]
    constructor
    · rintro (here | ⟨result, ran, later⟩)
      · exact ⟨[], first, rest, rfl, List.forall_mem_nil _, here⟩
      · rcases bind_eq_error.1 later with there | ⟨_, -, wrong⟩
        · obtain ⟨before, entry, after, rfl, good, failing⟩ := ih.1 there
          exact ⟨first :: before, entry, after, rfl,
            List.forall_mem_cons.2 ⟨⟨result, ran⟩, good⟩, failing⟩
        · cases wrong
    · rintro ⟨before, entry, after, split, good, failing⟩
      cases before with
      | nil =>
        cases split
        exact Or.inl failing
      | cons own before =>
        cases split
        obtain ⟨⟨result, ran⟩, good⟩ := List.forall_mem_cons.1 good
        exact Or.inr ⟨result, ran,
          bind_eq_error.2 (Or.inl (ih.2 ⟨before, entry, after, rfl, good, failing⟩))⟩

/-- A failure of a run over a list is the failure of the step at some entry. -/
theorem mapM_eq_error {step : α → Except ε β} {entries : List α} {reason : ε}
    (failed : entries.mapM step = .error reason) :
    ∃ entry ∈ entries, step entry = .error reason := by
  obtain ⟨before, entry, after, rfl, -, failing⟩ := mapM_eq_error_iff.1 failed
  exact ⟨entry, List.mem_append_right _ List.mem_cons_self, failing⟩

/-- Whether a step fails, and why, without what comes out. -/
def outcome (step : Except ε α) : Except ε Unit :=
  step.map fun _ => ()

theorem outcome_map (step : Except ε α) (f : α → β) : outcome (step.map f) = outcome step :=
  map_map step f _

theorem outcome_pair (first : Except ε α) (second : Except ε β) (pair : α → β → γ) :
    outcome (first >>= fun left => second >>= fun right => pure (pair left right)) =
      outcome first >>= fun _ => outcome second := by
  cases first with
  | error reason => rfl
  | ok left => cases second <;> rfl

theorem exists_ok_iff_of_outcome {step : Except ε α} {other : Except ε β}
    (same : outcome step = outcome other) :
    (∃ result, step = .ok result) ↔ ∃ result, other = .ok result := by
  cases step <;> cases other <;> cases same <;> simp

theorem error_iff_of_outcome {step : Except ε α} {other : Except ε β}
    (same : outcome step = outcome other) (reason : ε) :
    step = .error reason ↔ other = .error reason := by
  cases step <;> cases other <;> cases same <;> simp

end PreparedSql.Attempt
