import SqlStatement.Query.Step
import SqlStatement.Proofs.Fallible

/-!
# The clauses that a program writes

Every step adds to one clause of a query and looks at no other.  So a program adds to each clause
what its steps of one kind add, in their order, and steps of different kinds may change places.

* `Query.Step.takenAll` is a program with the steps of the taken branch in place of every branch.
* `Query.Step.Kind` are the kinds of steps and `Query.Step.ofKind` the steps of a kind.
* `Query.extend` is a query with what steps add to it, and `Query.Step.applyAll_eq` the result of a
  program: it overflows if one of its steps does, and otherwise extends the query.
* `Query.Step.extend_takenAll` says that each clause is extended by the steps of one kind.
* `Query.Step.applyAll_depends_on_kinds_only` is the main result.
-/

namespace SqlStatement

namespace Query.Step

/-! ### Taken branches -/

mutual

/-- A step as it is taken: a branch stands for the steps of the one program that it runs, at
whatever depth. -/
def taken : Step → List Step
  | condition connector c => [condition connector c]
  | group connector steps => [group connector (takenAll steps)]
  | columns names => [columns names]
  | source target => [source target]
  | subquery table steps name => [subquery table (takenAll steps) name]
  | join j => [join j]
  | orderBy key => [orderBy key]
  | groupBy names => [groupBy names]
  | limit n => [limit n]
  | offset n => [offset n]
  | paginate page perPage => [paginate page perPage]
  | branch true steps _ => takenAll steps
  | branch false _ steps => takenAll steps
  | skip => []

/-- A program as it is taken. -/
def takenAll : List Step → List Step
  | [] => []
  | step :: steps => step.taken ++ takenAll steps

end

theorem takenAll_append (first second : List Step) :
    takenAll (first ++ second) = takenAll first ++ takenAll second := by
  induction first with
  | nil =>
      rfl
  | cons step first ih =>
      rw [List.cons_append, takenAll, takenAll, ih, List.append_assoc]

theorem applyAll_singleton (step : Step) (q : Query) :
    applyAll [step] q = step.apply q := by
  rw [applyAll]
  cases step.apply q <;> rfl

mutual

theorem applyAll_taken :
    ∀ (step : Step) (q : Query), applyAll step.taken q = step.apply q
  | .condition _ _, q | .columns _, q | .source _, q | .join _, q | .orderBy _, q
  | .groupBy _, q | .limit _, q | .offset _, q | .paginate _ _, q =>
      applyAll_singleton _ q
  | .skip, q =>
      rfl
  | .group connector steps, q => by
      rw [taken, applyAll_singleton, apply, apply, applyAll_takenAll steps]
  | .subquery table steps name, q => by
      rw [taken, applyAll_singleton, apply, apply, applyAll_takenAll steps]
  | .branch true steps _, q => by
      rw [taken, apply, applyAll_takenAll steps]
  | .branch false _ steps, q => by
      rw [taken, apply, applyAll_takenAll steps]

/-- A program does what it does as it is taken. -/
theorem applyAll_takenAll :
    ∀ (steps : List Step) (q : Query), applyAll (takenAll steps) q = applyAll steps q
  | [], q => rfl
  | step :: steps, q => by
      rw [takenAll, applyAll_append, applyAll_taken step, applyAll]
      cases step.apply q with
      | error failure =>
          rfl
      | ok next =>
          exact applyAll_takenAll steps next

end

/-! ### Kinds of steps -/

/-- The kinds of steps: a kind for every clause and every kind of siblings in the predicate. -/
inductive Kind where
  | source
  | columns
  | join
  | leaf (connector : Connector)
  | group (connector : Connector)
  | groupBy
  | orderBy
  | window
deriving DecidableEq

/-- The kind of a step that is taken. -/
def kind? : Step → Option Kind
  | condition connector _ => some (.leaf connector)
  | group connector _ => some (.group connector)
  | columns _ => some .columns
  | source _ | subquery _ _ _ => some .source
  | join _ => some .join
  | orderBy _ => some .orderBy
  | groupBy _ => some .groupBy
  | limit _ | offset _ | paginate _ _ => some .window
  | branch _ _ _ | skip => none

/-- The steps of a kind that a program takes, in their order. -/
def ofKind (kind : Kind) (steps : List Step) : List Step :=
  (takenAll steps).filter fun step => step.kind? = some kind

/-! ### What a step adds -/

/-- Whether a step has no effect because a page number overflows, at whatever depth. -/
@[simp]
def overflows : Step → Bool
  | group _ steps => !(filterOf steps).isOk
  | subquery table steps _ => !(applyAll steps (onTable table)).isOk
  | paginate page perPage => !(Window.ofPage page perPage).isOk
  | _ => false

/-- The sources that a step names. -/
@[simp]
def sources : Step → List Source
  | source target => [target]
  | subquery table steps name =>
      (applyAll steps (onTable table)).toOption.toList.map fun inner => inner.asSource name
  | _ => []

/-- The columns that a step selects. -/
@[simp]
def selected : Step → List String
  | columns names => names
  | _ => []

/-- The joins that a step makes. -/
@[simp]
def joins : Step → List Join
  | join j => [j]
  | _ => []

/-- The conditions that a step files under a connector. -/
@[simp]
def leaves (k : Connector) : Step → List Condition
  | condition connector c => if k = connector then [c] else []
  | _ => []

/-- The groups that a step files under a connector. -/
@[simp]
def groups (k : Connector) : Step → List Filter
  | group connector steps =>
      if k = connector then (filterOf steps).toOption.toList.filter fun f => !f.isEmpty else []
  | _ => []

/-- The columns that a step groups by. -/
@[simp]
def grouped : Step → List String
  | groupBy names => names
  | _ => []

/-- The sort keys that a step names. -/
@[simp]
def sortKeys : Step → List SortKey
  | orderBy key => [key]
  | _ => []

/-- The limits that a step sets. -/
@[simp]
def limits : Step → List Int64
  | limit n => [n]
  | paginate page perPage => (Window.ofPage page perPage).toOption.toList.map Window.limit
  | _ => []

/-- The offsets that a step sets. -/
@[simp]
def offsets : Step → List Int64
  | offset n => [n]
  | paginate page perPage => (Window.ofPage page perPage).toOption.toList.map Window.offset
  | _ => []

end Query.Step

/-- A filter with further groups and conditions under every connector. -/
def Filter.extend
    (f : Filter)
    (groups : Connector → List Filter)
    (leaves : Connector → List Condition) :
    Filter where
  andGroups := f.andGroups ++ groups .and
  andLeaves := f.andLeaves ++ leaves .and
  orGroups := f.orGroups ++ groups .or
  orLeaves := f.orLeaves ++ leaves .or

open Query.Step in
/-- A query with what steps add to it: their sources, limits and offsets replace those before, and
all else comes behind what is there. -/
def Query.extend (q : Query) (steps : List Query.Step) : Query where
  columns := q.columns ++ steps.flatMap selected
  joins := q.joins ++ steps.flatMap joins
  filter := q.filter.extend (fun k => steps.flatMap (groups k)) fun k => steps.flatMap (leaves k)
  groupBy := q.groupBy ++ steps.flatMap grouped
  orderBy := q.orderBy ++ steps.flatMap sortKeys
  limit := (steps.flatMap limits).getLast?.or q.limit
  offset := (steps.flatMap offsets).getLast?.or q.offset
  source := (steps.flatMap sources).getLast?.getD q.source

namespace Query

theorem extend_nil (q : Query) : q.extend [] = q := by
  obtain ⟨⟨_, _, ⟨_, _, _, _⟩, _, _, _, _⟩, _⟩ := q
  simp [extend, Filter.extend]

theorem extend_append (q : Query) (first second : List Step) :
    q.extend (first ++ second) = (q.extend first).extend second := by
  simp [extend, Filter.extend, List.getLast?_append, Option.or_assoc]

namespace Step

/-- A step that is taken overflows on every query or on none, and otherwise extends the query. -/
theorem apply_eq_extend
    {step : Step}
    {kind : Kind}
    (h : step.kind? = some kind)
    (q : Query) :
    step.apply q = if step.overflows then .error .multiply else .ok (q.extend [step]) := by
  obtain ⟨⟨_, _, ⟨_, _, _, _⟩, _, _, _, _⟩, _⟩ := q
  cases step with
  | condition connector c =>
      cases connector <;> simp [apply, extend, Filter.extend, Filter.push]
  | columns _ | source _ | join _ | orderBy _ | groupBy _ | limit _ | offset _ =>
      simp [apply, extend, Filter.extend]
  | group connector steps =>
      cases hgroup : applyAll steps (onTable "") with
      | error failure =>
          obtain rfl : failure = .multiply := rfl
          have hfilter : filterOf steps = .error .multiply := by
            rw [filterOf, hgroup]
            rfl
          rw [apply, hgroup, overflows, hfilter]
          rfl
      | ok child =>
          have hfilter : filterOf steps = .ok child.filter := by
            rw [filterOf, hgroup]
            rfl
          rw [apply, hgroup, overflows, hfilter]
          change Except.ok _ = Except.ok _
          cases hempty : child.filter.isEmpty <;> cases connector <;>
            simp [extend, Filter.extend, Filter.pushGroup, hfilter, hempty, Except.toOption]
  | subquery table steps name =>
      cases hinner : applyAll steps (onTable table) with
      | error failure =>
          simp [apply, hinner, Except.isOk, Except.toBool]
      | ok inner =>
          simp [apply, extend, Filter.extend, hinner, Except.isOk, Except.toBool, Except.toOption]
  | paginate page perPage =>
      cases hwindow : Window.ofPage page perPage with
      | error failure =>
          simp [apply, hwindow, Except.isOk, Except.toBool]
      | ok window =>
          simp [apply, extend, Filter.extend, hwindow, Except.isOk, Except.toBool, Except.toOption]
  | branch _ _ _ | skip =>
      cases h

mutual

/-- A step that is taken is no branch. -/
theorem exists_kind_of_mem_taken :
    ∀ (step : Step), ∀ part ∈ step.taken, ∃ kind, part.kind? = some kind
  | .condition _ _, part, h | .columns _, part, h | .source _, part, h | .join _, part, h
  | .orderBy _, part, h | .groupBy _, part, h | .limit _, part, h | .offset _, part, h
  | .paginate _ _, part, h | .group _ _, part, h | .subquery _ _ _, part, h => by
      obtain rfl := List.mem_singleton.1 h
      exact ⟨_, rfl⟩
  | .branch true steps _, part, h => by
      rw [taken] at h
      exact exists_kind_of_mem_takenAll steps part h
  | .branch false _ steps, part, h => by
      rw [taken] at h
      exact exists_kind_of_mem_takenAll steps part h
  | .skip, part, h => by
      simp [taken] at h

theorem exists_kind_of_mem_takenAll :
    ∀ (steps : List Step), ∀ part ∈ takenAll steps, ∃ kind, part.kind? = some kind
  | [], part, h => by
      simp [takenAll] at h
  | step :: steps, part, h => by
      rw [takenAll, List.mem_append] at h
      rcases h with h | h
      · exact exists_kind_of_mem_taken step part h
      · exact exists_kind_of_mem_takenAll steps part h

end

theorem applyAll_eq_of_kinds
    {steps : List Step}
    (h : ∀ step ∈ steps, ∃ kind, step.kind? = some kind)
    (q : Query) :
    applyAll steps q =
      if steps.any overflows then .error .multiply else .ok (q.extend steps) := by
  induction steps generalizing q with
  | nil =>
      rw [applyAll, extend_nil]
      rfl
  | cons step steps ih =>
      obtain ⟨kind, hkind⟩ := h step List.mem_cons_self
      have ih := ih fun part hpart => h part (List.mem_cons_of_mem step hpart)
      rw [applyAll, apply_eq_extend hkind, List.any_cons]
      cases step.overflows with
      | true =>
          rfl
      | false =>
          change applyAll steps (q.extend [step]) = _
          rw [ih, ← extend_append, Bool.false_or, List.singleton_append]

/-- A program overflows if one of the steps that it takes does, and otherwise extends the query by
what they add. -/
theorem applyAll_eq (steps : List Step) (q : Query) :
    applyAll steps q =
      if (takenAll steps).any overflows then .error .multiply
      else .ok (q.extend (takenAll steps)) := by
  rw [← applyAll_takenAll]
  exact applyAll_eq_of_kinds (exists_kind_of_mem_takenAll steps) q

theorem eq_extend_of_applyAll
    {steps : List Step}
    {q next : Query}
    (h : applyAll steps q = .ok next) :
    next = q.extend (takenAll steps) := by
  rw [applyAll_eq] at h
  split at h
  · cases h
  · exact (Except.ok.inj h).symm

/-! ### Programs with the same steps of every kind -/

/-- Only steps of the kind add something. -/
def AddedBy {α : Type} (kind : Kind) (added : Step → List α) : Prop :=
  ∀ step : Step, step.kind? ≠ some kind → added step = []

theorem addedBy_sources : AddedBy .source sources := by
  intro step h
  cases step <;> first | rfl | exact absurd rfl h

theorem addedBy_selected : AddedBy .columns selected := by
  intro step h
  cases step <;> first | rfl | exact absurd rfl h

theorem addedBy_joins : AddedBy .join joins := by
  intro step h
  cases step <;> first | rfl | exact absurd rfl h

theorem addedBy_leaves (k : Connector) : AddedBy (.leaf k) (leaves k) := by
  intro step h
  cases step with
  | condition connector c =>
      have hne : k ≠ connector := by
        rintro rfl
        exact h rfl
      exact if_neg hne
  | _ =>
      rfl

theorem addedBy_groups (k : Connector) : AddedBy (.group k) (groups k) := by
  intro step h
  cases step with
  | group connector steps =>
      have hne : k ≠ connector := by
        rintro rfl
        exact h rfl
      exact if_neg hne
  | _ =>
      rfl

theorem addedBy_grouped : AddedBy .groupBy grouped := by
  intro step h
  cases step <;> first | rfl | exact absurd rfl h

theorem addedBy_sortKeys : AddedBy .orderBy sortKeys := by
  intro step h
  cases step <;> first | rfl | exact absurd rfl h

theorem addedBy_limits : AddedBy .window limits := by
  intro step h
  cases step <;> first | rfl | exact absurd rfl h

theorem addedBy_offsets : AddedBy .window offsets := by
  intro step h
  cases step <;> first | rfl | exact absurd rfl h

theorem AddedBy.flatMap_takenAll
    {α : Type}
    {kind : Kind}
    {added : Step → List α}
    (h : AddedBy kind added)
    (steps : List Step) :
    (takenAll steps).flatMap added = (ofKind kind steps).flatMap added := by
  unfold ofKind
  induction takenAll steps with
  | nil =>
      rfl
  | cons step rest ih =>
      by_cases hkind : step.kind? = some kind
      · rw [List.filter_cons_of_pos (by simpa using hkind), List.flatMap_cons, List.flatMap_cons,
          ih]
      · rw [List.filter_cons_of_neg (by simpa using hkind), List.flatMap_cons, ih, h step hkind,
          List.nil_append]

/-- What a program adds to each clause is what its steps of one kind add, in their order. -/
theorem extend_takenAll (steps : List Step) (q : Query) :
    q.extend (takenAll steps) =
      { columns := q.columns ++ (ofKind .columns steps).flatMap selected
        joins := q.joins ++ (ofKind .join steps).flatMap joins
        filter :=
          q.filter.extend (fun k => (ofKind (.group k) steps).flatMap (groups k))
            fun k => (ofKind (.leaf k) steps).flatMap (leaves k)
        groupBy := q.groupBy ++ (ofKind .groupBy steps).flatMap grouped
        orderBy := q.orderBy ++ (ofKind .orderBy steps).flatMap sortKeys
        limit := ((ofKind .window steps).flatMap limits).getLast?.or q.limit
        offset := ((ofKind .window steps).flatMap offsets).getLast?.or q.offset
        source := ((ofKind .source steps).flatMap sources).getLast?.getD q.source } := by
  simp only [extend, addedBy_sources.flatMap_takenAll, addedBy_selected.flatMap_takenAll,
    addedBy_joins.flatMap_takenAll, fun k => (addedBy_leaves k).flatMap_takenAll,
    fun k => (addedBy_groups k).flatMap_takenAll, addedBy_grouped.flatMap_takenAll,
    addedBy_sortKeys.flatMap_takenAll, addedBy_limits.flatMap_takenAll,
    addedBy_offsets.flatMap_takenAll]

theorem mem_takenAll_iff_exists_mem_ofKind
    {steps : List Step}
    {step : Step} :
    step ∈ takenAll steps ↔ ∃ kind, step ∈ ofKind kind steps := by
  constructor
  · intro h
    obtain ⟨kind, hkind⟩ := exists_kind_of_mem_takenAll steps step h
    exact ⟨kind, List.mem_filter.2 ⟨h, by simpa using hkind⟩⟩
  · rintro ⟨kind, h⟩
    exact (List.mem_filter.1 h).1

theorem any_overflows_congr
    {first second : List Step}
    (h : ∀ kind, ofKind kind first = ofKind kind second) :
    (takenAll first).any overflows = (takenAll second).any overflows := by
  rw [Bool.eq_iff_iff, List.any_eq_true, List.any_eq_true]
  simp only [mem_takenAll_iff_exists_mem_ofKind, h]

theorem applyAll_congr
    {first second : List Step}
    (h : ∀ kind, ofKind kind first = ofKind kind second)
    (q : Query) :
    applyAll first q = applyAll second q := by
  rw [applyAll_eq, applyAll_eq, any_overflows_congr h, extend_takenAll, extend_takenAll]
  simp only [h]

theorem ofKind_append (kind : Kind) (first second : List Step) :
    ofKind kind (first ++ second) = ofKind kind first ++ ofKind kind second := by
  rw [ofKind, takenAll_append, List.filter_append]
  rfl

/-- The steps of two programs without a kind in common. -/
theorem ofKind_append_comm
    {first second : List Step}
    (h : ∀ step ∈ takenAll first, ∀ other ∈ takenAll second, step.kind? ≠ other.kind?)
    (kind : Kind) :
    ofKind kind (first ++ second) = ofKind kind (second ++ first) := by
  rw [ofKind_append, ofKind_append]
  by_cases hfirst : ofKind kind first = []
  · rw [hfirst, List.nil_append, List.append_nil]
  · obtain ⟨step, hstep⟩ := List.exists_mem_of_ne_nil _ hfirst
    obtain ⟨hstep, hkind⟩ := List.mem_filter.1 hstep
    have hsecond : ofKind kind second = [] := by
      rw [ofKind, List.filter_eq_nil_iff]
      intro other hother hother'
      exact h step hstep other hother
        ((of_decide_eq_true hkind).trans (of_decide_eq_true hother').symm)
    rw [hsecond, List.append_nil, List.nil_append]

/-- Only the order of steps of one kind matters: programs with the same steps of every kind,
branches replaced by what is taken, have the same result.  So neighbours without a kind in common
may change places in a program, and what steps of one kind add stands in their order. -/
theorem applyAll_depends_on_kinds_only (q : Query) :
    (∀ first second,
      (∀ kind, ofKind kind first = ofKind kind second) →
        applyAll first q = applyAll second q) ∧
    (∀ before first second after,
      (∀ step ∈ takenAll first, ∀ other ∈ takenAll second, step.kind? ≠ other.kind?) →
        applyAll (before ++ first ++ second ++ after) q =
          applyAll (before ++ second ++ first ++ after) q) ∧
    (∀ steps next,
      applyAll steps q = .ok next →
        next = q.extend (takenAll steps)) := by
  refine ⟨fun first second h => applyAll_congr h q, ?_, fun _ _ h => eq_extend_of_applyAll h⟩
  intro before first second after h
  have hkinds : ∀ kind,
      ofKind kind (before ++ (first ++ second) ++ after) =
        ofKind kind (before ++ (second ++ first) ++ after) := by
    intro kind
    rw [ofKind_append, ofKind_append, ofKind_append_comm h, ← ofKind_append, ← ofKind_append]
  rw [List.append_assoc before first second, List.append_assoc before second first]
  exact applyAll_congr hkinds q

/-- A limit set before or behind a branch that files a condition. -/
theorem applyAll_depends_on_kinds_only_limit :
    applyAll [.limit 5, .branch true [.condition .and (.isNull "deleted_at")] []]
        (onTable "users") =
      applyAll [.condition .and (.isNull "deleted_at"), .limit 5] (onTable "users") ∧
    applyAll
        ([] ++ [.limit 5] ++ [.condition .and (.isNull "deleted_at")] ++ [.columns ["id"]])
        (onTable "users") =
      applyAll
        ([] ++ [.condition .and (.isNull "deleted_at")] ++ [.limit 5] ++ [.columns ["id"]])
        (onTable "users") ∧
    { onTable "users" with limit := some 5 } = (onTable "users").extend (takenAll [.limit 5]) := by
  obtain ⟨hkinds, hneighbours, horder⟩ := applyAll_depends_on_kinds_only (onTable "users")
  refine ⟨hkinds _ _ ?_, hneighbours _ _ _ _ ?_, horder [.limit 5] _ rfl⟩
  · rintro (_ | _ | _ | (_ | _) | (_ | _) | _ | _ | _) <;> rfl
  · simp [takenAll, taken, kind?]

end Step

end Query

end SqlStatement
