import SqlStatement.Filter.Edit
import SqlStatement.Delete
import SqlStatement.Proofs.Fallible

/-!
# The conditions of a filter

Everything that is proved about filters rests on the two facts of this module: the conditions of a
filter stand at its leaves in one order, and no filter that can be built stores an empty group.

* `Filter.induction` is induction over the groups of a filter.
* `Filter.conditions` lists the conditions at all depths in the order in which they are written.
* `Filter.Stores` relates a filter to its groups at all depths, and `Filter.Reduced` says that none
  of them is empty.  `Filter.Edit.reduced_applyAll`, `Query.Step.reduced_applyAll` and
  `Delete.Step.reduced_applyAll` show that building keeps it.
-/

namespace SqlStatement

namespace Filter

/-! ### Groups and conditions -/

theorem sizeOf_lt_of_mem_groups
    {f group : Filter}
    {connector : Connector}
    (h : group ∈ f.groups connector) :
    sizeOf group < sizeOf f := by
  have hlist := List.sizeOf_lt_of_mem h
  cases f
  cases connector <;> simp [groups] at hlist ⊢ <;> omega

/-- What holds of a filter if it holds of its groups holds of every filter. -/
@[elab_as_elim]
theorem induction
    {motive : Filter → Prop}
    (step : ∀ f, (∀ connector, ∀ group ∈ f.groups connector, motive group) → motive f)
    (f : Filter) :
    motive f :=
  step f fun _ group hgroup =>
    have := sizeOf_lt_of_mem_groups hgroup
    induction step group
termination_by sizeOf f

mutual

/-- The conditions at all depths: those of groups under `and`, those filed under `and`, those of
groups under `or`, those filed under `or`. -/
def conditions : Filter → List Condition
  | ⟨andGroups, andLeaves, orGroups, orLeaves⟩ =>
    groupConditions andGroups ++ andLeaves ++ groupConditions orGroups ++ orLeaves

/-- The conditions of groups, group by group. -/
def groupConditions : List Filter → List Condition
  | [] => []
  | group :: groups => group.conditions ++ groupConditions groups

end

theorem groupConditions_eq_flatMap (groups : List Filter) :
    groupConditions groups = groups.flatMap conditions := by
  induction groups with
  | nil =>
      rfl
  | cons group groups ih =>
      rw [groupConditions, ih, List.flatMap_cons]

theorem conditions_eq (f : Filter) :
    f.conditions =
      (f.groups .and).flatMap conditions ++ f.leaves .and ++
        (f.groups .or).flatMap conditions ++ f.leaves .or := by
  cases f
  simp only [conditions, groupConditions_eq_flatMap, groups, leaves]

theorem mem_conditions_of_mem_leaves
    {f : Filter}
    {connector : Connector}
    {c : Condition}
    (h : c ∈ f.leaves connector) :
    c ∈ f.conditions := by
  rw [conditions_eq]
  cases connector <;> simp [h]

theorem mem_conditions_of_mem_groups
    {f group : Filter}
    {connector : Connector}
    {c : Condition}
    (hgroup : group ∈ f.groups connector)
    (hc : c ∈ group.conditions) :
    c ∈ f.conditions := by
  rw [conditions_eq]
  cases connector
  · simp only [List.mem_append, List.mem_flatMap]
    exact Or.inl (Or.inl (Or.inl ⟨group, hgroup, hc⟩))
  · simp only [List.mem_append, List.mem_flatMap]
    exact Or.inl (Or.inr ⟨group, hgroup, hc⟩)

/-- A filter stores another one as a group at some depth. -/
inductive Stores : Filter → Filter → Prop where
  | group
      {f group : Filter}
      {connector : Connector}
      (h : group ∈ f.groups connector) :
      Stores f group
  | inside
      {f group inner : Filter}
      {connector : Connector}
      (hgroup : group ∈ f.groups connector)
      (h : Stores group inner) :
      Stores f inner

theorem isEmpty_eq_true_iff (f : Filter) :
    f.isEmpty = true ↔ ∀ connector, f.groups connector = [] ∧ f.leaves connector = [] := by
  constructor
  · intro h connector
    simp only [isEmpty, Bool.and_eq_true, List.isEmpty_iff] at h
    cases connector <;> simp [groups, leaves, h]
  · intro h
    have hand := h .and
    have hor := h .or
    simp_all [isEmpty, groups, leaves]

theorem conditions_eq_nil_of_isEmpty
    {f : Filter}
    (h : f.isEmpty = true) :
    f.conditions = [] := by
  rw [isEmpty_eq_true_iff] at h
  simp [conditions_eq, h]

/-! ### No empty groups -/

/-- A filter that stores no empty group, at whatever depth. -/
inductive Reduced : Filter → Prop where
  | intro
      {f : Filter}
      (hne : ∀ connector, ∀ group ∈ f.groups connector, group.isEmpty = false)
      (hgroups : ∀ connector, ∀ group ∈ f.groups connector, Reduced group) :
      Reduced f

theorem Reduced.empty : Filter.empty.Reduced := by
  constructor <;> intro connector <;> cases connector <;> simp [Filter.empty, groups]

theorem Reduced.push
    {f : Filter}
    (h : f.Reduced)
    (connector : Connector)
    (c : Condition) :
    (f.push connector c).Reduced := by
  obtain ⟨hne, hgroups⟩ := h
  constructor <;> simpa only [groups_push]

theorem Reduced.pushGroup
    {f group : Filter}
    (h : f.Reduced)
    (connector : Connector)
    (hgroup : group.Reduced) :
    (f.pushGroup connector group).Reduced := by
  obtain ⟨hne, hgroups⟩ := h
  cases hempty : group.isEmpty with
  | true =>
      rw [pushGroup_of_isEmpty f connector hempty]
      exact .intro hne hgroups
  | false =>
      have hmem :
          ∀ k, ∀ g ∈ (f.pushGroup connector group).groups k, g ∈ f.groups k ∨ g = group := by
        intro k g hg
        rw [groups_pushGroup f k connector hempty, List.mem_append] at hg
        rcases hg with hg | hg
        · exact Or.inl hg
        · split at hg <;> simp_all
      constructor
      · intro k g hg
        rcases hmem k g hg with hg | rfl
        · exact hne k g hg
        · exact hempty
      · intro k g hg
        rcases hmem k g hg with hg | rfl
        · exact hgroups k g hg
        · exact hgroup

theorem Reduced.single (c : Condition) : (Filter.single c).Reduced :=
  Reduced.empty.push .and c

/-- No group that a reduced filter stores at some depth is empty. -/
theorem Reduced.isEmpty_of_stores
    {f group : Filter}
    (h : f.Reduced)
    (hgroup : f.Stores group) :
    group.isEmpty = false := by
  induction hgroup with
  | group hmem =>
      obtain ⟨hne, -⟩ := h
      exact hne _ _ hmem
  | inside hmem _ ih =>
      obtain ⟨-, hgroups⟩ := h
      exact ih (hgroups _ _ hmem)

/-- A filter without empty groups is empty only if it has no condition at any depth. -/
theorem Reduced.conditions_ne_nil
    {f : Filter}
    (h : f.Reduced)
    (hne : f.isEmpty = false) :
    f.conditions ≠ [] := by
  induction h with
  | @intro f hgroupne _ ih =>
      -- A group is not empty, so it would hold a condition, and a condition of its own is one.
      intro hnil
      have hempty : f.isEmpty = true := by
        rw [isEmpty_eq_true_iff]
        intro connector
        constructor
        · rw [List.eq_nil_iff_forall_not_mem]
          intro group hgroup
          obtain ⟨c, hc⟩ :=
            List.exists_mem_of_ne_nil _
              (ih connector group hgroup (hgroupne connector group hgroup))
          have hmem := mem_conditions_of_mem_groups hgroup hc
          simp [hnil] at hmem
        · rw [List.eq_nil_iff_forall_not_mem]
          intro c hc
          have hmem := mem_conditions_of_mem_leaves hc
          simp [hnil] at hmem
      simp [hempty] at hne

namespace Edit

mutual

theorem reduced_apply :
    ∀ (edit : Edit) {f : Filter}, f.Reduced → (edit.apply f).Reduced
  | .push connector c, f, h => by
      rw [apply]
      exact h.push connector c
  | .pushGroup connector edits, f, h => by
      rw [apply]
      exact h.pushGroup connector (reduced_applyAll edits Reduced.empty)
  | .single c, f, _ => by
      rw [apply]
      exact Reduced.single c
  | .clear, f, _ => by
      rw [apply]
      exact Reduced.empty
  | .nest connector, f, h => by
      rw [apply]
      exact h.pushGroup connector h
  | .wrap connector, f, h => by
      rw [apply]
      exact Reduced.empty.pushGroup connector h

/-- No list of edits stores an empty group. -/
theorem reduced_applyAll :
    ∀ (edits : List Edit) {f : Filter}, f.Reduced → (applyAll edits f).Reduced
  | [], f, h => h
  | edit :: edits, f, h => by
      rw [applyAll]
      exact reduced_applyAll edits (reduced_apply edit h)

end

end Edit

end Filter

/-! ### Building keeps filters reduced -/

open Fallible

namespace Query.Step

mutual

theorem reduced_apply :
    ∀ (step : Step) {q next : Query},
      step.apply q = .ok next → q.filter.Reduced → next.filter.Reduced
  | .condition connector c, q, next, h, hq => by
      obtain rfl := Except.ok.inj h
      exact hq.push connector c
  | .group connector steps, q, next, h, hq => by
      obtain ⟨child, hchild, h⟩ := exists_of_bind_eq_ok h
      obtain rfl := Except.ok.inj h
      exact hq.pushGroup connector (reduced_applyAll steps hchild .empty)
  | .columns _, q, next, h, hq | .source _, q, next, h, hq | .join _, q, next, h, hq
  | .orderBy _, q, next, h, hq | .groupBy _, q, next, h, hq | .limit _, q, next, h, hq
  | .offset _, q, next, h, hq | .skip, q, next, h, hq => by
      obtain rfl := Except.ok.inj h
      exact hq
  | .subquery table steps name, q, next, h, hq => by
      obtain ⟨inner, _, h⟩ := exists_of_bind_eq_ok h
      obtain rfl := Except.ok.inj h
      exact hq
  | .paginate page perPage, q, next, h, hq => by
      obtain ⟨window, _, h⟩ := exists_of_bind_eq_ok h
      obtain rfl := Except.ok.inj h
      exact hq
  | .branch true steps _, q, next, h, hq => reduced_applyAll steps h hq
  | .branch false _ steps, q, next, h, hq => reduced_applyAll steps h hq

/-- No program stores an empty group. -/
theorem reduced_applyAll :
    ∀ (steps : List Step) {q next : Query},
      applyAll steps q = .ok next → q.filter.Reduced → next.filter.Reduced
  | [], q, next, h, hq => by
      obtain rfl := Except.ok.inj h
      exact hq
  | step :: steps, q, next, h, hq => by
      obtain ⟨middle, hstep, h⟩ := exists_of_bind_eq_ok h
      exact reduced_applyAll steps h (reduced_apply step hstep hq)

end

end Query.Step

namespace Delete.Step

theorem applyAll_cons (step : Step) (steps : List Step) (d : Delete) :
    applyAll (step :: steps) d = step.apply d >>= applyAll steps :=
  List.foldlM_cons

theorem applyAll_append (first second : List Step) (d : Delete) :
    applyAll (first ++ second) d = applyAll first d >>= applyAll second :=
  List.foldlM_append

theorem reduced_apply
    {step : Step}
    {d next : Delete}
    (h : step.apply d = .ok next)
    (hd : d.filter.Reduced) :
    next.filter.Reduced := by
  cases step with
  | condition connector c =>
      obtain rfl := Except.ok.inj h
      exact hd.push connector c
  | group connector steps =>
      obtain ⟨group, hgroup, h⟩ := exists_of_bind_eq_ok h
      obtain ⟨child, hchild, hfilter⟩ := exists_of_bind_eq_ok hgroup
      obtain rfl := Except.ok.inj h
      obtain rfl := Except.ok.inj hfilter
      exact hd.pushGroup connector (Query.Step.reduced_applyAll steps hchild .empty)
  | allowAll _ | skip =>
      obtain rfl := Except.ok.inj h
      exact hd

/-- No steps of a deletion store an empty group. -/
theorem reduced_applyAll
    {steps : List Step}
    {d next : Delete}
    (h : applyAll steps d = .ok next)
    (hd : d.filter.Reduced) :
    next.filter.Reduced := by
  induction steps generalizing d with
  | nil =>
      obtain rfl := Except.ok.inj h
      exact hd
  | cons step steps ih =>
      rw [applyAll_cons] at h
      obtain ⟨middle, hstep, h⟩ := exists_of_bind_eq_ok h
      exact ih h (reduced_apply hstep hd)

end Delete.Step

end SqlStatement
