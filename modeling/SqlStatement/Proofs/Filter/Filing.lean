import SqlStatement.Proofs.Filter.Built
import SqlStatement.Proofs.Filter.Meaning

/-!
# How filing moves the meaning

Whether a step makes a predicate wider or narrower is not decided by the order of the steps but by
what stands under `and` already.  What is filed under `or` is one more way to satisfy the predicate.
What is filed under `and` restricts the one alternative that everything under `and` forms; where
there is none yet, it becomes that alternative and so widens the predicate like all under `or`.

* `Filter.Sibling` is a condition or a group, and `Filter.file` files either of them.
* `Filter.holds_iff_siblings` is the truth of a filter through its siblings, and
  `Filter.mem_siblings_file` says what filing adds to them.
* `Filter.Says` relates a filter to the search condition that its text is read as.
* `Filter.filing_moves_meaning` is the main result.
-/

namespace SqlStatement

namespace Filter

/-! ### Siblings -/

/-- What can be filed under a connector. -/
inductive Sibling where
  | leaf (c : Condition)
  | group (f : Filter)

namespace Sibling

/-- The conditions of a sibling at all depths. -/
def conditions : Sibling → List Condition
  | leaf c => [c]
  | group f => f.conditions

/-- The truth of a sibling. -/
def Holds (truth : Condition → Prop) : Sibling → Prop
  | leaf c => truth c
  | group f => f.Holds truth

/-- Whether this is a group that is dropped when it is filed. -/
def isEmpty : Sibling → Bool
  | leaf _ => false
  | group f => f.isEmpty

end Sibling

/-- Files a condition or a group. -/
def file (f : Filter) (connector : Connector) : Sibling → Filter
  | .leaf c => f.push connector c
  | .group group => f.pushGroup connector group

/-- All that is filed under a connector. -/
def siblings (f : Filter) (connector : Connector) : List Sibling :=
  (f.groups connector).map .group ++ (f.leaves connector).map .leaf

/-- Filing adds one sibling under its connector and none under the other one. -/
theorem mem_siblings_file
    {s : Sibling}
    (f : Filter)
    (connector k : Connector)
    (hs : s.isEmpty = false)
    (t : Sibling) :
    t ∈ (f.file connector s).siblings k ↔ t ∈ f.siblings k ∨ k = connector ∧ t = s := by
  cases s with
  | leaf c =>
      by_cases hk : k = connector <;> simp [file, siblings, hk, or_assoc, eq_comm]
  | group group =>
      rw [file, siblings, siblings, groups_pushGroup f k connector hs, leaves_pushGroup]
      by_cases hk : k = connector <;> simp [hk, or_assoc, or_comm, eq_comm]

theorem siblings_file_of_ne
    {s : Sibling}
    {connector k : Connector}
    (f : Filter)
    (hs : s.isEmpty = false)
    (hk : k ≠ connector) :
    (f.file connector s).siblings k = f.siblings k := by
  cases s with
  | leaf c =>
      simp [file, siblings, hk]
  | group group =>
      rw [file, siblings, groups_pushGroup f k connector hs, leaves_pushGroup, if_neg hk,
        List.append_nil, siblings]

/-- Filing leaves no filter empty. -/
theorem isEmpty_file
    {s : Sibling}
    (f : Filter)
    (connector : Connector)
    (hs : s.isEmpty = false) :
    (f.file connector s).isEmpty = false := by
  rw [← Bool.not_eq_true]
  intro hempty
  obtain ⟨hgroups, hleaves⟩ := (isEmpty_eq_true_iff _).1 hempty connector
  have hmem : s ∈ (f.file connector s).siblings connector :=
    (mem_siblings_file f connector connector hs s).2 (Or.inr ⟨rfl, rfl⟩)
  simp [siblings, hgroups, hleaves] at hmem

theorem mem_conditions_iff_siblings
    (f : Filter)
    (c : Condition) :
    c ∈ f.conditions ↔ ∃ k, ∃ s ∈ f.siblings k, c ∈ s.conditions := by
  have hsiblings : ∀ k, (∃ s ∈ f.siblings k, c ∈ s.conditions) ↔
      (∃ group ∈ f.groups k, c ∈ group.conditions) ∨ c ∈ f.leaves k := by
    intro k
    simp [siblings, or_and_right, exists_or, Sibling.conditions]
  rw [conditions_eq]
  simp only [hsiblings, List.mem_append, List.mem_flatMap]
  constructor
  · rintro (((h | h) | h) | h)
    · exact ⟨.and, Or.inl h⟩
    · exact ⟨.and, Or.inr h⟩
    · exact ⟨.or, Or.inl h⟩
    · exact ⟨.or, Or.inr h⟩
  · rintro ⟨k, h⟩
    cases k with
    | and =>
        exact Or.inl (Or.inl h)
    | or =>
        rcases h with h | h
        · exact Or.inl (Or.inr h)
        · exact Or.inr h

/-- No condition is in a filter after filing that was not there before or in what was filed. -/
theorem mem_conditions_file
    {f : Filter}
    {s : Sibling}
    {connector : Connector}
    {c : Condition}
    (hs : s.isEmpty = false)
    (h : c ∈ (f.file connector s).conditions) :
    c ∈ f.conditions ∨ c ∈ s.conditions := by
  rw [mem_conditions_iff_siblings] at h ⊢
  obtain ⟨k, t, ht, hc⟩ := h
  rcases (mem_siblings_file f connector k hs t).1 ht with ht | ⟨-, rfl⟩
  · exact Or.inl ⟨k, t, ht, hc⟩
  · exact Or.inr hc

/-! ### Truth -/

section Truth

variable (truth : Condition → Prop)

/-- All siblings under `and` form one alternative, if there are any, and each sibling under `or` is
one. -/
theorem holds_iff_siblings (f : Filter) :
    f.Holds truth ↔
      (f.siblings .and ≠ [] ∧ ∀ s ∈ f.siblings .and, s.Holds truth) ∨
        ∃ s ∈ f.siblings .or, s.Holds truth := by
  have hall : (∀ s ∈ f.siblings .and, s.Holds truth) ↔
      (∀ group ∈ f.groups .and, group.Holds truth) ∧ ∀ c ∈ f.leaves .and, truth c := by
    simp only [siblings, List.forall_mem_append, List.forall_mem_map, Sibling.Holds]
  have hany : (∃ s ∈ f.siblings .or, s.Holds truth) ↔
      (∃ group ∈ f.groups .or, group.Holds truth) ∨ ∃ c ∈ f.leaves .or, truth c := by
    simp [siblings, or_and_right, exists_or, Sibling.Holds]
  have hsome : f.siblings .and ≠ [] ↔ f.groups .and ≠ [] ∨ f.leaves .and ≠ [] := by
    simp only [siblings, ne_eq, List.append_eq_nil_iff, List.map_eq_nil_iff, not_and_or]
  rw [holds_iff, hall, hany, hsome]

variable {f : Filter} {s : Sibling}

theorem exists_mem_siblings_file
    (connector : Connector)
    (hs : s.isEmpty = false) :
    (∃ t ∈ (f.file connector s).siblings connector, t.Holds truth) ↔
      (∃ t ∈ f.siblings connector, t.Holds truth) ∨ s.Holds truth := by
  simp only [mem_siblings_file f connector connector hs, true_and, or_and_right, exists_or,
    exists_eq_left]

theorem forall_mem_siblings_file
    (connector : Connector)
    (hs : s.isEmpty = false) :
    (∀ t ∈ (f.file connector s).siblings connector, t.Holds truth) ↔
      (∀ t ∈ f.siblings connector, t.Holds truth) ∧ s.Holds truth := by
  simp only [mem_siblings_file f connector connector hs, true_and, or_imp, forall_and,
    forall_eq]

/-- What is filed under `or` is one more way to satisfy the predicate. -/
theorem holds_file_or (hs : s.isEmpty = false) :
    (f.file .or s).Holds truth ↔ f.Holds truth ∨ s.Holds truth := by
  have hand : (f.file .or s).siblings .and = f.siblings .and :=
    siblings_file_of_ne f hs (by decide)
  rw [holds_iff_siblings, holds_iff_siblings, hand, exists_mem_siblings_file truth .or hs,
    or_assoc]

/-- What is filed under `and` restricts the alternative that stands there, or becomes it. -/
theorem holds_file_and (hs : s.isEmpty = false) :
    (f.file .and s).Holds truth ↔
      (∀ t ∈ f.siblings .and, t.Holds truth) ∧ s.Holds truth ∨
        ∃ t ∈ f.siblings .or, t.Holds truth := by
  have hor : (f.file .and s).siblings .or = f.siblings .or :=
    siblings_file_of_ne f hs (by decide)
  have hne : (f.file .and s).siblings .and ≠ [] :=
    List.ne_nil_of_mem ((mem_siblings_file f .and .and hs s).2 (Or.inr ⟨rfl, rfl⟩))
  rw [holds_iff_siblings, hor, forall_mem_siblings_file truth .and hs, and_iff_right hne]

/-- Beside something else under `and`, what is filed there only narrows the predicate, and only to
where it holds itself. -/
theorem holds_of_holds_file_and
    (hs : s.isEmpty = false)
    (hand : f.siblings .and ≠ []) :
    ((f.file .and s).Holds truth → f.Holds truth) ∧
      (f.Holds truth → s.Holds truth → (f.file .and s).Holds truth) := by
  rw [holds_file_and truth hs, holds_iff_siblings]
  tauto

/-- Where nothing stands under `and`, filing there is filing under `or`. -/
theorem holds_file_and_iff_holds_file_or
    (hs : s.isEmpty = false)
    (hand : f.siblings .and = []) :
    (f.file .and s).Holds truth ↔ (f.file .or s).Holds truth := by
  rw [holds_file_and truth hs, holds_file_or truth hs, holds_iff_siblings, hand]
  simp [or_comm]

/-- The filter with a single group says what the group says, under either connector. -/
theorem holds_file_empty
    (connector : Connector)
    (hs : s.isEmpty = false) :
    (empty.file connector s).Holds truth ↔ s.Holds truth := by
  have hor : (empty.file .or s).Holds truth ↔ s.Holds truth := by
    rw [holds_file_or truth hs, holds_iff_siblings]
    simp [siblings, empty, groups, leaves]
  cases connector with
  | and =>
      rw [holds_file_and_iff_holds_file_or truth hs rfl, hor]
  | or =>
      exact hor

end Truth

/-! ### Readable filters -/

/-- A filter that can be built, that is not empty, and whose conditions no connector around them can
take apart. -/
structure IsReadable (f : Filter) : Prop where
  built : f.Built
  isEmpty_eq : f.isEmpty = false
  plain : ∀ c ∈ f.conditions, c.IsPlain

/-- A condition that no connector around it can take apart, or a group that is readable. -/
def Sibling.IsReadable : Sibling → Prop
  | leaf c => c.IsPlain
  | group f => f.IsReadable

/-- The text of a filter is read as a search condition. -/
def Says (f : Filter) (condition : SearchCondition) : Prop :=
  ∃ text, f.sql = .ok text ∧ SearchCondition.ofText? text = some condition

theorem Says.ofText?_eq
    {f : Filter}
    {condition : SearchCondition}
    {text : String}
    (h : f.Says condition)
    (htext : f.sql = .ok text) :
    SearchCondition.ofText? text = some condition := by
  obtain ⟨own, hown, hread⟩ := h
  rwa [Except.ok.inj (htext.symm.trans hown)]

theorem Sibling.IsReadable.isEmpty_eq
    {s : Sibling}
    (h : s.IsReadable) :
    s.isEmpty = false := by
  cases s with
  | leaf c =>
      rfl
  | group f =>
      exact Filter.IsReadable.isEmpty_eq h

theorem Sibling.IsReadable.plain
    {s : Sibling}
    (h : s.IsReadable) :
    ∀ c ∈ s.conditions, c.IsPlain := by
  cases s with
  | leaf c =>
      exact fun d hd => List.mem_singleton.1 hd ▸ h
  | group f =>
      exact Filter.IsReadable.plain h

/-- Filing something readable leaves a filter that can be read. -/
theorem isReadable_file
    {f : Filter}
    {s : Sibling}
    (connector : Connector)
    (hbuilt : f.Built)
    (hplain : ∀ c ∈ f.conditions, c.IsPlain)
    (hs : s.IsReadable) :
    (f.file connector s).IsReadable := by
  refine ⟨?_, isEmpty_file f connector hs.isEmpty_eq, ?_⟩
  · cases s with
    | leaf c =>
        exact hbuilt.push connector c
    | group group =>
        exact hbuilt.pushGroup connector (Filter.IsReadable.built hs)
  · intro c hc
    rcases mem_conditions_file hs.isEmpty_eq hc with hc | hc
    · exact hplain c hc
    · exact hs.plain c hc

theorem IsReadable.exists_text
    {f : Filter}
    (h : f.IsReadable) :
    ∃ condition, f.Says condition ∧
      ∀ truth : String → Prop, condition.Holds truth ↔ f.Holds fun c => truth c.text := by
  obtain ⟨text, htext⟩ := (exists_sql_iff f).2 fun c hc =>
    let ⟨own, hown, _⟩ := h.plain c hc
    ⟨own, hown⟩
  exact ⟨f.searchCondition, ⟨text, htext, read?_sql h.built.reduced h.isEmpty_eq h.plain htext⟩,
    fun truth => holds_searchCondition truth f⟩

/-- What filing a condition or a group does to what the text of a filter says.  Under `or` it is one
more way to satisfy the predicate, so it never makes it false.  Under `and` it never makes it true
if something stands there already; if nothing does, it has the effect of filing under `or`.  A
filter that is the only group of a new one says the same as before. -/
theorem filing_moves_meaning
    {f : Filter}
    {s : Sibling}
    (hf : f.IsReadable)
    (hs : s.IsReadable) :
    ∃ before behindAnd behindOr,
      f.Says before ∧
      (f.file .and s).Says behindAnd ∧
      (f.file .or s).Says behindOr ∧
      (∀ truth : String → Prop,
        (before.Holds truth → behindOr.Holds truth) ∧
        (behindOr.Holds truth ↔ before.Holds truth ∨ s.Holds fun c => truth c.text) ∧
        (f.siblings .and ≠ [] →
          (behindAnd.Holds truth → before.Holds truth) ∧
          (before.Holds truth → (s.Holds fun c => truth c.text) → behindAnd.Holds truth)) ∧
        (f.siblings .and = [] → (behindAnd.Holds truth ↔ behindOr.Holds truth))) ∧
      ∀ connector, ∃ wrapped,
        (empty.pushGroup connector f).Says wrapped ∧
        ∀ truth : String → Prop, wrapped.Holds truth ↔ before.Holds truth := by
  have hne := hs.isEmpty_eq
  obtain ⟨before, hbefore, hholds⟩ := hf.exists_text
  obtain ⟨behindAnd, hand, hholdsAnd⟩ :=
    (isReadable_file .and hf.built hf.plain hs).exists_text
  obtain ⟨behindOr, hor, hholdsOr⟩ := (isReadable_file .or hf.built hf.plain hs).exists_text
  refine ⟨before, behindAnd, behindOr, hbefore, hand, hor, fun truth => ?_, fun connector => ?_⟩
  · rw [hholds, hholdsAnd, hholdsOr]
    have hwiden := holds_file_or (fun c => truth c.text) (f := f) hne
    exact ⟨fun h => hwiden.2 (Or.inl h), hwiden, holds_of_holds_file_and _ hne,
      holds_file_and_iff_holds_file_or _ hne⟩
  · have hgroup : (Sibling.group f).IsReadable := hf
    obtain ⟨wrapped, hwrapped, hholdsWrapped⟩ :=
      (isReadable_file connector Built.empty (by simp [empty, conditions, groupConditions])
        hgroup).exists_text
    refine ⟨wrapped, hwrapped, fun truth => ?_⟩
    rw [hholdsWrapped, hholds, holds_file_empty _ connector hgroup.isEmpty_eq, Sibling.Holds]

/-- A group with an alternative in it, filed beside an alternative. -/
theorem filing_moves_meaning_role :
    let filter : Filter :=
      (Filter.single (.equals "status" (.int 1))).push .or (.equals "role" (.int 2))
    let group : Filter := (Filter.single (.isNull "hidden")).push .or (.oneOf "id" (.ints32 [1, 2]))
    filter.IsReadable ∧ group.IsReadable ∧
    ∃ before behindAnd behindOr,
      SearchCondition.ofText? "status = 1 Or role = 2" = some before ∧
      SearchCondition.ofText? "(hidden is null Or id in (1,2)) And status = 1 Or role = 2" =
        some behindAnd ∧
      SearchCondition.ofText? "status = 1 Or (hidden is null Or id in (1,2)) Or role = 2" =
        some behindOr ∧
      ∀ truth : String → Prop,
        (before.Holds truth → behindOr.Holds truth) ∧
          (behindAnd.Holds truth → before.Holds truth) := by
  intro filter group
  have hfilter : filter.IsReadable :=
    ⟨(Built.single _).push .or _, rfl, by decide +kernel⟩
  have hgroup : group.IsReadable :=
    ⟨(Built.single _).push .or _, rfl, by decide +kernel⟩
  obtain ⟨before, behindAnd, behindOr, hbefore, hand, hor, hholds, -⟩ :=
    filing_moves_meaning (s := .group group) hfilter hgroup
  refine ⟨hfilter, hgroup, before, behindAnd, behindOr, hbefore.ofText?_eq (by decide +kernel),
    hand.ofText?_eq (by decide +kernel), hor.ofText?_eq (by decide +kernel), fun truth => ?_⟩
  obtain ⟨hwiden, -, hnarrow, -⟩ := hholds truth
  exact ⟨hwiden, (hnarrow (by decide)).1⟩

end Filter

end SqlStatement
