import SqlStatement.Proofs.Condition.Text
import SqlStatement.Proofs.Filter.Conditions

/-!
# The text of a filter

* `Filter.sql_eq_ok_iff` says when a filter has a text and how it is put together from the texts of
  its groups and conditions.
* `Filter.eq_empty_iff_of_sql` says that the empty filter alone has the empty text.
* `Filter.KeptByConnectors.sql` proves a property of the text from the texts of the conditions.
* `Filter.failure?_sql` says that a filter fails with the first of its conditions that fails.
-/

namespace SqlStatement

open Fallible

namespace Filter

/-! ### Texts that are put together -/

/-- The text of a group among its siblings. -/
def IsGroupText (group : Filter) (text : String) : Prop :=
  ∃ inner, group.sql = .ok inner ∧ text = "(" ++ inner ++ ")"

/-- The text from the texts of the four kinds of siblings. -/
def arrange (andGroups andLeaves orGroups orLeaves : List String) : String :=
  let conjuncts := glue " And " (joined .and andGroups) (joined .and andLeaves)
  glue " Or " (glue " Or " conjuncts (joined .or orGroups)) (joined .or orLeaves)

theorem groupSqls_eq_ok_iff
    (groups : List Filter)
    (texts : List String) :
    groupSqls groups = .ok texts ↔ List.Forall₂ IsGroupText groups texts := by
  have hgroup : ∀ (group : Filter) (text : String),
      (do return "(" ++ (← group.sql) ++ ")") = Except.ok text ↔ IsGroupText group text := by
    intro group text
    constructor
    · intro h
      obtain ⟨inner, hinner, h⟩ := exists_of_bind_eq_ok h
      exact ⟨inner, hinner, (Except.ok.inj h).symm⟩
    · rintro ⟨inner, hinner, rfl⟩
      rw [hinner]
      rfl
  rw [groupSqls_eq_mapM, mapM_eq_ok_iff]
  simp only [hgroup]

/-- A filter has a text if its groups and conditions have, and then the text arranges theirs. -/
theorem sql_eq_ok_iff
    (f : Filter)
    (text : String) :
    f.sql = .ok text ↔
      ∃ andGroups andLeaves orGroups orLeaves,
        List.Forall₂ IsGroupText (f.groups .and) andGroups ∧
        List.Forall₂ (fun c t => c.sql = .ok t) (f.leaves .and) andLeaves ∧
        List.Forall₂ IsGroupText (f.groups .or) orGroups ∧
        List.Forall₂ (fun c t => c.sql = .ok t) (f.leaves .or) orLeaves ∧
        text = arrange andGroups andLeaves orGroups orLeaves := by
  simp only [← groupSqls_eq_ok_iff, ← mapM_eq_ok_iff]
  constructor
  · intro h
    rw [sql_eq] at h
    obtain ⟨andGroups, handGroups, h⟩ := exists_of_bind_eq_ok h
    obtain ⟨andLeaves, handLeaves, h⟩ := exists_of_bind_eq_ok h
    obtain ⟨orGroups, horGroups, h⟩ := exists_of_bind_eq_ok h
    obtain ⟨orLeaves, horLeaves, h⟩ := exists_of_bind_eq_ok h
    exact ⟨andGroups, andLeaves, orGroups, orLeaves, handGroups, handLeaves, horGroups,
      horLeaves, (Except.ok.inj h).symm⟩
  · rintro ⟨andGroups, andLeaves, orGroups, orLeaves, handGroups, handLeaves, horGroups,
      horLeaves, rfl⟩
    rw [sql_eq, handGroups, handLeaves, horGroups, horLeaves]
    rfl

/-- The four parts come in their order, whatever the order of filing. -/
example :
    let leaf (field : String) : Condition := .equals field (.int 1)
    ((((single (leaf "a")).pushGroup .or ((single (leaf "b")).push .or (leaf "c"))).push .or
        (leaf "d")).push .and (leaf "e")).sql =
      .ok "a = 1 AND e = 1 Or (b = 1 Or c = 1) Or d = 1" := by
  rfl

/-! ### Texts that are not empty -/

/-- Texts that are not empty join to nothing only if there are none. -/
theorem intercalate_eq_empty_iff
    (separator : String)
    {texts : List String}
    (htexts : ∀ t ∈ texts, t ≠ "") :
    separator.intercalate texts = "" ↔ texts = [] := by
  cases texts with
  | nil =>
      simp
  | cons t texts =>
      have ht : t ≠ "" := htexts t (by simp)
      cases texts with
      | nil =>
          simpa using ht
      | cons u texts =>
          simp [String.append_eq_empty_iff, ht]

theorem joined_eq_empty_iff
    {connector : Connector}
    {texts : List String}
    (htexts : ∀ t ∈ texts, t ≠ "") :
    joined connector texts = "" ↔ texts = [] :=
  intercalate_eq_empty_iff _ htexts

theorem glue_eq_empty_iff
    (word left right : String) :
    glue word left right = "" ↔ left = "" ∧ right = "" := by
  unfold glue
  split
  · simp_all
  · split
    · simp_all
    · simp_all [String.append_eq_empty_iff]

theorem arrange_eq_empty_iff
    (andGroups andLeaves orGroups orLeaves : List String) :
    arrange andGroups andLeaves orGroups orLeaves = "" ↔
      joined .and andGroups = "" ∧ joined .and andLeaves = "" ∧
        joined .or orGroups = "" ∧ joined .or orLeaves = "" := by
  simp only [arrange, glue_eq_empty_iff, and_assoc]

theorem IsGroupText.ne_empty
    {group : Filter}
    {text : String}
    (h : IsGroupText group text) :
    text ≠ "" := by
  obtain ⟨inner, _, rfl⟩ := h
  simp [String.append_eq_empty_iff]

/-- Texts of siblings join to nothing only if there are no siblings. -/
theorem eq_nil_of_joined_eq_empty
    {α : Type}
    {R : α → String → Prop}
    {siblings : List α}
    {texts : List String}
    {connector : Connector}
    (htexts : List.Forall₂ R siblings texts)
    (hR : ∀ sibling text, R sibling text → text ≠ "")
    (h : joined connector texts = "") :
    siblings = [] := by
  have hne : ∀ t ∈ texts, t ≠ "" := forall_right_of_forall₂ htexts hR
  rw [(joined_eq_empty_iff hne).1 h, List.forall₂_nil_right_iff] at htexts
  exact htexts

theorem sql_ne_empty
    {f : Filter}
    {text : String}
    (h : f.sql = .ok text)
    (hne : f.isEmpty = false) :
    text ≠ "" := by
  obtain ⟨andGroups, andLeaves, orGroups, orLeaves, handGroups, handLeaves, horGroups,
    horLeaves, rfl⟩ := (sql_eq_ok_iff f text).1 h
  intro htext
  obtain ⟨h1, h2, h3, h4⟩ := (arrange_eq_empty_iff _ _ _ _).1 htext
  have hgroup : ∀ (group : Filter) (t : String), IsGroupText group t → t ≠ "" :=
    fun _ _ ht => ht.ne_empty
  have hleaf : ∀ (c : Condition) (t : String), c.sql = .ok t → t ≠ "" :=
    fun _ _ ht => Condition.sql_ne_empty ht
  have hempty : f.isEmpty = true := by
    rw [isEmpty_eq_true_iff]
    intro connector
    cases connector
    · exact ⟨eq_nil_of_joined_eq_empty handGroups hgroup h1,
        eq_nil_of_joined_eq_empty handLeaves hleaf h2⟩
    · exact ⟨eq_nil_of_joined_eq_empty horGroups hgroup h3,
        eq_nil_of_joined_eq_empty horLeaves hleaf h4⟩
  simp [hempty] at hne

theorem sql_eq_of_isEmpty
    {f : Filter}
    (h : f.isEmpty = true) :
    f.sql = .ok "" := by
  rw [isEmpty_eq_true_iff] at h
  rw [sql_eq, (h .and).1, (h .and).2, (h .or).1, (h .or).2]
  rfl

/-- The empty filter has the empty text, and no other filter has. -/
theorem eq_empty_iff_of_sql
    {f : Filter}
    {text : String}
    (h : f.sql = .ok text) :
    text = "" ↔ f.isEmpty = true := by
  constructor
  · intro htext
    rw [← Bool.not_eq_false]
    exact fun hne => sql_ne_empty h hne htext
  · intro hempty
    exact Except.ok.inj (h.symm.trans (sql_eq_of_isEmpty hempty))

/-- The text of a filter tells whether it needs a clause. -/
theorem clauseSql_eq_of_sql_eq
    {f g : Filter}
    (h : f.sql = g.sql) :
    f.clauseSql = g.clauseSql := by
  have hempty : ∀ e : Filter, e.isEmpty = true ↔ e.sql = .ok "" := fun e =>
    ⟨sql_eq_of_isEmpty, fun hsql => (eq_empty_iff_of_sql hsql).1 rfl⟩
  have hsame : f.isEmpty = g.isEmpty := by
    rw [Bool.eq_iff_iff, hempty, hempty, h]
  rw [clauseSql, clauseSql, hsame, h]

/-! ### Properties of texts -/

/-- A property of texts that connectors keep: it holds of two texts with a connector between them if
it holds of both. -/
structure KeptByConnectors (P : String → Prop) : Prop where
  empty : P ""
  between {left right : String} (word : String) :
    word ∈ [" AND ", " OR ", " And ", " Or "] → P left → P right → P (left ++ word ++ right)

namespace KeptByConnectors

variable {P : String → Prop}

theorem joined
    (hP : KeptByConnectors P)
    (connector : Connector)
    {texts : List String}
    (htexts : ∀ t ∈ texts, P t) :
    P (Filter.joined connector texts) := by
  have hword : " " ++ connector.keyword ++ " " ∈ [" AND ", " OR ", " And ", " Or "] := by
    cases connector <;> decide
  induction texts with
  | nil =>
      exact hP.empty
  | cons t texts ih =>
      cases texts with
      | nil =>
          simpa [Filter.joined] using htexts t (by simp)
      | cons u texts =>
          rw [Filter.joined, String.intercalate_cons_cons]
          exact hP.between _ hword (htexts t (by simp))
            (ih fun v hv => htexts v (List.mem_cons_of_mem _ hv))

theorem glue
    (hP : KeptByConnectors P)
    {left right : String}
    (word : String)
    (hword : word ∈ [" AND ", " OR ", " And ", " Or "])
    (hleft : P left)
    (hright : P right) :
    P (Filter.glue word left right) := by
  unfold Filter.glue
  split
  · exact hright
  · split
    · exact hleft
    · exact hP.between word hword hleft hright

/-- A property that connectors keep holds of the text of a filter if it holds of its conditions and
parentheses around its groups keep it. -/
theorem sql
    (hP : KeptByConnectors P)
    {f : Filter}
    {text : String}
    (hgroup : ∀ group inner,
      f.Stores group → group.sql = .ok inner → P inner → P ("(" ++ inner ++ ")"))
    (hcondition : ∀ c ∈ f.conditions, ∀ t, c.sql = .ok t → P t)
    (h : f.sql = .ok text) :
    P text := by
  induction f using Filter.induction generalizing text with
  | step f ih =>
      obtain ⟨andGroups, andLeaves, orGroups, orLeaves, handGroups, handLeaves, horGroups,
        horLeaves, rfl⟩ := (sql_eq_ok_iff f text).1 h
      have hgroups : ∀ {connector : Connector} {texts : List String},
          List.Forall₂ IsGroupText (f.groups connector) texts → ∀ t ∈ texts, P t := by
        intro connector texts htexts t ht
        obtain ⟨group, hmem, inner, hinner, rfl⟩ := exists_left_of_forall₂ htexts ht
        refine hgroup group inner (.group hmem) hinner ?_
        exact ih connector group hmem (fun g i hg => hgroup g i (.inside hmem hg))
          (fun c hc => hcondition c (mem_conditions_of_mem_groups hmem hc)) hinner
      have hleaves : ∀ {connector : Connector} {texts : List String},
          List.Forall₂ (fun c t => c.sql = .ok t) (f.leaves connector) texts →
            ∀ t ∈ texts, P t := by
        intro connector texts htexts t ht
        obtain ⟨c, hmem, hc⟩ := exists_left_of_forall₂ htexts ht
        exact hcondition c (mem_conditions_of_mem_leaves hmem) t hc
      have hconjuncts :=
        hP.glue " And " (by decide) (hP.joined .and (hgroups handGroups))
          (hP.joined .and (hleaves handLeaves))
      have hdisjuncts :=
        hP.glue " Or " (by decide) hconjuncts (hP.joined .or (hgroups horGroups))
      exact hP.glue " Or " (by decide) hdisjuncts (hP.joined .or (hleaves horLeaves))

end KeptByConnectors

/-! ### Failures -/

theorem failure?_groupSqls
    {groups : List Filter}
    (h : ∀ group ∈ groups,
      failure? group.sql = group.conditions.findSome? fun c => failure? c.sql) :
    failure? (groupSqls groups) =
      (groups.flatMap conditions).findSome? fun c => failure? c.sql := by
  have hgroup : ∀ group : Filter,
      failure? (do return "(" ++ (← group.sql) ++ ")") = failure? group.sql := by
    intro group
    cases group.sql <;> rfl
  rw [groupSqls_eq_mapM, failure?_mapM]
  simp only [hgroup]
  induction groups with
  | nil =>
      rfl
  | cons group groups ih =>
      rw [List.findSome?_cons, List.flatMap_cons, List.findSome?_append, h group (by simp),
        ih fun g hg => h g (List.mem_cons_of_mem _ hg)]
      cases group.conditions.findSome? fun c => failure? c.sql <;> rfl

/-- A filter fails with the first of its conditions that fails. -/
theorem failure?_sql (f : Filter) :
    failure? f.sql = f.conditions.findSome? fun c => failure? c.sql := by
  induction f using Filter.induction with
  | step f ih =>
      rw [sql_eq, conditions_eq]
      simp only [List.findSome?_append, ← failure?_groupSqls (ih .and),
        ← failure?_groupSqls (ih .or), ← failure?_mapM, Option.or_assoc]
      refine failure?_bind fun _ => failure?_bind fun _ => failure?_bind fun _ => ?_
      cases (f.leaves .or).mapM Condition.sql <;> rfl

/-- A filter has a text exactly if all its conditions have. -/
theorem exists_sql_iff (f : Filter) :
    (∃ text, f.sql = .ok text) ↔ ∀ c ∈ f.conditions, ∃ text, c.sql = .ok text := by
  simp only [← failure?_eq_none_iff, failure?_sql, List.findSome?_eq_none_iff]

end Filter

end SqlStatement
