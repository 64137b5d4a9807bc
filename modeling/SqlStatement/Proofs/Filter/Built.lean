import Mathlib.Data.List.Chain
import SqlStatement.Proofs.Filter.Text
import SqlStatement.Proofs.SearchCondition.Pieces

/-!
# Filters that can be built

The text of a filter is put together by tests on texts: a part is left out where its text is empty,
and a connector stands only between texts that are not.  For filters that can be built these tests
say the same as tests on the lists of groups and conditions, because no group that is stored is
empty and no condition has an empty text, not even one without field, operator and argument.

* `Filter.Built` are the filters that edits and the steps of queries and deletions can build.
* `Filter.arrangeParts` puts a text together by tests on lists alone, and `Filter.arrange_eq` says
  that it is the text.
* `Filter.noEmptyPair_sql` says that parentheses which conditions do not write are never empty.
* `Filter.text_of_built_follows_structure` is the main result.
-/

namespace SqlStatement

open Fallible SearchText

/-! ### Parentheses without content -/

namespace SearchText

/-- A text in which no parenthesis is closed directly behind the one that opens. -/
def NoEmptyPair (text : List Char) : Prop :=
  text.IsChain fun c d => ¬(c = '(' ∧ d = ')')

instance (text : List Char) : Decidable (NoEmptyPair text) :=
  inferInstanceAs (Decidable (List.IsChain _ _))

/-- A text without empty parentheses that forms none with what stands around it. -/
structure Tight (text : List Char) : Prop where
  noEmptyPair : NoEmptyPair text
  first_ne : text.head? ≠ some ')'
  last_ne : text.getLast? ≠ some '('

namespace Tight

theorem nil : Tight [] :=
  ⟨.nil, by simp, by simp⟩

/-- A balanced text begins with no parenthesis that closes and ends with none that opens. -/
theorem of_balanced
    {text : List Char}
    (hbalanced : Balanced text)
    (h : NoEmptyPair text) :
    Tight text := by
  refine ⟨h, ?_, ?_⟩
  · intro hhead
    obtain ⟨rest, rfl⟩ := List.head?_eq_some_iff.1 hhead
    simp [Balanced, depthAfter] at hbalanced
  · intro hlast
    obtain ⟨rest, rfl⟩ := List.getLast?_eq_some_iff.1 hlast
    rw [Balanced, depthAfter_append] at hbalanced
    obtain ⟨depth, -, hdepth⟩ := Option.bind_eq_some_iff.1 hbalanced
    simp [depthAfter, depthBehind] at hdepth

theorem append
    {first second : List Char}
    (hfirst : Tight first)
    (hsecond : Tight second) :
    Tight (first ++ second) := by
  refine ⟨List.isChain_append.2 ⟨hfirst.noEmptyPair, hsecond.noEmptyPair, ?_⟩, ?_, ?_⟩
  · rintro c hc d hd ⟨rfl, rfl⟩
    exact hsecond.first_ne hd
  · intro hhead
    rw [List.head?_append, Option.or_eq_some_iff] at hhead
    rcases hhead with hhead | ⟨-, hhead⟩
    · exact hfirst.first_ne hhead
    · exact hsecond.first_ne hhead
  · intro hlast
    rw [List.getLast?_append, Option.or_eq_some_iff] at hlast
    rcases hlast with hlast | ⟨-, hlast⟩
    · exact hsecond.last_ne hlast
    · exact hfirst.last_ne hlast

theorem parenthesized
    {inner : List Char}
    (h : Tight inner)
    (hne : inner ≠ []) :
    Tight ('(' :: (inner ++ [')'])) := by
  have hclose : NoEmptyPair (inner ++ [')']) := by
    refine List.isChain_append.2 ⟨h.noEmptyPair, .singleton _, ?_⟩
    rintro c hc d - ⟨rfl, -⟩
    exact h.last_ne hc
  refine ⟨List.isChain_cons.2 ⟨?_, hclose⟩, by simp, ?_⟩
  swap
  · rw [← List.cons_append, List.getLast?_concat]
    simp
  rintro d hd ⟨-, rfl⟩
  rw [List.head?_append_of_ne_nil _ hne] at hd
  exact h.first_ne hd

end Tight

end SearchText

namespace Filter

/-! ### Building -/

/-- A filter that can be built: by filing conditions and groups that were built, and by the steps of
queries and deletions that start with a filter that was built. -/
inductive Built : Filter → Prop where
  | empty : Built .empty
  | single (c : Condition) : Built (.single c)
  | push
      {f : Filter}
      (h : Built f)
      (connector : Connector)
      (c : Condition) :
      Built (f.push connector c)
  | pushGroup
      {f group : Filter}
      (h : Built f)
      (connector : Connector)
      (hgroup : Built group) :
      Built (f.pushGroup connector group)
  | querySteps
      {q next : Query}
      {steps : List Query.Step}
      (h : Built q.filter)
      (hsteps : Query.Step.applyAll steps q = .ok next) :
      Built next.filter
  | deleteSteps
      {d next : Delete}
      {steps : List Delete.Step}
      (h : Built d.filter)
      (hsteps : Delete.Step.applyAll steps d = .ok next) :
      Built next.filter

namespace Built

theorem reduced
    {f : Filter}
    (h : f.Built) :
    f.Reduced := by
  induction h with
  | empty =>
      exact .empty
  | single c =>
      exact .single c
  | push _ connector c ih =>
      exact ih.push connector c
  | pushGroup _ connector _ ih ihgroup =>
      exact ih.pushGroup connector ihgroup
  | querySteps _ hsteps ih =>
      exact Query.Step.reduced_applyAll _ hsteps ih
  | deleteSteps _ hsteps ih =>
      exact Delete.Step.reduced_applyAll hsteps ih

mutual

theorem edit :
    ∀ (edit : Edit) {f : Filter}, f.Built → (edit.apply f).Built
  | .push connector c, f, h => by
      rw [Edit.apply]
      exact h.push connector c
  | .pushGroup connector edits, f, h => by
      rw [Edit.apply]
      exact h.pushGroup connector (Built.edits edits .empty)
  | .single c, f, _ => by
      rw [Edit.apply]
      exact .single c
  | .clear, f, _ => by
      rw [Edit.apply]
      exact .empty
  | .nest connector, f, h => by
      rw [Edit.apply]
      exact h.pushGroup connector h
  | .wrap connector, f, h => by
      rw [Edit.apply]
      exact Built.empty.pushGroup connector h

theorem edits :
    ∀ (edits : List Edit) {f : Filter}, f.Built → (Edit.applyAll edits f).Built
  | [], f, h => h
  | edit :: edits, f, h => by
      rw [Edit.applyAll]
      exact Built.edits edits (Built.edit edit h)

end

end Built

/-! ### Parts of a text -/

/-- The texts of the groups and conditions of a filter. -/
structure Parts (f : Filter) where
  groups : Connector → List String
  leaves : Connector → List String
  groups_sql : ∀ connector, List.Forall₂ IsGroupText (f.groups connector) (groups connector)
  leaves_sql : ∀ connector,
    List.Forall₂ (fun c t => c.sql = .ok t) (f.leaves connector) (leaves connector)

/-- Several parts as one, if there are any. -/
def merged (word : String) (parts : List String) : List String :=
  if parts.isEmpty then [] else [word.intercalate parts]

/-- The text from the texts of the four kinds of siblings, by tests on lists alone. -/
def arrangeParts (andGroups andLeaves orGroups orLeaves : List String) : String :=
  let conjuncts := merged " AND " andGroups ++ merged " AND " andLeaves
  " Or ".intercalate
    (merged " And " conjuncts ++ merged " OR " orGroups ++ merged " OR " orLeaves)

theorem intercalate_merged (outer word : String) (parts : List String) :
    outer.intercalate (merged word parts) = word.intercalate parts := by
  cases parts <;> simp [merged]

theorem merged_ne_empty
    (word : String)
    {parts : List String}
    (h : ∀ t ∈ parts, t ≠ "") :
    ∀ t ∈ merged word parts, t ≠ "" := by
  intro t ht hempty
  cases parts with
  | nil =>
      simp [merged] at ht
  | cons first parts =>
      obtain rfl : t = word.intercalate (first :: parts) := by
        simpa [merged] using ht
      exact List.cons_ne_nil _ _ ((intercalate_eq_empty_iff word h).1 hempty)

/-- Gluing two joined texts joins all their parts. -/
theorem glue_intercalate
    (word : String)
    {first second : List String}
    (hfirst : ∀ t ∈ first, t ≠ "")
    (hsecond : ∀ t ∈ second, t ≠ "") :
    glue word (word.intercalate first) (word.intercalate second) =
      word.intercalate (first ++ second) := by
  unfold glue
  split
  · rename_i hempty
    rw [(intercalate_eq_empty_iff word hfirst).1 hempty, List.nil_append]
  · rename_i hfirstne
    split
    · rename_i hempty
      rw [(intercalate_eq_empty_iff word hsecond).1 hempty, List.append_nil]
    · rename_i hsecondne
      rw [String.intercalate_append_of_ne_nil
        (mt (intercalate_eq_empty_iff word hfirst).2 hfirstne)
        (mt (intercalate_eq_empty_iff word hsecond).2 hsecondne)]

/-- Siblings with texts that are not empty have an empty text together exactly if there are none. -/
theorem joined_eq_empty_iff_of_forall₂
    {α : Type}
    {written : α → String → Prop}
    {connector : Connector}
    {siblings : List α}
    {texts : List String}
    (h : List.Forall₂ written siblings texts)
    (hne : ∀ t ∈ texts, t ≠ "") :
    joined connector texts = "" ↔ siblings = [] := by
  rw [joined_eq_empty_iff hne, ← List.length_eq_zero_iff, ← List.length_eq_zero_iff, h.length_eq]

/-- Where no group and no condition has an empty text, tests on texts are tests on lists. -/
theorem arrange_eq
    {andGroups andLeaves orGroups orLeaves : List String}
    (handGroups : ∀ t ∈ andGroups, t ≠ "")
    (handLeaves : ∀ t ∈ andLeaves, t ≠ "")
    (horGroups : ∀ t ∈ orGroups, t ≠ "")
    (horLeaves : ∀ t ∈ orLeaves, t ≠ "") :
    arrange andGroups andLeaves orGroups orLeaves =
      arrangeParts andGroups andLeaves orGroups orLeaves := by
  have hand : ∀ texts, joined .and texts = " And ".intercalate (merged " AND " texts) :=
    fun texts => (intercalate_merged " And " " AND " texts).symm
  have hor : ∀ texts, joined .or texts = " Or ".intercalate (merged " OR " texts) :=
    fun texts => (intercalate_merged " Or " " OR " texts).symm
  have hconjuncts := List.forall_mem_append.2
    ⟨merged_ne_empty " AND " handGroups, merged_ne_empty " AND " handLeaves⟩
  have hdisjuncts := List.forall_mem_append.2
    ⟨merged_ne_empty " And " hconjuncts, merged_ne_empty " OR " horGroups⟩
  unfold arrange arrangeParts
  simp only [hand, hor]
  rw [glue_intercalate " And " (merged_ne_empty " AND " handGroups)
      (merged_ne_empty " AND " handLeaves),
    ← intercalate_merged " Or " " And ",
    glue_intercalate " Or " (merged_ne_empty " And " hconjuncts) (merged_ne_empty " OR " horGroups),
    glue_intercalate " Or " hdisjuncts (merged_ne_empty " OR " horLeaves)]

namespace Parts

variable {f : Filter}

theorem exists_of_sql
    {text : String}
    (h : f.sql = .ok text) :
    ∃ parts : f.Parts,
      text =
        arrange (parts.groups .and) (parts.leaves .and) (parts.groups .or)
          (parts.leaves .or) := by
  obtain ⟨andGroups, andLeaves, orGroups, orLeaves, handGroups, handLeaves, horGroups,
    horLeaves, htext⟩ := (sql_eq_ok_iff f text).1 h
  refine ⟨⟨fun connector => if connector = .and then andGroups else orGroups,
    fun connector => if connector = .and then andLeaves else orLeaves, ?_, ?_⟩, htext⟩
  · rintro (_ | _)
    · exact handGroups
    · exact horGroups
  · rintro (_ | _)
    · exact handLeaves
    · exact horLeaves

variable (parts : f.Parts) (connector : Connector)

theorem groups_ne_empty :
    ∀ t ∈ parts.groups connector, t ≠ "" :=
  forall_right_of_forall₂ (parts.groups_sql connector) fun _ _ h => h.ne_empty

theorem leaves_ne_empty :
    ∀ t ∈ parts.leaves connector, t ≠ "" :=
  forall_right_of_forall₂ (parts.leaves_sql connector) fun _ _ h => Condition.sql_ne_empty h

/-- The groups of a connector contribute to the text exactly if there are any. -/
theorem joined_groups_eq_empty_iff :
    joined connector (parts.groups connector) = "" ↔ f.groups connector = [] :=
  joined_eq_empty_iff_of_forall₂ (parts.groups_sql connector) (parts.groups_ne_empty connector)

/-- The conditions of a connector contribute to the text exactly if there are any. -/
theorem joined_leaves_eq_empty_iff :
    joined connector (parts.leaves connector) = "" ↔ f.leaves connector = [] :=
  joined_eq_empty_iff_of_forall₂ (parts.leaves_sql connector) (parts.leaves_ne_empty connector)

end Parts

/-! ### Groups in a text -/

theorem mem_conditions_of_stores
    {f group : Filter}
    {c : Condition}
    (h : f.Stores group)
    (hc : c ∈ group.conditions) :
    c ∈ f.conditions := by
  induction h with
  | group hmem =>
      exact mem_conditions_of_mem_groups hmem hc
  | inside hmem _ ih =>
      exact mem_conditions_of_mem_groups hmem (ih hc)

/-- A group that is stored is written with something between its parentheses. -/
theorem exists_sql_of_stores
    {f group : Filter}
    {text : String}
    (hreduced : f.Reduced)
    (hgroup : f.Stores group)
    (h : f.sql = .ok text) :
    ∃ inner, group.sql = .ok inner ∧ inner ≠ "" := by
  have hconditions := (exists_sql_iff f).1 ⟨text, h⟩
  obtain ⟨inner, hinner⟩ := (exists_sql_iff group).2 fun c hc =>
    hconditions c (mem_conditions_of_stores hgroup hc)
  exact ⟨inner, hinner, sql_ne_empty hinner (hreduced.isEmpty_of_stores hgroup)⟩

theorem keptByConnectors_tight :
    KeptByConnectors fun text => Tight text.toList where
  empty := .nil
  between word hword hleft hright := by
    have htight : Tight word.toList := by
      simp only [List.mem_cons, List.not_mem_nil, or_false] at hword
      rcases hword with rfl | rfl | rfl | rfl <;> exact ⟨by decide, by decide, by decide⟩
    rw [String.toList_append, String.toList_append]
    exact (hleft.append htight).append hright

/-- Groups write no empty parentheses. -/
theorem noEmptyPair_sql
    {f : Filter}
    {text : String}
    (hreduced : f.Reduced)
    (hconditions : ∀ c ∈ f.conditions, ∀ t,
      c.sql = .ok t → Balanced t.toList ∧ NoEmptyPair t.toList)
    (h : f.sql = .ok text) :
    NoEmptyPair text.toList := by
  refine (keptByConnectors_tight.sql ?_ ?_ h).noEmptyPair
  · intro group inner hgroup hinner htight
    have hne := sql_ne_empty hinner (hreduced.isEmpty_of_stores hgroup)
    have hparenthesized := htight.parenthesized (mt String.toList_eq_nil_iff.1 hne)
    simpa [String.toList_append] using hparenthesized
  · intro c hc t ht
    obtain ⟨hbalanced, hpair⟩ := hconditions c hc t ht
    exact .of_balanced hbalanced hpair

/-! ### Main result -/

/-- A filter that can be built stores no empty group, so it is empty exactly if it has no condition
at any depth.  Its text is empty exactly if the filter is, puts something between the parentheses of
every group, and has a part for groups or conditions of a connector exactly if there are any: the
tests on texts that put it together are tests on lists. -/
theorem text_of_built_follows_structure
    {f : Filter}
    (h : f.Built) :
    (∀ group, f.Stores group → group.isEmpty = false) ∧
    (f.isEmpty = true ↔ f.conditions = []) ∧
    ∀ text, f.sql = .ok text →
      (text = "" ↔ f.isEmpty = true) ∧
      (∀ group, f.Stores group → ∃ inner, group.sql = .ok inner ∧ inner ≠ "") ∧
      ((∀ c ∈ f.conditions, ∀ t, c.sql = .ok t → Balanced t.toList ∧ NoEmptyPair t.toList) →
        NoEmptyPair text.toList) ∧
      ∃ parts : f.Parts,
        text =
          arrange (parts.groups .and) (parts.leaves .and) (parts.groups .or)
            (parts.leaves .or) ∧
        (∀ connector,
          (joined connector (parts.groups connector) = "" ↔ f.groups connector = []) ∧
          (joined connector (parts.leaves connector) = "" ↔ f.leaves connector = [])) ∧
        text =
          arrangeParts (parts.groups .and) (parts.leaves .and) (parts.groups .or)
            (parts.leaves .or) := by
  have hreduced := h.reduced
  refine ⟨fun group hgroup => hreduced.isEmpty_of_stores hgroup, ?_, fun text htext => ?_⟩
  · constructor
    · exact conditions_eq_nil_of_isEmpty
    · intro hnil
      rw [← Bool.not_eq_false]
      exact fun hne => hreduced.conditions_ne_nil hne hnil
  · refine ⟨eq_empty_iff_of_sql htext,
      fun group hgroup => exists_sql_of_stores hreduced hgroup htext,
      fun hconditions => noEmptyPair_sql hreduced hconditions htext, ?_⟩
    obtain ⟨parts, rfl⟩ := Parts.exists_of_sql htext
    refine ⟨parts, rfl, fun connector => ⟨parts.joined_groups_eq_empty_iff connector,
      parts.joined_leaves_eq_empty_iff connector⟩, ?_⟩
    exact arrange_eq (parts.groups_ne_empty .and) (parts.leaves_ne_empty .and)
      (parts.groups_ne_empty .or) (parts.leaves_ne_empty .or)

/-- A condition without field, operator and argument, filed in itself and in a new filter, with
groups that hold nothing on either side. -/
theorem text_of_built_follows_structure_blank :
    let blank : Condition := ⟨"", "", .text ""⟩
    let edits : List Edit := [.pushGroup .and [], .push .or blank, .nest .and, .wrap .or]
    let start : Query := { Query.onTable "t" with filter := Edit.applyAll edits empty }
    ∃ q,
      Query.Step.applyAll [.group .and [.group .or [], .limit 1]] start = .ok q ∧
      q.filter.sql = .ok "(( ) Or  )" ∧
      q.filter.isEmpty = false ∧
      NoEmptyPair "(( ) Or  )".toList := by
  intro blank edits start
  have hbuilt : start.filter.Built := Built.edits edits .empty
  have hsteps :
      Query.Step.applyAll [.group .and [.group .or [], .limit 1]] start = .ok start := rfl
  obtain ⟨-, -, htext⟩ := text_of_built_follows_structure (hbuilt.querySteps hsteps)
  have hsql : start.filter.sql = .ok "(( ) Or  )" := by decide +kernel
  obtain ⟨hempty, -, hpair, -⟩ := htext _ hsql
  have hconditions : start.filter.conditions = [blank, blank] := rfl
  refine ⟨start, hsteps, hsql, ?_, hpair ?_⟩
  · rw [← Bool.not_eq_true, ← hempty]
    decide
  · intro c hc t ht
    obtain rfl : c = blank := by simpa [hconditions] using hc
    obtain rfl : " " = t := Except.ok.inj ht
    decide

end Filter

end SqlStatement
