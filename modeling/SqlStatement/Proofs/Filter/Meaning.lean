import SqlStatement.Proofs.Filter.Text
import SqlStatement.Proofs.SearchCondition

/-!
# What a filter means

The text of a filter is read back as the search condition that the filter stands for, so the filter
that was built and the predicate that the database evaluates are true together.

* `Filter.searchCondition` is what a filter stands for: everything filed under `and` as one
  alternative, and an alternative for everything filed under `or`.
* `Filter.Holds` is the truth of a filter without regard to any text.
* `Filter.read?_sql` reads the text of a reduced filter, and `Filter.holds_searchCondition` compares
  the two notions of truth.
* `Filter.ofText?_sql_applyAll` is the main result, for every filter that edits can build.
-/

namespace SqlStatement

open Fallible SearchText

namespace Condition

/-- The text of a condition that has one. -/
def text (c : Condition) : String :=
  match c.sql with
  | .ok text => text
  | .error _ => ""

theorem text_eq
    {c : Condition}
    {text : String}
    (h : c.sql = .ok text) :
    c.text = text := by
  rw [Condition.text, h]

/-- A condition with a text that no connector around it can take apart. -/
def IsPlain (c : Condition) : Prop :=
  ∃ text, c.sql = .ok text ∧ Plain text.toList

theorem isPlain_iff (c : Condition) :
    c.IsPlain ↔ (c.sql.toOption.any fun text => Plain text.toList) = true := by
  unfold IsPlain
  cases c.sql <;> simp [Except.toOption]

instance (c : Condition) : Decidable c.IsPlain :=
  decidable_of_iff _ (isPlain_iff c).symm

/-- A condition between connectors. -/
def operand (c : Condition) : Operand :=
  .comparison c.text

end Condition

namespace Filter

/-! ### The search condition of a filter -/

/-- One alternative of all operands, or none where there are no operands. -/
def conjunction (operands : List Operand) : SearchCondition :=
  if operands.isEmpty then [] else [operands]

/-- Each operand as an alternative of its own. -/
def alternatives (operands : List Operand) : SearchCondition :=
  operands.map fun operand => [operand]

mutual

/-- The search condition that a filter stands for. -/
def searchCondition : Filter → SearchCondition
  | ⟨andGroups, andLeaves, orGroups, orLeaves⟩ =>
    conjunction (groupOperands andGroups ++ andLeaves.map Condition.operand) ++
      alternatives (groupOperands orGroups ++ orLeaves.map Condition.operand)

/-- Groups between connectors. -/
def groupOperands : List Filter → List Operand
  | [] => []
  | group :: groups => .group group.searchCondition :: groupOperands groups

end

/-- Groups and conditions that are filed under a connector, in their order in the text. -/
def operands (f : Filter) (connector : Connector) : List Operand :=
  (f.groups connector).map (fun group => .group group.searchCondition) ++
    (f.leaves connector).map Condition.operand

theorem groupOperands_eq_map (groups : List Filter) :
    groupOperands groups = groups.map fun group => .group group.searchCondition := by
  induction groups with
  | nil =>
      rfl
  | cons group groups ih =>
      rw [groupOperands, ih, List.map_cons]

theorem searchCondition_eq (f : Filter) :
    f.searchCondition = conjunction (f.operands .and) ++ alternatives (f.operands .or) := by
  cases f
  simp only [searchCondition, groupOperands_eq_map, operands, groups, leaves]

theorem comparisons_conjunction (operands : List Operand) :
    (conjunction operands).comparisons = operands.flatMap Operand.comparisons := by
  cases operands <;> simp [conjunction, SearchCondition.comparisons]

theorem comparisons_alternatives (operands : List Operand) :
    (alternatives operands).comparisons = operands.flatMap Operand.comparisons := by
  simp [alternatives, SearchCondition.comparisons, List.flatMap_map]

/-- The comparisons are the texts of all conditions, each in its place. -/
theorem comparisons_searchCondition (f : Filter) :
    f.searchCondition.comparisons = f.conditions.map Condition.text := by
  induction f using Filter.induction with
  | step f ih =>
      have hoperands : ∀ connector,
          (f.operands connector).flatMap Operand.comparisons =
            ((f.groups connector).flatMap conditions ++ f.leaves connector).map
              Condition.text := by
        intro connector
        have hgroups : ∀ group ∈ f.groups connector,
            (Operand.group group.searchCondition).comparisons =
              group.conditions.map Condition.text := by
          intro group hgroup
          rw [Operand.comparisons_group, ih connector group hgroup]
        have hleaves : ((f.leaves connector).map Condition.operand).flatMap Operand.comparisons =
            (f.leaves connector).map Condition.text := by
          rw [List.flatMap_map, List.map_eq_flatMap]
          simp only [Condition.operand, Operand.comparisons]
        rw [operands, List.flatMap_append, List.flatMap_map, List.map_append, List.map_flatMap,
          List.flatMap_congr hgroups, hleaves]
      rw [searchCondition_eq, SearchCondition.comparisons_append, comparisons_conjunction,
        comparisons_alternatives, hoperands, hoperands, ← List.map_append, conditions_eq]
      simp only [List.append_assoc]

/-! ### Truth -/

section Truth

variable (truth : Condition → Prop)

mutual

/-- Whether all that is filed under `and` holds, and something is filed there, or something that is
filed under `or` holds. -/
def Holds : Filter → Prop
  | ⟨andGroups, andLeaves, orGroups, orLeaves⟩ =>
    ((andGroups ≠ [] ∨ andLeaves ≠ []) ∧ AllHold andGroups ∧ ∀ c ∈ andLeaves, truth c) ∨
      AnyHolds orGroups ∨ ∃ c ∈ orLeaves, truth c

/-- Whether all groups hold. -/
def AllHold : List Filter → Prop
  | [] => True
  | group :: groups => group.Holds ∧ AllHold groups

/-- Whether some group holds. -/
def AnyHolds : List Filter → Prop
  | [] => False
  | group :: groups => group.Holds ∨ AnyHolds groups

end

theorem allHold_iff (groups : List Filter) :
    AllHold truth groups ↔ ∀ group ∈ groups, group.Holds truth := by
  induction groups with
  | nil =>
      simp [AllHold]
  | cons group groups ih =>
      simp [AllHold, ih]

theorem anyHolds_iff (groups : List Filter) :
    AnyHolds truth groups ↔ ∃ group ∈ groups, group.Holds truth := by
  induction groups with
  | nil =>
      simp [AnyHolds]
  | cons group groups ih =>
      simp [AnyHolds, ih]

theorem holds_iff (f : Filter) :
    f.Holds truth ↔
      ((f.groups .and ≠ [] ∨ f.leaves .and ≠ []) ∧
          (∀ group ∈ f.groups .and, group.Holds truth) ∧ ∀ c ∈ f.leaves .and, truth c) ∨
        (∃ group ∈ f.groups .or, group.Holds truth) ∨ ∃ c ∈ f.leaves .or, truth c := by
  cases f
  simp only [Holds, allHold_iff, anyHolds_iff, groups, leaves]

end Truth

theorem holds_conjunction
    (truth : String → Prop)
    (operands : List Operand) :
    (conjunction operands).Holds truth ↔
      operands ≠ [] ∧ ∀ operand ∈ operands, operand.Holds truth := by
  cases operands <;> simp [conjunction, SearchCondition.Holds]

theorem holds_alternatives
    (truth : String → Prop)
    (operands : List Operand) :
    (alternatives operands).Holds truth ↔ ∃ operand ∈ operands, operand.Holds truth := by
  simp [alternatives, SearchCondition.Holds]

theorem forall_mem_operands
    {p : Operand → Prop}
    (f : Filter)
    (connector : Connector) :
    (∀ operand ∈ f.operands connector, p operand) ↔
      (∀ group ∈ f.groups connector, p (.group group.searchCondition)) ∧
        ∀ c ∈ f.leaves connector, p c.operand := by
  simp only [operands, List.mem_append, or_imp, forall_and, List.forall_mem_map]

theorem exists_mem_operands
    {p : Operand → Prop}
    (f : Filter)
    (connector : Connector) :
    (∃ operand ∈ f.operands connector, p operand) ↔
      (∃ group ∈ f.groups connector, p (.group group.searchCondition)) ∨
        ∃ c ∈ f.leaves connector, p c.operand := by
  simp only [operands, List.mem_append, or_and_right, exists_or, List.mem_map,
    exists_exists_and_eq_and]

theorem operands_eq_nil_iff
    (f : Filter)
    (connector : Connector) :
    f.operands connector = [] ↔ f.groups connector = [] ∧ f.leaves connector = [] := by
  simp only [operands, List.append_eq_nil_iff, List.map_eq_nil_iff]

/-- A filter and the search condition it stands for are true together. -/
theorem holds_searchCondition
    (truth : String → Prop)
    (f : Filter) :
    f.searchCondition.Holds truth ↔ f.Holds fun c => truth c.text := by
  induction f using Filter.induction with
  | step f ih =>
      have hgroup : ∀ connector, ∀ group ∈ f.groups connector,
          ((Operand.group group.searchCondition).Holds truth ↔
            group.Holds fun c => truth c.text) := by
        intro connector group hgroup
        rw [Operand.holds_group, ih connector group hgroup]
      have hleaf : ∀ c : Condition, c.operand.Holds truth ↔ truth c.text := by
        intro c
        simp only [Condition.operand, Operand.Holds]
      rw [searchCondition_eq, SearchCondition.holds_append, holds_conjunction,
        holds_alternatives, holds_iff, forall_mem_operands, exists_mem_operands, ne_eq,
        operands_eq_nil_iff, not_and_or]
      simp only [hleaf]
      rw [forall₂_congr (hgroup .and), exists_congr fun group => and_congr_right (hgroup .or group)]

/-! ### Reading the text -/

theorem spliced_joined
    (connector : Connector)
    (texts : List String) :
    Spliced connector (texts.map String.toList) (joined connector texts).toList := by
  have hkeyword : connector.isSpelled connector.keyword.toList := by
    cases connector <;> decide
  induction texts with
  | nil =>
      exact .nil
  | cons text texts ih =>
      cases texts with
      | nil =>
          simpa [joined] using Spliced.single text.toList
      | cons next texts =>
          have hsplice := Spliced.cons text.toList hkeyword (by simp) ih
          simpa [joined, String.toList_append] using hsplice

theorem spliced_glue
    {connector : Connector}
    {word left right : String}
    {keyword : List Char}
    {first second : List (List Char)}
    (hword : word.toList = ' ' :: (keyword ++ [' ']))
    (hkeyword : connector.isSpelled keyword)
    (hleft : Spliced connector first left.toList)
    (hright : Spliced connector second right.toList)
    (hfirst : left = "" ↔ first = [])
    (hsecond : right = "" ↔ second = []) :
    Spliced connector (first ++ second) (glue word left right).toList := by
  unfold glue
  split
  · rename_i hempty
    rw [hfirst.1 hempty]
    exact hright
  · rename_i hleftne
    split
    · rename_i hempty
      rw [hsecond.1 hempty, List.append_nil]
      exact hleft
    · rename_i hrightne
      have hsplice := hleft.append hright (mt hfirst.2 hleftne) (mt hsecond.2 hrightne) hkeyword
      simpa [String.toList_append, hword] using hsplice

/-- Texts of operands, side by side with the operands. -/
def AreOperands (texts : List String) (operands : List Operand) : Prop :=
  List.Forall₂ IsOperand (texts.map String.toList) operands

theorem AreOperands.append
    {first second : List String}
    {left right : List Operand}
    (hfirst : AreOperands first left)
    (hsecond : AreOperands second right) :
    AreOperands (first ++ second) (left ++ right) := by
  unfold AreOperands
  rw [List.map_append]
  exact List.rel_append hfirst hsecond

theorem AreOperands.ne_empty
    {texts : List String}
    {operands : List Operand}
    (h : AreOperands texts operands) :
    ∀ t ∈ texts, t ≠ "" := by
  have hne := forall_left_of_forall₂ h fun _ _ hoperand => hoperand.ne_nil
  intro t ht
  simpa using hne t.toList (List.mem_map_of_mem ht)

theorem AreOperands.eq_nil_iff
    {texts : List String}
    {operands : List Operand}
    (h : AreOperands texts operands) :
    texts = [] ↔ operands = [] := by
  constructor
  · rintro rfl
    exact List.forall₂_nil_left_iff.1 h
  · rintro rfl
    simpa using List.forall₂_nil_right_iff.1 h

theorem areOperands_of_groups
    {groups : List Filter}
    {texts : List String}
    (h : List.Forall₂ IsGroupText groups texts)
    (hread : ∀ group ∈ groups, ∀ inner,
      group.sql = .ok inner → read? inner.toList = some group.searchCondition) :
    AreOperands texts (groups.map fun group => .group group.searchCondition) := by
  induction h with
  | nil =>
      exact .nil
  | @cons group text groups texts htext _ ih =>
      obtain ⟨inner, hinner, rfl⟩ := htext
      have hoperand := IsOperand.parenthesized (hread group (by simp) inner hinner)
      refine .cons ?_ (ih fun g hg => hread g (List.mem_cons_of_mem _ hg))
      simpa [String.toList_append] using hoperand

theorem areOperands_of_leaves
    {leaves : List Condition}
    {texts : List String}
    (h : List.Forall₂ (fun c t => c.sql = .ok t) leaves texts)
    (hplain : ∀ c ∈ leaves, c.IsPlain) :
    AreOperands texts (leaves.map Condition.operand) := by
  induction h with
  | nil =>
      exact .nil
  | @cons c text leaves texts htext _ ih =>
      obtain ⟨own, hown, hown'⟩ := hplain c (by simp)
      obtain rfl := Except.ok.inj (hown.symm.trans htext)
      refine .cons ?_ (ih fun d hd => hplain d (List.mem_cons_of_mem _ hd))
      simpa [Condition.operand, Condition.text_eq htext] using IsOperand.of_plain hown'

/-- Operands with `or` between them are alternatives. -/
theorem forall₂_isAlternative
    {texts : List String}
    {operands : List Operand}
    (h : AreOperands texts operands) :
    List.Forall₂ IsAlternative (texts.map String.toList) (alternatives operands) := by
  rw [alternatives, List.forall₂_map_right_iff]
  refine List.Forall₂.imp ?_ h
  intro text operand hoperand
  exact .of_spliced (.single text) (by simp) (.cons hoperand .nil)

theorem isSpelled_and : Connector.and.isSpelled "And".toList := by
  decide

theorem isSpelled_or : Connector.or.isSpelled "Or".toList := by
  decide

/-- Everything that is filed under `and` is at most one alternative. -/
theorem exists_spliced_conjuncts
    {andGroups andLeaves : List String}
    {conjuncts : List Operand}
    (h : AreOperands (andGroups ++ andLeaves) conjuncts) :
    ∃ texts,
      Spliced .or texts (glue " And " (joined .and andGroups) (joined .and andLeaves)).toList ∧
      (glue " And " (joined .and andGroups) (joined .and andLeaves) = "" ↔ texts = []) ∧
      List.Forall₂ IsAlternative texts (conjunction conjuncts) := by
  have hgroups : joined .and andGroups = "" ↔ andGroups = [] :=
    joined_eq_empty_iff fun t ht => h.ne_empty t (List.mem_append_left _ ht)
  have hleaves : joined .and andLeaves = "" ↔ andLeaves = [] :=
    joined_eq_empty_iff fun t ht => h.ne_empty t (List.mem_append_right _ ht)
  have hempty := glue_eq_empty_iff " And " (joined .and andGroups) (joined .and andLeaves)
  rw [hgroups, hleaves, ← List.append_eq_nil_iff] at hempty
  have hword : " And ".toList = ' ' :: ("And".toList ++ [' ']) := rfl
  have hspliced := spliced_glue hword isSpelled_and
    (spliced_joined .and andGroups) (spliced_joined .and andLeaves)
    (by rw [hgroups, List.map_eq_nil_iff]) (by rw [hleaves, List.map_eq_nil_iff])
  rw [← List.map_append] at hspliced
  -- Without operands there is no alternative, not one that always holds.
  by_cases hnil : andGroups ++ andLeaves = []
  · refine ⟨[], ?_, ?_, ?_⟩
    · rw [hempty.2 hnil]
      exact .nil
    · simp [hempty, hnil]
    · rw [h.eq_nil_iff.1 hnil]
      exact .nil
  · refine ⟨[_], .single _, ?_, ?_⟩
    · simp [hempty, hnil]
    · have hconjuncts : conjuncts ≠ [] := mt h.eq_nil_iff.2 hnil
      rw [conjunction, if_neg (by simpa using hconjuncts)]
      exact .cons (.of_spliced hspliced (by simpa using hnil) h) .nil

/-- An arrangement is read as the conjunction of what is filed under `and`, with an alternative for
everything that is filed under `or`. -/
theorem read?_arrange
    {andGroups andLeaves orGroups orLeaves : List String}
    {conjuncts disjuncts : List Operand}
    (hand : AreOperands (andGroups ++ andLeaves) conjuncts)
    (hor : AreOperands (orGroups ++ orLeaves) disjuncts)
    (hne : arrange andGroups andLeaves orGroups orLeaves ≠ "") :
    read? (arrange andGroups andLeaves orGroups orLeaves).toList =
      some (conjunction conjuncts ++ alternatives disjuncts) := by
  obtain ⟨texts, htexts, hempty, halternatives⟩ := exists_spliced_conjuncts hand
  have hgroups : joined .or orGroups = "" ↔ orGroups = [] :=
    joined_eq_empty_iff fun t ht => hor.ne_empty t (List.mem_append_left _ ht)
  have hleaves : joined .or orLeaves = "" ↔ orLeaves = [] :=
    joined_eq_empty_iff fun t ht => hor.ne_empty t (List.mem_append_right _ ht)
  have hword : " Or ".toList = ' ' :: ("Or".toList ++ [' ']) := rfl
  have hfirst := spliced_glue hword isSpelled_or htexts
    (spliced_joined .or orGroups) hempty (by rw [hgroups, List.map_eq_nil_iff])
  have hfirstempty :
      glue " Or " (glue " And " (joined .and andGroups) (joined .and andLeaves))
          (joined .or orGroups) = "" ↔
        texts ++ orGroups.map String.toList = [] := by
    rw [glue_eq_empty_iff, hempty, hgroups, List.append_eq_nil_iff, List.map_eq_nil_iff]
  have hall := spliced_glue hword isSpelled_or hfirst
    (spliced_joined .or orLeaves) hfirstempty (by rw [hleaves, List.map_eq_nil_iff])
  rw [List.append_assoc, ← List.map_append] at hall
  refine read?_of_spliced hall ?_ (List.rel_append halternatives (forall₂_isAlternative hor))
  intro hnil
  rw [hnil] at hall
  exact hne (String.toList_eq_nil_iff.1 hall.eq_nil)

/-- The text of a reduced filter is read as the search condition of the filter. -/
theorem read?_sql
    {f : Filter}
    {text : String}
    (hreduced : f.Reduced)
    (hne : f.isEmpty = false)
    (hplain : ∀ c ∈ f.conditions, c.IsPlain)
    (h : f.sql = .ok text) :
    read? text.toList = some f.searchCondition := by
  -- A group that is stored is not empty, which is what the hypothesis on groups asks for.
  induction hreduced generalizing text with
  | @intro f hgroupne _ ih =>
      have htext := sql_ne_empty h hne
      obtain ⟨andGroups, andLeaves, orGroups, orLeaves, handGroups, handLeaves, horGroups,
        horLeaves, rfl⟩ := (sql_eq_ok_iff f text).1 h
      have hgroup : ∀ connector, ∀ group ∈ f.groups connector, ∀ inner,
          group.sql = .ok inner → read? inner.toList = some group.searchCondition := by
        intro connector group hgroup inner hinner
        refine ih connector group hgroup (hgroupne connector group hgroup) ?_ hinner
        exact fun c hc => hplain c (mem_conditions_of_mem_groups hgroup hc)
      have hleaf : ∀ connector, ∀ c ∈ f.leaves connector, c.IsPlain :=
        fun connector c hc => hplain c (mem_conditions_of_mem_leaves hc)
      have hand : AreOperands (andGroups ++ andLeaves) (f.operands .and) :=
        (areOperands_of_groups handGroups (hgroup .and)).append
          (areOperands_of_leaves handLeaves (hleaf .and))
      have hor : AreOperands (orGroups ++ orLeaves) (f.operands .or) :=
        (areOperands_of_groups horGroups (hgroup .or)).append
          (areOperands_of_leaves horLeaves (hleaf .or))
      rw [read?_arrange hand hor htext, searchCondition_eq]

/-- The text of a filter is read as what the filter stands for, with every condition in its place.
It is true where the filter is: where all that is filed under `and` is true, and something is filed
there, or where something that is filed under `or` is true. -/
theorem ofText?_sql_applyAll
    (edits : List Edit)
    (hne : (Edit.applyAll edits empty).isEmpty = false)
    (hplain : ∀ c ∈ (Edit.applyAll edits empty).conditions, c.IsPlain) :
    ∃ text,
      (Edit.applyAll edits empty).sql = .ok text ∧
      SearchCondition.ofText? text = some (Edit.applyAll edits empty).searchCondition ∧
      (Edit.applyAll edits empty).searchCondition.comparisons =
        (Edit.applyAll edits empty).conditions.map Condition.text ∧
      ∀ truth : String → Prop,
        (Edit.applyAll edits empty).searchCondition.Holds truth ↔
          (Edit.applyAll edits empty).Holds fun c => truth c.text := by
  have hreduced := Edit.reduced_applyAll edits Reduced.empty
  obtain ⟨text, htext⟩ := (exists_sql_iff _).2 fun c hc =>
    let ⟨own, hown, _⟩ := hplain c hc
    ⟨own, hown⟩
  refine ⟨text, htext, read?_sql hreduced hne hplain htext, comparisons_searchCondition _, ?_⟩
  exact fun truth => holds_searchCondition truth _

/-- A filter with all four kinds of siblings, filed out of order. -/
theorem ofText?_sql_four_kinds :
    let leaf (field : String) : Condition := .equals field (.int 1)
    let edits : List Edit :=
      [.push .or (leaf "z"),
        .pushGroup .or [.push .and (leaf "p"), .push .and (.oneOf "q" (.ints32 [1, 2]))],
        .push .and (leaf "a"),
        .pushGroup .and [.push .and (leaf "x"), .push .or (leaf "y")]]
    let text := "(x = 1 Or y = 1) And a = 1 Or (p = 1 AND q in (1,2)) Or z = 1"
    (Edit.applyAll edits empty).sql = .ok text ∧
    ∃ condition,
      SearchCondition.ofText? text = some condition ∧
      condition.comparisons = ["x = 1", "y = 1", "a = 1", "p = 1", "q in (1,2)", "z = 1"] ∧
      ∀ truth : String → Prop,
        condition.Holds truth ↔
          (truth "x = 1" ∨ truth "y = 1") ∧ truth "a = 1" ∨
            (truth "p = 1" ∧ truth "q in (1,2)") ∨ truth "z = 1" := by
  intro leaf edits text
  have htext : (Edit.applyAll edits empty).sql = .ok text := by
    decide +kernel
  obtain ⟨written, hwritten, hread, hcomparisons, hholds⟩ :=
    ofText?_sql_applyAll edits (by decide) (by decide +kernel)
  obtain rfl : written = text := Except.ok.inj (hwritten.symm.trans htext)
  have hfilter : Edit.applyAll edits empty =
      ⟨[⟨[], [leaf "x"], [], [leaf "y"]⟩], [leaf "a"],
        [⟨[], [leaf "p", .oneOf "q" (.ints32 [1, 2])], [], []⟩], [leaf "z"]⟩ := rfl
  have hleaf : ∀ field, (leaf field).text = field ++ " = 1" := by
    intro field
    rw [Condition.text_eq (Condition.sql_equals field (.int 1)), String.append_assoc]
    rfl
  have hlist : (Condition.oneOf "q" (.ints32 [1, 2])).text = "q in (1,2)" := rfl
  refine ⟨htext, _, hread, ?_, fun truth => ?_⟩
  · rw [hcomparisons, hfilter]
    simp [conditions, groupConditions, hleaf, hlist]
  · rw [hholds, hfilter]
    simp [Holds, AllHold, AnyHolds, hleaf, hlist]

end Filter

end SqlStatement
