import SqlStatement.Proofs.Number.Text
import SqlStatement.Proofs.Query.FirstFailure
import SqlStatement.Proofs.SearchCondition.Cuts

/-!
# Statements made of plain words

A clause starts with a word that the clauses before it do not contain outside parentheses, if names
and operators are plain words and no argument brings such a word in.

* `IsPlainWord` are the texts that cannot be taken for a part of the statement, and
  `Query.HasPlainWords` the queries whose names, operators and text arguments are such words.
* `Condition.IsContained` says that an argument does not end its clause.  Only arguments with free
  text can: `Condition.isContained_of_not_holdsText` covers the others.
* `Filter.avoids_sql` says what the text of a predicate does not contain.
-/

namespace SqlStatement

open Fallible SearchText

/-! ### Plain words -/

/-- The words of a statement itself. -/
def keywords : List String :=
  ["select", "from", "as", "inner", "left", "right", "full", "outer", "join", "on", "where", "and",
    "or", "group", "by", "order", "asc", "desc", "limit", "offset"]

/-- A name or an operator that is no word of the statement itself. -/
structure IsPlainWord (text : String) : Prop extends IsWord text where
  not_keyword : text ∉ keywords

instance (text : String) : Decidable (IsPlainWord text) :=
  decidable_of_iff (IsWord text ∧ text ∉ keywords) ⟨fun h => ⟨h.1, h.2⟩, fun h => ⟨h.1, h.2⟩⟩

theorem isWord_of_mem_keywords : ∀ word ∈ keywords, IsWord word := by
  decide

/-- An argument that is a plain word if it is a text. -/
def Argument.HasPlainText : Argument → Prop
  | text value => IsPlainWord value
  | _ => True

instance : (a : Argument) → Decidable a.HasPlainText
  | .text value => inferInstanceAs (Decidable (IsPlainWord value))
  | .null | .bool _ | .int _ | .float _ | .display _ | .texts _ | .ints32 _ | .ints64 _
  | .floats32 _ | .floats64 _ | .list _ | .json _ => inferInstanceAs (Decidable True)

/-- A condition whose field, operator and text argument are plain words. -/
structure Condition.HasPlainWords (c : Condition) : Prop where
  field : IsPlainWord c.field
  operator : IsPlainWord c.operator
  argument : c.argument.HasPlainText

instance (c : Condition) : Decidable c.HasPlainWords :=
  decidable_of_iff
    (IsPlainWord c.field ∧ IsPlainWord c.operator ∧ c.argument.HasPlainText)
    ⟨fun ⟨h1, h2, h3⟩ => ⟨h1, h2, h3⟩, fun ⟨h1, h2, h3⟩ => ⟨h1, h2, h3⟩⟩

/-- A join of plain words. -/
structure Join.HasPlainWords (j : Join) : Prop where
  table : IsPlainWord j.table
  first : IsPlainWord j.first
  operator : IsPlainWord j.operator
  second : IsPlainWord j.second

instance (j : Join) : Decidable j.HasPlainWords :=
  decidable_of_iff
    (IsPlainWord j.table ∧ IsPlainWord j.first ∧ IsPlainWord j.operator ∧ IsPlainWord j.second)
    ⟨fun ⟨h1, h2, h3, h4⟩ => ⟨h1, h2, h3, h4⟩, fun ⟨h1, h2, h3, h4⟩ => ⟨h1, h2, h3, h4⟩⟩

/-- A selection of plain words. -/
structure Selection.HasPlainWords (s : Selection) : Prop where
  columns : ∀ column ∈ s.columns, IsPlainWord column
  joins : ∀ j ∈ s.joins, j.HasPlainWords
  conditions : ∀ c ∈ s.filter.conditions, c.HasPlainWords
  groupBy : ∀ column ∈ s.groupBy, IsPlainWord column
  orderBy : ∀ key ∈ s.orderBy, IsPlainWord key.field

instance (s : Selection) : Decidable s.HasPlainWords :=
  decidable_of_iff
    ((∀ column ∈ s.columns, IsPlainWord column) ∧ (∀ j ∈ s.joins, j.HasPlainWords) ∧
      (∀ c ∈ s.filter.conditions, c.HasPlainWords) ∧ (∀ column ∈ s.groupBy, IsPlainWord column) ∧
      ∀ key ∈ s.orderBy, IsPlainWord key.field)
    ⟨fun ⟨h1, h2, h3, h4, h5⟩ => ⟨h1, h2, h3, h4, h5⟩,
      fun ⟨h1, h2, h3, h4, h5⟩ => ⟨h1, h2, h3, h4, h5⟩⟩

/-- A source of plain words, at whatever depth. -/
def Source.HasPlainWords : Source → Prop
  | table expression => IsPlainWord expression
  | subquery source selection name =>
    source.HasPlainWords ∧ selection.HasPlainWords ∧ IsPlainWord name

instance Source.decidableHasPlainWords : (source : Source) → Decidable source.HasPlainWords
  | .table expression => inferInstanceAs (Decidable (IsPlainWord expression))
  | .subquery source selection name =>
    have := source.decidableHasPlainWords
    inferInstanceAs
      (Decidable (source.HasPlainWords ∧ selection.HasPlainWords ∧ IsPlainWord name))

/-- A query of plain words. -/
structure Query.HasPlainWords (q : Query) : Prop where
  source : q.source.HasPlainWords
  selection : q.toSelection.HasPlainWords

instance (q : Query) : Decidable q.HasPlainWords :=
  decidable_of_iff (q.source.HasPlainWords ∧ q.toSelection.HasPlainWords)
    ⟨fun ⟨h1, h2⟩ => ⟨h1, h2⟩, fun ⟨h1, h2⟩ => ⟨h1, h2⟩⟩

theorem Source.HasPlainWords.condition
    {source : Source}
    (h : source.HasPlainWords) :
    ∀ c ∈ source.conditions, c.HasPlainWords := by
  induction source with
  | table expression =>
      simp [Source.conditions]
  | subquery source selection name ih =>
      obtain ⟨hsource, hselection, -⟩ := h
      intro c hc
      exact (List.mem_append.1 hc).elim (ih hsource c) (hselection.conditions c)

theorem Query.HasPlainWords.condition
    {q : Query}
    (h : q.HasPlainWords) :
    ∀ c ∈ q.conditions, c.HasPlainWords := by
  intro c hc
  exact (List.mem_append.1 hc).elim (h.source.condition c) (h.selection.conditions c)

/-! ### Words that open clauses -/

/-- The clauses with another behind them. -/
inductive Clause where
  | source
  | joins
  | filter
  | groupBy
  | orderBy
  | limit

/-- The words that open a clause behind the given one. -/
def Clause.openersBehind : Clause → List String
  | source => ["inner", "left", "right", "full", "where", "group", "order", "limit", "offset"]
  | joins => ["where", "group", "order", "limit", "offset"]
  | filter => ["group", "order", "limit", "offset"]
  | groupBy => ["order", "limit", "offset"]
  | orderBy => ["limit", "offset"]
  | limit => ["offset"]

theorem Clause.openersBehind_subset (clause : Clause) : clause.openersBehind ⊆ keywords := by
  cases clause <;> decide

theorem Clause.isWord_of_mem_openersBehind (clause : Clause) :
    ∀ word ∈ clause.openersBehind, IsWord word :=
  fun word hword => isWord_of_mem_keywords word (clause.openersBehind_subset hword)

theorem IsPlainWord.avoids
    {text : String}
    {words : List String}
    (h : IsPlainWord text)
    (hwords : words ⊆ keywords) :
    Avoids words text :=
  .of_isWord h.toIsWord fun hmem => h.not_keyword (hwords hmem)

/-! ### Arguments -/

/-- Whether an argument that is not a text can hold one. -/
def Argument.holdsText : Argument → Bool
  | display _ | texts _ | list _ | json _ => true
  | text _ => false
  | null | bool _ | int _ | float _ | ints32 _ | ints64 _ | floats32 _ | floats64 _ => false

/-- A condition whose argument opens no clause: its parentheses are paired, and no word between
blanks outside them opens a clause behind the predicate. -/
def Condition.IsContained (c : Condition) : Prop :=
  ∀ argument, c.argumentSql = .ok argument → Avoids Clause.filter.openersBehind argument

/-- Whether numbers, truth values and lists of them are written with the character. -/
def isScalarChar (c : Char) : Bool :=
  c.isDigit || "-.,NaNinftruefalse".toList.contains c

/-- A text of such characters. -/
def IsScalarText (text : String) : Prop :=
  ∀ c ∈ text.toList, isScalarChar c = true

instance (text : String) : Decidable (IsScalarText text) :=
  List.decidableBAll _ _

namespace IsScalarText

theorem avoids
    {text : String}
    (h : IsScalarText text) :
    Avoids Clause.filter.openersBehind text := by
  refine .of_isOneCut (.of_not_mem fun c hc => ?_) fun hmem => ?_
  · refine ⟨?_, ?_, ?_⟩ <;>
      · rintro rfl
        exact absurd (h _ hc) (by decide)
  · have hother : ∀ word ∈ Clause.filter.openersBehind, ¬IsScalarText word := by
      decide
    exact hother text hmem h

theorem append
    {first second : String}
    (hfirst : IsScalarText first)
    (hsecond : IsScalarText second) :
    IsScalarText (first ++ second) := by
  intro c hc
  rw [String.toList_append, List.mem_append] at hc
  exact hc.elim (hfirst c) (hsecond c)

theorem joined
    {texts : List String}
    (h : ∀ t ∈ texts, IsScalarText t) :
    IsScalarText (Argument.joined texts) := by
  unfold Argument.joined
  induction texts with
  | nil =>
      simp [IsScalarText]
  | cons t texts ih =>
      have ht := h t List.mem_cons_self
      have hcomma : IsScalarText "," := by
        decide
      cases texts with
      | nil =>
          simpa using ht
      | cons u texts =>
          rw [String.intercalate_cons_cons]
          exact (ht.append hcomma).append (ih fun v hv => h v (List.mem_cons_of_mem _ hv))

theorem of_isDigit
    {c : Char}
    (h : c.isDigit = true) :
    isScalarChar c = true := by
  rw [isScalarChar, h, Bool.true_or]

theorem toString_int (n : Int) : IsScalarText (toString n) := by
  intro c hc
  rcases isDigit_or_eq_minus_of_mem_toString hc with hdigit | rfl
  · exact of_isDigit hdigit
  · decide

/-- A decimal is written with digits and a point. -/
theorem of_positional
    {d : Decimal}
    {c : Char}
    (h : c ∈ d.positional false) :
    isScalarChar c = true := by
  rcases Decimal.isDigit_or_eq_point_of_mem_positional h with hdigit | rfl
  · exact of_isDigit hdigit
  · decide

theorem text_statement {format : BinaryFormat} (x : Binary format) :
    IsScalarText (x.text .statement) := by
  have hsign : IsScalarText (if x.isNegative then "-" else "") := by
    split <;> decide
  cases hmagnitude : x.magnitude with
  | notNumber =>
      have hnan : IsScalarText "NaN" := by
        decide
      simpa only [Binary.text, hmagnitude] using hnan
  | infinite =>
      have hinf : IsScalarText "inf" := by
        decide
      simp only [Binary.text, hmagnitude]
      exact hsign.append hinf
  | finite significand exponent closeBelow =>
      simp only [Binary.text, hmagnitude]
      refine hsign.append fun c hc => ?_
      rw [String.toList_ofList] at hc
      exact of_positional hc

end IsScalarText

namespace Argument

variable {a : Argument}

/-- What an argument is written as in a list, unless it can hold any text. -/
theorem avoids_elementText?
    {text : String}
    (hholds : a.holdsText = false)
    (hplain : a.HasPlainText)
    (h : a.elementText? = some text) :
    Avoids Clause.filter.openersBehind text := by
  have hlist : ∀ {α : Type} {items : List α} {write : α → String},
      (∀ item, IsScalarText (write item)) → IsScalarText (joined (items.map write)) := by
    intro α items write hwrite
    refine .joined fun t ht => ?_
    obtain ⟨item, -, rfl⟩ := List.mem_map.1 ht
    exact hwrite item
  cases a with
  | display _ | texts _ | list _ | json _ =>
      cases hholds
  | text value =>
      obtain rfl := Option.some.inj h
      exact IsPlainWord.avoids hplain (Clause.openersBehind_subset .filter)
  | null =>
      obtain rfl := Option.some.inj h
      exact .empty (by decide)
  | bool b =>
      obtain rfl := Option.some.inj h
      refine IsScalarText.avoids ?_
      cases b <;> decide
  | int n =>
      obtain rfl := Option.some.inj h
      exact (IsScalarText.toString_int _).avoids
  | float x =>
      obtain rfl := Option.some.inj h
      exact (IsScalarText.text_statement x).avoids
  | ints32 _ | ints64 _ =>
      obtain rfl := Option.some.inj h
      exact (hlist fun n => IsScalarText.toString_int _).avoids
  | floats32 _ | floats64 _ =>
      obtain rfl := Option.some.inj h
      exact (hlist fun x => IsScalarText.text_statement x).avoids

theorem avoids_plainText
    (hholds : a.holdsText = false)
    (hplain : a.HasPlainText) :
    Avoids Clause.filter.openersBehind a.plainText := by
  have htext : a.plainText = a.elementText?.getD "" := by
    cases a with
    | json _ =>
        cases hholds
    | _ =>
        rfl
  rw [htext]
  cases h : a.elementText? with
  | none =>
      exact .empty (by decide)
  | some text =>
      exact avoids_elementText? hholds hplain h

end Argument

/-! ### Conditions -/

namespace Condition

variable {c : Condition}

/-- An argument that is a plain word or can hold no text does not end its clause. -/
theorem isContained_of_not_holdsText
    (hplain : c.HasPlainWords)
    (hholds : c.argument.holdsText = false) :
    c.IsContained := by
  intro argument h
  unfold argumentSql at h
  split at h
  · -- A list stands between parentheses, so it suffices that it is balanced.
    split at h
    · rename_i list hlist
      obtain rfl := Except.ok.inj h
      have helement : c.argument.elementText? = some list :=
        ((c.argument.listText?_eq_some_iff list).1 hlist).2
      exact .parenthesized Clause.filter.isWord_of_mem_openersBehind
        (Argument.avoids_elementText? hholds hplain.argument helement).balanced
    · cases h
  · obtain rfl := Except.ok.inj h
    exact Argument.avoids_plainText hholds hplain.argument

theorem avoids_sql
    {text : String}
    (hplain : c.HasPlainWords)
    (hcontained : c.IsContained)
    (h : c.sql = .ok text) :
    Avoids Clause.filter.openersBehind text := by
  have hkeywords := Clause.openersBehind_subset .filter
  obtain ⟨argument, hargument, h⟩ := exists_of_bind_eq_ok h
  rw [if_neg hplain.operator.ne_empty] at h
  obtain rfl := Except.ok.inj h
  exact ((hplain.field.avoids hkeywords).blank (hplain.operator.avoids hkeywords)).blank
    (hcontained argument hargument)

end Condition

namespace Filter

theorem keptByConnectors_avoids : KeptByConnectors (Avoids Clause.filter.openersBehind) where
  empty := .empty (by decide)
  between := by
    intro left right word hword hleft hright
    obtain ⟨keyword, hkeyword, hother, rfl⟩ :
        ∃ keyword, IsWord keyword ∧ keyword ∉ Clause.filter.openersBehind ∧
          word = " " ++ keyword ++ " " := by
      simp only [List.mem_cons, List.not_mem_nil, or_false] at hword
      rcases hword with rfl | rfl | rfl | rfl
      · exact ⟨"AND", by decide, by decide, by decide⟩
      · exact ⟨"OR", by decide, by decide, by decide⟩
      · exact ⟨"And", by decide, by decide, by decide⟩
      · exact ⟨"Or", by decide, by decide, by decide⟩
    have hparts :
        left ++ (" " ++ keyword ++ " ") ++ right = left ++ " " ++ keyword ++ " " ++ right := by
      simp only [String.append_assoc]
    rw [hparts]
    exact (hleft.blank (.of_isWord hkeyword hother)).blank hright

theorem avoids_sql
    {f : Filter}
    {text : String}
    (hconditions : ∀ c ∈ f.conditions, c.HasPlainWords ∧ c.IsContained)
    (h : f.sql = .ok text) :
    Avoids Clause.filter.openersBehind text := by
  refine keptByConnectors_avoids.sql ?_ ?_ h
  · intro group inner _ _ hinner
    exact .parenthesized Clause.filter.isWord_of_mem_openersBehind hinner.balanced
  · intro c hc t ht
    exact c.avoids_sql (hconditions c hc).1 (hconditions c hc).2 ht

end Filter

end SqlStatement
