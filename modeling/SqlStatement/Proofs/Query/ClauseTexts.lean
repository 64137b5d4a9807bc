import SqlStatement.Proofs.Query.PlainWords

/-!
# The texts of clauses

Each clause of a statement made of plain words is told by its text, and its text does not contain
the words that open a clause behind it.

* `Join.words` are the words of a join, and `Join.eq_of_flatMap_words_eq` reads joins from them.
* `Selection.eq_of_columnList_eq`, `Selection.eq_of_joinsText_eq`, `Selection.eq_of_groupBySql_eq`
  and `Selection.eq_of_orderBySql_eq` read a clause from its text.
* The lemmas `avoids` and `opens` of a clause say what its text does not contain and with which word
  it starts.
-/

namespace SqlStatement

open Fallible SearchText

/-! ### Joins -/

/-- The words before `join`. -/
def JoinKind.words : JoinKind → List String
  | inner => ["inner"]
  | left => ["left"]
  | right => ["right"]
  | fullOuter => ["full", "outer"]

namespace Join

/-- The right-hand side of the comparison, which stands between parentheses behind `in`. -/
def argumentText (j : Join) : String :=
  if Condition.isListOperator j.operator then "(" ++ j.second ++ ")" else j.second

/-- The words of a join. -/
def words (j : Join) : List String :=
  j.kind.words ++ ["join", j.table, "on", j.first, j.operator, j.argumentText]

/-- The words of a join between blanks. -/
def text (j : Join) : String :=
  " ".intercalate j.words

theorem sql_eq_text
    {j : Join}
    (h : j.operator ≠ "") :
    j.sql = .ok j.text := by
  have hargument : j.constraint.argumentSql = .ok j.argumentText := by
    unfold Condition.argumentSql argumentText constraint
    split <;> rfl
  have hconstraint :
      j.constraint.sql = .ok (j.first ++ " " ++ j.operator ++ " " ++ j.argumentText) :=
    Condition.sql_of_argumentSql h hargument
  have hkind : j.kind.keyword = " ".intercalate j.kind.words := by
    cases j.kind <;> rfl
  have hne : j.kind.words ≠ [] := by
    cases j.kind <;> exact List.cons_ne_nil _ _
  have hjoin : " join " = " " ++ "join" ++ " " := rfl
  have hon : " on " = " " ++ "on" ++ " " := rfl
  rw [sql, Filter.sql_single, hconstraint, text, words,
    String.intercalate_append_of_ne_nil hne (by simp), hkind]
  change Except.ok _ = Except.ok _
  simp only [hjoin, hon, String.intercalate_cons_cons, String.intercalate_singleton,
    String.append_assoc]

theorem words_ne_nil (j : Join) : j.words ≠ [] := by
  simp [words]

/-- The words of joins between blanks. -/
theorem intercalate_text (joins : List Join) :
    " ".intercalate (joins.map text) = " ".intercalate (joins.flatMap words) := by
  induction joins with
  | nil =>
      rfl
  | cons j joins ih =>
      cases joins with
      | nil =>
          simp [text]
      | cons i joins =>
          have hne : (i :: joins).flatMap words ≠ [] := by
            simp [words_ne_nil]
          rw [List.map_cons, String.intercalate_cons_of_ne_nil (by simp), ih]
          exact (String.intercalate_append_of_ne_nil j.words_ne_nil hne).symm

theorem listSql_eq
    {joins : List Join}
    (h : ∀ j ∈ joins, j.HasPlainWords) :
    listSql joins = .ok (" ".intercalate (joins.flatMap words)) := by
  have htexts : joins.mapM sql = .ok (joins.map text) := by
    rw [mapM_eq_ok_iff, List.forall₂_map_right_iff, List.forall₂_same]
    exact fun j hj => sql_eq_text (h j hj).operator.ne_empty
  rw [listSql, htexts, ← intercalate_text]
  rfl

theorem isOneCut_of_mem_words
    {j : Join}
    (h : j.HasPlainWords) :
    ∀ word ∈ j.words, IsOneCut word ∧ word ∉ Clause.joins.openersBehind := by
  have hplain : ∀ {word : String}, IsPlainWord word →
      IsOneCut word ∧ word ∉ Clause.joins.openersBehind := fun hword =>
    ⟨hword.isOneCut, fun hmem => hword.not_keyword (Clause.openersBehind_subset .joins hmem)⟩
  have hkind : ∀ word ∈ j.kind.words ++ ["join", "on"],
      IsWord word ∧ word ∉ Clause.joins.openersBehind := by
    cases j.kind <;> decide
  have hargument :
      IsOneCut j.argumentText ∧ j.argumentText ∉ Clause.joins.openersBehind := by
    unfold argumentText
    split
    · exact ⟨.parenthesized h.second.isOneCut.balanced,
        parenthesized_not_mem Clause.joins.isWord_of_mem_openersBehind _⟩
    · exact hplain h.second
  have hown : ∀ {word : String}, word ∈ j.kind.words ++ ["join", "on"] →
      IsOneCut word ∧ word ∉ Clause.joins.openersBehind := fun hword =>
    ⟨(hkind _ hword).1.isOneCut, (hkind _ hword).2⟩
  intro word hword
  simp only [words, List.mem_append, List.mem_cons, List.not_mem_nil, or_false] at hword
  rcases hword with hword | rfl | rfl | rfl | rfl | rfl | rfl
  · exact hown (List.mem_append_left _ hword)
  · exact hown (by simp)
  · exact hplain h.table
  · exact hown (by simp)
  · exact hplain h.first
  · exact hplain h.operator
  · exact hargument

/-- The words of a join tell it, and where they end. -/
theorem eq_of_words_append_eq
    {j i : Join}
    {rest rest' : List String}
    (h : j.words ++ rest = i.words ++ rest') :
    j = i ∧ rest = rest' := by
  obtain ⟨kind, table, first, operator, second⟩ := j
  obtain ⟨kind', table', first', operator', second'⟩ := i
  obtain rfl : kind = kind' := by
    cases kind <;> cases kind' <;> first | rfl | simp [words, JoinKind.words] at h
  simp only [words, List.append_assoc, List.append_cancel_left_eq, List.cons_append,
    List.nil_append, List.cons.injEq, true_and] at h
  obtain ⟨rfl, rfl, rfl, hsecond, rfl⟩ := h
  unfold argumentText at hsecond
  split at hsecond
  · obtain rfl := (String.append_right_inj _).1 ((String.append_left_inj _).1 hsecond)
    exact ⟨rfl, rfl⟩
  · obtain rfl := hsecond
    exact ⟨rfl, rfl⟩

/-- The words of joins tell them. -/
theorem eq_of_flatMap_words_eq
    {joins others : List Join}
    (h : joins.flatMap words = others.flatMap words) :
    joins = others := by
  induction joins generalizing others with
  | nil =>
      cases others with
      | nil =>
          rfl
      | cons i others =>
          simp [words] at h
  | cons j joins ih =>
      cases others with
      | nil =>
          simp [words] at h
      | cons i others =>
          rw [List.flatMap_cons, List.flatMap_cons] at h
          obtain ⟨rfl, hrest⟩ := eq_of_words_append_eq h
          rw [ih hrest]

theorem words_eq_cons (j : Join) :
    ∃ head ∈ Clause.source.openersBehind, ∃ next behind, j.words = head :: next :: behind := by
  unfold words
  cases j.kind <;> simp [JoinKind.words, Clause.openersBehind]

end Join

/-- A clause that is left out is told from one that is not, and tells its text. -/
theorem eq_of_clause_eq
    {isEmpty isEmpty' : Bool}
    {start text text' : String}
    (hstart : start ≠ "")
    (h :
      (if isEmpty then "" else start ++ text) = if isEmpty' then "" else start ++ text') :
    isEmpty = true ∧ isEmpty' = true ∨
      ¬isEmpty = true ∧ ¬isEmpty' = true ∧ text = text' := by
  cases isEmpty <;> cases isEmpty' <;>
    simp_all [String.append_eq_empty_iff, eq_comm (a := "")]

namespace Selection

variable {s r : Selection}

/-! ### Columns -/

theorem avoids_columnList
    {words columns : List String}
    (hwords : words ⊆ keywords)
    (h : ∀ column ∈ columns, IsPlainWord column) :
    Avoids words (columnList columns) := by
  have hall : ∀ word ∈ words, IsWord word := fun word hword =>
    isWord_of_mem_keywords word (hwords hword)
  unfold columnList
  induction columns with
  | nil =>
      exact .empty fun hmem => (hall "" hmem).ne_empty rfl
  | cons column columns ih =>
      have hcolumn := h column List.mem_cons_self
      cases columns with
      | nil =>
          simpa using hcolumn.avoids hwords
      | cons next columns =>
          rw [String.intercalate_cons_cons]
          exact .comma hall hcolumn.toIsWord (ih fun c hc => h c (List.mem_cons_of_mem _ hc))

theorem eq_of_columnList_eq
    {columns others : List String}
    (hcolumns : ∀ column ∈ columns, IsPlainWord column)
    (hothers : ∀ column ∈ others, IsPlainWord column)
    (h : columnList columns = columnList others) :
    columns = others := by
  have hempty : ∀ {names : List String}, (∀ name ∈ names, IsPlainWord name) →
      (columnList names = "" ↔ names = []) := fun hnames =>
    Filter.intercalate_eq_empty_iff "," fun name hname => (hnames name hname).ne_empty
  by_cases hnil : columns = []
  · have hothersEmpty : columnList others = "" := by
      rw [← h]
      exact (hempty hcolumns).2 hnil
    rw [hnil, (hempty hothers).1 hothersEmpty]
  · have hothersNe : others ≠ [] := fun hothersNil =>
      hnil ((hempty hcolumns).1 (h.trans ((hempty hothers).2 hothersNil)))
    rw [← cutAt_intercalate_comma hnil fun c hc => (hcolumns c hc).toIsWord,
      ← cutAt_intercalate_comma hothersNe fun c hc => (hothers c hc).toIsWord]
    exact congrArg (cutAt ',') h

/-! ### Joins -/

/-- The clause of joins with its leading blank. -/
def joinsText (s : Selection) : String :=
  if s.joins.isEmpty then "" else " " ++ " ".intercalate (s.joins.flatMap Join.words)

theorem joinsSql_eq_joinsText (h : s.HasPlainWords) : s.joinsSql = .ok s.joinsText := by
  unfold joinsSql joinsText
  split
  · rfl
  · rw [Join.listSql_eq h.joins]
    rfl

theorem flatMap_words_ne_nil (h : ¬s.joins.isEmpty = true) : s.joins.flatMap Join.words ≠ [] := by
  cases hjoins : s.joins with
  | nil =>
      simp [hjoins] at h
  | cons j joins =>
      simp [Join.words_ne_nil]

theorem isOneCut_of_mem_flatMap_words
    (h : s.HasPlainWords) :
    ∀ word ∈ s.joins.flatMap Join.words,
      IsOneCut word ∧ word ∉ Clause.joins.openersBehind := by
  intro word hword
  obtain ⟨j, hj, hword⟩ := List.mem_flatMap.1 hword
  exact Join.isOneCut_of_mem_words (h.joins j hj) word hword

theorem avoids_joinsText (h : s.HasPlainWords) :
    Avoids Clause.joins.openersBehind s.joinsText := by
  have hwords := isOneCut_of_mem_flatMap_words h
  unfold joinsText
  split
  · exact .empty (by decide)
  · rename_i hne
    have hlist : Avoids Clause.joins.openersBehind
        (" ".intercalate (s.joins.flatMap Join.words)) :=
      .intercalate (flatMap_words_ne_nil hne) (fun word hword => (hwords word hword).1)
        fun word hword => (hwords word hword).2
    simpa using (Avoids.empty (by decide)).blank hlist

theorem opens_joinsText (s : Selection) : Opens Clause.source.openersBehind s.joinsText := by
  unfold joinsText
  split
  · exact Or.inl rfl
  · rename_i hne
    obtain ⟨j, joins, hjoins⟩ : ∃ j joins, s.joins = j :: joins :=
      List.exists_cons_of_ne_nil (by simpa using hne)
    obtain ⟨head, hhead, next, behind, hwords⟩ := j.words_eq_cons
    refine Or.inr ⟨head, hhead, " ".intercalate (next :: (behind ++ joins.flatMap Join.words)), ?_⟩
    rw [hjoins, List.flatMap_cons, hwords, List.cons_append, List.cons_append,
      String.intercalate_cons_cons]
    simp only [String.append_assoc]

theorem eq_of_joinsText_eq
    (hs : s.HasPlainWords)
    (hr : r.HasPlainWords)
    (h : s.joinsText = r.joinsText) :
    s.joins = r.joins := by
  rcases eq_of_clause_eq (by decide) h with ⟨hsempty, hrempty⟩ | ⟨hsne, hrne, htexts⟩
  · rw [List.isEmpty_iff.1 hsempty, List.isEmpty_iff.1 hrempty]
  · refine Join.eq_of_flatMap_words_eq ?_
    rw [← cutAt_intercalate_blank (flatMap_words_ne_nil hsne)
        fun word hword => (isOneCut_of_mem_flatMap_words hs word hword).1,
      ← cutAt_intercalate_blank (flatMap_words_ne_nil hrne)
        fun word hword => (isOneCut_of_mem_flatMap_words hr word hword).1, htexts]

/-! ### Predicates -/

theorem avoids_clauseText
    {f : Filter}
    {condition : String}
    (h : Avoids Clause.filter.openersBehind condition) :
    Avoids Clause.filter.openersBehind (f.clauseText condition) := by
  unfold Filter.clauseText
  split
  · exact .empty (by decide)
  · exact .clause ["where"] (by decide) (by decide) h

theorem opens_clauseText (f : Filter) (condition : String) :
    Opens Clause.joins.openersBehind (f.clauseText condition) := by
  unfold Filter.clauseText
  split
  · exact Or.inl rfl
  · exact Or.inr ⟨"where", by decide, condition, rfl⟩

/-- A clause tells the text of its predicate. -/
theorem eq_of_clauseText_eq
    {f g : Filter}
    {condition other : String}
    (hf : f.sql = .ok condition)
    (hg : g.sql = .ok other)
    (h : f.clauseText condition = g.clauseText other) :
    condition = other := by
  rcases eq_of_clause_eq (by decide) h with ⟨hfempty, hgempty⟩ | ⟨-, -, htexts⟩
  · rw [(Filter.eq_empty_iff_of_sql hf).2 hfempty, (Filter.eq_empty_iff_of_sql hg).2 hgempty]
  · exact htexts

/-! ### Grouping -/

theorem avoids_groupBySql (h : s.HasPlainWords) :
    Avoids Clause.groupBy.openersBehind s.groupBySql := by
  unfold groupBySql
  split
  · exact .empty (by decide)
  · exact .clause ["group", "by"] (by decide) (by decide)
      (avoids_columnList (Clause.openersBehind_subset .groupBy) h.groupBy)

theorem opens_groupBySql (s : Selection) : Opens Clause.filter.openersBehind s.groupBySql := by
  unfold groupBySql
  split
  · exact Or.inl rfl
  · refine Or.inr ⟨"group", by decide, "by " ++ columnList s.groupBy, ?_⟩
    rw [← String.append_assoc]
    rfl

theorem eq_of_groupBySql_eq
    (hs : s.HasPlainWords)
    (hr : r.HasPlainWords)
    (h : s.groupBySql = r.groupBySql) :
    s.groupBy = r.groupBy := by
  rcases eq_of_clause_eq (by decide) h with ⟨hsempty, hrempty⟩ | ⟨-, -, htexts⟩
  · rw [List.isEmpty_iff.1 hsempty, List.isEmpty_iff.1 hrempty]
  · exact eq_of_columnList_eq hs.groupBy hr.groupBy htexts

/-! ### Ordering -/

theorem avoids_direction (direction : Direction) :
    IsWord direction.keyword ∧ direction.keyword ∉ Clause.orderBy.openersBehind := by
  cases direction <;> decide

theorem avoids_listSql
    {keys : List SortKey}
    (h : ∀ key ∈ keys, IsPlainWord key.field) :
    Avoids Clause.orderBy.openersBehind (SortKey.listSql keys) := by
  unfold SortKey.listSql
  induction keys with
  | nil =>
      exact .empty (by decide)
  | cons key keys ih =>
      have hfield : Avoids Clause.orderBy.openersBehind key.field :=
        (h key List.mem_cons_self).avoids (Clause.openersBehind_subset .orderBy)
      obtain ⟨hword, hother⟩ := avoids_direction key.direction
      have ih := ih fun other hmem => h other (List.mem_cons_of_mem _ hmem)
      cases keys with
      | nil =>
          exact hfield.blank (.of_isWord hword hother)
      | cons next keys =>
          -- The comma stands in one word with the direction before it.
          have hcomma := hfield.blank (.comma Clause.orderBy.isWord_of_mem_openersBehind hword ih)
          rw [List.map_cons, List.map_cons, String.intercalate_cons_cons, SortKey.sql]
          simpa only [List.map_cons, String.append_assoc] using hcomma

theorem avoids_orderBySql (h : s.HasPlainWords) :
    Avoids Clause.orderBy.openersBehind s.orderBySql := by
  unfold orderBySql
  split
  · exact .empty (by decide)
  · exact .clause ["order", "by"] (by decide) (by decide) (avoids_listSql h.orderBy)

theorem opens_orderBySql (s : Selection) : Opens Clause.groupBy.openersBehind s.orderBySql := by
  unfold orderBySql
  split
  · exact Or.inl rfl
  · refine Or.inr ⟨"order", by decide, "by " ++ SortKey.listSql s.orderBy, ?_⟩
    rw [← String.append_assoc]
    rfl

/-- A sort key is written without commas and parentheses. -/
theorem cutAt_comma_sql
    {key : SortKey}
    (h : IsPlainWord key.field) :
    Balanced key.sql.toList ∧ cutAt ',' key.sql = [key.sql] := by
  have hchars : ∀ c ∈ key.sql.toList, c ≠ ',' ∧ c ≠ '(' ∧ c ≠ ')' := by
    intro c hc
    rw [SortKey.sql, String.toList_append, String.toList_append, List.mem_append,
      List.mem_append] at hc
    rcases hc with (hc | hc) | hc
    · exact (h.ne_special c hc).2
    · obtain rfl : c = ' ' := by simpa using hc
      decide
    · exact ((avoids_direction key.direction).1.ne_special c hc).2
  exact ⟨.of_no_parenthesis fun c hc => (hchars c hc).2, cutAt_of_not_mem hchars⟩

theorem eq_of_sql_eq
    {key other : SortKey}
    (hkey : IsPlainWord key.field)
    (hother : IsPlainWord other.field)
    (h : key.sql = other.sql) :
    key = other := by
  have hwords : ∀ {k : SortKey}, IsPlainWord k.field →
      cutAt ' ' k.sql = [k.field, k.direction.keyword] := by
    intro k hk
    have hcuts : ∀ word ∈ [k.field, k.direction.keyword], IsOneCut word := by
      intro word hword
      simp only [List.mem_cons, List.not_mem_nil, or_false] at hword
      rcases hword with rfl | rfl
      · exact hk.isOneCut
      · exact (avoids_direction k.direction).1.isOneCut
    exact cutAt_intercalate_blank (List.cons_ne_nil _ _) hcuts
  have hcuts := congrArg (cutAt ' ') h
  rw [hwords hkey, hwords hother, List.cons.injEq, List.cons.injEq] at hcuts
  obtain ⟨field, direction⟩ := key
  obtain ⟨field', direction'⟩ := other
  obtain ⟨rfl, hdirection, -⟩ := hcuts
  have hkeyword : Direction.keyword direction = Direction.keyword direction' := hdirection
  cases direction <;> cases direction' <;> first | rfl | exact absurd hkeyword (by decide)

theorem eq_of_map_sql_eq
    {keys others : List SortKey}
    (hkeys : ∀ key ∈ keys, IsPlainWord key.field)
    (hothers : ∀ key ∈ others, IsPlainWord key.field)
    (h : keys.map SortKey.sql = others.map SortKey.sql) :
    keys = others := by
  induction keys generalizing others with
  | nil =>
      exact (List.map_eq_nil_iff.1 h.symm).symm
  | cons key keys ih =>
      cases others with
      | nil =>
          cases h
      | cons other others =>
          rw [List.map_cons, List.map_cons, List.cons.injEq] at h
          rw [eq_of_sql_eq (hkeys key List.mem_cons_self) (hothers other List.mem_cons_self) h.1,
            ih (fun k hk => hkeys k (List.mem_cons_of_mem _ hk))
              (fun k hk => hothers k (List.mem_cons_of_mem _ hk)) h.2]

theorem cutAt_listSql
    {keys : List SortKey}
    (hne : keys ≠ [])
    (h : ∀ key ∈ keys, IsPlainWord key.field) :
    cutAt ',' (SortKey.listSql keys) = keys.map SortKey.sql := by
  have hsqls : ∀ t ∈ keys.map SortKey.sql, Balanced t.toList ∧ cutAt ',' t = [t] := by
    intro t ht
    obtain ⟨key, hkey, rfl⟩ := List.mem_map.1 ht
    exact cutAt_comma_sql (h key hkey)
  have hcuts :
      cutAt ',' (",".intercalate (keys.map SortKey.sql)) =
        (keys.map SortKey.sql).flatMap (cutAt ',') :=
    cutAt_intercalate (by decide) (by simpa using hne) fun t ht => (hsqls t ht).1
  exact hcuts.trans (flatMap_cutAt_eq_self fun t ht => (hsqls t ht).2)

theorem eq_of_orderBySql_eq
    (hs : s.HasPlainWords)
    (hr : r.HasPlainWords)
    (h : s.orderBySql = r.orderBySql) :
    s.orderBy = r.orderBy := by
  rcases eq_of_clause_eq (by decide) h with ⟨hsempty, hrempty⟩ | ⟨hsne, hrne, htexts⟩
  · rw [List.isEmpty_iff.1 hsempty, List.isEmpty_iff.1 hrempty]
  · rw [List.isEmpty_iff] at hsne hrne
    refine eq_of_map_sql_eq hs.orderBy hr.orderBy ?_
    rw [← cutAt_listSql hsne hs.orderBy, ← cutAt_listSql hrne hr.orderBy, htexts]

/-! ### Bounds -/

theorem avoids_boundSql
    {words : List String}
    {keyword : String}
    (hkeyword : IsWord keyword)
    (hwords : words ⊆ Clause.filter.openersBehind)
    (hother : keyword ∉ words)
    (bound : Option Int64) :
    Avoids words (boundSql keyword bound) := by
  have hempty : Avoids words "" := (Avoids.empty (by decide)).mono hwords
  cases bound with
  | none =>
      exact hempty
  | some n =>
      exact (hempty.blank (.of_isWord hkeyword hother)).blank
        ((IsScalarText.toString_int n.toInt).avoids.mono hwords)

theorem opens_boundSql
    {words : List String}
    {keyword : String}
    (hkeyword : keyword ∈ words)
    (bound : Option Int64) :
    Opens words (boundSql keyword bound) := by
  cases bound with
  | none =>
      exact Or.inl rfl
  | some n =>
      exact Or.inr ⟨keyword, hkeyword, toString n.toInt, rfl⟩

end Selection

end SqlStatement
