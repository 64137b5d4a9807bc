import SqlStatement.Proofs.Query.ClauseTexts
import SqlStatement.Proofs.Table.Pagination

/-!
# A statement determines its query

The clauses of a statement stand in a row in which each avoids the words that open a clause behind
it.  So a statement made of plain words is read clause by clause, and the statement of a sub-select
is read in the same way from between its parentheses.

* `Selection.SaysSame`, `Source.SaysSame` and `Query.SaysSame` compare what queries say; predicates
  are compared by their texts.
* `Selection.isRow_clauseTexts` says that clauses stand in a row.
* `Query.sql_eq_ok_iff_saysSame` is the main result, and `Query.argument_opens_clause` an argument
  that opens a clause.
-/

namespace SqlStatement

open Fallible SearchText

/-! ### Queries that say the same -/

/-- Selections that say the same, as far as the text of the predicate tells. -/
structure Selection.SaysSame (s r : Selection) : Prop where
  columns : s.columns = r.columns
  joins : s.joins = r.joins
  filter : s.filter.sql = r.filter.sql
  groupBy : s.groupBy = r.groupBy
  orderBy : s.orderBy = r.orderBy
  limit : s.limit = r.limit
  offset : s.offset = r.offset

/-- Sources that say the same, at whatever depth. -/
inductive Source.SaysSame : Source → Source → Prop
  | table (expression : String) :
      SaysSame (.table expression) (.table expression)
  | subquery {source other : Source} {s r : Selection} (name : String) :
      SaysSame source other → s.SaysSame r →
        SaysSame (.subquery source s name) (.subquery other r name)

/-- Queries that say the same. -/
structure Query.SaysSame (q p : Query) : Prop where
  source : q.source.SaysSame p.source
  selection : q.toSelection.SaysSame p.toSelection

/-! ### Clauses in a row -/

namespace Selection

variable {s r : Selection} {source other condition condition' : String}

/-- The texts of the clauses, with given texts of the source and of the predicate. -/
def clauseTexts (s : Selection) (source condition : String) : List String :=
  ["select " ++ columnList s.columns, " from " ++ source, s.joinsText,
    s.filter.clauseText condition, s.groupBySql, s.orderBySql, boundSql "limit" s.limit,
    boundSql "offset" s.offset]

/-- The words that open a clause behind each of them. -/
def clauseOpeners : List (List String) :=
  ["from"] ::
    [Clause.source, .joins, .filter, .groupBy, .orderBy, .limit].map Clause.openersBehind

theorem isWord_of_mem_clauseOpeners : ∀ words ∈ clauseOpeners, ∀ word ∈ words, IsWord word := by
  decide

theorem selectSql_eq_join
    (h : s.HasPlainWords)
    (hcondition : s.filter.sql = .ok condition) :
    s.selectSql source = .ok (String.join (s.clauseTexts source condition)) := by
  rw [selectSql, bodySql, joinsSql_eq_joinsText h, Filter.clauseSql_eq_clauseText hcondition]
  change Except.ok _ = Except.ok _
  simp [clauseTexts, tailSql, String.append_assoc]

theorem avoids_from
    (hsource : Avoids Clause.source.openersBehind source) :
    Avoids Clause.source.openersBehind (" from " ++ source) :=
  .clause ["from"] (by decide) (by decide) hsource

/-- Each clause avoids the words that open a clause behind it. -/
theorem isRow_clauseTexts
    (h : s.HasPlainWords)
    (hsource : Avoids Clause.source.openersBehind source)
    (hcondition : Avoids Clause.filter.openersBehind condition) :
    IsRow clauseOpeners (s.clauseTexts source condition) := by
  have hselect : Avoids ["from"] "select" := .of_isWord (by decide) (by decide)
  have hcolumns : Avoids ["from"] ("select " ++ columnList s.columns) :=
    hselect.blank (avoids_columnList (by decide) h.columns)
  have hfrom : Opens ["from"] (String.join (s.clauseTexts source condition).tail) := by
    refine Or.inr ⟨"from", by decide,
      source ++ String.join ((s.clauseTexts source condition).drop 2), ?_⟩
    rw [clauseTexts, List.tail_cons, String.join_cons]
    exact String.append_assoc
  refine .cons hcolumns hfrom ?_
  refine .cons_of_opens (avoids_from hsource) s.opens_joinsText (by decide) ?_
  refine .cons_of_opens (avoids_joinsText h) (opens_clauseText s.filter condition) (by decide) ?_
  refine .cons_of_opens (avoids_clauseText hcondition) s.opens_groupBySql (by decide) ?_
  refine .cons_of_opens (avoids_groupBySql h) s.opens_orderBySql (by decide) ?_
  refine .cons_of_opens (avoids_orderBySql h) (opens_boundSql (by decide) s.limit) (by decide) ?_
  exact .pair (avoids_boundSql (by decide) (by decide) (by decide) s.limit)
    (opens_boundSql (by decide) s.offset)

theorem balanced_join_clauseTexts
    (h : s.HasPlainWords)
    (hsource : Avoids Clause.source.openersBehind source)
    (hcondition : Avoids Clause.filter.openersBehind condition) :
    Balanced (String.join (s.clauseTexts source condition)).toList := by
  refine (isRow_clauseTexts h hsource hcondition).balanced fun last hlast => ?_
  obtain rfl := Option.some.inj hlast
  have hoffset : Avoids [] (boundSql "offset" s.offset) :=
    avoids_boundSql (by decide) (by decide) (by decide) s.offset
  exact hoffset.balanced

/-- Clauses tell the source and the selection. -/
theorem saysSame_of_clauseTexts_eq
    (hs : s.HasPlainWords)
    (hr : r.HasPlainWords)
    (hcondition : s.filter.sql = .ok condition)
    (hcondition' : r.filter.sql = .ok condition')
    (h : s.clauseTexts source condition = r.clauseTexts other condition') :
    source = other ∧ s.SaysSame r := by
  simp only [clauseTexts, List.cons.injEq, String.append_right_inj] at h
  obtain ⟨hcolumns, rfl, hjoins, hfilter, hgroupBy, horderBy, hlimit, hoffset, -⟩ := h
  have hconditions : condition = condition' := eq_of_clauseText_eq hcondition hcondition' hfilter
  exact ⟨rfl,
    { columns := eq_of_columnList_eq hs.columns hr.columns hcolumns
      joins := eq_of_joinsText_eq hs hr hjoins
      filter := by rw [hcondition, hcondition', hconditions]
      groupBy := eq_of_groupBySql_eq hs hr hgroupBy
      orderBy := eq_of_orderBySql_eq hs hr horderBy
      limit := boundSql_injective "limit" hlimit
      offset := boundSql_injective "offset" hoffset }⟩

theorem exists_filter_sql
    {text : String}
    (h : s.selectSql source = .ok text) :
    ∃ condition, s.filter.sql = .ok condition := by
  have hfailure := failure?_eq_none_iff.2 ⟨text, h⟩
  rw [failure?_selectSql, ← Filter.failure?_sql] at hfailure
  exact failure?_eq_none_iff.1 hfailure

theorem balanced_of_selectSql
    {text : String}
    (h : s.HasPlainWords)
    (hcontained : ∀ c ∈ s.filter.conditions, c.IsContained)
    (hsource : Avoids Clause.source.openersBehind source)
    (htext : s.selectSql source = .ok text) :
    Balanced text.toList := by
  obtain ⟨condition, hcondition⟩ := exists_filter_sql htext
  have havoids := Filter.avoids_sql (fun c hc => ⟨h.conditions c hc, hcontained c hc⟩) hcondition
  rw [selectSql_eq_join h hcondition] at htext
  obtain rfl := Except.ok.inj htext
  exact balanced_join_clauseTexts h hsource havoids

/-- A statement tells its source and its selection. -/
theorem saysSame_of_selectSql_eq
    {text : String}
    (hs : s.HasPlainWords)
    (hr : r.HasPlainWords)
    (hscontained : ∀ c ∈ s.filter.conditions, c.IsContained)
    (hrcontained : ∀ c ∈ r.filter.conditions, c.IsContained)
    (hsource : Avoids Clause.source.openersBehind source)
    (hother : Avoids Clause.source.openersBehind other)
    (hstext : s.selectSql source = .ok text)
    (hrtext : r.selectSql other = .ok text) :
    source = other ∧ s.SaysSame r := by
  obtain ⟨condition, hcondition⟩ := exists_filter_sql hstext
  obtain ⟨condition', hcondition'⟩ := exists_filter_sql hrtext
  have havoids := Filter.avoids_sql (fun c hc => ⟨hs.conditions c hc, hscontained c hc⟩) hcondition
  have havoids' :=
    Filter.avoids_sql (fun c hc => ⟨hr.conditions c hc, hrcontained c hc⟩) hcondition'
  rw [selectSql_eq_join hs hcondition] at hstext
  rw [selectSql_eq_join hr hcondition'] at hrtext
  refine saysSame_of_clauseTexts_eq hs hr hcondition hcondition' ?_
  exact (isRow_clauseTexts hs hsource havoids).eq_of_join_eq isWord_of_mem_clauseOpeners
    (isRow_clauseTexts hr hother havoids')
    (Except.ok.inj (hstext.trans hrtext.symm))

end Selection

/-! ### Sources -/

namespace Source

/-- The words of a sub-select; its statement stands in one of them. -/
def subqueryWords (statement name : String) : List String :=
  ["(" ++ statement ++ ")", "as", name]

theorem subquery_text_eq (statement name : String) :
    "(" ++ statement ++ ") as " ++ name = " ".intercalate (subqueryWords statement name) := by
  have has : ") as " = ")" ++ " " ++ "as" ++ " " := rfl
  simp only [subqueryWords, has, String.intercalate_cons_cons, String.intercalate_singleton,
    String.append_assoc]

theorem isOneCut_of_mem_subqueryWords
    {statement name : String}
    (hstatement : Balanced statement.toList)
    (hname : IsPlainWord name) :
    ∀ word ∈ subqueryWords statement name,
      IsOneCut word ∧ word ∉ Clause.source.openersBehind := by
  intro word hword
  simp only [subqueryWords, List.mem_cons, List.not_mem_nil, or_false] at hword
  rcases hword with rfl | rfl | rfl
  · exact ⟨.parenthesized hstatement,
      parenthesized_not_mem Clause.source.isWord_of_mem_openersBehind statement⟩
  · exact ⟨IsWord.isOneCut (by decide), by decide⟩
  · exact ⟨hname.isOneCut,
      fun hmem => hname.not_keyword (Clause.openersBehind_subset .source hmem)⟩

theorem exists_of_subquery_sql
    {source : Source}
    {s : Selection}
    {name text : String}
    (h : (subquery source s name).sql = .ok text) :
    ∃ inner statement,
      source.sql = .ok inner ∧
      s.selectSql inner = .ok statement ∧
      text = " ".intercalate (subqueryWords statement name) := by
  obtain ⟨inner, hinner, h⟩ := exists_of_bind_eq_ok h
  obtain ⟨statement, hstatement, h⟩ := exists_of_bind_eq_ok h
  obtain rfl := Except.ok.inj h
  exact ⟨inner, statement, hinner, hstatement, subquery_text_eq statement name⟩

/-- A source opens no clause outside its parentheses. -/
theorem avoids_sql
    {source : Source}
    {text : String}
    (hplain : source.HasPlainWords)
    (hcontained : ∀ c ∈ source.conditions, c.IsContained)
    (h : source.sql = .ok text) :
    Avoids Clause.source.openersBehind text := by
  induction source generalizing text with
  | table expression =>
      obtain rfl := Except.ok.inj h
      exact hplain.avoids (Clause.openersBehind_subset .source)
  | subquery source s name ih =>
      obtain ⟨hsource, hs, hname⟩ := hplain
      obtain ⟨inner, statement, hinner, hstatement, rfl⟩ := exists_of_subquery_sql h
      have hinnerAvoids :=
        ih hsource (fun c hc => hcontained c (List.mem_append_left _ hc)) hinner
      have hbalanced := s.balanced_of_selectSql hs
        (fun c hc => hcontained c (List.mem_append_right _ hc)) hinnerAvoids hstatement
      have hwords := isOneCut_of_mem_subqueryWords hbalanced hname
      exact .intercalate (List.cons_ne_nil _ _) (fun word hword => (hwords word hword).1)
        fun word hword => (hwords word hword).2

theorem cutAt_subqueryWords
    {statement name : String}
    (hstatement : Balanced statement.toList)
    (hname : IsPlainWord name) :
    cutAt ' ' (" ".intercalate (subqueryWords statement name)) = subqueryWords statement name :=
  cutAt_intercalate_blank (List.cons_ne_nil _ _) fun word hword =>
    (isOneCut_of_mem_subqueryWords hstatement hname word hword).1

/-- The words of a sub-select tell its statement and its name. -/
theorem eq_of_intercalate_subqueryWords_eq
    {statement name statement' name' : String}
    (hstatement : Balanced statement.toList)
    (hname : IsPlainWord name)
    (hstatement' : Balanced statement'.toList)
    (hname' : IsPlainWord name')
    (h :
      " ".intercalate (subqueryWords statement name) =
        " ".intercalate (subqueryWords statement' name')) :
    statement = statement' ∧ name = name' := by
  have hwords := congrArg (cutAt ' ') h
  rw [cutAt_subqueryWords hstatement hname, cutAt_subqueryWords hstatement' hname'] at hwords
  simpa [subqueryWords] using hwords

/-- A plain word is no sub-select. -/
theorem intercalate_subqueryWords_ne
    {word : String}
    (hword : IsPlainWord word)
    (statement name : String) :
    word ≠ " ".intercalate (subqueryWords statement name) := by
  rintro rfl
  have hopen := hword.ne_special '(' (by simp [subqueryWords])
  exact hopen.2.2.1 rfl

/-- The text of a source tells it, at whatever depth. -/
theorem saysSame_of_sql_eq
    {source other : Source}
    {text : String}
    (hsource : source.HasPlainWords)
    (hother : other.HasPlainWords)
    (hcontained : ∀ c ∈ source.conditions, c.IsContained)
    (hcontained' : ∀ c ∈ other.conditions, c.IsContained)
    (h : source.sql = .ok text)
    (h' : other.sql = .ok text) :
    source.SaysSame other := by
  induction source generalizing other text with
  | table expression =>
      obtain rfl := Except.ok.inj h
      cases other with
      | table expression' =>
          obtain rfl := Except.ok.inj h'
          exact .table _
      | subquery other r name =>
          obtain ⟨_, statement, _, _, htext⟩ := exists_of_subquery_sql h'
          exact absurd htext (intercalate_subqueryWords_ne hsource statement name)
  | subquery source s name ih =>
      obtain ⟨inner, statement, hinner, hstatement, rfl⟩ := exists_of_subquery_sql h
      cases other with
      | table expression =>
          exact absurd (Except.ok.inj h') (intercalate_subqueryWords_ne hother statement name)
      | subquery other r name' =>
          obtain ⟨inner', statement', hinner', hstatement', htext⟩ := exists_of_subquery_sql h'
          obtain ⟨hsource, hs, hname⟩ := hsource
          obtain ⟨hother, hr, hname'⟩ := hother
          have hinside : ∀ c ∈ source.conditions, c.IsContained := fun c hc =>
            hcontained c (List.mem_append_left _ hc)
          have hinside' : ∀ c ∈ other.conditions, c.IsContained := fun c hc =>
            hcontained' c (List.mem_append_left _ hc)
          have hown : ∀ c ∈ s.filter.conditions, c.IsContained := fun c hc =>
            hcontained c (List.mem_append_right _ hc)
          have hown' : ∀ c ∈ r.filter.conditions, c.IsContained := fun c hc =>
            hcontained' c (List.mem_append_right _ hc)
          have havoids := avoids_sql hsource hinside hinner
          have havoids' := avoids_sql hother hinside' hinner'
          obtain ⟨rfl, rfl⟩ := eq_of_intercalate_subqueryWords_eq
            (s.balanced_of_selectSql hs hown havoids hstatement) hname
            (r.balanced_of_selectSql hr hown' havoids' hstatement') hname' htext
          obtain ⟨rfl, hselection⟩ := Selection.saysSame_of_selectSql_eq hs hr hown hown' havoids
            havoids' hstatement hstatement'
          exact .subquery name (ih hsource hother hinside hinside' hinner hinner') hselection

end Source

/-! ### Main result -/

namespace Selection

theorem SaysSame.selectSql_eq
    {s r : Selection}
    (h : s.SaysSame r)
    (source : String) :
    s.selectSql source = r.selectSql source := by
  obtain ⟨columns, joins, filter, groupBy, orderBy, limit, offset⟩ := s
  obtain ⟨columns', joins', filter', groupBy', orderBy', limit', offset'⟩ := r
  obtain ⟨rfl, rfl, hfilter, rfl, rfl, rfl, rfl⟩ := h
  have hclause : filter.clauseSql = filter'.clauseSql := Filter.clauseSql_eq_of_sql_eq hfilter
  rw [selectSql, selectSql, bodySql, bodySql, hclause]
  rfl

end Selection

theorem Source.SaysSame.sql_eq
    {source other : Source}
    (h : source.SaysSame other) :
    source.sql = other.sql := by
  induction h with
  | table expression =>
      rfl
  | subquery name _ hselection ih =>
      rw [Source.sql, Source.sql, ih]
      simp only [hselection.selectSql_eq]

namespace Query

theorem SaysSame.sql_eq
    {p r : Query}
    (h : p.SaysSame r) :
    p.sql = r.sql := by
  rw [sql, sql, h.source.sql_eq]
  simp only [h.selection.selectSql_eq]

theorem isContained_of_mem_conditions
    {q : Query}
    (hplain : q.HasPlainWords)
    (hcontained : ∀ c ∈ q.conditions, c.argument.holdsText = true → c.IsContained) :
    ∀ c ∈ q.conditions, c.IsContained := by
  intro c hc
  cases hholds : c.argument.holdsText with
  | true =>
      exact hcontained c hc hholds
  | false =>
      exact Condition.isContained_of_not_holdsText (hplain.condition c hc) hholds

/-- Two queries of plain words have the same statement exactly if they say the same, provided that
the arguments which can hold any text open no clause. -/
theorem sql_eq_ok_iff_saysSame
    {p r : Query}
    (hp : p.HasPlainWords)
    (hr : r.HasPlainWords)
    (hpcontained : ∀ c ∈ p.conditions, c.argument.holdsText = true → c.IsContained)
    (hrcontained : ∀ c ∈ r.conditions, c.argument.holdsText = true → c.IsContained)
    {text : String}
    (h : p.sql = .ok text) :
    r.sql = .ok text ↔ p.SaysSame r := by
  constructor
  · intro h'
    have hcontained := isContained_of_mem_conditions hp hpcontained
    have hcontained' := isContained_of_mem_conditions hr hrcontained
    have hsources : ∀ c ∈ p.source.conditions, c.IsContained := fun c hc =>
      hcontained c (List.mem_append_left _ hc)
    have hsources' : ∀ c ∈ r.source.conditions, c.IsContained := fun c hc =>
      hcontained' c (List.mem_append_left _ hc)
    obtain ⟨source, hsource, hselect⟩ := exists_of_bind_eq_ok h
    obtain ⟨source', hsource', hselect'⟩ := exists_of_bind_eq_ok h'
    obtain ⟨rfl, hselection⟩ := Selection.saysSame_of_selectSql_eq hp.selection hr.selection
      (fun c hc => hcontained c (List.mem_append_right _ hc))
      (fun c hc => hcontained' c (List.mem_append_right _ hc))
      (Source.avoids_sql hp.source hsources hsource)
      (Source.avoids_sql hr.source hsources' hsource') hselect hselect'
    exact ⟨Source.saysSame_of_sql_eq hp.source hr.source hsources hsources' hsource hsource',
      hselection⟩
  · intro hsame
    rw [← hsame.sql_eq]
    exact h

/-- A sub-select with a join, and a number that is written in two ways. -/
theorem sql_eq_ok_iff_saysSame_orders :
    let recent (paid : Argument) : Query :=
      { onTable "orders" with
        filter := .single (.equals "paid" paid)
        orderBy := [⟨"id", .descending⟩]
        limit := some 10 }
    let kinds (paid : Argument) : Query :=
      { source := (recent paid).asSource "o"
        columns := ["kind"]
        joins := [⟨.left, "users", "o.user", "in", "users.id"⟩]
        groupBy := ["kind", "users.id"] }
    (kinds (.int 1)).SaysSame (kinds (.display "1")) := by
  intro recent kinds
  have hcontained : ∀ paid : Argument,
      (Condition.equals "paid" paid).IsContained →
        ∀ c ∈ (kinds paid).conditions, c.argument.holdsText = true → c.IsContained := by
    intro paid hpaid c hc _
    obtain rfl : c = Condition.equals "paid" paid := List.mem_singleton.1 hc
    exact hpaid
  have hone : ∀ paid : Argument, paid.plainText = "1" →
      (Condition.equals "paid" paid).IsContained := by
    intro paid hpaid argument hargument
    obtain rfl : paid.plainText = argument := Except.ok.inj hargument
    rw [hpaid]
    exact .of_isWord (by decide) (by decide)
  have hsql : (kinds (.int 1)).sql = .ok
      ("select kind from (select * from orders where paid = 1 order by id desc limit 10) as o" ++
        " left join users on o.user in (users.id) group by kind,users.id") := by
    decide +kernel
  have hint : (kinds (.int 1)).HasPlainWords := by decide
  have hdisplay : (kinds (.display "1")).HasPlainWords := by decide
  have hsame := sql_eq_ok_iff_saysSame hint hdisplay (hcontained _ (hone _ (by decide +kernel)))
    (hcontained _ (hone _ (by decide +kernel))) hsql
  exact hsame.1 (by decide +kernel)

/-- An argument that opens a clause: its text is taken for a limit. -/
theorem argument_opens_clause :
    let hidden : Query :=
      { onTable "users" with filter := .single (.equals "age" (.display "1 limit 5")) }
    let limited : Query :=
      { onTable "users" with filter := .single (.equals "age" (.int 1)), limit := some 5 }
    hidden.HasPlainWords ∧
    limited.HasPlainWords ∧
    hidden.sql = .ok "select * from users where age = 1 limit 5" ∧
    limited.sql = .ok "select * from users where age = 1 limit 5" ∧
    hidden.limit ≠ limited.limit ∧
    ¬∀ (p r : Query) (text : String),
      p.HasPlainWords → r.HasPlainWords →
        p.sql = .ok text → r.sql = .ok text → p.SaysSame r := by
  intro hidden limited
  have hhidden : hidden.HasPlainWords := by decide
  have hlimited : limited.HasPlainWords := by decide
  have hsql : hidden.sql = .ok "select * from users where age = 1 limit 5" := by decide +kernel
  have hsql' : limited.sql = .ok "select * from users where age = 1 limit 5" := by decide +kernel
  have hlimit : hidden.limit ≠ limited.limit := by simp [hidden, limited, onTable]
  refine ⟨hhidden, hlimited, hsql, hsql', hlimit, fun hclaim => ?_⟩
  exact hlimit (hclaim hidden limited _ hhidden hlimited hsql hsql').selection.limit

end Query

end SqlStatement
