import SqlStatement.Proofs.Argument.Tokens
import SqlStatement.Proofs.Number.Text

/-!
# Gaps in lists

Nulls and sequences without elements are written as nothing.  Alone they are refused behind a list
operator or give an empty list, and among other elements they leave two commas without a token
between them, or one without a token beside it.

* `Argument.HasGap` says that a null or an empty sequence is in an argument, at whatever depth.
* `Argument.forall_token_ne_empty_iff` is the induction: nothing but this leaves a gap if the
  strings in the argument are tokens.
* `Condition.list_is_whole_iff` is the main result, and `Condition.null_leaves_gap` a list with a
  gap that is written.
-/

namespace SqlStatement

open Fallible

/-- A text that is one token between commas. -/
structure IsToken (text : String) : Prop where
  ne_empty : text ≠ ""
  no_comma : ',' ∉ text.toList

instance (text : String) : Decidable (IsToken text) :=
  decidable_of_iff (text ≠ "" ∧ ',' ∉ text.toList) ⟨fun h => ⟨h.1, h.2⟩, fun h => ⟨h.1, h.2⟩⟩

theorem IsToken.of_isNumberChar
    {text : String}
    (hne : text ≠ "")
    (h : ∀ c ∈ text.toList, isNumberChar c = true) :
    IsToken text :=
  ⟨hne, fun hcomma => absurd (h _ hcomma) (by decide)⟩

theorem isToken_bool (b : Bool) : IsToken (toString b) := by
  cases b <;> decide

theorem isToken_int (n : Int) : IsToken (toString n) :=
  .of_isNumberChar (toString_int_ne_empty n) fun _ => isNumberChar_of_mem_toString

theorem isToken_text {format : BinaryFormat} (layout : FloatLayout) (x : Binary format) :
    IsToken (x.text layout) :=
  .of_isNumberChar (x.text_ne_empty layout) fun _ => Binary.isNumberChar_of_mem_text

theorem splitAtCommas_of_no_comma
    {text : String}
    (h : ',' ∉ text.toList) :
    splitAtCommas text = [text] := by
  have hjoined : Argument.joined [text] = text := String.intercalate_singleton
  rw [← hjoined, splitAtCommas_joined (List.cons_ne_nil _ _) (by simpa using h), hjoined]

/-- Joined texts are cut where each of them is cut and between them. -/
theorem splitAtCommas_joined_eq_flatMap
    {texts : List String}
    (hne : texts ≠ []) :
    splitAtCommas (Argument.joined texts) = texts.flatMap splitAtCommas := by
  induction texts with
  | nil =>
      exact absurd rfl hne
  | cons t texts ih =>
      cases texts with
      | nil =>
          simp [Argument.joined]
      | cons u texts =>
          have hcons : (Argument.joined (t :: u :: texts)).toList =
              t.toList ++ ',' :: (Argument.joined (u :: texts)).toList := by
            simp [Argument.joined, String.intercalate_cons_cons]
          rw [List.flatMap_cons, ← ih (List.cons_ne_nil _ _)]
          unfold splitAtCommas
          rw [hcons, List.splitOn_append_cons_self, List.map_append]

namespace Argument

variable {a b : Argument} {items : List Argument}

/-! ### What leaves a gap -/

/-- Nothing, as such or as JSON, or a sequence without elements. -/
def IsGap (a : Argument) : Prop :=
  a = null ∨ a = json .null ∨ a.length? = some 0

/-- An argument is a gap or has one in it, at whatever depth. -/
def HasGap (a : Argument) : Prop :=
  ∃ b, Relation.ReflTransGen HasElement a b ∧ b.IsGap

/-- The strings of an argument that is a string or a vector of strings. -/
def strings : Argument → List String
  | text s | display s | json (.str s) => [s]
  | texts items => items
  | _ => []

/-- All strings in an argument, at whatever depth, are tokens. -/
def StringsAreTokens (a : Argument) : Prop :=
  ∀ b, Relation.ReflTransGen HasElement a b → ∀ s ∈ b.strings, IsToken s

theorem hasGap_iff_of_elements?
    (helements : a.elements? = some items) :
    a.HasGap ↔ items = [] ∨ ∃ b ∈ items, b.HasGap := by
  have hgap : a.IsGap ↔ items = [] := by
    rw [IsGap, length?_of_elements? helements]
    rcases eq_list_or_array_of_elements? helements with rfl | ⟨documents, rfl, -⟩ <;> simp
  constructor
  · rintro ⟨b, hpath, hb⟩
    rcases hpath.cases_head with rfl | ⟨c, hc, hrest⟩
    · exact Or.inl (hgap.1 hb)
    · exact Or.inr ⟨c, (hasElement_iff_of_elements? helements).1 hc, b, hrest, hb⟩
  · rintro (hitems | ⟨c, hc, b, hrest, hb⟩)
    · exact ⟨a, .refl, hgap.2 hitems⟩
    · exact ⟨b, hrest.head ((hasElement_iff_of_elements? helements).2 hc), hb⟩

theorem hasGap_iff_of_elements?_eq_none
    (helements : a.elements? = none) :
    a.HasGap ↔ a.IsGap := by
  constructor
  · rintro ⟨b, hpath, hb⟩
    rcases hpath.cases_head with rfl | ⟨c, hc, -⟩
    · exact hb
    · exact absurd hc (not_hasElement_of_elements?_eq_none helements)
  · exact fun h => ⟨a, .refl, h⟩

theorem stringsAreTokens_iff_of_elements?
    (helements : a.elements? = some items) :
    a.StringsAreTokens ↔ ∀ b ∈ items, b.StringsAreTokens := by
  constructor
  · intro h b hb c hpath
    exact h c (hpath.head ((hasElement_iff_of_elements? helements).2 hb))
  · intro h c hpath
    rcases hpath.cases_head with rfl | ⟨b, hb, hrest⟩
    · rcases eq_list_or_array_of_elements? helements with rfl | ⟨documents, rfl, -⟩ <;>
        simp [strings]
    · exact h b ((hasElement_iff_of_elements? helements).1 hb) c hrest

theorem stringsAreTokens_iff_of_elements?_eq_none
    (helements : a.elements? = none) :
    a.StringsAreTokens ↔ ∀ s ∈ a.strings, IsToken s := by
  constructor
  · exact fun h => h a .refl
  · intro h b hpath
    rcases hpath.cases_head with rfl | ⟨c, hc, -⟩
    · exact h
    · exact absurd hc (not_hasElement_of_elements?_eq_none helements)

@[simp]
theorem hasGap_list (items : List Argument) :
    (list items).HasGap ↔ items = [] ∨ ∃ b ∈ items, b.HasGap :=
  hasGap_iff_of_elements? rfl

@[simp]
theorem stringsAreTokens_list (items : List Argument) :
    (list items).StringsAreTokens ↔ ∀ b ∈ items, b.StringsAreTokens :=
  stringsAreTokens_iff_of_elements? rfl

theorem plainText_eq_empty_of_isGap
    (h : a.IsGap) :
    a.plainText = "" := by
  rcases h with rfl | rfl | h
  · rfl
  · rfl
  · cases a with
    | json d =>
        cases d with
        | arr documents =>
            obtain rfl := List.length_eq_zero_iff.1 (Option.some.inj h)
            rfl
        | _ =>
            cases h
    | texts items | ints32 items | ints64 items | floats32 items | floats64 items | list items =>
        obtain rfl := List.length_eq_zero_iff.1 (Option.some.inj h)
        rfl
    | _ =>
        cases h

/-! ### Tokens between commas -/

/-- What has no elements is written with tokens, unless it is nothing. -/
theorem isToken_of_mem_tokens
    (helements : a.elements? = none)
    (hstrings : a.StringsAreTokens)
    (hgap : ¬a.IsGap) :
    ∀ token ∈ a.tokens, IsToken token := by
  have hown := (stringsAreTokens_iff_of_elements?_eq_none helements).1 hstrings
  cases a with
  | null =>
      exact absurd (Or.inl rfl) hgap
  | bool b =>
      simpa [tokens] using isToken_bool b
  | int n =>
      simpa [tokens] using isToken_int n.toInt
  | float x =>
      simpa [tokens] using isToken_text .statement x
  | text s | display s | texts s =>
      exact hown
  | ints32 items | ints64 items =>
      rw [tokens, List.forall_mem_map]
      exact fun n _ => isToken_int n.toInt
  | floats32 items | floats64 items =>
      rw [tokens, List.forall_mem_map]
      exact fun x _ => isToken_text .statement x
  | list items =>
      cases helements
  | json d =>
      cases d with
      | null =>
          exact absurd (Or.inr (Or.inl rfl)) hgap
      | bool b =>
          simpa [tokens, Document.tokens] using isToken_bool b
      | int n =>
          simpa [tokens, Document.tokens] using isToken_int n
      | float x =>
          simpa [tokens, Document.tokens, Document.floatText] using isToken_text .document x.value
      | str s =>
          exact hown
      | arr documents =>
          cases helements
      | obj fields =>
          simp [tokens, Document.tokens]

/-- The tokens of what has no elements are the parts of its text. -/
theorem splitAtCommas_of_elements?_eq_none
    (helements : a.elements? = none)
    (hobject : ¬a.ReachesObject)
    (hstrings : a.StringsAreTokens)
    (hgap : ¬a.IsGap) :
    splitAtCommas a.plainText = a.tokens := by
  have htokens := isToken_of_mem_tokens helements hstrings hgap
  rcases tokens_of_elements?_eq_none helements hobject with ⟨-, hsingle⟩ | ⟨hlength, hjoined⟩
  · rw [hsingle] at htokens ⊢
    exact splitAtCommas_of_no_comma (htokens _ List.mem_cons_self).no_comma
  · have hne : a.tokens ≠ [] := by
      intro hnil
      rw [hnil] at hlength
      exact hgap (Or.inr (Or.inr hlength))
    rw [hjoined, splitAtCommas_joined hne fun token htoken => (htokens token htoken).no_comma]

/-- The text of an argument whose strings are tokens has a gap exactly if the argument has one. -/
theorem forall_token_ne_empty_iff
    (hobject : ¬a.ReachesObject)
    (hstrings : a.StringsAreTokens) :
    (∀ token ∈ splitAtCommas a.plainText, token ≠ "") ↔ ¬a.HasGap := by
  have hempty : "" ∈ splitAtCommas "" := by
    decide
  induction a using induction with
  | single a helements =>
      rw [hasGap_iff_of_elements?_eq_none helements]
      constructor
      · intro h hgap
        rw [plainText_eq_empty_of_isGap hgap] at h
        exact h "" hempty rfl
      · intro hgap token htoken
        rw [splitAtCommas_of_elements?_eq_none helements hobject hstrings hgap] at htoken
        exact (isToken_of_mem_tokens helements hstrings hgap token htoken).ne_empty
  | sequence a items helements ih =>
      rw [hasGap_iff_of_elements? helements, plainText_of_elements? helements hobject]
      by_cases hitems : items = []
      · subst hitems
        exact iff_of_false (fun h => h "" hempty rfl) (by simp)
      · have hparts : ∀ b ∈ items,
            (∀ token ∈ splitAtCommas b.plainText, token ≠ "") ↔ ¬b.HasGap := fun b hb =>
          ih b hb (not_reachesObject_of_mem helements hobject b hb)
            ((stringsAreTokens_iff_of_elements? helements).1 hstrings b hb)
        rw [splitAtCommas_joined_eq_flatMap (by simpa using hitems), or_iff_right hitems,
          not_exists]
        simp only [not_and, ← forall₂_congr hparts]
        simp only [List.mem_flatMap, List.mem_map]
        constructor
        · exact fun h b hb token htoken => h token ⟨_, ⟨b, hb, rfl⟩, htoken⟩
        · rintro h token ⟨_, ⟨b, hb, rfl⟩, htoken⟩
          exact h b hb token htoken

end Argument

namespace Condition

/-- A list operator refuses null, as it refuses all scalars and what holds a JSON object.  It takes
every other argument, and if the strings in the argument are tokens, then the text between the
parentheses is tokens between commas, one at least, exactly if no null and no empty sequence is in
the argument. -/
theorem list_is_whole_iff
    (c : Condition)
    (hoperator : c.operator = "in" ∨ c.operator = "not in")
    (hstrings : c.argument.StringsAreTokens) :
    (c.argument = .null → c.sql = .error ⟨c.field, c.operator, "Null"⟩) ∧
    (c.argument.isScalar = true ∨ c.argument.ReachesObject →
      c.sql = .error ⟨c.field, c.operator, c.argument.diagnostic⟩) ∧
    (¬(c.argument.isScalar = true ∨ c.argument.ReachesObject) →
      ∃ list,
        c.sql = .ok (c.field ++ " " ++ c.operator ++ " (" ++ list ++ ")") ∧
        splitAtCommas list ≠ [] ∧
        ((∀ token ∈ splitAtCommas list, token ≠ "") ↔ ¬c.argument.HasGap)) := by
  rw [← isListOperator_iff] at hoperator
  have hrefused : c.argument.isScalar = true ∨ c.argument.ReachesObject →
      c.sql = .error ⟨c.field, c.operator, c.argument.diagnostic⟩ := fun h =>
    (c.sql_eq_error_iff _).2 ⟨hoperator, (Argument.listText?_eq_none_iff _).2 h, rfl⟩
  refine ⟨fun hnull => ?_, hrefused, fun htaken => ?_⟩
  · rw [hrefused (Or.inl (hnull ▸ rfl)), hnull]
    rfl
  · have hlist : c.argument.listText? = some c.argument.plainText :=
      (Argument.listText?_eq_some_iff_plainText _ _).2 ⟨htaken, rfl⟩
    refine ⟨c.argument.plainText, sql_of_listText? hoperator hlist, ?_, ?_⟩
    · simp [splitAtCommas]
    · exact Argument.forall_token_ne_empty_iff (fun h => htaken (Or.inr h)) hstrings

/-- A vector in a list, without and with an empty vector beside it. -/
theorem list_is_whole_iff_vector :
    let whole : Condition := oneOf "id" (.list [.text "a", .ints32 [1, 2]])
    let broken : Condition := noneOf "id" (.list [.text "a", .list [.ints32 [1, 2], .ints32 []]])
    (∃ list,
      whole.sql = .ok ("id" ++ " " ++ "in" ++ " (" ++ list ++ ")") ∧
      ∀ token ∈ splitAtCommas list, token ≠ "") ∧
    ∃ list,
      broken.sql = .ok ("id" ++ " " ++ "not in" ++ " (" ++ list ++ ")") ∧
      ¬∀ token ∈ splitAtCommas list, token ≠ "" := by
  intro whole broken
  have hstrings : ∀ {a : Argument}, a.elements? = none → (∀ s ∈ a.strings, IsToken s) →
      a.StringsAreTokens := fun h => (Argument.stringsAreTokens_iff_of_elements?_eq_none h).2
  have hgap : ∀ {a : Argument}, a.elements? = none → (a.HasGap ↔ a.IsGap) :=
    Argument.hasGap_iff_of_elements?_eq_none
  have hletter : (Argument.text "a").StringsAreTokens ∧ ¬(Argument.text "a").HasGap :=
    ⟨hstrings rfl (by decide), (hgap rfl).not.2 (by simp [Argument.IsGap, Argument.length?])⟩
  have hnumbers : ∀ ns, (Argument.ints32 ns).StringsAreTokens ∧
      ((Argument.ints32 ns).HasGap ↔ ns = []) := fun _ =>
    ⟨hstrings rfl (List.forall_mem_nil _),
      (hgap rfl).trans (by simp [Argument.IsGap, Argument.length?])⟩
  obtain ⟨-, -, hwhole⟩ := list_is_whole_iff whole (Or.inl rfl) (by
    simp [whole, oneOf, hletter, hnumbers])
  obtain ⟨-, -, hbroken⟩ := list_is_whole_iff broken (Or.inr rfl) (by
    simp [broken, noneOf, hletter, hnumbers])
  obtain ⟨list, hsql, -, htokens⟩ := hwhole (by decide)
  obtain ⟨other, hother, -, hothers⟩ := hbroken (by decide)
  refine ⟨⟨list, hsql, htokens.2 ?_⟩, other, hother, fun h => hothers.1 h ?_⟩
  · simp [whole, oneOf, hletter, hnumbers]
  · simp [broken, noneOf, hnumbers]

/-- A null in a list is not refused, and neither is an empty list, though null itself is. -/
theorem null_leaves_gap :
    (Argument.list [.null, .int 1]).StringsAreTokens ∧
      (oneOf "id" (.list [.null, .int 1])).sql = .ok "id in (,1)" ∧
      "" ∈ splitAtCommas ",1" ∧
      (oneOf "id" (.list [])).sql = .ok "id in ()" ∧
      (oneOf "id" .null).sql = .error ⟨"id", "in", "Null"⟩ := by
  refine ⟨?_, by decide +kernel, by decide, by decide +kernel, by decide +kernel⟩
  have hnumber : (Argument.int 1).StringsAreTokens :=
    (Argument.stringsAreTokens_iff_of_elements?_eq_none rfl).2 (List.forall_mem_nil _)
  have hnull : Argument.null.StringsAreTokens :=
    (Argument.stringsAreTokens_iff_of_elements?_eq_none rfl).2 (List.forall_mem_nil _)
  simp [hnull, hnumber]

end Condition

end SqlStatement
