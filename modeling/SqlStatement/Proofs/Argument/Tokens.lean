import SqlStatement.Proofs.Argument.ListText

/-!
# The tokens of an argument

A sequence in a sequence is written without parentheses of its own, so its elements stand among
those of the outer one.  Nothing is lost by this as long as no inner sequence is empty.

* `Argument.tokens` are the texts of strings, numbers, truth values and nulls from left to right, at
  whatever depth they stand, and `splitAtCommas` cuts a text into such texts.
* `Argument.NestsNoEmpty` says that no sequence in another one is empty.
* `Argument.plainText_eq_joined_tokens` is the induction, and `Argument.listText?_joins_tokens` the
  main result: the list text is the tokens between commas, and it tells them if they hold no comma.
-/

namespace SqlStatement

/-- The texts between the commas of a text. -/
def splitAtCommas (text : String) : List String :=
  (text.toList.splitOn ',').map String.ofList

theorem splitAtCommas_joined
    {texts : List String}
    (hne : texts ≠ [])
    (hcomma : ∀ t ∈ texts, ',' ∉ t.toList) :
    splitAtCommas (Argument.joined texts) = texts := by
  have hlists : ∀ l ∈ texts.map String.toList, ',' ∉ l := by
    simpa using hcomma
  have hsplit : (Argument.joined texts).toList.splitOn ',' = texts.map String.toList := by
    rw [Argument.joined, String.toList_intercalate]
    exact List.splitOn_intercalate ',' hlists (by simpa using hne)
  have htexts : String.ofList ∘ String.toList = id :=
    funext fun _ => String.ofList_toList
  rw [splitAtCommas, hsplit, List.map_map, htexts, List.map_id]

/-! ### Tokens -/

namespace Document

mutual

/-- The texts of the strings, numbers, truth values and nulls in arrays, from left to right.  An
object has no such texts. -/
def tokens : Document → List String
  | null => [""]
  | bool b => [toString b]
  | int n => [toString n]
  | float x => [floatText x]
  | str s => [s]
  | arr items => allTokens items
  | obj _ => []

/-- The tokens of the elements of an array. -/
def allTokens : List Document → List String
  | [] => []
  | d :: ds => d.tokens ++ allTokens ds

end

theorem allTokens_eq_flatMap (ds : List Document) : allTokens ds = ds.flatMap tokens := by
  induction ds with
  | nil =>
      rfl
  | cons d ds ih =>
      rw [allTokens, ih, List.flatMap_cons]

end Document

namespace Argument

mutual

/-- The texts of the strings, numbers, truth values, displayed values and nulls in sequences, from
left to right. -/
def tokens : Argument → List String
  | null => [""]
  | bool b => [toString b]
  | int n => [toString n.toInt]
  | float x => [x.text .statement]
  | text s => [s]
  | display s => [s]
  | texts items => items
  | ints32 items => items.map fun n => toString n.toInt
  | ints64 items => items.map fun n => toString n.toInt
  | floats32 items => items.map fun x => x.text .statement
  | floats64 items => items.map fun x => x.text .statement
  | list items => allTokens items
  | json d => d.tokens

/-- The tokens of the elements of a list. -/
def allTokens : List Argument → List String
  | [] => []
  | a :: as => a.tokens ++ allTokens as

end

theorem allTokens_eq_flatMap (as : List Argument) : allTokens as = as.flatMap tokens := by
  induction as with
  | nil =>
      rfl
  | cons a as ih =>
      rw [allTokens, ih, List.flatMap_cons]

/-- The number of elements, of a sequence. -/
def length? : Argument → Option Nat
  | texts items => some items.length
  | ints32 items => some items.length
  | ints64 items => some items.length
  | floats32 items => some items.length
  | floats64 items => some items.length
  | list items => some items.length
  | json (.arr items) => some items.length
  | _ => none

/-- No sequence in another one is empty. -/
def NestsNoEmpty (a : Argument) : Prop :=
  ∀ b, a.Encloses b → b.length? ≠ some 0

variable {a : Argument} {items : List Argument} {text : String}

theorem tokens_of_elements?
    (helements : a.elements? = some items) :
    a.tokens = items.flatMap tokens := by
  rcases eq_list_or_array_of_elements? helements with rfl | ⟨documents, rfl, rfl⟩
  · rw [tokens, allTokens_eq_flatMap]
  · rw [tokens, Document.tokens, Document.allTokens_eq_flatMap, List.flatMap_map]
    rfl

theorem length?_of_elements?
    (helements : a.elements? = some items) :
    a.length? = some items.length := by
  rcases eq_list_or_array_of_elements? helements with rfl | ⟨documents, rfl, rfl⟩
  · rfl
  · rw [length?, List.length_map]

theorem nestsNoEmpty_iff_of_elements?
    (helements : a.elements? = some items) :
    a.NestsNoEmpty ↔ ∀ b ∈ items, b.length? ≠ some 0 ∧ b.NestsNoEmpty := by
  have hencloses : ∀ c, a.Encloses c ↔ ∃ b ∈ items, b = c ∨ b.Encloses c := fun _ =>
    encloses_iff_of_elements? helements
  constructor
  · intro h b hb
    exact ⟨h b ((hencloses b).2 ⟨b, hb, Or.inl rfl⟩),
      fun c hc => h c ((hencloses c).2 ⟨b, hb, Or.inr hc⟩)⟩
  · intro h c hc
    obtain ⟨b, hb, rfl | hc⟩ := (hencloses c).1 hc
    · exact (h b hb).1
    · exact (h b hb).2 c hc

@[simp]
theorem nestsNoEmpty_list (items : List Argument) :
    (list items).NestsNoEmpty ↔ ∀ b ∈ items, b.length? ≠ some 0 ∧ b.NestsNoEmpty :=
  nestsNoEmpty_iff_of_elements? rfl

@[simp]
theorem nestsNoEmpty_array (documents : List Document) :
    (json (.arr documents)).NestsNoEmpty ↔
      ∀ d ∈ documents, (json d).length? ≠ some 0 ∧ (json d).NestsNoEmpty := by
  rw [nestsNoEmpty_iff_of_elements? rfl, List.forall_mem_map]

theorem nestsNoEmpty_of_elements?_eq_none
    (helements : a.elements? = none) :
    a.NestsNoEmpty :=
  fun _ hb => absurd hb (not_encloses_of_elements?_eq_none helements)

/-! ### Joined tokens -/

theorem joined_append
    {first second : List String}
    (hfirst : first ≠ [])
    (hsecond : second ≠ []) :
    joined (first ++ second) = joined first ++ "," ++ joined second :=
  String.intercalate_append_of_ne_nil hfirst hsecond

/-- Joining joined texts joins all their parts, if there are any in each. -/
theorem joined_map_joined
    {parts : List (List String)}
    (h : ∀ part ∈ parts, part ≠ []) :
    joined (parts.map joined) = joined parts.flatten := by
  induction parts with
  | nil =>
      rfl
  | cons part parts ih =>
      obtain ⟨hpart, hparts⟩ := List.forall_mem_cons.1 h
      cases parts with
      | nil =>
          simp [joined]
      | cons next parts =>
          have hrest : (next :: parts).flatten ≠ [] := by
            simp [hparts next List.mem_cons_self]
          have hcons : joined ((part :: next :: parts).map joined) =
              joined part ++ "," ++ joined ((next :: parts).map joined) :=
            String.intercalate_cons_cons
          rw [hcons, ih hparts, ← joined_append hpart hrest]
          rfl

/-- What has no elements is its only token, or it is a vector of tokens. -/
theorem tokens_of_elements?_eq_none
    (helements : a.elements? = none)
    (hobject : ¬a.ReachesObject) :
    a.length? = none ∧ a.tokens = [a.plainText] ∨
      a.length? = some a.tokens.length ∧ a.plainText = joined a.tokens := by
  cases a with
  | list inner =>
      cases helements
  | json d =>
      cases d with
      | arr documents =>
          cases helements
      | obj fields =>
          exact absurd (reachesObject_object fields) hobject
      | _ =>
          exact Or.inl ⟨rfl, rfl⟩
  | texts items =>
      exact Or.inr ⟨rfl, rfl⟩
  | ints32 items | ints64 items | floats32 items | floats64 items =>
      refine Or.inr ⟨?_, rfl⟩
      rw [length?, tokens, List.length_map]
  | _ =>
      exact Or.inl ⟨rfl, rfl⟩

/-- An argument without empty sequences in it has a token, unless it is an empty sequence. -/
theorem tokens_ne_nil
    (hobject : ¬a.ReachesObject)
    (hnested : a.NestsNoEmpty)
    (hlength : a.length? ≠ some 0) :
    a.tokens ≠ [] := by
  induction a using induction with
  | single a helements =>
      rcases tokens_of_elements?_eq_none helements hobject with ⟨-, htokens⟩ | ⟨hsome, -⟩
      · rw [htokens]
        exact List.cons_ne_nil _ _
      · intro hnil
        rw [hnil] at hsome
        exact hlength hsome
  | sequence a items helements ih =>
      rw [nestsNoEmpty_iff_of_elements? helements] at hnested
      rw [length?_of_elements? helements] at hlength
      obtain ⟨b, hb⟩ : ∃ b, b ∈ items := by
        refine List.exists_mem_of_ne_nil items ?_
        rintro rfl
        exact hlength rfl
      rw [tokens_of_elements? helements]
      intro hnil
      exact ih b hb (not_reachesObject_of_mem helements hobject b hb) (hnested b hb).2
        (hnested b hb).1 (List.flatMap_eq_nil_iff.1 hnil b hb)

/-- An argument without objects and without empty sequences in it is written as its tokens between
commas. -/
theorem plainText_eq_joined_tokens
    (hobject : ¬a.ReachesObject)
    (hnested : a.NestsNoEmpty) :
    a.plainText = joined a.tokens := by
  induction a using induction with
  | single a helements =>
      rcases tokens_of_elements?_eq_none helements hobject with ⟨-, htokens⟩ | ⟨-, hjoined⟩
      · rw [htokens]
        exact String.intercalate_singleton.symm
      · exact hjoined
  | sequence a items helements ih =>
      have hinner : ∀ b ∈ items, ¬b.ReachesObject := not_reachesObject_of_mem helements hobject
      rw [nestsNoEmpty_iff_of_elements? helements] at hnested
      have htexts : items.map plainText = (items.map tokens).map joined := by
        rw [List.map_map]
        exact List.map_congr_left fun b hb => ih b hb (hinner b hb) (hnested b hb).2
      have hne : ∀ part ∈ items.map tokens, part ≠ [] := by
        rw [List.forall_mem_map]
        exact fun b hb => tokens_ne_nil (hinner b hb) (hnested b hb).2 (hnested b hb).1
      calc a.plainText
          = joined (items.map plainText) := plainText_of_elements? helements hobject
        _ = joined (items.map tokens).flatten := by rw [htexts, joined_map_joined hne]
        _ = joined a.tokens := by rw [tokens_of_elements? helements, List.flatMap_def]

/-- Where no sequence in another one is empty, the list text is the tokens between commas, from left
to right; so the tokens of a sequence that is not empty are the parts of its list text, if they hold
no comma. -/
theorem listText?_joins_tokens
    (hnested : a.NestsNoEmpty)
    (h : a.listText? = some text) :
    text = joined a.tokens ∧
      ∀ n, a.length? = some (n + 1) →
        (∀ token ∈ a.tokens, ',' ∉ token.toList) →
          splitAtCommas text = a.tokens := by
  obtain ⟨hdomain, rfl⟩ := (listText?_eq_some_iff_plainText a text).1 h
  have hobject : ¬a.ReachesObject := fun hreach => hdomain (Or.inr hreach)
  have htokens : a.plainText = joined a.tokens := plainText_eq_joined_tokens hobject hnested
  refine ⟨htokens, fun n hlength hcomma => ?_⟩
  have hne : a.tokens ≠ [] := tokens_ne_nil hobject hnested (by simp [hlength])
  rw [htokens, splitAtCommas_joined hne hcomma]

/-- Sequences of four kinds in a list, with a null and an array in them. -/
theorem listText?_joins_tokens_nested :
    let a : Argument :=
      .list [.int 1, .texts ["b", "c"], .list [.json (.arr [.null, .str "d"]), .bool true],
        .ints32 [5]]
    a.listText? = some (joined ["1", "b", "c", "", "d", "true", "5"]) ∧
      splitAtCommas "1,b,c,,d,true,5" = ["1", "b", "c", "", "d", "true", "5"] := by
  intro a
  have hsingle : ∀ {b : Argument}, b.elements? = none → b.NestsNoEmpty :=
    nestsNoEmpty_of_elements?_eq_none
  have hnested : a.NestsNoEmpty := by
    suffices ((int 1).NestsNoEmpty ∧ (texts ["b", "c"]).NestsNoEmpty ∧
        (((json .null).NestsNoEmpty ∧ (json (.str "d")).NestsNoEmpty) ∧
          (bool true).NestsNoEmpty) ∧ (ints32 [5]).NestsNoEmpty) by
      simpa [a, length?]
    exact ⟨hsingle rfl, hsingle rfl, ⟨⟨hsingle rfl, hsingle rfl⟩, hsingle rfl⟩, hsingle rfl⟩
  have htext : a.listText? = some "1,b,c,,d,true,5" := by
    decide
  obtain ⟨hjoined, hsplit⟩ := listText?_joins_tokens hnested htext
  exact ⟨hjoined ▸ htext, hsplit 3 rfl (by decide)⟩

end Argument

end SqlStatement
