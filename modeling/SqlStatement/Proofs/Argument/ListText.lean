import SqlStatement.Proofs.Argument.Elements
import SqlStatement.Proofs.Condition.Text

/-!
# List text and plain text

An argument is written in one way behind list operators and in another behind all others.  Which
arguments can be written in the first way, and that both ways give the same text then, is shown by
induction over the elements of lists and JSON arrays.

* `Argument.elementText?_eq_none_iff` and `Argument.elementText?_eq_plainText` are these inductions.
* `Condition.fails_iff_scalar_or_object` says which conditions cannot be written, and
  `Condition.list_operators_write_plainText` how the others with a list operator are.
* `Argument.plainText_list_unless_object` says that a list is written as its elements, unless a JSON
  object is somewhere in it: then nothing is written, as in `Argument.list_with_object_is_dropped`.
-/

namespace SqlStatement

open Fallible

namespace Argument

variable {a : Argument} {items : List Argument} {text : String}

/-! ### Which arguments have a list text -/

/-- A part of a list has a text unless a JSON object is in it. -/
theorem elementText?_eq_none_iff (a : Argument) :
    a.elementText? = none ↔ a.ReachesObject := by
  induction a using induction with
  | single a helements =>
      constructor
      · intro hnone
        by_contra hobject
        rw [elementText?_of_elements?_eq_none helements hobject] at hnone
        cases hnone
      · intro hobject
        obtain ⟨fields, rfl⟩ := exists_eq_object_of_reachesObject helements hobject
        rfl
  | sequence a items helements ih =>
      rw [elementText?_of_elements? helements, Option.map_eq_none_iff, mapM_eq_none_iff,
        reachesObject_iff_of_elements? helements]
      exact exists_congr fun b => and_congr_right (ih b)

instance (a : Argument) : Decidable a.ReachesObject :=
  decidable_of_iff (a.elementText? = none) a.elementText?_eq_none_iff

/-- Whether an argument is nothing, a truth value or a number, as such or as JSON. -/
def isScalar : Argument → Bool
  | null | bool _ | int _ | float _ => true
  | json .null | json (.bool _) | json (.int _) | json (.float _) => true
  | _ => false

theorem isListLike_eq_false_iff (a : Argument) :
    a.isListLike = false ↔ a.isScalar = true ∨ ∃ fields, a = json (.obj fields) := by
  cases a with
  | json d =>
      cases d <;> simp [isListLike, isScalar]
  | _ =>
      simp [isListLike, isScalar]

/-- Scalars have no list text, and of the other arguments those have none in which a JSON object
is. -/
theorem listText?_eq_none_iff (a : Argument) :
    a.listText? = none ↔ a.isScalar = true ∨ a.ReachesObject := by
  unfold listText?
  cases hlist : a.isListLike with
  | true =>
      have hscalar : ¬a.isScalar = true := by
        intro hscalar
        rw [(isListLike_eq_false_iff a).2 (Or.inl hscalar)] at hlist
        cases hlist
      rw [if_pos rfl, elementText?_eq_none_iff, or_iff_right hscalar]
  | false =>
      rw [if_neg Bool.false_ne_true, eq_self, true_iff]
      rcases (isListLike_eq_false_iff a).1 hlist with hscalar | ⟨fields, rfl⟩
      · exact Or.inl hscalar
      · exact Or.inr (reachesObject_object fields)

/-! ### One text for all operators -/

theorem elementText?_eq_joined
    (helements : a.elements? = some items)
    (hitems : ∀ b ∈ items, b.elementText? = some b.plainText) :
    a.elementText? = some (joined (items.map plainText)) := by
  rw [elementText?_of_elements? helements, mapM_eq_some_map hitems]
  rfl

/-- A part of a list is written as it is written alone. -/
theorem elementText?_eq_plainText
    (hobject : ¬a.ReachesObject) :
    a.elementText? = some a.plainText := by
  induction a using induction with
  | single a helements =>
      exact elementText?_of_elements?_eq_none helements hobject
  | sequence a items helements ih =>
      have hjoined : a.elementText? = some (joined (items.map plainText)) :=
        elementText?_eq_joined helements fun b hb =>
          ih b hb (not_reachesObject_of_mem helements hobject b hb)
      rcases eq_list_or_array_of_elements? helements with rfl | ⟨documents, rfl, rfl⟩
      · rw [plainText_list, hjoined]
        rfl
      · rw [hjoined, plainText_array, List.map_map]
        rfl

/-- A sequence without objects is written as its elements between commas. -/
theorem plainText_of_elements?
    (helements : a.elements? = some items)
    (hobject : ¬a.ReachesObject) :
    a.plainText = joined (items.map plainText) := by
  have hjoined : a.elementText? = some (joined (items.map plainText)) :=
    elementText?_eq_joined helements fun b hb =>
      elementText?_eq_plainText (not_reachesObject_of_mem helements hobject b hb)
  exact Option.some.inj ((elementText?_eq_plainText hobject).symm.trans hjoined)

/-- Where an argument has a list text, it is the plain text. -/
theorem listText?_eq_some_iff_plainText (a : Argument) (text : String) :
    a.listText? = some text ↔ ¬(a.isScalar = true ∨ a.ReachesObject) ∧ a.plainText = text := by
  rw [← listText?_eq_none_iff]
  have hplain : ∀ {t}, a.listText? = some t → a.plainText = t := by
    intro t ht
    have helement : a.elementText? = some t := ((listText?_eq_some_iff a t).1 ht).2
    have hobject : ¬a.ReachesObject := by
      rw [← elementText?_eq_none_iff, helement]
      exact Option.some_ne_none t
    exact Option.some.inj ((elementText?_eq_plainText hobject).symm.trans helement)
  constructor
  · intro h
    exact ⟨h ▸ Option.some_ne_none text, hplain h⟩
  · rintro ⟨hne, rfl⟩
    obtain ⟨text, htext⟩ := Option.ne_none_iff_exists'.1 hne
    rw [htext, hplain htext]

end Argument

/-! ### Conditions with a list operator -/

namespace Condition

/-- A condition cannot be written exactly if its operator is `in` or `not in` and its argument is
a scalar or holds a JSON object in lists and arrays; the failure then names the field, the operator
and the whole argument.  These are the arguments without list text. -/
theorem fails_iff_scalar_or_object :
    (∀ a : Argument, a.listText? = none ↔ a.isScalar = true ∨ a.ReachesObject) ∧
    ∀ (c : Condition) (failure : UnsupportedArgument),
      c.sql = .error failure ↔
        (c.operator = "in" ∨ c.operator = "not in") ∧
        (c.argument.isScalar = true ∨ c.argument.ReachesObject) ∧
        failure = ⟨c.field, c.operator, c.argument.diagnostic⟩ := by
  refine ⟨Argument.listText?_eq_none_iff, fun c failure => ?_⟩
  rw [sql_eq_error_iff, isListOperator_iff, Argument.listText?_eq_none_iff]
  rfl

/-- An argument has a list text unless it is a scalar or holds a JSON object, and the list text is
the plain text; so a condition with a list operator writes the plain text of its argument between
parentheses. -/
theorem list_operators_write_plainText :
    (∀ (a : Argument) (text : String),
      a.listText? = some text ↔ ¬(a.isScalar = true ∨ a.ReachesObject) ∧ a.plainText = text) ∧
    ∀ (c : Condition) (text : String),
      c.operator = "in" ∨ c.operator = "not in" →
        (c.sql = .ok text ↔
          ¬(c.argument.isScalar = true ∨ c.argument.ReachesObject) ∧
          text = c.field ++ " " ++ c.operator ++ " (" ++ c.argument.plainText ++ ")") := by
  refine ⟨Argument.listText?_eq_some_iff_plainText, fun c text hoperator => ?_⟩
  rw [← isListOperator_iff] at hoperator
  constructor
  · intro h
    cases hlist : c.argument.listText? with
    | none =>
        rw [(sql_eq_error_iff c c.unsupported).2 ⟨hoperator, hlist, rfl⟩] at h
        cases h
    | some list =>
        obtain ⟨hdomain, rfl⟩ := (Argument.listText?_eq_some_iff_plainText _ _).1 hlist
        rw [sql_of_listText? hoperator hlist] at h
        exact ⟨hdomain, (Except.ok.inj h).symm⟩
  · rintro ⟨hdomain, rfl⟩
    exact sql_of_listText? hoperator
      ((Argument.listText?_eq_some_iff_plainText _ _).2 ⟨hdomain, rfl⟩)

/-- A list with an array in an array, a null and texts, behind both kinds of operator. -/
theorem list_operators_write_plainText_nested :
    let a : Argument :=
      .list [.int 1, .json (.arr [.str "b", .arr [.bool true, .null]]), .texts ["x", "y"]]
    (a.listText? = some "1,b,true,,x,y" ∧ a.plainText = "1,b,true,,x,y") ∧
      (noneOf "id" a).sql = .ok "id not in (1,b,true,,x,y)" ∧
      (equals "id" a).sql = .ok "id = 1,b,true,,x,y" := by
  intro a
  obtain ⟨htext, hcondition⟩ := list_operators_write_plainText
  have hdomain : ¬(a.isScalar = true ∨ a.ReachesObject) := by
    decide
  have hplain : a.plainText = "1,b,true,,x,y" := by
    decide
  refine ⟨⟨(htext a _).2 ⟨hdomain, hplain⟩, hplain⟩, ?_, ?_⟩
  · refine (hcondition (noneOf "id" a) _ (Or.inr rfl)).2 ⟨hdomain, ?_⟩
    change _ = "id" ++ " " ++ "not in" ++ " (" ++ a.plainText ++ ")"
    rw [hplain]
    decide
  · rw [sql_equals, hplain]
    rfl

end Condition

/-! ### Lists with an object in them -/

namespace Argument

theorem eq_empty_of_joined_eq_empty
    {texts : List String}
    (h : joined texts = "") :
    ∀ t ∈ texts, t = "" := by
  cases texts with
  | nil =>
      simp
  | cons t texts =>
      cases texts with
      | nil =>
          simpa [joined] using h
      | cons u texts =>
          simp [joined, String.append_eq_empty_iff] at h

/-- A document with an object in it is written with the braces of the object. -/
theorem plainText_ne_empty_of_reachesObject
    {d : Document}
    (h : (json d).ReachesObject) :
    (json d).plainText ≠ "" := by
  induction ha : json d using induction generalizing d with
  | single a helements =>
      subst ha
      obtain ⟨fields, hfields⟩ := exists_eq_object_of_reachesObject helements h
      obtain rfl := json.inj hfields
      simp [plainText, Document.plainText, Document.compactText, String.append_eq_empty_iff]
  | sequence a items helements ih =>
      subst ha
      rcases eq_list_or_array_of_elements? helements with hlist | ⟨documents, harray, rfl⟩
      · cases hlist
      · obtain ⟨b, hb, hreach⟩ := (reachesObject_iff_of_elements? helements).1 h
        obtain ⟨inner, hinner, rfl⟩ := List.mem_map.1 hb
        rw [harray, plainText_array]
        intro hempty
        exact ih (json inner) hb hreach rfl
          (eq_empty_of_joined_eq_empty hempty _ (List.mem_map_of_mem hinner))

/-- A list with an object in it is not written at all. -/
theorem plainText_list_of_reachesObject
    {items : List Argument}
    (h : (list items).ReachesObject) :
    (list items).plainText = "" := by
  rw [plainText_list, (elementText?_eq_none_iff (list items)).2 h]
  rfl

/-- A list of documents is written as the array of them exactly if no object is among them or in
them. -/
theorem plainText_list_eq_plainText_array_iff (documents : List Document) :
    (list (documents.map json)).plainText = (json (.arr documents)).plainText ↔
      ¬(json (.arr documents)).ReachesObject := by
  have hreach :
      (list (documents.map json)).ReachesObject ↔ (json (.arr documents)).ReachesObject := by
    rw [reachesObject_iff_of_elements? rfl, reachesObject_iff_of_elements? rfl]
  constructor
  · intro heq hobject
    rw [plainText_list_of_reachesObject (hreach.2 hobject)] at heq
    exact plainText_ne_empty_of_reachesObject hobject heq.symm
  · intro hobject
    rw [plainText_of_elements? rfl (fun h => hobject (hreach.1 h)),
      plainText_of_elements? rfl hobject]

/-- A list is written as its elements between commas if no JSON object is in it.  A list with an
object in it is written as nothing, so that a comparison with it has an empty right-hand side, while
an array with an object in it is written as its elements and the object as JSON. -/
theorem plainText_list_unless_object (items : List Argument) :
    (¬(list items).ReachesObject → (list items).plainText = joined (items.map plainText)) ∧
    ((list items).ReachesObject → (list items).plainText = "") ∧
    (∀ documents,
      (json (.arr documents)).plainText = joined (documents.map fun d => (json d).plainText)) ∧
    (∀ fields, (json (.obj fields)).plainText = (Document.obj fields).compactText) ∧
    (∀ documents,
      (list (documents.map json)).plainText = (json (.arr documents)).plainText ↔
        ¬(json (.arr documents)).ReachesObject) ∧
    ∀ field operator,
      Condition.isListOperator operator = false → operator ≠ "" →
        ((⟨field, operator, list items⟩ : Condition).sql = .ok (field ++ " " ++ operator ++ " ") ↔
          (list items).ReachesObject ∨ joined (items.map plainText) = "") := by
  have hjoin :
      ¬(list items).ReachesObject → (list items).plainText = joined (items.map plainText) :=
    plainText_of_elements? rfl
  refine ⟨hjoin, plainText_list_of_reachesObject, plainText_array, fun _ => rfl,
    plainText_list_eq_plainText_array_iff, fun field operator hoperator hne => ?_⟩
  rw [Condition.sql_of_not_isListOperator hoperator hne, Except.ok.injEq]
  change field ++ " " ++ operator ++ " " ++ (list items).plainText = _ ↔ _
  rw [String.append_eq_left_iff]
  by_cases hobject : (list items).ReachesObject
  · simp [hobject, plainText_list_of_reachesObject hobject]
  · simp [hobject, hjoin hobject]

/-- A list of a number and an array, and the same list with an object in the array. -/
theorem plainText_list_unless_object_array :
    let tags : Argument := .list [.int 7, .json (.arr [.str "a", .null])]
    let marked : Argument := .list [.int 7, .json (.arr [.str "a", .obj []])]
    tags.plainText = "7,a," ∧
      marked.plainText = "" ∧
      (⟨"tags", "@>", marked⟩ : Condition).sql = .ok "tags @> " := by
  intro tags marked
  obtain ⟨hjoin, -, -, -, -, -⟩ :=
    plainText_list_unless_object [.int 7, .json (.arr [.str "a", .null])]
  obtain ⟨-, hdropped, -, -, -, hcomparison⟩ :=
    plainText_list_unless_object [.int 7, .json (.arr [.str "a", .obj []])]
  have hobject : marked.ReachesObject := by
    decide
  exact ⟨hjoin (by decide), hdropped hobject,
    (hcomparison "tags" "@>" (by decide) (by decide)).2 (Or.inl hobject)⟩

/-- An object in a list takes the number beside it away, but in an array it is written. -/
theorem list_with_object_is_dropped :
    (list [.int 1, .json (.obj [("k", .str "v")])]).plainText = "" ∧
      joined ([.int 1, .json (.obj [("k", .str "v")])].map plainText) =
        "1,\x7b\"k\":\"v\"\x7d" ∧
      (json (.arr [.int 1, .obj [("k", .str "v")]])).plainText = "1,\x7b\"k\":\"v\"\x7d" ∧
      (Condition.equals "a" (list [.int 1, .json (.obj [("k", .str "v")])])).sql = .ok "a = " := by
  decide +kernel

end Argument

end SqlStatement
