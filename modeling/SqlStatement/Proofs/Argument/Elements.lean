import Mathlib.Logic.Basic
import Mathlib.Logic.Relation
import SqlStatement.Argument

/-!
# The elements of arguments

Lists and JSON arrays nest in each other, and both are written through their elements.  Here they
are one kind of node, so that what concerns all arguments is proved by one induction.

* `Argument.elements?` are the elements of a list or of a JSON array, and `Argument.induction` is
  induction over them.
* `Argument.ReachesObject` says that an argument holds a JSON object, and `Argument.Encloses` that
  it holds another argument, at whatever depth.
* `Argument.elementText?_of_elements?` writes such a sequence from its elements, and
  `Argument.elementText?_of_elements?_eq_none` says how everything else is written.
-/

namespace SqlStatement.Argument

/-- The elements of a list or of a JSON array; other arguments hold no arguments. -/
def elements? : Argument → Option (List Argument)
  | list items => some items
  | json (.arr items) => some (items.map json)
  | _ => none

variable {a b : Argument} {items : List Argument}

theorem eq_list_or_array_of_elements?
    (helements : a.elements? = some items) :
    a = list items ∨ ∃ documents, a = json (.arr documents) ∧ items = documents.map json := by
  cases a with
  | list inner =>
      obtain rfl := Option.some.inj helements
      exact Or.inl rfl
  | json d =>
      cases d with
      | arr documents =>
          exact Or.inr ⟨documents, rfl, (Option.some.inj helements).symm⟩
      | _ =>
          cases helements
  | _ =>
      cases helements

theorem sizeOf_lt_of_mem_elements
    (helements : a.elements? = some items)
    (hb : b ∈ items) :
    sizeOf b < sizeOf a := by
  rcases eq_list_or_array_of_elements? helements with rfl | ⟨documents, rfl, rfl⟩
  · have hlist := List.sizeOf_lt_of_mem hb
    simp only [list.sizeOf_spec]
    omega
  · obtain ⟨d, hd, rfl⟩ := List.mem_map.1 hb
    have hlist := List.sizeOf_lt_of_mem hd
    simp only [json.sizeOf_spec, Document.arr.sizeOf_spec]
    omega

/-- What holds of a sequence if it holds of its elements, and of all that has no elements, holds of
every argument. -/
@[elab_as_elim]
theorem induction
    {motive : Argument → Prop}
    (single : ∀ a, a.elements? = none → motive a)
    (sequence : ∀ a items, a.elements? = some items → (∀ b ∈ items, motive b) → motive a)
    (a : Argument) :
    motive a :=
  match helements : a.elements? with
  | none => single a helements
  | some items =>
    sequence a items helements fun b hb =>
      have := sizeOf_lt_of_mem_elements helements hb
      induction single sequence b
termination_by sizeOf a

/-! ### What an argument holds -/

/-- An argument is a sequence with another one among its elements. -/
def HasElement (a b : Argument) : Prop :=
  ∃ items, a.elements? = some items ∧ b ∈ items

/-- An argument holds another one, in a sequence in a sequence and so on. -/
def Encloses : Argument → Argument → Prop :=
  Relation.TransGen HasElement

/-- Through lists and JSON arrays only, a JSON object is reached from an argument.  From an object
it is reached in no step. -/
def ReachesObject (a : Argument) : Prop :=
  ∃ fields, Relation.ReflTransGen HasElement a (.json (.obj fields))

theorem hasElement_iff_of_elements?
    (helements : a.elements? = some items) :
    a.HasElement b ↔ b ∈ items := by
  constructor
  · rintro ⟨other, hother, hb⟩
    rw [helements] at hother
    exact Option.some.inj hother ▸ hb
  · exact fun hb => ⟨items, helements, hb⟩

theorem not_hasElement_of_elements?_eq_none
    (helements : a.elements? = none) :
    ¬a.HasElement b := by
  rintro ⟨items, hitems, -⟩
  rw [helements] at hitems
  cases hitems

theorem encloses_iff_of_elements?
    (helements : a.elements? = some items) :
    a.Encloses b ↔ ∃ c ∈ items, c = b ∨ c.Encloses b := by
  rw [Encloses, Relation.TransGen.head'_iff]
  refine exists_congr fun c => ?_
  rw [hasElement_iff_of_elements? helements, Relation.reflTransGen_iff_eq_or_transGen, eq_comm]

theorem not_encloses_of_elements?_eq_none
    (helements : a.elements? = none) :
    ¬a.Encloses b := by
  intro h
  obtain ⟨c, hc, -⟩ := Relation.TransGen.head'_iff.1 h
  exact not_hasElement_of_elements?_eq_none helements hc

theorem reachesObject_object (fields : List (String × Document)) :
    (json (.obj fields)).ReachesObject :=
  ⟨fields, .refl⟩

/-- What has no elements reaches an object only by being one. -/
theorem exists_eq_object_of_reachesObject
    (helements : a.elements? = none)
    (h : a.ReachesObject) :
    ∃ fields, a = json (.obj fields) := by
  obtain ⟨fields, hpath⟩ := h
  rcases hpath.cases_head with rfl | ⟨b, hb, -⟩
  · exact ⟨fields, rfl⟩
  · exact absurd hb (not_hasElement_of_elements?_eq_none helements)

/-- A sequence reaches an object exactly if one of its elements does. -/
theorem reachesObject_iff_of_elements?
    (helements : a.elements? = some items) :
    a.ReachesObject ↔ ∃ b ∈ items, b.ReachesObject := by
  constructor
  · rintro ⟨fields, hpath⟩
    rcases hpath.cases_head with rfl | ⟨b, hb, hrest⟩
    · cases helements
    · exact ⟨b, (hasElement_iff_of_elements? helements).1 hb, fields, hrest⟩
  · rintro ⟨b, hb, fields, hrest⟩
    exact ⟨fields, hrest.head ((hasElement_iff_of_elements? helements).2 hb)⟩

theorem not_reachesObject_of_mem
    (helements : a.elements? = some items)
    (h : ¬a.ReachesObject) :
    ∀ b ∈ items, ¬b.ReachesObject :=
  fun b hb hreach => h ((reachesObject_iff_of_elements? helements).2 ⟨b, hb, hreach⟩)

/-! ### Texts from elements -/

theorem elementText?_of_elements?
    (helements : a.elements? = some items) :
    a.elementText? = (items.mapM elementText?).map joined := by
  rcases eq_list_or_array_of_elements? helements with rfl | ⟨documents, rfl, rfl⟩
  · rw [elementText?, elementTexts?_eq_mapM]
  · rw [elementText?, Document.elementText?, Document.elementTexts?_eq_mapM, List.mapM_map]
    rfl

/-- What is neither a sequence of arguments nor an object is written the same everywhere. -/
theorem elementText?_of_elements?_eq_none
    (helements : a.elements? = none)
    (hobject : ¬a.ReachesObject) :
    a.elementText? = some a.plainText := by
  cases a with
  | list inner =>
      cases helements
  | json d =>
      cases d with
      | arr inner =>
          cases helements
      | obj fields =>
          exact absurd (reachesObject_object fields) hobject
      | _ =>
          rfl
  | _ =>
      rfl

/-- Alone, a list is written as it is written as part of a list, and without such a text it is not
written at all. -/
theorem plainText_list (items : List Argument) :
    (list items).plainText = (list items).elementText?.getD "" := rfl

/-- An array is written as its elements between commas. -/
theorem plainText_array (documents : List Document) :
    (json (.arr documents)).plainText = joined (documents.map fun d => (json d).plainText) := by
  rw [plainText, Document.plainText, Document.plainTexts_eq_map]
  rfl

end SqlStatement.Argument
