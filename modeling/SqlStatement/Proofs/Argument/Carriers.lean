import SqlStatement.Proofs.Argument.ListText

/-!
# Carriers of a sequence

A sequence of numbers or strings can be an argument in several ways: as a vector of its own kind, as
a list of arguments, as a JSON array.  The statement does not tell which it was.

* `Argument.Sequence.carriers` are the arguments that carry a sequence, and
  `Argument.listText?_of_mem_carriers` is the one text that they have.
* `Argument.Recarries` puts another carrier in the place of one, in lists at whatever depth.
* `Argument.sql_of_carriers` is the main result.
-/

namespace SqlStatement

open Fallible

namespace Argument

/-- A sequence of numbers or strings, whatever argument carries it. -/
inductive Sequence where
  | ints32 (items : List Int32)
  | ints64 (items : List Int64)
  | strings (items : List String)
  | floats (items : List Binary64)

namespace Sequence

/-- The texts of the elements. -/
def texts : Sequence → List String
  | ints32 items => items.map fun n => toString n.toInt
  | ints64 items => items.map fun n => toString n.toInt
  | strings items => items
  | floats items => items.map fun x => x.text .statement

/-- The arguments that carry a sequence.  A JSON array is none of floats, since a whole number has a
zero after its point in JSON. -/
def carriers : Sequence → List Argument
  | ints32 items =>
    [.ints32 items, .ints64 (items.map Int32.toInt64), .list (items.map fun n => .int n.toInt64),
      .json (.arr (items.map fun n => .int n.toInt))]
  | ints64 items =>
    [.ints64 items, .list (items.map .int), .json (.arr (items.map fun n => .int n.toInt))]
  | strings items =>
    [.texts items, .list (items.map .text), .list (items.map fun s => .json (.str s)),
      .json (.arr (items.map .str))]
  | floats items => [.floats64 items, .list (items.map .float)]

end Sequence

variable {a b : Argument} {s : Sequence}

/-- The list text of a list or an array of elements that are written alike. -/
theorem listText?_of_elements?_map
    {α : Type}
    {items : List α}
    {element : α → Argument}
    {write : α → String}
    (helements : a.elements? = some (items.map element))
    (hwrite : ∀ item, (element item).elementText? = some (write item)) :
    a.listText? = some (joined (items.map write)) := by
  have hlist : a.isListLike = true := by
    rcases eq_list_or_array_of_elements? helements with rfl | ⟨documents, rfl, -⟩ <;> rfl
  have hitems : (items.map element).mapM elementText? = some (items.map write) := by
    rw [List.mapM_map]
    exact mapM_eq_some_map fun item _ => hwrite item
  rw [listText?, if_pos hlist, elementText?_of_elements? helements, hitems]
  rfl

/-- All carriers of a sequence have the texts of its elements between commas as their list text. -/
theorem listText?_of_mem_carriers
    (h : a ∈ s.carriers) :
    a.listText? = some (joined s.texts) := by
  cases s with
  | ints32 items =>
      have hwiden : items.map (fun n => toString n.toInt64.toInt) =
          items.map fun n => toString n.toInt := by
        simp only [Int32.toInt_toInt64]
      simp only [Sequence.carriers, List.mem_cons, List.not_mem_nil, or_false] at h
      rcases h with rfl | rfl | rfl | rfl
      · rfl
      · rw [Sequence.texts, ← hwiden]
        simp [listText?, isListLike, elementText?, Function.comp_def]
      · rw [Sequence.texts, ← hwiden]
        exact listText?_of_elements?_map rfl fun _ => rfl
      · exact listText?_of_elements?_map (congrArg some List.map_map) fun _ => rfl
  | ints64 items =>
      simp only [Sequence.carriers, List.mem_cons, List.not_mem_nil, or_false] at h
      rcases h with rfl | rfl | rfl
      · rfl
      · exact listText?_of_elements?_map rfl fun _ => rfl
      · exact listText?_of_elements?_map (congrArg some List.map_map) fun _ => rfl
  | strings items =>
      rw [Sequence.texts, ← List.map_id items]
      simp only [Sequence.carriers, List.mem_cons, List.not_mem_nil, or_false] at h
      rcases h with rfl | rfl | rfl | rfl
      · rw [List.map_id]
        rfl
      · exact listText?_of_elements?_map rfl fun _ => rfl
      · exact listText?_of_elements?_map rfl fun _ => rfl
      · exact listText?_of_elements?_map (congrArg some List.map_map) fun _ => rfl
  | floats items =>
      simp only [Sequence.carriers, List.mem_cons, List.not_mem_nil, or_false] at h
      rcases h with rfl | rfl
      · rfl
      · exact listText?_of_elements?_map rfl fun _ => rfl

theorem plainText_of_mem_carriers
    (h : a ∈ s.carriers) :
    a.plainText = joined s.texts :=
  ((listText?_eq_some_iff_plainText a _).1 (listText?_of_mem_carriers h)).2

/-! ### Other carriers in a list -/

/-- Puts another carrier of the same sequence in the place of an argument or of an element of a
list, at whatever depth. -/
inductive Recarries : Argument → Argument → Prop where
  | carrier {a b : Argument} (s : Sequence) (ha : a ∈ s.carriers) (hb : b ∈ s.carriers) :
    Recarries a b
  | element {a b : Argument} (before after : List Argument) (h : Recarries a b) :
    Recarries (.list (before ++ a :: after)) (.list (before ++ b :: after))

namespace Recarries

theorem elementText?_eq
    (h : Recarries a b) :
    a.elementText? = b.elementText? := by
  induction h with
  | carrier s ha hb =>
      rw [((listText?_eq_some_iff _ _).1 (listText?_of_mem_carriers ha)).2,
        ((listText?_eq_some_iff _ _).1 (listText?_of_mem_carriers hb)).2]
  | element before after _ ih =>
      simp only [elementText?, elementTexts?_eq_mapM, List.mapM_append, List.mapM_cons, ih]

theorem listText?_eq
    (h : Recarries a b) :
    a.listText? = b.listText? := by
  cases h with
  | carrier s ha hb =>
      rw [listText?_of_mem_carriers ha, listText?_of_mem_carriers hb]
  | element before after h =>
      exact (h.element before after).elementText?_eq

theorem plainText_eq
    (h : Recarries a b) :
    a.plainText = b.plainText := by
  cases h with
  | carrier s ha hb =>
      rw [plainText_of_mem_carriers ha, plainText_of_mem_carriers hb]
  | element before after h =>
      rw [plainText_list, plainText_list, (h.element before after).elementText?_eq]

end Recarries

/-- All carriers of a sequence have one list text and one plain text.  So a condition is written the
same, or not at all, whichever carriers stand in its argument at whatever depth. -/
theorem sql_of_carriers :
    (∀ (s : Sequence) (a : Argument),
      a ∈ s.carriers → a.listText? = some (joined s.texts) ∧ a.plainText = joined s.texts) ∧
    ∀ a b : Argument,
      Relation.ReflTransGen Recarries a b →
      ∀ field operator text,
        (⟨field, operator, a⟩ : Condition).sql = .ok text ↔
          (⟨field, operator, b⟩ : Condition).sql = .ok text := by
  refine ⟨fun s a ha => ⟨listText?_of_mem_carriers ha, plainText_of_mem_carriers ha⟩, ?_⟩
  intro a b hsteps field operator text
  induction hsteps with
  | refl =>
      rfl
  | tail _ hstep ih =>
      rw [ih]
      have hlist := hstep.listText?_eq
      have hplain := hstep.plainText_eq
      exact ⟨Condition.sql_eq_ok_of_argument_eq hlist hplain,
        Condition.sql_eq_ok_of_argument_eq hlist.symm hplain.symm⟩

/-- Numbers as a vector and as an array, deep in a list. -/
theorem sql_of_carriers_nested :
    let nested (numbers : Argument) : Argument := .list [.text "a", .list [numbers, .null]]
    (Condition.oneOf "id" (nested (.ints32 [1, -2]))).sql = .ok "id in (a,1,-2,)" ∧
      (Condition.oneOf "id" (nested (.json (.arr [.int 1, .int (-2)])))).sql =
        .ok "id in (a,1,-2,)" := by
  intro nested
  obtain ⟨-, hsql⟩ := sql_of_carriers
  have hvector : (Condition.oneOf "id" (nested (.ints32 [1, -2]))).sql = .ok "id in (a,1,-2,)" := by
    decide +kernel
  have hcarriers : Recarries (.ints32 [1, -2]) (.json (.arr [.int 1, .int (-2)])) :=
    .carrier (.ints32 [1, -2]) (by simp [Sequence.carriers]) (by simp [Sequence.carriers])
  have hnested : Recarries (nested (.ints32 [1, -2])) (nested (.json (.arr [.int 1, .int (-2)]))) :=
    .element [.text "a"] [] (.element [] [.null] hcarriers)
  exact ⟨hvector, (hsql _ _ (.single hnested) "id" "in" _).1 hvector⟩

end Argument

end SqlStatement
