import SqlStatement.Proofs.Condition.Text
import SqlStatement.Proofs.Number.Text
import SqlStatement.Proofs.Text.Diagnostic

/-!
# Diagnostic text identifies arguments

The failure of a list operator shows the whole argument.  The text is put together from a node, and
the node tells the argument if no floating-point number is in it.  Such numbers are left out because
all encodings of what is not a number are shown alike.

* `Argument.node` is what the text is put together from, and `Argument.toList_diagnostic` says so.
* `Argument.node_eq_of_diagnostic_eq` says that the text tells the node, and
  `Argument.eq_of_node_eq` that the node tells the argument.
* `Argument.diagnostic_identifies_argument` is the main result.
-/

namespace SqlStatement

open Diagnostic

/-! ### Words -/

theorem isMark_of_isNumberChar
    {c : Char}
    (h : isNumberChar c = true) :
    isMark c = false := by
  have hmarks : ∀ m ∈ marks, (!isNumberChar m) = true :=
    List.all_eq_true.1 (by decide)
  rw [isMark, ← Bool.not_eq_true, List.contains_iff_mem]
  intro hmem
  have hnot := hmarks c hmem
  rw [h] at hnot
  cases hnot

theorem hasWords_bool (b : Bool) : (Node.word (toString b)).HasWords := by
  cases b <;> exact ⟨by decide, by decide⟩

theorem hasWords_int (n : Int) : (Node.word (toString n)).HasWords :=
  ⟨toString_int_ne_empty n, (isUnmarked_iff _).2 fun _ hc =>
    isMark_of_isNumberChar (isNumberChar_of_mem_toString hc)⟩

theorem hasWords_text {format : BinaryFormat} (layout : FloatLayout) (x : Binary format) :
    (Node.word (x.text layout)).HasWords :=
  ⟨x.text_ne_empty layout, (isUnmarked_iff _).2 fun _ hc =>
    isMark_of_isNumberChar (Binary.isNumberChar_of_mem_text hc)⟩

theorem hasWords_quoted (s : String) : (Node.quoted s).HasWords :=
  trivial

theorem word_bool_injective : Function.Injective fun b : Bool => Node.word (toString b) := by
  have htoString : ∀ b b' : Bool, toString b = toString b' → b = b' := by
    decide
  exact fun b b' h => htoString b b' (Node.word.inj h)

theorem word_int_injective : Function.Injective fun n : Int => Node.word (toString n) := by
  intro m n h
  exact toString_int_injective (Node.word.inj h)

theorem word_int32_injective :
    Function.Injective fun n : Int32 => Node.word (toString n.toInt) :=
  word_int_injective.comp fun _ _ => Int32.toInt_inj.1

theorem word_int64_injective :
    Function.Injective fun n : Int64 => Node.word (toString n.toInt) :=
  word_int_injective.comp fun _ _ => Int64.toInt_inj.1

theorem quoted_injective : Function.Injective Node.quoted :=
  fun _ _ => Node.quoted.inj

/-! ### Documents -/

namespace Document

mutual

/-- What the diagnostic text is put together from. -/
def node : Document → Node
  | null => .word "Null"
  | bool b => .tagged "Bool" (.word (toString b))
  | int n => .tagged "Number" (.word (toString n))
  | float x => .tagged "Number" (.word (floatText x))
  | str s => .tagged "String" (.quoted s)
  | arr items => .bracketed "Array " .square (nodes items)
  | obj fields => .bracketed "Object " .curly (fieldNodes fields)

/-- The nodes of the elements of an array. -/
def nodes : List Document → List Node
  | [] => []
  | d :: ds => d.node :: nodes ds

/-- The nodes of the fields of an object. -/
def fieldNodes : List (String × Document) → List Node
  | [] => []
  | (key, d) :: fields => .entry key d.node :: fieldNodes fields

end

mutual

/-- Whether no floating-point number is in the document, at whatever depth. -/
def isFloatFree : Document → Bool
  | float _ => false
  | null | bool _ | int _ | str _ => true
  | arr items => areFloatFree items
  | obj fields => fieldsAreFloatFree fields

/-- Whether no floating-point number is in the elements of an array. -/
def areFloatFree : List Document → Bool
  | [] => true
  | d :: ds => d.isFloatFree && areFloatFree ds

/-- Whether no floating-point number is in the fields of an object. -/
def fieldsAreFloatFree : List (String × Document) → Bool
  | [] => true
  | (_, d) :: fields => d.isFloatFree && fieldsAreFloatFree fields

end

mutual

/-- The diagnostic text is the text of the node. -/
theorem toList_diagnostic : ∀ d : Document, d.diagnostic.toList = d.node.text
  | null => rfl
  | bool _ => Node.toList_tagged "Bool" rfl
  | int _ => Node.toList_tagged "Number" rfl
  | float _ => Node.toList_tagged "Number" rfl
  | str _ => Node.toList_tagged "String" rfl
  | arr items => by
      simp [diagnostic, Diagnostic.listed, node, Node.text, toList_diagnostics items,
        Node.intercalate_eq_separated, Bracket.opening, Bracket.closing]
  | obj fields => by
      simp [diagnostic, node, Node.text, toList_diagnosticFields fields,
        Node.intercalate_eq_separated, Bracket.opening, Bracket.closing]

theorem toList_diagnostics :
    ∀ ds : List Document, (diagnostics ds).map String.toList = Node.texts (nodes ds)
  | [] => rfl
  | d :: ds => by
      rw [diagnostics, nodes, Node.texts, List.map_cons, toList_diagnostic d, toList_diagnostics ds]

theorem toList_diagnosticFields :
    ∀ fields : List (String × Document),
      (diagnosticFields fields).map String.toList = Node.texts (fieldNodes fields)
  | [] => rfl
  | (key, d) :: fields => by
      simp [diagnosticFields, fieldNodes, Node.texts, Node.text, toList_diagnostic d,
        toList_diagnosticFields fields]

end

mutual

theorem hasWords_node : ∀ d : Document, d.node.HasWords
  | null => ⟨by decide, by decide⟩
  | bool b => Node.hasWords_tagged (by decide) (hasWords_bool b)
  | int n => Node.hasWords_tagged (by decide) (hasWords_int n)
  | float x => Node.hasWords_tagged (by decide) (hasWords_text .document x.value)
  | str s => Node.hasWords_tagged (by decide) (hasWords_quoted s)
  | arr items => ⟨by decide, allHaveWords_nodes items⟩
  | obj fields => ⟨by decide, allHaveWords_fieldNodes fields⟩

theorem allHaveWords_nodes : ∀ ds : List Document, Node.AllHaveWords (nodes ds)
  | [] => trivial
  | d :: ds => ⟨hasWords_node d, allHaveWords_nodes ds⟩

theorem allHaveWords_fieldNodes :
    ∀ fields : List (String × Document), Node.AllHaveWords (fieldNodes fields)
  | [] => trivial
  | (_, d) :: fields => ⟨hasWords_node d, allHaveWords_fieldNodes fields⟩

end

mutual

/-- The node tells the document: documents of two kinds begin with two names, except integers and
floating-point numbers. -/
theorem eq_of_node_eq :
    ∀ {d e : Document}, d.isFloatFree = true → e.isFloatFree = true → d.node = e.node → d = e
  | null, e, _, _, h => by
      cases e with
      | null =>
          rfl
      | _ =>
          simp [node, Node.tagged] at h
  | bool b, e, _, _, h => by
      cases e with
      | bool b' =>
          exact congrArg bool (word_bool_injective (Node.tagged_injective _ h))
      | _ =>
          simp [node, Node.tagged] at h
  | int n, e, _, he, h => by
      cases e with
      | int n' =>
          exact congrArg int (word_int_injective (Node.tagged_injective _ h))
      | float x =>
          cases he
      | _ =>
          simp [node, Node.tagged] at h
  | float x, _, hd, _, _ => by
      cases hd
  | str s, e, _, _, h => by
      cases e with
      | str t =>
          exact congrArg str (quoted_injective (Node.tagged_injective _ h))
      | _ =>
          simp [node, Node.tagged] at h
  | arr items, e, hd, he, h => by
      cases e with
      | arr items' =>
          obtain ⟨-, -, hitems⟩ := Node.bracketed.inj h
          exact congrArg arr (eq_of_nodes_eq hd he hitems)
      | _ =>
          simp [node, Node.tagged] at h
  | obj fields, e, hd, he, h => by
      cases e with
      | obj fields' =>
          obtain ⟨-, -, hfields⟩ := Node.bracketed.inj h
          exact congrArg obj (eq_of_fieldNodes_eq hd he hfields)
      | _ =>
          simp [node, Node.tagged] at h

theorem eq_of_nodes_eq :
    ∀ {ds es : List Document},
      areFloatFree ds = true → areFloatFree es = true → nodes ds = nodes es → ds = es
  | [], es, _, _, h => by
      cases es with
      | nil =>
          rfl
      | cons e es =>
          cases h
  | d :: ds, es, hds, hes, h => by
      cases es with
      | nil =>
          cases h
      | cons e es =>
          obtain ⟨hd, hds⟩ := Bool.and_eq_true_iff.1 hds
          obtain ⟨he, hes⟩ := Bool.and_eq_true_iff.1 hes
          obtain ⟨hnode, hnodes⟩ := List.cons.inj h
          rw [eq_of_node_eq hd he hnode, eq_of_nodes_eq hds hes hnodes]

theorem eq_of_fieldNodes_eq :
    ∀ {fields fields' : List (String × Document)},
      fieldsAreFloatFree fields = true → fieldsAreFloatFree fields' = true →
        fieldNodes fields = fieldNodes fields' → fields = fields'
  | [], fields', _, _, h => by
      cases fields' with
      | nil =>
          rfl
      | cons field fields' =>
          cases h
  | (key, d) :: fields, fields', hds, hes, h => by
      cases fields' with
      | nil =>
          cases h
      | cons field fields' =>
          obtain ⟨key', e⟩ := field
          obtain ⟨hd, hds⟩ := Bool.and_eq_true_iff.1 hds
          obtain ⟨he, hes⟩ := Bool.and_eq_true_iff.1 hes
          obtain ⟨hnode, hnodes⟩ := List.cons.inj h
          obtain ⟨hkey, hvalue⟩ := Node.entry.inj hnode
          rw [hkey, eq_of_node_eq hd he hvalue, eq_of_fieldNodes_eq hds hes hnodes]

end

end Document

/-! ### Arguments -/

namespace Argument

mutual

/-- What the diagnostic text is put together from. -/
def node : Argument → Node
  | null => .word "Null"
  | bool b => .tagged "Bool" (.word (toString b))
  | int n => .tagged "Int" (.word (toString n.toInt))
  | float x => .tagged "Float" (.word (x.text .diagnostic))
  | text s => .tagged "Text" (.quoted s)
  | display s => .tagged "Display" (.quoted s)
  | texts items => .tagged "Texts" (.listed (items.map .quoted))
  | ints32 items => .tagged "I32s" (.listed (items.map fun n => .word (toString n.toInt)))
  | ints64 items => .tagged "I64s" (.listed (items.map fun n => .word (toString n.toInt)))
  | floats32 items => .tagged "F32s" (.listed (items.map fun x => .word (x.text .diagnostic)))
  | floats64 items => .tagged "F64s" (.listed (items.map fun x => .word (x.text .diagnostic)))
  | list items => .tagged "List" (.listed (nodes items))
  | json d => .tagged "Json" d.node

/-- The nodes of the elements of a list. -/
def nodes : List Argument → List Node
  | [] => []
  | a :: as => a.node :: nodes as

end

mutual

/-- Whether no floating-point number and no sequence of them is in the argument, at whatever
depth. -/
def isFloatFree : Argument → Bool
  | float _ | floats32 _ | floats64 _ => false
  | null | bool _ | int _ | text _ | display _ | texts _ | ints32 _ | ints64 _ => true
  | list items => areFloatFree items
  | json d => d.isFloatFree

/-- Whether no floating-point number is in the elements of a list. -/
def areFloatFree : List Argument → Bool
  | [] => true
  | a :: as => a.isFloatFree && areFloatFree as

end

mutual

/-- The diagnostic text is the text of the node. -/
theorem toList_diagnostic : ∀ a : Argument, a.diagnostic.toList = a.node.text
  | null => rfl
  | bool _ => Node.toList_tagged "Bool" rfl
  | int _ => Node.toList_tagged "Int" rfl
  | float _ => Node.toList_tagged "Float" rfl
  | text _ => Node.toList_tagged "Text" rfl
  | display _ => Node.toList_tagged "Display" rfl
  | texts items => Node.toList_tagged "Texts" (Node.toList_listed_map (fun _ => rfl) items)
  | ints32 items => Node.toList_tagged "I32s" (Node.toList_listed_map (fun _ => rfl) items)
  | ints64 items => Node.toList_tagged "I64s" (Node.toList_listed_map (fun _ => rfl) items)
  | floats32 items => Node.toList_tagged "F32s" (Node.toList_listed_map (fun _ => rfl) items)
  | floats64 items => Node.toList_tagged "F64s" (Node.toList_listed_map (fun _ => rfl) items)
  | list items => Node.toList_tagged "List" (Node.toList_listed (toList_diagnostics items))
  | json d => Node.toList_tagged "Json" d.toList_diagnostic

theorem toList_diagnostics :
    ∀ as : List Argument, (diagnostics as).map String.toList = Node.texts (nodes as)
  | [] => rfl
  | a :: as => by
      rw [diagnostics, nodes, Node.texts, List.map_cons, toList_diagnostic a, toList_diagnostics as]

end

mutual

theorem hasWords_node : ∀ a : Argument, a.node.HasWords
  | null => ⟨by decide, by decide⟩
  | bool b => Node.hasWords_tagged (by decide) (hasWords_bool b)
  | int n => Node.hasWords_tagged (by decide) (hasWords_int n.toInt)
  | float x => Node.hasWords_tagged (by decide) (hasWords_text .diagnostic x)
  | text s | display s => Node.hasWords_tagged (by decide) (hasWords_quoted s)
  | texts items =>
    Node.hasWords_tagged (by decide) (Node.hasWords_listed_map hasWords_quoted items)
  | ints32 items | ints64 items =>
    Node.hasWords_tagged (by decide)
      (Node.hasWords_listed_map (fun n => hasWords_int n.toInt) items)
  | floats32 items | floats64 items =>
    Node.hasWords_tagged (by decide)
      (Node.hasWords_listed_map (fun x => hasWords_text .diagnostic x) items)
  | list items => Node.hasWords_tagged (by decide) (Node.hasWords_listed (allHaveWords_nodes items))
  | json d => Node.hasWords_tagged (by decide) d.hasWords_node

theorem allHaveWords_nodes : ∀ as : List Argument, Node.AllHaveWords (nodes as)
  | [] => trivial
  | a :: as => ⟨hasWords_node a, allHaveWords_nodes as⟩

end

mutual

/-- The node tells the argument: arguments of two kinds begin with two names. -/
theorem eq_of_node_eq :
    ∀ {a b : Argument}, a.isFloatFree = true → b.isFloatFree = true → a.node = b.node → a = b
  | null, b, _, _, h => by
      cases b with
      | null =>
          rfl
      | _ =>
          simp [node, Node.tagged] at h
  | bool value, b, _, _, h => by
      cases b with
      | bool value' =>
          exact congrArg bool (word_bool_injective (Node.tagged_injective _ h))
      | _ =>
          simp [node, Node.tagged] at h
  | int n, b, _, _, h => by
      cases b with
      | int n' =>
          exact congrArg int (word_int64_injective (Node.tagged_injective _ h))
      | _ =>
          simp [node, Node.tagged] at h
  | float _, _, ha, _, _ | floats32 _, _, ha, _, _ | floats64 _, _, ha, _, _ => by
      cases ha
  | text s, b, _, _, h => by
      cases b with
      | text t =>
          exact congrArg text (quoted_injective (Node.tagged_injective _ h))
      | _ =>
          simp [node, Node.tagged] at h
  | display s, b, _, _, h => by
      cases b with
      | display t =>
          exact congrArg display (quoted_injective (Node.tagged_injective _ h))
      | _ =>
          simp [node, Node.tagged] at h
  | texts items, b, _, _, h => by
      cases b with
      | texts items' =>
          have hnodes := Node.listed_injective (Node.tagged_injective _ h)
          exact congrArg texts (quoted_injective.list_map hnodes)
      | _ =>
          simp [node, Node.tagged] at h
  | ints32 items, b, _, _, h => by
      cases b with
      | ints32 items' =>
          have hnodes := Node.listed_injective (Node.tagged_injective _ h)
          exact congrArg ints32 (word_int32_injective.list_map hnodes)
      | _ =>
          simp [node, Node.tagged] at h
  | ints64 items, b, _, _, h => by
      cases b with
      | ints64 items' =>
          have hnodes := Node.listed_injective (Node.tagged_injective _ h)
          exact congrArg ints64 (word_int64_injective.list_map hnodes)
      | _ =>
          simp [node, Node.tagged] at h
  | list items, b, ha, hb, h => by
      cases b with
      | list items' =>
          have hnodes := Node.listed_injective (Node.tagged_injective _ h)
          exact congrArg list (eq_of_nodes_eq ha hb hnodes)
      | _ =>
          simp [node, Node.tagged] at h
  | json d, b, ha, hb, h => by
      cases b with
      | json e =>
          exact congrArg json (Document.eq_of_node_eq ha hb (Node.tagged_injective _ h))
      | _ =>
          simp [node, Node.tagged] at h

theorem eq_of_nodes_eq :
    ∀ {as bs : List Argument},
      areFloatFree as = true → areFloatFree bs = true → nodes as = nodes bs → as = bs
  | [], bs, _, _, h => by
      cases bs with
      | nil =>
          rfl
      | cons b bs =>
          cases h
  | a :: as, bs, has, hbs, h => by
      cases bs with
      | nil =>
          cases h
      | cons b bs =>
          obtain ⟨ha, has⟩ := Bool.and_eq_true_iff.1 has
          obtain ⟨hb, hbs⟩ := Bool.and_eq_true_iff.1 hbs
          obtain ⟨hnode, hnodes⟩ := List.cons.inj h
          rw [eq_of_node_eq ha hb hnode, eq_of_nodes_eq has hbs hnodes]

end

/-- The diagnostic text tells the node, whatever is in the argument. -/
theorem node_eq_of_diagnostic_eq
    {a b : Argument}
    (h : a.diagnostic = b.diagnostic) :
    a.node = b.node := by
  refine Node.eq_of_text_eq a.hasWords_node b.hasWords_node ?_
  rw [← toList_diagnostic, ← toList_diagnostic, h]

/-- The text of an argument in a failure tells the argument, at whatever depth it nests, if no
floating-point number is in it. -/
theorem diagnostic_identifies_argument
    {a b : Argument}
    (ha : a.isFloatFree = true)
    (hb : b.isFloatFree = true) :
    (a.diagnostic = b.diagnostic ↔ a = b) ∧
      ∀ {field field' operator operator' : String} {failure failure' : UnsupportedArgument},
        (⟨field, operator, a⟩ : Condition).sql = .error failure →
        (⟨field', operator', b⟩ : Condition).sql = .error failure' →
        (failure.argument = failure'.argument ↔ a = b) := by
  have hdiagnostic : a.diagnostic = b.diagnostic ↔ a = b :=
    ⟨fun h => eq_of_node_eq ha hb (node_eq_of_diagnostic_eq h), fun h => h ▸ rfl⟩
  refine ⟨hdiagnostic, fun hfailure hfailure' => ?_⟩
  rw [Condition.eq_unsupported_of_sql_eq_error hfailure,
    Condition.eq_unsupported_of_sql_eq_error hfailure']
  exact hdiagnostic

/-- A string that looks like the end of one string and the beginning of the next. -/
theorem diagnostic_identifies_argument_quotes :
    let one : Argument := .list [.text "a\"), Text(\"b", .json (.obj [])]
    let two : Argument := .list [.text "a", .text "b", .json (.obj [])]
    one.isFloatFree = true ∧ two.isFloatFree = true ∧
    ∃ failure failure',
      (Condition.oneOf "id" one).sql = .error failure ∧
      (Condition.noneOf "id" two).sql = .error failure' ∧
      failure'.argument = "List([Text(\"a\"), Text(\"b\"), Json(Object \x7b\x7d)])" ∧
      failure.argument ≠ failure'.argument := by
  intro one two
  have hone : (Condition.oneOf "id" one).sql = .error (Condition.oneOf "id" one).unsupported := rfl
  have htwo : (Condition.noneOf "id" two).sql = .error (Condition.noneOf "id" two).unsupported :=
    rfl
  have hne : one ≠ two := by
    simp [one, two]
  refine ⟨rfl, rfl, _, _, hone, htwo, by decide +kernel, fun h => hne ?_⟩
  exact ((diagnostic_identifies_argument rfl rfl).2 hone htwo).1 h

end Argument

end SqlStatement
