import SqlStatement.Document

/-!
# Predicate arguments

The right-hand side of a comparison.  An argument is written into the statement as text and is not
escaped.

* `Argument.plainText` is the text behind every operator that takes one operand.
* `Argument.listText?` is the text between the parentheses of a list operator.  Scalars that are
  neither text nor displayed have none, nor has a sequence that holds a JSON object at some depth.
* `Argument.diagnostic` is the text in error messages.
-/

namespace SqlStatement

/-- An argument of a predicate. -/
inductive Argument where
  | null
  | bool (value : Bool)
  | int (value : Int64)
  | float (value : Binary64)
  /-- Text that is written as it is. -/
  | text (value : String)
  /-- A value known only through its textual form. -/
  | display (form : String)
  | texts (items : List String)
  | ints32 (items : List Int32)
  | ints64 (items : List Int64)
  | floats32 (items : List Binary32)
  | floats64 (items : List Binary64)
  | list (items : List Argument)
  | json (document : Document)
deriving Inhabited

namespace Argument

/-- The argument of a single-precision number, which is kept in double precision. -/
def ofBinary32 (x : Binary32) : Argument :=
  .float x.widen

/-- The argument of an optional value, which is null when there is none. -/
def ofOption : Option Argument → Argument
  | none => .null
  | some argument => argument

/-- Whether this is the null argument. -/
def isNull : Argument → Bool
  | null => true
  | _ => false

/-- Texts between commas. -/
def joined (texts : List String) : String :=
  ",".intercalate texts

mutual

/-- The text as part of a list; an argument has none exactly when it holds a JSON object. -/
def elementText? : Argument → Option String
  | null => some ""
  | bool b => some (toString b)
  | int n => some (toString n.toInt)
  | float x => some (x.text .statement)
  | text s => some s
  | display s => some s
  | texts items => some (joined items)
  | ints32 items => some (joined (items.map fun n => toString n.toInt))
  | ints64 items => some (joined (items.map fun n => toString n.toInt))
  | floats32 items => some (joined (items.map fun x => x.text .statement))
  | floats64 items => some (joined (items.map fun x => x.text .statement))
  | list items => (elementTexts? items).map joined
  | json d => d.elementText?

/-- The list texts of the elements of a list, if each has one. -/
def elementTexts? : List Argument → Option (List String)
  | [] => some []
  | a :: as => do
    let text ← a.elementText?
    let texts ← elementTexts? as
    return text :: texts

end

/-- Whether an argument of this kind can stand behind a list operator at all. -/
def isListLike : Argument → Bool
  | null | bool _ | int _ | float _ => false
  | json (.str _) | json (.arr _) => true
  | json _ => false
  | text _ | display _ | texts _ | ints32 _ | ints64 _ | floats32 _ | floats64 _ | list _ => true

/-- The text between the parentheses of a list operator. -/
def listText? (a : Argument) : Option String :=
  if a.isListLike then a.elementText? else none

/-- The text behind an operator that takes one operand; empty for a list without list text. -/
def plainText : Argument → String
  | json d => d.plainText
  | a => a.elementText?.getD ""

mutual

/-- The text in error messages. -/
def diagnostic : Argument → String
  | null => "Null"
  | bool b => Diagnostic.tagged "Bool" (toString b)
  | int n => Diagnostic.tagged "Int" (toString n.toInt)
  | float x => Diagnostic.tagged "Float" (x.text .diagnostic)
  | text s => Diagnostic.tagged "Text" (Diagnostic.quoted s)
  | display s => Diagnostic.tagged "Display" (Diagnostic.quoted s)
  | texts items => Diagnostic.tagged "Texts" (Diagnostic.listed (items.map Diagnostic.quoted))
  | ints32 items =>
    Diagnostic.tagged "I32s" (Diagnostic.listed (items.map fun n => toString n.toInt))
  | ints64 items =>
    Diagnostic.tagged "I64s" (Diagnostic.listed (items.map fun n => toString n.toInt))
  | floats32 items =>
    Diagnostic.tagged "F32s" (Diagnostic.listed (items.map fun x => x.text .diagnostic))
  | floats64 items =>
    Diagnostic.tagged "F64s" (Diagnostic.listed (items.map fun x => x.text .diagnostic))
  | list items => Diagnostic.tagged "List" (Diagnostic.listed (diagnostics items))
  | json d => Diagnostic.tagged "Json" d.diagnostic

/-- The diagnostic texts of the elements of a list. -/
def diagnostics : List Argument → List String
  | [] => []
  | a :: as => a.diagnostic :: diagnostics as

end

/-- The list texts of a list exist together or not at all. -/
theorem elementTexts?_eq_mapM (as : List Argument) :
    elementTexts? as = as.mapM elementText? := by
  induction as with
  | nil => rfl
  | cons a as ih => simp [elementTexts?, ih]

theorem listText?_eq_some_iff (a : Argument) (text : String) :
    a.listText? = some text ↔ a.isListLike = true ∧ a.elementText? = some text := by
  unfold listText?
  split <;> simp_all

end Argument

end SqlStatement
