import SqlStatement.Number.Layout
import SqlStatement.Text.Diagnostic

/-!
# JSON documents

A structured value that a predicate can carry.  No document holds a float that has no JSON text.

* `Document.ofFields` builds an object with its fields in ascending order of their keys; of two
  fields with one key the later wins.
* `Document.compactText` is the JSON text without blanks.
* `Document.plainText` is the text as a comparison operand: nothing for null, strings as they are,
  arrays as their elements between commas.
* `Document.elementText?` is the text as part of a parenthesized list, where objects have none.
* `Document.diagnostic` is the text in error messages.
-/

namespace SqlStatement

/-- A JSON document. -/
inductive Document where
  | null
  | bool (value : Bool)
  | int (value : Int)
  | float (value : FiniteBinary64)
  | str (value : String)
  | arr (items : List Document)
  | obj (fields : List (String × Document))
deriving Inhabited

namespace Document

/-- Puts a field at its place in ascending order, over a field of the same key. -/
def insertField (key : String) (value : Document) :
    List (String × Document) → List (String × Document)
  | [] => [(key, value)]
  | (k, v) :: fields =>
    if key < k then (key, value) :: (k, v) :: fields
    else if key = k then (key, value) :: fields
    else (k, v) :: insertField key value fields

/-- The object with the given fields. -/
def ofFields (fields : List (String × Document)) : Document :=
  .obj (fields.foldl (fun sorted field => insertField field.1 field.2 sorted) [])

/-- The document of a floating-point number, which is null unless the number is finite. -/
def ofFloat (x : Binary64) : Document :=
  match x.toFinite? with
  | some finite => .float finite
  | none => .null

/-- The text of one character inside a JSON string. -/
def escapeChar (c : Char) : List Char :=
  if c = '\"' then ['\\', '\"']
  else if c = '\\' then ['\\', '\\']
  else if c = '\x08' then ['\\', 'b']
  else if c = '\x0c' then ['\\', 'f']
  else if c = '\n' then ['\\', 'n']
  else if c = '\r' then ['\\', 'r']
  else if c = '\t' then ['\\', 't']
  else if c.toNat < 16 then ['\\', 'u', '0', '0', '0'] ++ Nat.toDigits 16 c.toNat
  else if c.toNat < 32 then ['\\', 'u', '0', '0'] ++ Nat.toDigits 16 c.toNat
  else [c]

/-- A JSON string. -/
def stringText (s : String) : String :=
  "\"" ++ String.ofList (s.toList.flatMap escapeChar) ++ "\""

/-- The JSON text of a number that is not an integer. -/
def floatText (x : FiniteBinary64) : String :=
  x.value.text .document

mutual

/-- The JSON text without blanks. -/
def compactText : Document → String
  | null => "null"
  | bool b => toString b
  | int n => toString n
  | float x => floatText x
  | str s => stringText s
  | arr items => "[" ++ ",".intercalate (compactTexts items) ++ "]"
  | obj fields => "\x7b" ++ ",".intercalate (compactFields fields) ++ "\x7d"

/-- The JSON texts of the elements of an array. -/
def compactTexts : List Document → List String
  | [] => []
  | d :: ds => d.compactText :: compactTexts ds

/-- The JSON texts of the fields of an object. -/
def compactFields : List (String × Document) → List String
  | [] => []
  | (key, d) :: fields => (stringText key ++ ":" ++ d.compactText) :: compactFields fields

end

mutual

/-- The text as an operand of a comparison. -/
def plainText : Document → String
  | null => ""
  | str s => s
  | arr items => ",".intercalate (plainTexts items)
  | bool b => compactText (.bool b)
  | int n => compactText (.int n)
  | float x => compactText (.float x)
  | obj fields => compactText (.obj fields)

/-- The operand texts of the elements of an array. -/
def plainTexts : List Document → List String
  | [] => []
  | d :: ds => d.plainText :: plainTexts ds

end

mutual

/-- The text as part of a parenthesized list; an object has none, nor has what holds one. -/
def elementText? : Document → Option String
  | obj _ => none
  | arr items => (elementTexts? items).map ",".intercalate
  | null => some (plainText .null)
  | bool b => some (plainText (.bool b))
  | int n => some (plainText (.int n))
  | float x => some (plainText (.float x))
  | str s => some (plainText (.str s))

/-- The list texts of the elements of an array, if each has one. -/
def elementTexts? : List Document → Option (List String)
  | [] => some []
  | d :: ds => do
    let text ← d.elementText?
    let texts ← elementTexts? ds
    return text :: texts

end

mutual

/-- The text in error messages. -/
def diagnostic : Document → String
  | null => "Null"
  | bool b => Diagnostic.tagged "Bool" (toString b)
  | int n => Diagnostic.tagged "Number" (toString n)
  | float x => Diagnostic.tagged "Number" (floatText x)
  | str s => Diagnostic.tagged "String" (Diagnostic.quoted s)
  | arr items => "Array " ++ Diagnostic.listed (diagnostics items)
  | obj fields => "Object \x7b" ++ ", ".intercalate (diagnosticFields fields) ++ "\x7d"

/-- The diagnostic texts of the elements of an array. -/
def diagnostics : List Document → List String
  | [] => []
  | d :: ds => d.diagnostic :: diagnostics ds

/-- The diagnostic texts of the fields of an object. -/
def diagnosticFields : List (String × Document) → List String
  | [] => []
  | (key, d) :: fields =>
    (Diagnostic.quoted key ++ ": " ++ d.diagnostic) :: diagnosticFields fields

end

/-- The elements of an array are written one by one. -/
theorem plainTexts_eq_map (ds : List Document) : plainTexts ds = ds.map plainText := by
  induction ds with
  | nil => rfl
  | cons d ds ih => simp [plainTexts, ih]

/-- The list texts of an array exist together or not at all. -/
theorem elementTexts?_eq_mapM (ds : List Document) :
    elementTexts? ds = ds.mapM elementText? := by
  induction ds with
  | nil => rfl
  | cons d ds ih => simp [elementTexts?, ih]

end Document

end SqlStatement
