import SqlStatement.Text.CharacterClass

/-!
# Diagnostic text

The notation in which values appear in error messages and log records.  Strings stand between
double quotes with everything escaped that would not be seen or would end the string early, so the
text of a value never runs into the text around it.

* `Diagnostic.quoted` writes a string.
* `Diagnostic.listed` writes a sequence between square brackets.
* `Diagnostic.tagged` writes a value behind the name of its kind.
-/

namespace SqlStatement.Diagnostic

/-- A character named by its code point: `\u`, then the code point in hexadecimal in braces. -/
def codePointEscape (c : Char) : List Char :=
  ['\\', 'u', '\x7b'] ++ Nat.toDigits 16 c.toNat ++ ['\x7d']

/-- The text of one character inside quotes. -/
def escape (c : Char) : List Char :=
  if c = '\x00' then ['\\', '0']
  else if c = '\t' then ['\\', 't']
  else if c = '\n' then ['\\', 'n']
  else if c = '\r' then ['\\', 'r']
  else if c = '\"' then ['\\', '\"']
  else if c = '\\' then ['\\', '\\']
  else if isExtending c || isUnprintable c then codePointEscape c
  else [c]

/-- A string between double quotes. -/
def quoted (s : String) : String :=
  "\"" ++ String.ofList (s.toList.flatMap escape) ++ "\""

/-- A sequence between square brackets. -/
def listed (items : List String) : String :=
  "[" ++ ", ".intercalate items ++ "]"

/-- A value in parentheses behind the name of its kind. -/
def tagged (kind : String) (value : String) : String :=
  kind ++ "(" ++ value ++ ")"

end SqlStatement.Diagnostic
