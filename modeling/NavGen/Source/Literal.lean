/-!
# Text literals

Text stands in generated source as a literal between double quotes. Quotes, backslashes, dollar signs, which would open a template, line
feeds and tabs are escaped by a backslash.
-/

namespace NavGen.Literal

/-- A character inside a literal. -/
def escape : Char → List Char
  | '"' => ['\\', '"']
  | '\\' => ['\\', '\\']
  | '$' => ['\\', '$']
  | '\n' => ['\\', 'n']
  | '\t' => ['\\', 't']
  | c => [c]

/-- The literal of a text. -/
def quote (s : String) : String :=
  String.ofList ('"' :: s.toList.flatMap escape ++ ['"'])

/-- The literal of a text, or the word for none. -/
def quoteOrNull : Option String → String
  | some s => quote s
  | none => "null"

/-- The word for a truth value. -/
def ofBool (value : Bool) : String :=
  if value then "true" else "false"

end NavGen.Literal
