/-!
# Layout of generated source

The body of a generated file is a list of layout steps: lines, and changes of the depth to which lines are indented. Lines that declare
something tell what they declare, so that the names a file declares can be read off its layout.
-/

namespace NavGen

/-- A line of code. -/
inductive Line where
  | code (text : String)
  /-- The declaration of a public property, with what follows the equals sign on its line. -/
  | property (name type value : String)
  /-- The declaration of a public object and what it implements. -/
  | object (name : String) (implements? : Option String)
  /-- The first line of the declaration of an annotation class. -/
  | annotationClass (name : String)
  deriving DecidableEq

/-- The text of a line. -/
def Line.text : Line → String
  | .code text => text
  | .property name type value => "public val " ++ name ++ ": " ++ type ++ " = " ++ value
  | .object name none => "public object " ++ name
  | .object name (some implements) => "public object " ++ name ++ " : " ++ implements
  | .annotationClass name => "public annotation class " ++ name ++ "("

/-- The property that a line declares, if it declares one. -/
def Line.property? : Line → Option String
  | .property name _ _ => some name
  | _ => none

/-- The object that a line declares, if it declares one. -/
def Line.object? : Line → Option String
  | .object name _ => some name
  | _ => none

/-- A step in laying out a file. -/
inductive Layout where
  /-- A line at the current depth. -/
  | line (content : Line)
  /-- An empty line. -/
  | blank
  /-- A line that ends in an opening brace, after which the depth is one more. -/
  | openBrace (header : Line)
  /-- A closing brace at a depth that is one less, with what follows it on its line. -/
  | closeBrace (ending : String)
  /-- One more level of depth. -/
  | indent
  /-- One level of depth less. -/
  | dedent
  deriving DecidableEq

namespace Layout

/-- A line of plain code. -/
def code (text : String) : Layout :=
  .line (.code text)

/-- The line that a step declares something on, if it has one. -/
def line? : Layout → Option Line
  | .line content | .openBrace content => some content
  | _ => none

/-- The depth after a step. There is none below zero. -/
def depthAfter (depth : Nat) : Layout → Nat
  | .line _ | .blank => depth
  | .openBrace _ | .indent => depth + 1
  | .closeBrace _ | .dedent => depth - 1

/-- A line of text indented to a depth. -/
def indented (depth : Nat) (text : String) : String :=
  if text.isEmpty then "\n" else String.join (List.replicate depth "    ") ++ text ++ "\n"

/-- What a step writes at a depth. -/
def text (depth : Nat) : Layout → String
  | .line content => indented depth content.text
  | .blank => "\n"
  | .openBrace header => indented depth (header.text ++ " \x7b")
  | .closeBrace ending => indented (depth - 1) ("\x7d" ++ ending)
  | .indent | .dedent => ""

/-- The text of a list of steps that starts at a depth. -/
def render (depth : Nat) : List Layout → List String
  | [] => []
  | step :: rest => step.text depth :: render (step.depthAfter depth) rest

/-- Lines between a line that opens a bracket and the line that closes it, one level deeper. -/
def bracketed (first : Line) (inside : List Layout) (last : String) : List Layout :=
  [.line first, .indent] ++ inside ++ [.dedent, code last]

/-- Lines between a header and its closing brace, one level deeper. -/
def braced (header : Line) (inside : List Layout) (ending : String) : List Layout :=
  [.openBrace header] ++ inside ++ [.closeBrace ending]

end Layout

end NavGen
