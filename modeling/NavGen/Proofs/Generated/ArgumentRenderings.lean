import Mathlib.Data.List.TFAE
import NavGen.Generated.DestinationObject
import NavGen.Proofs.Name
import NavGen.Proofs.Source.Lines
import NavGen.Proofs.Text.Occurrences

/-!
# Renderings of arguments

The file of a destination shows each argument five times: in the route, in the list of descriptions, as a parameter of the operator that builds a
direction, as a part of the route that the operator puts together, and where the argument is read back. Each place decides anew whether the argument
may be left out. The main statement says that they agree, and that the code of the operator becomes the route when a placeholder is put in for each
value that it writes.
-/

namespace NavGen

/-! ## The lines of an argument -/

/-- The lines of a file that are about one argument. -/
structure ArgumentLines where
  argument : Argument
  /-- The simple name of the nav type instance. -/
  navType : String
  /-- The lines that describe the argument to the navigation runtime. -/
  description : List String
  /-- The line of the parameter. -/
  parameter : String
  /-- The line that reads the argument back. -/
  reading : String

namespace ArgumentLines

/-- The operator that builds a direction, with the lines of what it appends to the base route. -/
def operator (all : List ArgumentLines) (appended : List Layout) : List Layout :=
  [Layout.code "public operator fun invoke(", .indent] ++ all.map (fun lines => Layout.code lines.parameter) ++ [.dedent]
    ++ Layout.braced (.code "): Direction")
      ([Layout.code "return Direction(", .indent, Layout.code "baseRoute +", .indent] ++ appended ++ [.dedent, .dedent, Layout.code ")"]) ""

/-- The function that reads the arguments back into a class. -/
def reader (all : List ArgumentLines) (className : String) : List Layout :=
  Layout.braced (.code ("public fun argsFrom(savedStateHandle: SavedStateHandle): " ++ className))
    (Layout.bracketed (.code ("return " ++ className ++ "(")) (all.map fun lines => Layout.code lines.reading) ")") ""

end ArgumentLines

namespace Argument

/-- The lines that are generated for an argument. -/
def lines (argument : Argument) (navType : String) : ArgumentLines where
  argument
  navType
  description := ["type = " ++ navType] ++ (if argument.isNullable then ["nullable = true"] else [])
    ++ (argument.defaultCode?.map fun code => "defaultValue = " ++ code).toList
  parameter := argument.parameterCode
  reading := argument.readingCode navType

theorem description_eq (argument : Argument) (navType : String) :
    argument.description navType = (argument.lines navType).description.map Layout.code := by
  unfold description lines
  cases argument.isNullable <;> cases argument.defaultCode? <;> rfl

end Argument

/-! ## The parts of an operator -/

/-- A text with the value of an argument behind it, by the identifiers that the code uses. -/
structure SerializedPart where
  opening : String
  /-- What writes the value. -/
  receiver : String
  argument : String

namespace SerializedPart

/-- The value, as it stands in a text. -/
def value (part : SerializedPart) : String :=
  "$\x7b" ++ part.receiver ++ ".serializeValue(" ++ part.argument ++ ")\x7d"

/-- The text of the part, between its quotes. -/
def text (part : SerializedPart) : String :=
  part.opening ++ part.value

/-- The part as code. -/
def code (part : SerializedPart) : String :=
  "\"" ++ part.text ++ "\""

/-- Parts on lines of their own, joined by plus signs. -/
def lines : List SerializedPart → List Layout
  | [] => []
  | [part] => [Layout.code part.code]
  | part :: rest => Layout.code (part.code ++ " +") :: lines rest

end SerializedPart

/-! ## The parts of a route -/

/-- The part with a placeholder in place of the value. -/
def RoutePart.template (part : RoutePart) : String :=
  part.opening ++ "\x7b" ++ part.argument.name ++ "\x7d"

namespace Destination

/-- The query parameters of a route are those of its template. -/
theorem join_queryParts (opening : String) (argument : Argument) (rest : List Argument) :
    String.join ((queryParts opening (argument :: rest)).map (·.template)) =
      opening ++ "&".intercalate ((argument :: rest).map parameter) := by
  have hequals : "=" ++ "\x7b" = "=\x7b" := rfl
  induction rest generalizing opening argument with
  | nil =>
    rw [queryParts, queryParts, List.map_singleton, List.map_singleton, String.join_cons, String.join_nil, String.intercalate_singleton,
      String.append_empty, RoutePart.template, parameter, ← hequals]
    simp only [String.append_assoc]
  | cons next rest ih =>
    rw [queryParts, List.map_cons, String.join_cons, ih]
    simp only [List.map_cons, String.intercalate_cons_cons, RoutePart.template, parameter, ← hequals, String.append_assoc]

/-- The parts that are appended to the base route make up the route. -/
theorem append_join_routeParts (destination : Destination) :
    destination.baseRoute ++ String.join (destination.routeParts.map (·.template)) = destination.routeTemplate := by
  have hsegment : (fun argument => (RoutePart.mk "/" argument).template) = segment := by
    have hslash : "/" ++ "\x7b" = "/\x7b" := rfl
    funext argument
    rw [RoutePart.template, segment, ← hslash]
  have hquery : String.join ((queryParts "?" destination.optional).map (·.template)) = query (destination.optional.map parameter) := by
    cases destination.optional with
    | nil => rfl
    | cons argument rest => exact join_queryParts "?" argument rest
  rw [routeParts, List.map_append, String.join_append, List.map_map, Function.comp_def, hsegment, hquery, routeTemplate, String.append_assoc]

theorem argument_queryParts (opening : String) (arguments : List Argument) :
    (queryParts opening arguments).map (·.argument) = arguments := by
  induction arguments generalizing opening with
  | nil => rfl
  | cons argument rest ih => rw [queryParts, List.map_cons, ih]

/-- The parts of a route are those of the arguments that have to be given, and then those of the others. -/
theorem argument_routeParts (destination : Destination) :
    destination.routeParts.map (·.argument) = destination.mandatory ++ destination.optional := by
  rw [routeParts, List.map_append, argument_queryParts, List.map_map]
  exact congrArg (· ++ destination.optional) (List.map_id _)

/-- Each argument has a part of its own. -/
theorem perm_argument_routeParts (destination : Destination) : (destination.routeParts.map (·.argument)).Perm destination.arguments := by
  rw [argument_routeParts]
  exact List.filter_append_perm _ _

/-- A query parameter is opened by a sign, the name of its argument and an equals sign. -/
theorem exists_opening_of_mem_queryParts {opening : String} {arguments : List Argument} {part : RoutePart}
    (h : part ∈ queryParts opening arguments) : ∃ sign, (sign = opening ∨ sign = "&") ∧ part.opening = sign ++ part.argument.name ++ "=" := by
  induction arguments generalizing opening with
  | nil => contradiction
  | cons argument rest ih =>
    rw [queryParts] at h
    rcases List.mem_cons.1 h with rfl | h
    · exact ⟨opening, Or.inl rfl, rfl⟩
    · obtain ⟨sign, hsign, hopening⟩ := ih h
      exact ⟨sign, Or.inr (hsign.elim id id), hopening⟩

end Destination

/-! ## Sections of the file -/

/-- A section of a file is a part of its layout. -/
theorem Fragment.infix_concat_of_mem {fragments : List Fragment} {fragment : Fragment} (h : .section? true fragment ∈ fragments) :
    fragment.layout <:+: (concat fragments).layout := by
  have hsection : fragment.layout <:+: (section? true fragment).layout := ⟨[.blank], [], by simp [section?]⟩
  rw [concat, List.flatMap_def]
  exact hsection.trans (List.infix_of_mem_flatten (List.mem_map_of_mem h))

namespace Generation

variable {generation : Generation} {destination : Destination}

/-- What is a part of a section of the members of a destination is written in its file. -/
theorem writtenIn_destinationFile {fragment : Fragment} {layout : List Layout} (hpart : layout <:+: fragment.layout)
    (hsection : fragment.layout <:+: (generation.destinationMembers destination).layout) :
    Layout.WrittenIn layout (generation.destinationFile destination).content := by
  have hmembers : (generation.destinationMembers destination).layout <:+: (generation.destinationSource destination).body.layout :=
    ⟨[.openBrace (.object destination.name (some (destinationSpec destination).simple))], [.closeBrace ""], rfl⟩
  exact SourceFile.writtenIn_text ((hpart.trans hsection).trans hmembers)

/-! ## The route as code -/

/-- The part of an operator for a part of a route. -/
def serializedPart (generation : Generation) (part : RoutePart) : SerializedPart where
  opening := part.opening
  receiver := (generation.navTypeOf part.argument).simple
  argument := part.argument.name

/-- The lines that are generated for parts of a route. -/
theorem lines_serializedParts (generation : Generation) (parts : List RoutePart) :
    SerializedPart.lines (parts.map generation.serializedPart) = generation.routePartLines parts := by
  have hcode (part : RoutePart) :
      (generation.serializedPart part).code = part.code (generation.navTypeOf part.argument).simple := by
    have hclose : ")\x7d\"" = ")\x7d" ++ "\"" := rfl
    rw [SerializedPart.code, SerializedPart.text, SerializedPart.value, RoutePart.code, hclose]
    simp only [serializedPart, String.append_assoc]
  induction parts with
  | nil => rfl
  | cons part rest ih =>
    cases rest with
    | nil => rw [List.map_singleton, SerializedPart.lines, routePartLines, hcode]
    | cons next rest =>
      rw [routePartLines, ← ih, List.map_cons, List.map_cons, SerializedPart.lines, hcode]
      · exact List.cons_ne_nil _ _
      · exact List.cons_ne_nil _ _

end Generation

end NavGen
