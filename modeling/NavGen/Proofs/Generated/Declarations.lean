import NavGen.Generated.Files
import NavGen.Proofs.Source.Lines

/-!
# Declarations of generated files

What the generated files declare, by their layouts and by their texts: the object of a destination, the properties of a value type and the properties
of the graphs.
-/

namespace NavGen

/-- Whether a file declares a public property of its package, at the beginning of a line. -/
structure GeneratedFile.DeclaresProperty (file : GeneratedFile) (property : Name) : Prop where
  package : property.qualified = file.package ++ "." ++ property.simple
  line : HasLine ("public val " ++ property.simple ++ ": ") file.content

/-- Whether a file declares a public object of its package, at the beginning of a line. -/
structure GeneratedFile.DeclaresObject (file : GeneratedFile) (object : Name) : Prop where
  package : object.qualified = file.package ++ "." ++ object.simple
  line : HasLine ("public object " ++ object.simple ++ " ") file.content

/-! ## Lines that declare something -/

namespace Layout

/-- The public properties that a layout declares, in order. -/
def properties (layout : List Layout) : List String :=
  (layout.filterMap (·.line?)).filterMap (·.property?)

theorem properties_append (first second : List Layout) : properties (first ++ second) = properties first ++ properties second := by
  simp only [properties, List.filterMap_append]

theorem properties_flatMap {α : Type} (items : List α) (layout : α → List Layout) :
    properties (items.flatMap layout) = items.flatMap fun item => properties (layout item) := by
  induction items with
  | nil => rfl
  | cons item rest ih => rw [List.flatMap_cons, properties_append, ih, List.flatMap_cons]

/-- Lines of code alone declare nothing. -/
theorem properties_map_code {α : Type} (items : List α) (text : α → String) :
    properties (items.map fun item => Layout.code (text item)) = [] := by
  induction items with
  | nil => rfl
  | cons item rest ih => exact ih

theorem properties_bracketed (first : Line) (inside : List Layout) (last : String) :
    properties (Layout.bracketed first inside last) = first.property?.toList ++ properties inside := by
  rw [Layout.bracketed, properties_append, properties_append]
  cases first <;> simp [properties, Layout.code, line?, Line.property?]

theorem properties_braced (header : Line) (inside : List Layout) (ending : String) :
    properties (Layout.braced header inside ending) = header.property?.toList ++ properties inside := by
  rw [Layout.braced, properties_append, properties_append]
  cases header <;> simp [properties, line?, Line.property?]

/-- A step declares a property by a line that begins with it. -/
theorem content?_of_property? {step : Layout} {line : Line} (hline : step.line? = some line) {name : String}
    (hname : line.property? = some name) : ∃ more, step.content? = some ("public val " ++ name ++ ": " ++ more) := by
  cases line with
  | property property type value =>
    rw [Line.property?, Option.some.injEq] at hname
    subst hname
    cases step with
    | line content =>
      obtain rfl := Option.some.inj hline
      refine ⟨type ++ " = " ++ value, ?_⟩
      unfold content? Line.text
      simp only [String.append_assoc]
    | openBrace header =>
      obtain rfl := Option.some.inj hline
      refine ⟨type ++ " = " ++ value ++ " \x7b", ?_⟩
      unfold content? Line.text
      simp only [String.append_assoc]
    | _ => contradiction
  | _ => contradiction

/-- A property of a layout stands on a line of its text. -/
theorem hasLine_of_mem_properties {before : String} (h : EndsLine before) {layout : List Layout} {name : String}
    (hmem : name ∈ properties layout) (depth : Nat) : HasLine ("public val " ++ name ++ ": ") (before ++ textFrom depth layout) := by
  obtain ⟨line, hline, hname⟩ := List.mem_filterMap.1 hmem
  obtain ⟨step, hstep, hline⟩ := List.mem_filterMap.1 hline
  obtain ⟨more, hcontent⟩ := content?_of_property? hline hname
  exact hasLine_append_textFrom h hstep (by simp) hcontent depth

/-- The first line of the body of an object says what it is called. -/
theorem content?_openBrace_object (name : String) (implements? : Option String) :
    ∃ more, (Layout.openBrace (.object name implements?)).content? = some ("public object " ++ name ++ " " ++ more) := by
  have hbrace : " \x7b" = " " ++ "\x7b" := rfl
  cases implements? with
  | none =>
    refine ⟨"\x7b", ?_⟩
    unfold content? Line.text
    rw [hbrace]
    simp only [String.append_assoc]
  | some implements =>
    have hcolon : " : " = " " ++ ": " := rfl
    refine ⟨": " ++ implements ++ " \x7b", ?_⟩
    unfold content? Line.text
    rw [hcolon]
    simp only [String.append_assoc]

end Layout

namespace SourceFile

/-- The properties of a file stand on lines of its text. -/
theorem hasLine_of_mem_properties {file : SourceFile} {name : String} (h : name ∈ file.properties) :
    HasLine ("public val " ++ name ++ ": ") file.text :=
  Layout.hasLine_of_mem_properties file.endsLine_opening h 0

/-- So do objects with a body. -/
theorem hasLine_of_openBrace_object {file : SourceFile} {name : String} {implements? : Option String}
    (h : .openBrace (.object name implements?) ∈ file.body.layout) : HasLine ("public object " ++ name ++ " ") file.text := by
  obtain ⟨more, hcontent⟩ := Layout.content?_openBrace_object name implements?
  exact hasLine_text h (by simp) hcontent

end SourceFile

namespace Generation

/-! ## Destinations -/

/-- The file of a destination declares its object. -/
theorem declaresObject_destinationFile (generation : Generation) (destination : Destination) :
    (generation.destinationFile destination).DeclaresObject (generation.destinationObject destination) where
  package := rfl
  line := (generation.destinationSource destination).hasLine_of_openBrace_object List.mem_cons_self

/-! ## Value types -/

/-- The file of a value type declares a property for the type, and one for lists of it if they are asked for. -/
theorem properties_valueTypeSource (generation : Generation) (type : ValueType) :
    (generation.valueTypeSource type).properties =
      type.propertyName generation.package :: if type.inLists then [type.listPropertyName] else [] := by
  obtain ⟨value, navType, inLists, sourceIds⟩ := type
  cases inLists <;> cases navType <;> rfl

/-- A property in the package of the generated nav types. -/
def navTypeProperty (generation : Generation) (name : String) : Name :=
  { simple := name, qualified := generation.subPackage "navtype" ++ "." ++ name }

/-- A property that the source file of a value type has is declared by its generated file. -/
theorem declaresProperty_valueTypeFile {generation : Generation} {type : ValueType} {name : String}
    (h : name ∈ (generation.valueTypeSource type).properties) :
    (generation.valueTypeFile type).DeclaresProperty (generation.navTypeProperty name) where
  package := rfl
  line := SourceFile.hasLine_of_mem_properties h

end Generation

end NavGen
