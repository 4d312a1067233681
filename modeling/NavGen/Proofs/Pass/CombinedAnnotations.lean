import NavGen.Pass.Destinations

/-!
# One annotation for a path of annotations

A target may be marked by an annotation class that carries the marker, in any depth. The main statement says that this makes no difference to the
destination that is read: the marker alone, written on the target with what all annotations of the path set, gives the same destination or the same
error. Where several annotations set an argument, the one nearest to the target counts.
-/

namespace NavGen

namespace AnnotationPath

variable {path path' : AnnotationPath}

/-- Whether a path sets an argument to a value: some annotation does, and none further out sets it at all. -/
def Sets (path : AnnotationPath) (name : String) (value : AnnotationValue) : Prop :=
  ∃ inner written outer, path.annotations = inner ++ written :: outer ∧ written.argument? name = some value ∧
    ∀ further ∈ outer, further.argument? name = none

/-- The argument that a target is given is the one that its path sets. -/
theorem argument?_eq_some_iff {name : String} {value : AnnotationValue} : path.argument? name = some value ↔ path.Sets name value := by
  rw [argument?, List.findSome?_eq_some_iff]
  constructor
  · rintro ⟨outer, written, inner, hannotations, hvalue, hnone⟩
    refine ⟨inner.reverse, written, outer.reverse, ?_, hvalue, fun further hmem => hnone further (List.mem_reverse.1 hmem)⟩
    rw [← List.reverse_reverse path.annotations, hannotations]
    simp
  · rintro ⟨inner, written, outer, hannotations, hvalue, hnone⟩
    refine ⟨outer.reverse, written, inner.reverse, ?_, hvalue, fun further hmem => hnone further (List.mem_reverse.1 hmem)⟩
    rw [hannotations]
    simp

/-! ## Paths that say the same -/

/-- Whether two paths of one target say the same of it: they set the same arguments, and their markers name the same graph. -/
structure SaysSame (path path' : AnnotationPath) : Prop where
  target : path.target = path'.target
  arguments : path.argument? = path'.argument?
  markers : path.annotations.head?.bind (·.typeArguments.head?) = path'.annotations.head?.bind (·.typeArguments.head?)

namespace SaysSame

theorem boolArgument (h : path.SaysSame path') (name : String) : path.boolArgument name = path'.boolArgument name := by
  rw [AnnotationPath.boolArgument, AnnotationPath.boolArgument, h.arguments]

theorem textArgument? (h : path.SaysSame path') (name : String) : path.textArgument? name = path'.textArgument? name := by
  rw [AnnotationPath.textArgument?, AnnotationPath.textArgument?, h.arguments]

theorem typeArgument? (h : path.SaysSame path') (name : String) : path.typeArgument? name = path'.typeArgument? name := by
  rw [AnnotationPath.typeArgument?, AnnotationPath.typeArgument?, h.arguments]

theorem graphType? (h : path.SaysSame path') : path.graphType? = path'.graphType? := by
  rw [AnnotationPath.graphType?, AnnotationPath.graphType?, h.markers, h.typeArgument?]

end SaysSame

end AnnotationPath

namespace DestinationReader

variable {path path' : AnnotationPath}

theorem argumentsClass?_eq_of_saysSame (reader : DestinationReader) (h : path.SaysSame path') :
    reader.argumentsClass? path = reader.argumentsClass? path' := by
  rw [argumentsClass?, argumentsClass?, h.typeArgument?, h.target]

theorem deepLinks_eq_of_saysSame (h : path.SaysSame path') : deepLinks path = deepLinks path' := by
  rw [deepLinks, deepLinks, h.arguments, h.target]

theorem activityInfo_eq_of_saysSame (h : path.SaysSame path') : activityInfo path = activityInfo path' := by
  simp only [activityInfo, h.textArgument?]

/-- Paths that say the same of a target give the same destination or the same error. -/
theorem destination_eq_of_saysSame (reader : DestinationReader) (h : path.SaysSame path') :
    reader.destination path = reader.destination path' := by
  simp only [destination, h.target, reader.argumentsClass?_eq_of_saysSame h, deepLinks_eq_of_saysSame h, activityInfo_eq_of_saysSame h,
    h.textArgument?, h.graphType?, h.boolArgument]

/-- They are logged alike, too. -/
theorem read_eq_of_saysSame (reader : DestinationReader) (h : path.SaysSame path') : reader.read path = reader.read path' := by
  rw [read, read, reader.destination_eq_of_saysSame h]

end DestinationReader

/-! ## One annotation -/

namespace AnnotationPath

/-- Whether an annotation says alone what the annotations of a path say together: it has the class and the type arguments of the innermost one, and
of each argument the value that the path sets. -/
structure CombinedIn (path : AnnotationPath) (single : AnnotationExpr) : Prop where
  innermost : ∃ marker, path.annotations.head? = some marker ∧ single.type = marker.type ∧ single.typeArguments = marker.typeArguments
  arguments : ∀ name value, single.argument? name = some value ↔ path.Sets name value

/-- The path of the same target with one annotation. -/
def alone (path : AnnotationPath) (single : AnnotationExpr) : AnnotationPath :=
  { path with annotations := [single] }

theorem argument?_alone (path : AnnotationPath) (single : AnnotationExpr) (name : String) :
    (path.alone single).argument? name = single.argument? name := by
  simp [alone, argument?]

/-- An annotation that combines those of a path can stand for them. -/
theorem CombinedIn.saysSame {path : AnnotationPath} {single : AnnotationExpr} (h : path.CombinedIn single) :
    (path.alone single).SaysSame path where
  target := rfl
  arguments := by
    funext name
    refine Option.ext fun value => ?_
    rw [argument?_alone, h.arguments, argument?_eq_some_iff]
  markers := by
    obtain ⟨marker, hmarker, -, htypes⟩ := h.innermost
    rw [hmarker]
    exact congrArg List.head? htypes

/-- The union of the arguments of all annotations of a path, of which the later ones count, in place of those of an annotation. -/
def withAllArguments (path : AnnotationPath) (marker : AnnotationExpr) : AnnotationExpr :=
  { marker with arguments := path.annotations.flatMap (·.arguments) }

/-- An argument is in the union with the value that the path gives it. -/
theorem argument?_withAllArguments (path : AnnotationPath) (marker : AnnotationExpr) (name : String) :
    (path.withAllArguments marker).argument? name = path.argument? name := by
  rw [AnnotationExpr.argument?, withAllArguments, List.reverse_flatMap, List.find?_flatMap, List.map_findSome?, argument?]
  rfl

/-- So the innermost annotation with all arguments combines the annotations of a path. -/
theorem combinedIn_withAllArguments {path : AnnotationPath} {marker : AnnotationExpr} (h : path.annotations.head? = some marker) :
    path.CombinedIn (path.withAllArguments marker) where
  innermost := ⟨marker, h, rfl, rfl⟩
  arguments name value := by rw [argument?_withAllArguments, argument?_eq_some_iff]

end AnnotationPath

namespace DestinationReader

/-- A path is read like a single annotation that says alone what the annotations of the path say together, and there is one. -/
theorem read_alone (reader : DestinationReader) {path : AnnotationPath} (h : path.annotations ≠ []) :
    (∃ single, path.CombinedIn single) ∧ ∀ single, path.CombinedIn single → reader.read (path.alone single) = reader.read path := by
  refine ⟨⟨_, AnnotationPath.combinedIn_withAllArguments (List.head?_eq_some_head h)⟩, fun single hcombined => ?_⟩
  exact reader.read_eq_of_saysSame hcombined.saysSame

/-- A screen that is marked through two annotation classes. The one in the middle sets another route, and the one on the screen sets `start` to what
is no truth value. -/
def sheetPath : AnnotationPath where
  annotations := [
    { type := Library.destination, typeArguments := [.plain "app.MainGraph"], arguments := [("route", .text "inner"), ("start", .bool true)] },
    { type := "app.Screen", typeArguments := [.plain "app.OtherGraph"], arguments := [("route", .text "sheet")] },
    { type := "app.Sheet", typeArguments := [], arguments := [("start", .text "yes")] }]
  target := { qualified := "app.PickScreen", kind := .function }

/-- The route in the middle and the value that is none of truth come before what the marker says; the graph is still that of the marker. -/
theorem read_alone_sheetPath :
    let reader : DestinationReader := { table := ⟨[]⟩, registry := .empty, graphs := { graphs := [], defaultHost? := none } }
    sheetPath.annotations ≠ [] ∧
      (reader.read sheetPath).result.toOption.map (fun destination => (destination.baseRoute, destination.isStart, destination.graph.qualified)) =
        some ("sheet", false, "app.MainGraph") ∧
      (∃ single, sheetPath.CombinedIn single) ∧
        ∀ single, sheetPath.CombinedIn single → reader.read (sheetPath.alone single) = reader.read sheetPath := by
  refine ⟨by simp [sheetPath], by decide +kernel, ?_⟩
  exact read_alone _ (by simp [sheetPath])

end DestinationReader

end NavGen
