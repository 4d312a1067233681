import NavGen.Library
import NavGen.Model.ChildrenFirst
import NavGen.Pass.Setup
import NavGen.Symbol.Table

/-!
# Paths of annotations

A target is marked as a destination by an annotation written on it: the marker itself, or an annotation class that carries the marker, or one
that carries such a class, and so on. The path from the marker to the target is the list of the annotations on the way; what a target is
given for an argument is what the outermost annotation that sets it says.
-/

namespace NavGen

/-- How a target is marked: the marker first, then the annotation of each annotation class further out, and at last the annotation that is
written on the target. -/
structure AnnotationPath where
  annotations : List AnnotationExpr
  target : Declaration

namespace AnnotationPath

/-- The argument of a name as the target is given it. -/
def argument? (path : AnnotationPath) (name : String) : Option AnnotationValue :=
  path.annotations.reverse.findSome? (·.argument? name)

/-- A truth value that counts as false when it is not set. -/
def boolArgument (path : AnnotationPath) (name : String) : Bool :=
  ((path.argument? name).bind (·.asBool?)).getD false

/-- A text that counts as not set when it is empty. -/
def textArgument? (path : AnnotationPath) (name : String) : Option String :=
  ((path.argument? name).bind (·.asText?)).filter (!·.isEmpty)

/-- A class literal that counts as not set when it is the literal for nothing. -/
def typeArgument? (path : AnnotationPath) (name : String) : Option TypeExpr :=
  ((path.argument? name).bind (·.asType?)).filter (·.qualified != Library.nothing)

/-- The graph that the marker names, by a type argument or else by an argument. -/
def graphType? (path : AnnotationPath) : Option TypeExpr :=
  (path.annotations.head?.bind (·.typeArguments.head?)).or (path.typeArgument? "navGraph")

/-- The number of annotations on the path. -/
def depth (path : AnnotationPath) : Nat :=
  path.annotations.length

end AnnotationPath

namespace Symbols

/-- The qualified names of all annotation classes. -/
def annotationClassNames (symbols : Symbols) : List String :=
  (symbols.table.declarations.filter (·.kind = .annotationClass)).map (·.qualified)

/-- The paths from the last annotation class of a chain, whose annotations so far are `outer`, to targets of a kind. `pending` holds the names
of the annotation classes that are not on the chain; one that carries the last name and is not pending closes a cycle. -/
def pathsFrom (symbols : Symbols) (terminal : DeclarationKind) (pending chain : List String) (outer : List AnnotationExpr)
    (marker : String) : Logged (List AnnotationPath) :=
  Logged.flatMap (fun declaration =>
      if declaration.kind = .annotationClass then
        match declaration.annotationOf? marker with
        | none => Logged.fail declaration.qualified (.annotationNotCarried marker)
        | some written => do
          Logged.debug ("following destination annotation class '" ++ declaration.qualified ++ "'")
          if _h : declaration.qualified ∈ pending then
            pathsFrom symbols terminal (without pending declaration.qualified) (chain ++ [declaration.qualified])
              (outer ++ [written]) declaration.qualified
          else Logged.fail declaration.qualified (.annotationCycle chain declaration.qualified)
      else if declaration.kind = terminal then
        Logged.pure ((declaration.annotationsOf marker).map fun written =>
          { annotations := outer ++ [written], target := declaration })
      else Logged.pure [])
    (symbols.annotatedWith marker)
termination_by pending.length
decreasing_by exact length_without_lt _h

/-- The paths from a marker to targets of a kind. -/
def paths (symbols : Symbols) (terminal : DeclarationKind) (marker : String) : Logged (List AnnotationPath) :=
  symbols.pathsFrom terminal (without symbols.annotationClassNames marker) [marker] [] marker

/-- The paths to composable functions. -/
def composablePaths (symbols : Symbols) : Logged (List AnnotationPath) :=
  symbols.paths .function Library.destination

/-- The paths to activity classes, those written in Java first. -/
def activityPaths (symbols : Symbols) : Logged (List AnnotationPath) :=
  Logged.flatMap (symbols.paths .plainClass) [Library.javaActivityDestination, Library.activityDestination]

end Symbols

end NavGen
