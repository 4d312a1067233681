import NavGen.Text.Search

/-!
# Problems and reports

A problem is what is wrong with one declaration. A pass stops at the first problem in how declarations are set up; the problems of an
assembled model are collected in a report, so that all are told at once.
-/

namespace NavGen

/-- Whether a problem lies in how a declaration is annotated, or in the model that all declarations make together. -/
inductive ProblemKind where
  | setup | validation
  deriving DecidableEq

/-- The word for a kind in texts. -/
def ProblemKind.word : ProblemKind → String
  | .setup => "setup"
  | .validation => "validation"

/-- What is wrong with a declaration. -/
structure Problem where
  kind : ProblemKind
  declaration : String
  message : String
  deriving DecidableEq

/-- The full text of a problem. -/
def Problem.text (problem : Problem) : String :=
  problem.kind.word ++ " error in '" ++ problem.declaration ++ "': " ++ problem.message

/-- The problems found together, in the order found. -/
structure Report where
  problems : List Problem
  deriving DecidableEq

namespace Report

/-- The report without problems. -/
def empty : Report :=
  { problems := [] }

/-- The report of one problem. -/
def ofProblem (problem : Problem) : Report :=
  { problems := [problem] }

/-- The report with one problem more. -/
def add (report : Report) (problem : Problem) : Report :=
  { problems := report.problems ++ [problem] }

/-- The problems of two reports. -/
def merge (report other : Report) : Report :=
  { problems := report.problems ++ other.problems }

/-- The full texts of all problems, one a line. -/
def text (report : Report) : String :=
  "\n".intercalate (report.problems.map (·.text))

/-- Whether the message of some problem contains a text. -/
def mentions (report : Report) (needle : String) : Bool :=
  report.problems.any fun problem => Text.occursIn needle problem.message

end Report

end NavGen
