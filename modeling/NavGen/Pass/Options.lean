import NavGen.Text.Blank
import NavGen.Text.Search

/-!
# Options of a pass

The options that a build hands over as pairs of texts: the package of generated code, the name under which the module publishes its graphs,
and whether to log for debugging. A blank option counts as not given, an unknown one is passed over. Where no package is given, code is
generated in the longest package that all declarations share.
-/

namespace NavGen

/-- The keys of the options. -/
inductive OptionKey where
  | package | moduleName | debug
  deriving DecidableEq

/-- The text of a key. -/
def OptionKey.text : OptionKey → String
  | .package => "compose-destinations.codeGenPackageName"
  | .moduleName => "compose-destinations.moduleName"
  | .debug => "compose-destinations.debug"

/-- An option with a value that it cannot have. -/
structure OptionError where
  key : OptionKey
  value : String
  deriving DecidableEq

/-- The message of an option error. -/
def OptionError.message (error : OptionError) : String :=
  match error.key with
  | .package => "'" ++ error.value ++ "' is not a valid package name for option '" ++ error.key.text ++ "'"
  | .moduleName => "'" ++ error.value ++ "' is not a valid module name for option '" ++ error.key.text ++ "'"
  | .debug => "option '" ++ error.key.text ++ "' expects 'true' or 'false', got '" ++ error.value ++ "'"

/-- The configuration of a pass. -/
structure Config where
  package? : Option String
  moduleName? : Option String
  debug : Bool
  deriving DecidableEq

namespace Config

/-- The configuration without options. -/
def default : Config :=
  { package? := none, moduleName? := none, debug := false }

/-- The value of an option without the blanks around it, if it is given and not blank. -/
def option? (options : List (String × String)) (key : OptionKey) : Option String :=
  ((options.lookup key.text).map Text.trim).filter (!·.isEmpty)

/-- Whether a character can stand in an identifier. -/
def isIdentifierChar (c : Char) : Bool :=
  c.isAlphanum || c == '_'

/-- Whether characters make an identifier: they do not start with a digit. -/
def isIdentifier : List Char → Bool
  | [] => false
  | c :: rest => (c.isAlpha || c == '_') && rest.all isIdentifierChar

/-- Whether a text is a package name: identifiers between dots. -/
def isPackageName (s : String) : Bool :=
  (Text.splitChars '.' s.toList).all isIdentifier

/-- Whether a text can name a module. -/
def isModuleName (s : String) : Bool :=
  s.toList.all fun c => isIdentifierChar c || c == '-'

/-- The value of an option, if it is one that the option can have. -/
def checked? (options : List (String × String)) (key : OptionKey) (accepts : String → Bool) :
    Except OptionError (Option String) :=
  match option? options key with
  | none => .ok none
  | some value => if accepts value then .ok (some value) else .error { key, value }

/-- The configuration that options give. The first option with a value that it cannot have is an error, in the order of the keys. -/
def ofOptions (options : List (String × String)) : Except OptionError Config := do
  let package? ← checked? options .package isPackageName
  let moduleName? ← checked? options .moduleName isModuleName
  let debug? ← checked? options .debug fun value => value == "true" || value == "false"
  return { package?, moduleName?, debug := debug? == some "true" }

/-- The package that code is generated in when there is nothing to derive one from. -/
def fallbackPackage : String := "com.ramcosta.composedestinations.generated"

/-- The segments of a package. -/
def segments (package : String) : List String :=
  (Text.split '.' package).filter (!·.isEmpty)

/-- The longest list that two lists both start with. -/
def commonStart : List String → List String → List String
  | a :: as, b :: bs => if a = b then a :: commonStart as bs else []
  | _, _ => []

/-- The segments that all packages of a list start with; none for no packages. -/
def sharedSegments : List String → List String
  | [] => []
  | first :: rest => rest.foldl (fun shared package => commonStart shared (segments package)) (segments first)

/-- The package that code is generated in, given the packages of all declarations. -/
def resolvePackage (config : Config) (packages : List String) : String :=
  match config.package? with
  | some package => package
  | none =>
    let shared := sharedSegments packages
    if shared.isEmpty then fallbackPackage else ".".intercalate shared

end Config

end NavGen
