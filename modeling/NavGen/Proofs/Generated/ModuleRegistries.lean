import NavGen.Generated.Files
import NavGen.Proofs.Pass.Options
import NavGen.Proofs.Text.NameWords

/-!
# Registries of different modules

The registries of all modules are declared in one package, so that it is the name of a module that has to keep them apart. It goes into their names in
capitalized words. Two modules with different names therefore have registries of the same names exactly if they are named by the same words, be it that
the words are separated or written differently.
-/

namespace NavGen

/-! ## Words of module names -/

namespace Config

/-- But for separators, the characters of module names are letters and digits. -/
theorem kind_of_isModuleNameChar {c : Char} (h : isModuleNameChar c = true) (hword : Text.isWordSeparator [c] = false) :
    (c.isDigit = true ∨ c.isDigit = false ∧ c.toLower.isLower = true) ∧
      Text.isDigit [c] = c.isDigit ∧ (Text.isLower [c] || Text.isUpper [c]) = !c.isDigit := by
  have hall : ∀ code < 128, isModuleNameChar (Char.ofNat code) = true → Text.isWordSeparator [Char.ofNat code] = false →
      ((Char.ofNat code).isDigit = true ∨ (Char.ofNat code).isDigit = false ∧ (Char.ofNat code).toLower.isLower = true) ∧
        Text.isDigit [Char.ofNat code] = (Char.ofNat code).isDigit ∧
          (Text.isLower [Char.ofNat code] || Text.isUpper [Char.ofNat code]) = !(Char.ofNat code).isDigit := by
    decide +kernel
  exact Text.of_forall_lt
    (P := fun c => isModuleNameChar c = true → Text.isWordSeparator [c] = false →
      (c.isDigit = true ∨ c.isDigit = false ∧ c.toLower.isLower = true) ∧
        Text.isDigit [c] = c.isDigit ∧ (Text.isLower [c] || Text.isUpper [c]) = !c.isDigit)
    hall (lt_of_isModuleNameChar h) h hword

/-- A word ends between letters and digits. -/
theorem isDigit_eq_of_endsWord {c next : Char} {others : List (List Char)} (hc : isModuleNameChar c = true)
    (hcword : Text.isWordSeparator [c] = false) (hnext : isModuleNameChar next = true) (hnextWord : Text.isWordSeparator [next] = false)
    (h : Text.endsWord [c] ([next] :: others) = false) : c.isDigit = next.isDigit := by
  obtain ⟨-, hdigit, hcase⟩ := kind_of_isModuleNameChar hc hcword
  obtain ⟨-, hnextDigit, hnextCase⟩ := kind_of_isModuleNameChar hnext hnextWord
  simp only [Text.endsWord, Bool.or_eq_false_iff, Bool.and_eq_false_iff] at h
  rw [← hdigit, ← hnextDigit] at *
  cases hd : Text.isDigit [c] <;> cases hn : Text.isDigit [next] <;> simp_all

/-- Each word of a module name is made of letters only or of digits only. -/
theorem isDigit_eq_of_mem_wordsFrom {cs current word : List Char} (hcs : ∀ c ∈ cs, isModuleNameChar c = true)
    (hcurrent : ∀ c ∈ current, ∀ d ∈ current, c.isDigit = d.isDigit)
    (hnext : ∀ c ∈ current, ∀ d ∈ cs.head?, Text.isWordSeparator [d] = false → c.isDigit = d.isDigit)
    (h : word ∈ Text.wordsFrom current (cs.map fun c => [c])) : ∀ c ∈ word, ∀ d ∈ word, c.isDigit = d.isDigit := by
  induction cs generalizing current with
  | nil =>
    rw [List.mem_singleton.1 h]
    exact hcurrent
  | cons here rest ih =>
    rw [List.forall_mem_cons] at hcs
    have hfresh : word ∈ Text.wordsFrom [] (rest.map fun c => [c]) → ∀ c ∈ word, ∀ d ∈ word, c.isDigit = d.isDigit :=
      ih hcs.2 (fun _ h => absurd h List.not_mem_nil) (fun _ h => absurd h List.not_mem_nil)
    rw [List.map_cons, Text.wordsFrom] at h
    cases hseparator : Text.isWordSeparator [here] with
    | true =>
      rw [hseparator, if_pos rfl] at h
      rcases List.mem_cons.1 h with rfl | h
      · exact hcurrent
      · exact hfresh h
    | false =>
      have hlonger : ∀ c ∈ current ++ [here], c.isDigit = here.isDigit := by
        intro c hmem
        rcases List.mem_append.1 hmem with hmem | hmem
        · exact hnext c hmem here rfl hseparator
        · rw [List.mem_singleton.1 hmem]
      have huniform : ∀ c ∈ current ++ [here], ∀ d ∈ current ++ [here], c.isDigit = d.isDigit :=
        fun c hc d hd => (hlonger c hc).trans (hlonger d hd).symm
      rw [hseparator, if_neg Bool.false_ne_true] at h
      cases hends : Text.endsWord [here] (rest.map fun c => [c]) with
      | true =>
        rw [hends, if_pos rfl] at h
        rcases List.mem_cons.1 h with rfl | h
        · exact huniform
        · exact hfresh h
      | false =>
        rw [hends, if_neg Bool.false_ne_true] at h
        refine ih hcs.2 huniform (fun c hc d hd hd' => ?_) h
        obtain ⟨others, rfl⟩ := List.head?_eq_some_iff.1 hd
        exact (hlonger c hc).trans (isDigit_eq_of_endsWord hcs.1 hseparator (hcs.2 d List.mem_cons_self) hd' hends)

variable {name : String}

/-- In lower case, the words of a module name that are not empty are words of small letters or numbers. -/
theorem isPlainWord_of_mem_words (h : isModuleName name = true) {word : List Char} (hword : word ∈ Text.words name.toList)
    (hnonempty : word ≠ []) : Text.IsPlainWord (Text.lower word) := by
  have hchars : ∀ c ∈ name.toList, isModuleNameChar c = true := List.all_eq_true.1 h
  have hsimple : ∀ c ∈ name.toList, Text.IsSimpleChar c := fun c hmem => isSimpleChar_of_isModuleNameChar (hchars c hmem)
  have hmem : ∀ c ∈ word, c ∈ name.toList ∧ Text.isWordSeparator [c] = false := fun c => Text.mem_of_mem_words_of_simple hsimple hword
  have hlower : Text.lower word = word.map Char.toLower :=
    Text.lowerAfter_of_lt [] fun c hc => lt_of_isModuleNameChar (hchars c (hmem c hc).1)
  have huniform : ∀ c ∈ word, ∀ d ∈ word, c.isDigit = d.isDigit := by
    have hfrom : word ∈ Text.wordsFrom [] (name.toList.map fun c => [c]) := by
      rw [Text.words, Text.clusters_of_simple hsimple] at hword
      cases hcs : name.toList with
      | nil => simp [hcs] at hword
      | cons c rest => simpa [hcs] using hword
    exact isDigit_eq_of_mem_wordsFrom hchars (fun _ h => absurd h List.not_mem_nil) (fun _ h => absurd h List.not_mem_nil) hfrom
  rw [hlower]
  refine ⟨by simpa using hnonempty, ?_⟩
  cases word with
  | nil => contradiction
  | cons first rest =>
    have hkind : ∀ c ∈ first :: rest, c.isDigit = true ∨ c.isDigit = false ∧ c.toLower.isLower = true :=
      fun c hc => (kind_of_isModuleNameChar (hchars c (hmem c hc).1) (hmem c hc).2).1
    cases hfirst : first.isDigit with
    | true =>
      right
      refine List.all_eq_true.2 fun d hd => ?_
      obtain ⟨c, hc, rfl⟩ := List.mem_map.1 hd
      have hdigit : c.isDigit = true := (huniform c hc first List.mem_cons_self).trans hfirst
      rw [(Text.toUpper_toLower_of_isDigit hdigit).2.1, hdigit]
    | false =>
      left
      intro d hd
      obtain ⟨c, hc, rfl⟩ := List.mem_map.1 hd
      have hletter : c.isDigit = false := (huniform c hc first List.mem_cons_self).trans hfirst
      rcases hkind c hc with hdigit | ⟨-, hsmall⟩
      · rw [hletter] at hdigit
        contradiction
      · exact hsmall

theorem separable_nameWords (h : isModuleName name = true) : Text.Separable (Text.nameWords name) := by
  refine Text.separable_joinNumbers fun lowered hmem => ?_
  obtain ⟨word, hword, rfl⟩ := List.mem_map.1 hmem
  obtain ⟨hword, hnonempty⟩ := List.mem_filter.1 hword
  exact isPlainWord_of_mem_words h hword (by simpa using hnonempty)

/-- A module name in capitalized words is its words, capitalized and written one behind the other. -/
theorem toList_pascal (h : isModuleName name = true) : (Text.pascal name).toList = (Text.nameWords name).flatMap Text.capitalize := by
  have hascii : ∀ word ∈ Text.words name.toList, ∀ c ∈ word, c.toNat < 128 := fun word hword c hc =>
    lt_of_isModuleNameChar (List.all_eq_true.1 h c (Text.subset_of_mem_words hword hc))
  rw [Text.pascal, String.toList_ofList, Text.nameWords, Text.flatMap_capitalize_joinNumbers]
  generalize Text.words name.toList = words at hascii
  induction words with
  | nil => rfl
  | cons word rest ih =>
    rw [List.forall_mem_cons] at hascii
    cases word with
    | nil => simpa [Text.capitalize] using ih hascii.2
    | cons c others =>
      rw [List.flatMap_cons, ih hascii.2, List.filter_cons_of_pos (by simp), List.map_cons, List.flatMap_cons,
        Text.capitalize_lower hascii.1]

/-- Module names are capitalized to the same exactly if they have the same words. -/
theorem pascal_eq_iff {other : String} (h : isModuleName name = true) (hother : isModuleName other = true) :
    Text.pascal name = Text.pascal other ↔ Text.nameWords name = Text.nameWords other := by
  rw [← String.toList_inj, toList_pascal h, toList_pascal hother]
  constructor
  · exact Text.eq_of_flatMap_capitalize_eq (separable_nameWords h) (separable_nameWords hother)
  · intro heq
    rw [heq]

end Config

/-! ## Declared annotation classes -/

/-- The annotation class whose declaration a line begins, if it does. -/
def Line.annotationClass? : Line → Option String
  | .annotationClass name => some name
  | _ => none

namespace Layout

/-- The annotation classes that a layout declares, in order. -/
def annotationClasses (layout : List Layout) : List String :=
  (layout.filterMap (·.line?)).filterMap (·.annotationClass?)

theorem annotationClasses_append (first second : List Layout) :
    annotationClasses (first ++ second) = annotationClasses first ++ annotationClasses second := by
  simp only [annotationClasses, List.filterMap_append]

theorem annotationClasses_bracketed (first : Line) (inside : List Layout) (last : String) :
    annotationClasses (Layout.bracketed first inside last) = first.annotationClass?.toList ++ annotationClasses inside := by
  rw [Layout.bracketed, annotationClasses_append, annotationClasses_append]
  cases first <;> simp [annotationClasses, Layout.code, line?, Line.annotationClass?]

theorem annotationClasses_map_code (fields : List String) : annotationClasses (fields.map Layout.code) = [] := by
  induction fields with
  | nil => rfl
  | cons field rest ih => exact ih

end Layout

namespace ArgumentCode

mutual

/-- The lines of an argument declare nothing. -/
theorem annotationClasses_layout (introduction : String) : (argument : ArgumentCode) → Layout.annotationClasses (argument.layout introduction) = []
  | .text _ | .bool _ => rfl
  | .array items => by
    rw [layout, Layout.annotationClasses_bracketed, annotationClasses_itemLayout items]
    rfl
  | .nested _ arguments => by
    rw [layout, Layout.annotationClasses_bracketed, annotationClasses_argumentLayout arguments]
    rfl

theorem annotationClasses_itemLayout : (items : List ArgumentCode) → Layout.annotationClasses (itemLayout items) = []
  | [] => rfl
  | item :: rest => by
    rw [itemLayout, Layout.annotationClasses_append, annotationClasses_layout "" item, annotationClasses_itemLayout rest]
    rfl

theorem annotationClasses_argumentLayout :
    (arguments : List (String × ArgumentCode)) → Layout.annotationClasses (argumentLayout arguments) = []
  | [] => rfl
  | (name, argument) :: rest => by
    rw [argumentLayout, Layout.annotationClasses_append, annotationClasses_layout (name ++ " = ") argument,
      annotationClasses_argumentLayout rest]
    rfl

end

end ArgumentCode

namespace Generation

/-- The annotation classes that the registry of a module declares, if the module has a name. -/
def registryAnnotationClasses (generation : Generation) : List String :=
  match generation.settings.moduleName? with
  | some name => Layout.annotationClasses (generation.registrySource name).body.layout
  | none => []

theorem annotationClasses_annotationClassLayout (name : String) (fields : List String) :
    Layout.annotationClasses (annotationClassLayout name fields) = [name] := by
  rw [annotationClassLayout, Layout.annotationClasses_append, Layout.annotationClasses_bracketed, Layout.annotationClasses_map_code]
  rfl

/-- A registry declares the class of annotations that describe a module and the class of those that describe a result. -/
theorem registryAnnotationClasses_eq {generation : Generation} {name : String} (h : generation.settings.moduleName? = some name) :
    generation.registryAnnotationClasses = [(RegistryNames.ofModule name).info, (RegistryNames.ofModule name).result] := by
  rw [registryAnnotationClasses, h]
  dsimp only [registrySource, Fragment.lines]
  rw [Layout.annotationClasses_append, Layout.annotationClasses_append, Layout.annotationClasses_append,
    annotationClasses_annotationClassLayout, annotationClasses_annotationClassLayout, Layout.annotationClasses_bracketed,
    ArgumentCode.annotationClasses_argumentLayout]
  rfl

theorem registryFile?_eq {generation : Generation} {name : String} (h : generation.settings.moduleName? = some name) :
    generation.registryFile? =
      some ((generation.registrySource name).generated (RegistryNames.ofModule name).registry generation.model.allSourceIds) := by
  rw [registryFile?, h, Option.map_some]

/-! ## Registries of two modules -/

/-- Whether two modules have registry files of different names, and no annotation class is declared in both. -/
structure RegistriesApart (first second : Generation) : Prop where
  files : ∀ file other, first.registryFile? = some file → second.registryFile? = some other → file.name ≠ other.name
  classes : first.registryAnnotationClasses.Disjoint second.registryAnnotationClasses

variable {first second : Generation} {name other : String}

/-- The capitalized words of a module are behind the same start in each of its names. -/
theorem eq_of_start_append_eq {start ending otherEnding : String} (h : start ++ ending = start ++ otherEnding) : ending = otherEnding := by
  rw [← String.toList_inj, String.toList_append, String.toList_append] at h
  exact String.toList_inj.1 (List.append_cancel_left h)

/-- No class that describes a module is called like one that describes a result. -/
theorem info_ne_result (ending otherEnding : String) : Library.moduleInfoStart ++ ending ≠ Library.resultInfoStart ++ otherEnding := by
  intro h
  rw [← String.toList_inj, String.toList_append, String.toList_append] at h
  have hinfo : Library.moduleInfoStart.toList = ['_', 'I', 'n', 'f', 'o', '_'] := by decide
  have hresult : Library.resultInfoStart.toList = '_' :: 'D' :: "estination_Result_Info_".toList := by decide
  rw [hinfo, hresult] at h
  injection h with _ h
  injection h with h _
  contradiction

theorem registriesApart_iff_pascal (hfirst : first.settings.moduleName? = some name) (hsecond : second.settings.moduleName? = some other) :
    RegistriesApart first second ↔ Text.pascal name ≠ Text.pascal other := by
  constructor
  · intro h heq
    refine h.files _ _ (registryFile?_eq hfirst) (registryFile?_eq hsecond) ?_
    dsimp only [SourceFile.generated, RegistryNames.ofModule]
    rw [heq]
  · intro hne
    refine ⟨?_, ?_⟩
    · intro file file' hfile hfile' heq
      rw [registryFile?_eq hfirst, Option.some.injEq] at hfile
      rw [registryFile?_eq hsecond, Option.some.injEq] at hfile'
      subst hfile hfile'
      exact hne (eq_of_start_append_eq heq)
    · rw [registryAnnotationClasses_eq hfirst, registryAnnotationClasses_eq hsecond]
      intro declared hmem hmem'
      simp only [RegistryNames.ofModule, List.mem_cons, List.not_mem_nil, or_false] at hmem hmem'
      rcases hmem with rfl | rfl <;> rcases hmem' with heq | heq
      · exact hne (eq_of_start_append_eq heq)
      · exact info_ne_result _ _ heq
      · exact info_ne_result _ _ heq.symm
      · exact hne (eq_of_start_append_eq heq)

/-- Two modules under names that options give have registries, and these have nothing in common exactly if the names have different words. -/
theorem registriesApart_iff {options otherOptions : List (String × String)} {config otherConfig : Config}
    (h : Config.ofOptions options = .ok config) (hname : config.moduleName? = some name)
    (h' : Config.ofOptions otherOptions = .ok otherConfig) (hother : otherConfig.moduleName? = some other)
    (hfirst : first.settings.moduleName? = some name) (hsecond : second.settings.moduleName? = some other) :
    first.registryFile?.isSome ∧ second.registryFile?.isSome ∧
      (RegistriesApart first second ↔ Text.nameWords name ≠ Text.nameWords other) := by
  have haccepted := Config.isModuleName_of_ofOptions h hname
  have haccepted' := Config.isModuleName_of_ofOptions h' hother
  refine ⟨?_, ?_, ?_⟩
  · rw [registryFile?_eq hfirst, Option.isSome_some]
  · rw [registryFile?_eq hsecond, Option.isSome_some]
  · rw [registriesApart_iff_pascal hfirst hsecond, Ne, Config.pascal_eq_iff haccepted haccepted']

/-- The options that give a module a name. -/
def moduleOptions (name : String) : List (String × String) :=
  [(OptionKey.moduleName.text, name)]

/-- A module without destinations. -/
def emptyModule (name : String) : Generation :=
  { settings := { package := "app", moduleName? := some name }
    model := { destinations := [], graphs := [], serializers := [], modules := [] } }

/-- A separator between words does make a difference. -/
theorem registriesApart_iff_userProfile :
    ∃ config otherConfig,
      Config.ofOptions (moduleOptions "user-profile2") = .ok config ∧ config.moduleName? = some "user-profile2" ∧
        Config.ofOptions (moduleOptions "USERPROFILE_2") = .ok otherConfig ∧ otherConfig.moduleName? = some "USERPROFILE_2" ∧
          Text.nameWords "user-profile2" = ["user".toList, "profile".toList, "2".toList] ∧
            Text.nameWords "USERPROFILE_2" = ["userprofile".toList, "2".toList] ∧
              RegistriesApart (emptyModule "user-profile2") (emptyModule "USERPROFILE_2") := by
  have hoptions : Config.ofOptions (moduleOptions "user-profile2") =
      .ok { package? := none, moduleName? := some "user-profile2", debug := false } := rfl
  have hotherOptions : Config.ofOptions (moduleOptions "USERPROFILE_2") =
      .ok { package? := none, moduleName? := some "USERPROFILE_2", debug := false } := rfl
  have hfirst : (emptyModule "user-profile2").settings.moduleName? = some "user-profile2" := rfl
  have hsecond : (emptyModule "USERPROFILE_2").settings.moduleName? = some "USERPROFILE_2" := rfl
  obtain ⟨-, -, hapart⟩ := registriesApart_iff hoptions rfl hotherOptions rfl hfirst hsecond
  refine ⟨_, _, hoptions, rfl, hotherOptions, rfl, by decide +kernel, by decide +kernel, hapart.2 ?_⟩
  decide +kernel

/-- That different names keep registries apart is false: the words of a name may be separated by hyphens or by underscores. -/
theorem registriesApart_false :
    ¬∀ (options otherOptions : List (String × String)) (config otherConfig : Config) (name other : String) (first second : Generation),
      Config.ofOptions options = .ok config → config.moduleName? = some name →
        Config.ofOptions otherOptions = .ok otherConfig → otherConfig.moduleName? = some other →
          first.settings.moduleName? = some name → second.settings.moduleName? = some other → name ≠ other →
            RegistriesApart first second := by
  intro h
  have hapart : RegistriesApart (emptyModule "user-profile") (emptyModule "user_profile") :=
    h (moduleOptions "user-profile") (moduleOptions "user_profile") _ _ _ _ _ _ rfl rfl rfl rfl rfl rfl (by decide)
  have hsame : Text.pascal "user-profile" = Text.pascal "user_profile" := by decide +kernel
  exact (registriesApart_iff_pascal rfl rfl).1 hapart hsame

end Generation

end NavGen
