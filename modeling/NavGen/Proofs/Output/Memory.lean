import Mathlib.Data.List.Find
import NavGen.Output.Memory
import NavGen.Proofs.Keys

/-!
# What writing leaves in an output in memory

Files with distinct paths are added to an output one after the other, up to the first whose path the output holds already. So writing
succeeds exactly if no path of the files is held, and a file that is held stays as it is in any case.
-/

namespace NavGen

/-- A generated file as an output keeps it. -/
def GeneratedFile.stored (file : GeneratedFile) : StoredFile :=
  { path := file.path, content := file.content, sourceIds := file.sourceIds }

namespace MemoryOutput

/-- Whether an output holds no file of the path of a generated file. -/
def lacks (output : MemoryOutput) (file : GeneratedFile) : Bool :=
  (output.file? file.path).isNone

/-- The output with files added at its end. -/
def adding (output : MemoryOutput) (files : List GeneratedFile) : MemoryOutput :=
  { files := output.files ++ files.map GeneratedFile.stored }

/-- Whether the files of an output are, path by path, the generated files of a list. -/
structure HoldsExactly (output : MemoryOutput) (files : List GeneratedFile) : Prop where
  paths : ∀ path, (output.file? path).isSome = true ↔ path ∈ files.map (·.path)
  contents : ∀ file ∈ files, output.content? file.path = some file.content
  sourceIds : ∀ file ∈ files, output.sourceIds? file.path = some file.sourceIds

theorem adding_nil (output : MemoryOutput) : output.adding [] = output := by
  simp [adding]

theorem adding_cons (output : MemoryOutput) (file : GeneratedFile) (files : List GeneratedFile) :
    output.adding (file :: files) = (output.adding [file]).adding files := by
  simp [adding]

theorem adding_eq_self_iff (output : MemoryOutput) (files : List GeneratedFile) : output.adding files = output ↔ files = [] := by
  rw [adding, MemoryOutput.mk.injEq, List.append_right_eq_self, List.map_eq_nil_iff]

/-- Adding a file of another path does not matter for whether a file is lacking. -/
theorem lacks_adding_of_ne (output : MemoryOutput) {file other : GeneratedFile} (h : other.path ≠ file.path) :
    (output.adding [file]).lacks other = output.lacks other := by
  have hne : (file.path == other.path) = false := beq_eq_false_iff_ne.2 (Ne.symm h)
  simp [lacks, file?, adding, GeneratedFile.stored, hne]

/-- An output that got files with distinct paths and held nothing before holds exactly these files. -/
theorem holdsExactly_adding {files : List GeneratedFile} (hpaths : (files.map (·.path)).Nodup) :
    (empty.adding files).HoldsExactly files := by
  have hkeys : (((empty.adding files).files).map (·.path)).Nodup := by
    simpa [adding, empty, Function.comp_def, GeneratedFile.stored] using hpaths
  have hfile : ∀ file ∈ files, (empty.adding files).file? file.path = some file.stored := by
    intro file hmem
    refine (find?_key_eq_some hkeys).2 ⟨?_, rfl⟩
    exact List.mem_append_right _ (List.mem_map_of_mem hmem)
  refine ⟨fun path => ?_, fun file hmem => ?_, fun file hmem => ?_⟩
  · rw [file?, find?_key_isSome]
    simp [adding, empty, GeneratedFile.stored]
  · rw [content?, hfile file hmem, Option.map_some, GeneratedFile.stored]
  · rw [sourceIds?, hfile file hmem, Option.map_some, GeneratedFile.stored]

end MemoryOutput

/-! ## Writing -/

theorem firstRepeated?_eq_none_iff (seen paths : List String) : firstRepeated? seen paths = none ↔ FreshAfter seen paths := by
  induction paths generalizing seen with
  | nil => simp [firstRepeated?, freshAfter_nil]
  | cons path rest ih =>
    rw [firstRepeated?, freshAfter_cons, ← ih]
    by_cases h : path ∈ seen <;> simp [h]

variable {Output : Type} [FileSink Output]

/-- Files with distinct paths are handed over one after the other. -/
theorem writeFiles_of_nodup (output : Output) {files : List GeneratedFile} (hpaths : (files.map (·.path)).Nodup) :
    writeFiles output files = writeEach output files := by
  rw [writeFiles, (firstRepeated?_eq_none_iff [] _).2 (freshAfter_nil_iff.2 hpaths)]

/-- If two files have the same path, then nothing is written. -/
theorem writeFiles_of_not_nodup (output : Output) {files : List GeneratedFile} (hpaths : ¬(files.map (·.path)).Nodup) :
    ∃ path, writeFiles output files = (output, some (.alreadyCreated path)) := by
  unfold writeFiles
  cases hrepeated : firstRepeated? [] (files.map (·.path)) with
  | none => exact absurd (freshAfter_nil_iff.1 ((firstRepeated?_eq_none_iff [] _).1 hrepeated)) hpaths
  | some path => exact ⟨path, rfl⟩

/-- Two conditions that agree on a list take the same items from its start. -/
theorem takeWhile_congr {α : Type} {p q : α → Bool} {items : List α} (h : ∀ item ∈ items, p item = q item) :
    items.takeWhile p = items.takeWhile q := by
  induction items with
  | nil => rfl
  | cons item rest ih =>
    rw [List.forall_mem_cons] at h
    rw [List.takeWhile_cons, List.takeWhile_cons, h.1, ih h.2]

namespace MemoryOutput

theorem take_of_lacks {output : MemoryOutput} {file : GeneratedFile} (h : output.lacks file = true) :
    FileSink.take output file = (output.adding [file], none) := by
  have hnone : output.file? file.path = none := Option.isNone_iff_eq_none.1 h
  simp [FileSink.take, create, hnone, adding, GeneratedFile.stored]

theorem take_of_not_lacks {output : MemoryOutput} {file : GeneratedFile} (h : output.lacks file = false) :
    FileSink.take output file = (output, some (.alreadyCreated file.path)) := by
  have hsome : (output.file? file.path).isSome = true := by
    rw [lacks, Option.isNone_eq_false_iff] at h
    exact h
  simp [FileSink.take, create, hsome]

/-- Files with distinct paths are added up to the first that the output does not lack, which is the error. -/
theorem writeEach_eq (output : MemoryOutput) {files : List GeneratedFile} (hpaths : (files.map (·.path)).Nodup) :
    writeEach output files =
      (output.adding (files.takeWhile output.lacks),
        (files.find? (!output.lacks ·)).map fun file => .alreadyCreated file.path) := by
  induction files generalizing output with
  | nil => simp [writeEach, adding_nil]
  | cons file rest ih =>
    rw [List.map_cons, List.nodup_cons] at hpaths
    rw [writeEach]
    cases hlacks : output.lacks file with
    | false => simp [take_of_not_lacks hlacks, hlacks, adding_nil]
    | true =>
      -- the files that follow have other paths, so it is the same whether the output before or after this file lacks them
      have hrest : ∀ other ∈ rest, (output.adding [file]).lacks other = output.lacks other := by
        intro other hmem
        refine lacks_adding_of_ne output fun heq => hpaths.1 ?_
        exact heq ▸ List.mem_map_of_mem hmem
      have htake : rest.takeWhile (output.adding [file]).lacks = rest.takeWhile output.lacks :=
        takeWhile_congr hrest
      have hfind : rest.find? (!(output.adding [file]).lacks ·) = rest.find? (!output.lacks ·) :=
        List.find?_congr fun other hmem => by rw [hrest other hmem]
      simp only [take_of_lacks hlacks, ih (output.adding [file]) hpaths.2, htake, hfind, List.takeWhile_cons, hlacks, if_true,
        List.find?_cons, Bool.not_true, ← adding_cons]

end MemoryOutput

end NavGen
