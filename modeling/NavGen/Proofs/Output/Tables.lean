import NavGen.Output.Tables
import NavGen.Proofs.Output.Memory

/-!
# What writing leaves in the tables of an output

Contents and sources are kept apart, and writing can stop in the middle of a list of files. The statements here say what is in both tables afterwards:
the entries that were there stay, the files up to the first that is refused are added with their contents and their sources, and nothing else changes.
So no call leaves a path in one table alone, and the tables hold what the output shows.
-/

namespace NavGen

namespace OutputTables

/-! ## Entries -/

section

variable {α : Type}

theorem lookup_filter_ne {path other : String} (h : other ≠ path) (table : List (String × α)) :
    (table.filter (·.1 != path)).lookup other = table.lookup other := by
  induction table with
  | nil => rfl
  | cons entry rest ih =>
    rw [List.filter_cons]
    by_cases hentry : entry.1 = path
    · have hother : (other == entry.1) = false := beq_eq_false_iff_ne.2 (hentry ▸ h)
      rw [if_neg (by simp [hentry]), ih, List.lookup_cons, hother]
    · rw [if_pos (by simp [hentry]), List.lookup_cons, List.lookup_cons, ih]

theorem lookup_withEntry (path other : String) (value : α) (table : List (String × α)) :
    (withEntry path value table).lookup other = if other = path then some value else table.lookup other := by
  rw [withEntry, List.lookup_cons]
  by_cases h : other = path
  · rw [if_pos h, beq_iff_eq.2 h]
  · rw [if_neg h, beq_eq_false_iff_ne.2 h]
    exact lookup_filter_ne h table

theorem lookup_changeEntry (path other : String) (change : α → α) (table : List (String × α)) :
    (changeEntry path change table).lookup other = if other = path then (table.lookup other).map change else table.lookup other := by
  induction table with
  | nil => simp [changeEntry]
  | cons entry rest ih =>
    obtain ⟨key, value⟩ := entry
    have hmap : changeEntry path change ((key, value) :: rest) =
        (key, if key = path then change value else value) :: changeEntry path change rest := by
      rw [changeEntry, List.map_cons]
      split <;> rfl
    rw [hmap]
    by_cases hkey : other = key
    · subst hkey
      rw [List.lookup_cons_self, List.lookup_cons_self]
      split <;> rfl
    · rw [List.lookup_cons, List.lookup_cons, beq_eq_false_iff_ne.2 hkey]
      exact ih

end

/-- Whether the paths with contents are those with sources. -/
def Paired (tables : OutputTables) : Prop :=
  ∀ path, (tables.contents.lookup path).isSome = (tables.sources.lookup path).isSome

/-- Whether tables differ from those before by the entries of a file with some bytes and sources. -/
structure HasNew (before : OutputTables) (path : String) (bytes : ByteArray) (sourceIds : List String) (after : OutputTables) : Prop where
  contents : ∀ other, after.contents.lookup other = if other = path then some bytes else before.contents.lookup other
  sources : ∀ other, after.sources.lookup other = if other = path then some sourceIds else before.sources.lookup other

/-- Whether tables differ from those before by the entries of a list of files. -/
structure AddsExactly (before : OutputTables) (files : List GeneratedFile) (after : OutputTables) : Prop where
  added : ∀ file ∈ files, after.contents.lookup file.path = some file.content.toUTF8 ∧ after.sources.lookup file.path = some file.sourceIds
  others : ∀ path ∉ files.map (·.path),
    after.contents.lookup path = before.contents.lookup path ∧ after.sources.lookup path = before.sources.lookup path

variable {tables before after : OutputTables}

/-! ## One file -/

/-- Creating a file succeeds if there is none of its path, and gives it no bytes. -/
theorem create_of_lookup_eq_none {path : String} (h : tables.contents.lookup path = none) (sourceIds : List String) :
    ∃ created, tables.create path sourceIds = .ok created ∧ tables.HasNew path ByteArray.empty sourceIds created := by
  rw [create, h]
  exact ⟨_, rfl, fun other => lookup_withEntry path other _ _, fun other => lookup_withEntry path other _ _⟩

theorem create_of_lookup_ne_none {path : String} (h : tables.contents.lookup path ≠ none) (sourceIds : List String) :
    tables.create path sourceIds = .error (.alreadyCreated path) :=
  if_pos (Option.isSome_iff_ne_none.2 h)

/-- What is written to a new file is put at its end. -/
theorem HasNew.append {path : String} {bytes : ByteArray} {sourceIds : List String} (h : before.HasNew path bytes sourceIds after)
    (more : ByteArray) : before.HasNew path (bytes ++ more) sourceIds (after.append path more) where
  contents other := by
    rw [OutputTables.append, lookup_changeEntry, h.contents other]
    split <;> rfl
  sources := h.sources

theorem HasNew.paired {path : String} {bytes : ByteArray} {sourceIds : List String} (h : before.HasNew path bytes sourceIds after)
    (hbefore : before.Paired) : after.Paired := by
  intro other
  rw [h.contents, h.sources]
  split
  · rfl
  · exact hbefore other

theorem HasNew.addsExactly {file : GeneratedFile} (h : before.HasNew file.path file.content.toUTF8 file.sourceIds after) :
    before.AddsExactly [file] after where
  added other hmem := by
    rw [List.mem_singleton.1 hmem, h.contents, h.sources, if_pos rfl, if_pos rfl]
    exact ⟨rfl, rfl⟩
  others path hmem := by
    have hne : path ≠ file.path := by simpa using hmem
    rw [h.contents, h.sources, if_neg hne, if_neg hne]
    exact ⟨rfl, rfl⟩

/-- A file whose path is free is taken with its content. -/
theorem take_of_lookup_eq_none {file : GeneratedFile} (h : tables.contents.lookup file.path = none) :
    ∃ after, FileSink.take tables file = (after, none) ∧ tables.HasNew file.path file.content.toUTF8 file.sourceIds after := by
  obtain ⟨created, hcreate, hnew⟩ := create_of_lookup_eq_none h file.sourceIds
  refine ⟨created.append file.path file.content.toUTF8, ?_, ?_⟩
  · simp only [FileSink.take, hcreate]
  · have happend := hnew.append file.content.toUTF8
    rwa [ByteArray.empty_append] at happend

theorem take_of_lookup_ne_none {file : GeneratedFile} (h : tables.contents.lookup file.path ≠ none) :
    FileSink.take tables file = (tables, some (.alreadyCreated file.path)) := by
  simp only [FileSink.take, create_of_lookup_ne_none h]

/-! ## Lists of files -/

theorem AddsExactly.refl (tables : OutputTables) : tables.AddsExactly [] tables where
  added _ hmem := absurd hmem List.not_mem_nil
  others _ _ := ⟨rfl, rfl⟩

theorem AddsExactly.cons {file : GeneratedFile} {rest : List GeneratedFile} {between : OutputTables} (hfresh : file.path ∉ rest.map (·.path))
    (hfirst : before.AddsExactly [file] between) (hrest : between.AddsExactly rest after) : before.AddsExactly (file :: rest) after where
  added other hmem := by
    rcases List.mem_cons.1 hmem with rfl | hmem
    · have hown := hrest.others _ hfresh
      have hadded := hfirst.added _ (List.mem_singleton_self _)
      exact ⟨hown.1.trans hadded.1, hown.2.trans hadded.2⟩
    · exact hrest.added other hmem
  others path hmem := by
    rw [List.map_cons, List.mem_cons, not_or] at hmem
    have hlater := hrest.others path hmem.2
    have hearlier := hfirst.others path (by simpa using hmem.1)
    exact ⟨hlater.1.trans hearlier.1, hlater.2.trans hearlier.2⟩

/-- Adding files leaves no path in one table alone. -/
theorem AddsExactly.paired {files : List GeneratedFile} (h : before.AddsExactly files after) (hbefore : before.Paired) : after.Paired := by
  intro path
  by_cases hmem : path ∈ files.map (·.path)
  · obtain ⟨file, hfile, rfl⟩ := List.mem_map.1 hmem
    rw [(h.added file hfile).1, (h.added file hfile).2]
    rfl
  · rw [(h.others path hmem).1, (h.others path hmem).2]
    exact hbefore path

/-- Adding files whose paths are free changes no entry. -/
theorem AddsExactly.keeps {files : List GeneratedFile} (h : before.AddsExactly files after)
    (hfree : ∀ file ∈ files, before.contents.lookup file.path = none) {path : String} (hheld : before.contents.lookup path ≠ none) :
    after.contents.lookup path = before.contents.lookup path ∧ after.sources.lookup path = before.sources.lookup path := by
  refine h.others path fun hmem => ?_
  obtain ⟨file, hfile, rfl⟩ := List.mem_map.1 hmem
  exact hheld (hfree file hfile)

/-- How writing ends: all files were added, or those before the first whose path is not free, which is the error. -/
inductive Ends (before : OutputTables) (files : List GeneratedFile) : OutputTables × Option OutputError → Prop where
  | complete {after : OutputTables} : (∀ file ∈ files, before.contents.lookup file.path = none) → before.AddsExactly files after →
      Ends before files (after, none)
  | stopped {after : OutputTables} (added : List GeneratedFile) (clash : GeneratedFile) (rest : List GeneratedFile) :
      files = added ++ clash :: rest → (∀ file ∈ added, before.contents.lookup file.path = none) →
      before.contents.lookup clash.path ≠ none → before.AddsExactly added after →
      Ends before files (after, some (.alreadyCreated clash.path))

/-- The first file was taken, and writing the others ends. -/
theorem Ends.cons {file : GeneratedFile} {rest : List GeneratedFile} {between : OutputTables} {result : OutputTables × Option OutputError}
    (hfresh : file.path ∉ rest.map (·.path)) (hfree : before.contents.lookup file.path = none)
    (hnew : before.HasNew file.path file.content.toUTF8 file.sourceIds between) (h : Ends between rest result) :
    Ends before (file :: rest) result := by
  -- the paths of the other files are free after the first was taken if they were before
  have hlookup : ∀ other ∈ rest, between.contents.lookup other.path = before.contents.lookup other.path := by
    intro other hmem
    have hne : other.path ≠ file.path := fun heq => hfresh (heq ▸ List.mem_map_of_mem hmem)
    rw [hnew.contents, if_neg hne]
  cases h with
  | complete hrest hadds =>
    refine .complete (List.forall_mem_cons.2 ⟨hfree, fun other hmem => ?_⟩) (hnew.addsExactly.cons hfresh hadds)
    rw [← hlookup other hmem]
    exact hrest other hmem
  | stopped added clash others hsplit hadded hclash hadds =>
    subst hsplit
    refine .stopped (file :: added) clash others rfl (List.forall_mem_cons.2 ⟨hfree, fun other hmem => ?_⟩) ?_
      (hnew.addsExactly.cons (fun hmem => hfresh ?_) hadds)
    · rw [← hlookup other (List.mem_append_left _ hmem)]
      exact hadded other hmem
    · rwa [← hlookup clash (List.mem_append_right _ List.mem_cons_self)]
    · rw [List.map_append]
      exact List.mem_append_left _ hmem

theorem ends_writeEach {files : List GeneratedFile} (hpaths : (files.map (·.path)).Nodup) : Ends tables files (writeEach tables files) := by
  induction files generalizing tables with
  | nil => exact .complete (fun file hmem => absurd hmem List.not_mem_nil) (.refl tables)
  | cons file rest ih =>
    rw [List.map_cons, List.nodup_cons] at hpaths
    by_cases hfree : tables.contents.lookup file.path = none
    · obtain ⟨between, htake, hnew⟩ := take_of_lookup_eq_none hfree
      rw [writeEach, htake]
      exact (ih hpaths.2).cons hpaths.1 hfree hnew
    · rw [writeEach, take_of_lookup_ne_none hfree]
      exact .stopped [] file rest rfl (fun other hmem => absurd hmem List.not_mem_nil) hfree (.refl tables)

/-! ## What writing promises -/

/-- Whether the result of writing files is what the files and the tables before ask for. -/
structure Flushes (before : OutputTables) (files : List GeneratedFile) (result : OutputTables × Option OutputError) : Prop where
  /-- Writing succeeds if no path repeats and each is free. -/
  succeeds : result.2 = none ↔ (files.map (·.path)).Nodup ∧ ∀ file ∈ files, before.contents.lookup file.path = none
  complete : result.2 = none → before.AddsExactly files result.1
  untouched : ¬(files.map (·.path)).Nodup → result.1 = before
  /-- If writing stops in the middle, then the files before the first whose path is not free were added. -/
  stopped : (files.map (·.path)).Nodup → result.2 ≠ none →
    ∃ added clash rest, files = added ++ clash :: rest ∧ (∀ file ∈ added, before.contents.lookup file.path = none) ∧
      before.contents.lookup clash.path ≠ none ∧ result.2 = some (.alreadyCreated clash.path) ∧ before.AddsExactly added result.1
  keeps : ∀ path, before.contents.lookup path ≠ none →
    result.1.contents.lookup path = before.contents.lookup path ∧ result.1.sources.lookup path = before.sources.lookup path
  paired : before.Paired ∧ result.1.Paired

theorem flushes_of_not_nodup {files : List GeneratedFile} (hpaths : ¬(files.map (·.path)).Nodup) (hpaired : before.Paired) (path : String) :
    before.Flushes files (before, some (.alreadyCreated path)) where
  succeeds := iff_of_false (Option.some_ne_none _) fun h => hpaths h.1
  complete h := absurd h (Option.some_ne_none _)
  untouched _ := rfl
  stopped h := absurd h hpaths
  keeps _ _ := ⟨rfl, rfl⟩
  paired := ⟨hpaired, hpaired⟩

theorem Ends.flushes {files : List GeneratedFile} {result : OutputTables × Option OutputError} (h : Ends before files result)
    (hpaths : (files.map (·.path)).Nodup) (hpaired : before.Paired) : before.Flushes files result := by
  cases h with
  | complete hfree hadds =>
    exact {
      succeeds := iff_of_true rfl ⟨hpaths, hfree⟩
      complete := fun _ => hadds
      untouched := fun h => absurd hpaths h
      stopped := fun _ h => absurd rfl h
      keeps := fun _ hheld => hadds.keeps hfree hheld
      paired := ⟨hpaired, hadds.paired hpaired⟩ }
  | stopped added clash rest hsplit hfree hclash hadds =>
    have hmem : clash ∈ files := hsplit ▸ List.mem_append_right _ List.mem_cons_self
    exact {
      succeeds := iff_of_false (Option.some_ne_none _) fun h => hclash (h.2 clash hmem)
      complete := fun h => absurd h (Option.some_ne_none _)
      untouched := fun h => absurd hpaths h
      stopped := fun _ _ => ⟨added, clash, rest, hsplit, hfree, hclash, rfl, hadds⟩
      keeps := fun _ hheld => hadds.keeps hfree hheld
      paired := ⟨hpaired, hadds.paired hpaired⟩ }

/-- Writing files keeps its promises on tables that no call has torn apart. -/
theorem Paired.flushes (h : tables.Paired) (files : List GeneratedFile) : tables.Flushes files (writeFiles tables files) := by
  by_cases hpaths : (files.map (·.path)).Nodup
  · rw [writeFiles_of_nodup tables hpaths]
    exact (ends_writeEach hpaths).flushes hpaths h
  · obtain ⟨path, hwrite⟩ := writeFiles_of_not_nodup tables hpaths
    rw [hwrite]
    exact flushes_of_not_nodup hpaths h path

/-! ## Sequences of calls -/

/-- The tables that calls lead to, be they successful or not. -/
def reached (calls : List OutputCall) : OutputTables :=
  calls.foldl call empty

theorem exists_hasNew_foldl_append {path : String} {sourceIds : List String} (pieces : List ByteArray) {bytes : ByteArray}
    (h : before.HasNew path bytes sourceIds after) : ∃ all, before.HasNew path all sourceIds (pieces.foldl (·.append path) after) := by
  induction pieces generalizing bytes after with
  | nil => exact ⟨bytes, h⟩
  | cons piece rest ih => exact ih (h.append piece)

/-- No call leaves a path in one table alone. -/
theorem paired_call (h : tables.Paired) (call : OutputCall) : (tables.call call).Paired := by
  cases call with
  | create package name extension sourceIds pieces =>
    by_cases hfree : tables.contents.lookup (relativePath package name extension) = none
    · obtain ⟨created, hcreate, hnew⟩ := create_of_lookup_eq_none hfree sourceIds
      obtain ⟨all, hall⟩ := exists_hasNew_foldl_append pieces hnew
      simp only [OutputTables.call, hcreate]
      exact hall.paired h
    · simp only [OutputTables.call, create_of_lookup_ne_none hfree]
      exact h
  | write files => exact (h.flushes files).paired.2

theorem paired_reached (calls : List OutputCall) : (reached calls).Paired := by
  have hfold : ∀ tables : OutputTables, tables.Paired → (calls.foldl OutputTables.call tables).Paired := by
    induction calls with
    | nil => exact fun tables h => h
    | cons call rest ih => exact fun tables h => ih _ (paired_call h call)
  exact hfold empty fun _ => rfl

end OutputTables

/-! ## What an output shows -/

/-- Whether an output shows what is in tables. -/
structure MemoryOutput.Shows (output : MemoryOutput) (tables : OutputTables) : Prop where
  contents : ∀ path, tables.contents.lookup path = (output.content? path).map String.toUTF8
  sources : ∀ path, tables.sources.lookup path = output.sourceIds? path

namespace MemoryOutput

variable {output : MemoryOutput} {tables : OutputTables}

theorem shows_empty : empty.Shows OutputTables.empty :=
  ⟨fun _ => rfl, fun _ => rfl⟩

theorem file?_adding {file : GeneratedFile} (h : output.file? file.path = none) (path : String) :
    (output.adding [file]).file? path = if path = file.path then some file.stored else output.file? path := by
  rw [file?, adding, List.find?_append]
  split
  · rename_i hpath
    rw [hpath, ← file?, h]
    simp [GeneratedFile.stored]
  · rename_i hpath
    rw [← file?]
    simp [GeneratedFile.stored, Ne.symm hpath]

/-- An output and the tables that it shows take the same files, and afterwards it shows what is in the tables then. -/
theorem Shows.take (h : output.Shows tables) (file : GeneratedFile) :
    (FileSink.take output file).1.Shows (FileSink.take tables file).1 ∧ (FileSink.take output file).2 = (FileSink.take tables file).2 := by
  have hcontents := h.contents file.path
  by_cases hfree : output.file? file.path = none
  · rw [content?, hfree] at hcontents
    obtain ⟨after, htake, hnew⟩ := OutputTables.take_of_lookup_eq_none hcontents
    rw [take_of_lacks (Option.isNone_iff_eq_none.2 hfree), htake]
    refine ⟨⟨fun path => ?_, fun path => ?_⟩, rfl⟩
    · rw [hnew.contents, content?, file?_adding hfree, h.contents, content?]
      split <;> rfl
    · rw [hnew.sources, sourceIds?, file?_adding hfree, h.sources, sourceIds?]
      split <;> rfl
  · have hheld : tables.contents.lookup file.path ≠ none := by simpa [hcontents, content?] using hfree
    rw [take_of_not_lacks (Option.isNone_eq_false_iff.2 (Option.isSome_iff_ne_none.2 hfree)), OutputTables.take_of_lookup_ne_none hheld]
    exact ⟨h, rfl⟩

theorem Shows.writeEach (h : output.Shows tables) (files : List GeneratedFile) :
    (NavGen.writeEach output files).1.Shows (NavGen.writeEach tables files).1 ∧
      (NavGen.writeEach output files).2 = (NavGen.writeEach tables files).2 := by
  induction files generalizing output tables with
  | nil => exact ⟨h, rfl⟩
  | cons file rest ih =>
    obtain ⟨hshows, herror⟩ := h.take file
    rw [NavGen.writeEach, NavGen.writeEach]
    revert hshows herror
    rcases FileSink.take output file with ⟨shown, error⟩
    rcases FileSink.take tables file with ⟨held, error'⟩
    rintro hshows rfl
    cases error with
    | none => exact ih hshows
    | some error => exact ⟨hshows, rfl⟩

theorem Shows.writeFiles (h : output.Shows tables) (files : List GeneratedFile) :
    (NavGen.writeFiles output files).1.Shows (NavGen.writeFiles tables files).1 ∧
      (NavGen.writeFiles output files).2 = (NavGen.writeFiles tables files).2 := by
  rw [NavGen.writeFiles, NavGen.writeFiles]
  cases firstRepeated? [] (files.map (·.path)) with
  | none => exact h.writeEach files
  | some path => exact ⟨h, rfl⟩

/-- The output that writing lists of files leads to. -/
def written (batches : List (List GeneratedFile)) : MemoryOutput :=
  batches.foldl (fun output files => (NavGen.writeFiles output files).1) empty

theorem shows_written (batches : List (List GeneratedFile)) : (written batches).Shows (OutputTables.reached (batches.map .write)) := by
  have hfold : ∀ (output : MemoryOutput) (tables : OutputTables), output.Shows tables →
      (batches.foldl (fun output files => (NavGen.writeFiles output files).1) output).Shows
        ((batches.map OutputCall.write).foldl OutputTables.call tables) := by
    induction batches with
    | nil => exact fun output tables h => h
    | cons files rest ih => exact fun output tables h => ih _ _ (h.writeFiles files).1
  exact hfold empty .empty shows_empty

end MemoryOutput

namespace OutputTables

/-- Whatever calls came before, writing files succeeds exactly if their paths are distinct and free. Then exactly these files are added; if paths
repeat, nothing changes; else exactly the files before the first whose path is not free are added. In each case the files that were there stay, and a
path has contents exactly if it has sources. The output in memory shows all of this. -/
theorem flushes_writeFiles :
    (∀ (calls : List OutputCall) (files : List GeneratedFile), (reached calls).Flushes files (writeFiles (reached calls) files)) ∧
      ∀ (batches : List (List GeneratedFile)) (files : List GeneratedFile),
        (MemoryOutput.written batches).Shows (reached (batches.map .write)) ∧
          (writeFiles (MemoryOutput.written batches) files).2 = (writeFiles (reached (batches.map .write)) files).2 := by
  refine ⟨fun calls files => (paired_reached calls).flushes files, fun batches files => ?_⟩
  have hshows := MemoryOutput.shows_written batches
  exact ⟨hshows, (hshows.writeFiles files).2⟩

end OutputTables

end NavGen
