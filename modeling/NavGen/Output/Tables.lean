import NavGen.Output.Sink

/-!
# The tables of an output

What an output in memory is made of: a table with the bytes of each file and a table with its sources, both by path. A file is created without bytes,
and what is written to it is put at its end.
-/

namespace NavGen

/-- The tables of an output. -/
structure OutputTables where
  contents : List (String × ByteArray)
  sources : List (String × List String)

/-- A call of an output. -/
inductive OutputCall where
  /-- A file is created, and its bytes are written piece by piece. -/
  | create (package name extension : String) (sourceIds : List String) (pieces : List ByteArray)
  /-- A list of files is written. -/
  | write (files : List GeneratedFile)

namespace OutputTables

/-- The tables of an output without files. -/
def empty : OutputTables :=
  { contents := [], sources := [] }

/-- A table with an entry for a path, in place of the one that it may have. -/
def withEntry {α : Type} (path : String) (value : α) (table : List (String × α)) : List (String × α) :=
  (path, value) :: table.filter (·.1 != path)

/-- A table with the entry for a path changed, if it has one. -/
def changeEntry {α : Type} (path : String) (change : α → α) (table : List (String × α)) : List (String × α) :=
  table.map fun entry => if entry.1 = path then (entry.1, change entry.2) else entry

/-- Creates a file without bytes. -/
def create (tables : OutputTables) (path : String) (sourceIds : List String) : Except OutputError OutputTables :=
  if (tables.contents.lookup path).isSome then .error (.alreadyCreated path)
  else .ok { contents := withEntry path ByteArray.empty tables.contents, sources := withEntry path sourceIds tables.sources }

/-- Writes bytes at the end of a file. -/
def append (tables : OutputTables) (path : String) (bytes : ByteArray) : OutputTables :=
  { tables with contents := changeEntry path (· ++ bytes) tables.contents }

instance : FileSink OutputTables where
  take tables file :=
    match tables.create file.path file.sourceIds with
    | .ok created => (created.append file.path file.content.toUTF8, none)
    | .error error => (tables, some error)

/-- The tables after a call, be it successful or not. -/
def call (tables : OutputTables) : OutputCall → OutputTables
  | .create package name extension sourceIds pieces =>
    let path := relativePath package name extension
    match tables.create path sourceIds with
    | .ok created => pieces.foldl (·.append path) created
    | .error _ => tables
  | .write files => (writeFiles tables files).1

end OutputTables

end NavGen
