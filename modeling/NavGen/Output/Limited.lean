import NavGen.Output.Sink

/-!
# Outputs that run full

An output with room for a number of files. It creates every file it is given, but cannot write those beyond its room, be they empty.
-/

namespace NavGen

/-- An output with room for `capacity` files, and the names of the files created. -/
structure LimitedOutput where
  capacity : Nat
  created : List String

namespace LimitedOutput

/-- The output before anything is created. -/
def ofCapacity (capacity : Nat) : LimitedOutput :=
  { capacity, created := [] }

instance : FileSink LimitedOutput where
  take output file :=
    ({ output with created := output.created ++ [file.name] },
      if output.created.length < output.capacity then none else some (.notWritten file.path (some "sink is full")))

end LimitedOutput

end NavGen
