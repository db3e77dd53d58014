import HeaderBindings.CommandLine.Program

/-!
# The executable

Arguments and the name of the log filter come from the system, files are those of the
machine, and the log goes to standard error.  No program is started to format source,
so that every formatter is a missing one.
-/

namespace HeaderBindings

def Fault.ofSystem : IO.Error → Fault
  | .noFileOrDirectory .. => .notFound
  | .alreadyExists .. => .exists
  | .inappropriateType .. => .notDirectory
  | e => .other (toString e)

/-- Perform an operation of the system and report its fault. -/
def attempt {α : Type} (act : IO α) : IO (Except Fault α) := do
  match ← act.toBaseIO with
  | .ok a => return .ok a
  | .error e => return .error (.ofSystem e)

instance : FileAccess IO where
  read p := do
    return (← attempt (IO.FS.readBinFile (String.ofList p))).map fun b => b.data.toList
  createDirs p := attempt (IO.FS.createDirAll (String.ofList p))
  write p contents :=
    attempt (IO.FS.writeBinFile (String.ofList p) ⟨contents.toArray⟩)

end HeaderBindings

open HeaderBindings in
def main (args : List String) : IO UInt32 := do
  let named := (← IO.getEnv "RUST_LOG").map String.toList
  let ending ← CommandLine.call Formatter.missing (args.map String.toList) named
  for line in ending.log do
    IO.eprintln (String.ofList line)
  IO.print (String.ofList ending.stdout)
  match ending.complaint with
  | some complaint => IO.eprintln ("Error: " ++ String.ofList complaint)
  | none => pure ()
  return ending.status.toUInt32
