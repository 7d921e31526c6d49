import GirAda.Workspace

/-!
# Command line

`girada GIR OVERRIDES` binds the classes of an introspection document and writes the Ada
packages to the path the settings name (`generated/tmp.ada` by default). The settings come from
the JSON file named by the `GIRGEN_CONFIG` environment variable, if it is set. Every construct
that could not be bound is listed on standard output. On an error, the error and its causes go
to standard error and the exit code is 1.

This is the only module that touches the file system; everything it calls is pure.
-/

namespace GirAda.Main

/-- The file fault of a system error. -/
def faultOf : IO.Error → FileFault
  | .noFileOrDirectory .. => .notFound
  | .alreadyExists .. => .fileExists
  | .permissionDenied .. => .permissionDenied
  | .inappropriateType _ 21 _ => .isDirectory
  | .inappropriateType _ 20 _ => .notDirectory
  | .invalidArgument _ 36 _ => .nameTooLong
  | e => .other (toString e)

/-- The text of a file, or why it could not be read. -/
def readText (path : String) : IO (Except FileFault String) := do
  try return .ok (← IO.FS.readFile path)
  catch e => return .error (faultOf e)

/-- The directory part of a path, empty when there is none. -/
def parentOf (path : String) : String :=
  match (path.splitOn "/").dropLast with
  | [] => ""
  | [""] => "/"
  | parts => "/".intercalate parts

/-- Write text to a path, creating the directories above it. -/
def writeText (path text : String) : IO (Except FileFault Unit) := do
  try
    let parent := parentOf path
    if !parent.isEmpty then IO.FS.createDirAll parent
    IO.FS.writeFile path text
    return .ok ()
  catch e => return .error (faultOf e)

/-- Report an error and its causes on standard error. -/
def report (message : String) (causes : List String) : IO UInt32 := do
  let stderr ← IO.getStderr
  stderr.putStrLn ("Error: " ++ message)
  match causes with
  | [] => pure ()
  | [c] => stderr.putStrLn ("\nCaused by:\n    " ++ c)
  | cs =>
    stderr.putStrLn "\nCaused by:"
    for (c, i) in cs.zipIdx do
      stderr.putStrLn ("    " ++ toString i ++ ": " ++ c)
  return 1

/-- The settings: from the file `GIRGEN_CONFIG` names, or the defaults. -/
def loadConfig : IO (Except Config.ConfigError Config) := do
  match ← IO.getEnv "GIRGEN_CONFIG" with
  | some path => return Config.ofFile path (← readText path)
  | none => return .ok Config.default

/-- Run the generator on the files named by the arguments. -/
def run (gir overrides : String) : IO UInt32 := do
  match ← loadConfig with
  | .error e =>
    report "Failed to load the generator config" (e.message :: e.causes)
  | .ok config =>
  match Gir.Repository.ofFile gir (← readText gir) with
  | .error e => report e.message e.causes
  | .ok repo =>
  match Override.Registry.ofFile overrides (← readText overrides) with
  | .error e => report e.message e.causes
  | .ok registry =>
  match (Generator.new repo registry config).generate config with
  | .error e => report e.message e.causes
  | .ok out =>
    for d in out.diagnostics do
      IO.println d.display
    match ← writeText config.outputPath out.text with
    | .ok () => return 0
    | .error f => report (RunError.failedToWrite config.outputPath f).message [f.message]

end GirAda.Main

/-- The command line: two arguments, the introspection document and the override database. -/
def main (args : List String) : IO UInt32 := do
  match args with
  | [gir, overrides] => GirAda.Main.run gir overrides
  | _ =>
    IO.eprintln "Usage: girada <GIR> <OVERRIDES>"
    return 2
