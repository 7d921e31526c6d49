import GirAda.Gir.Repository
import GirAda.Override.Registry
import GirAda.Config.OfText
import GirAda.Generator.Run

/-!
# Workspaces

A file system held in memory and seen from a working directory, read and written by the rules
of POSIX. A path is walked component by component from the working directory, or from the root when it starts
with `/`: an empty
component or `.` stays where the walk is, `..` goes up (the root stays where it is), and any
other name must be a directory that exists, or the walk fails with "not found" or "not a
directory". The directories leading to the working directory exist. The last component is what
is read or written; a path ending in `/` names a directory, and one ending in `.` or `..` names
the directory reached. A directory cannot be read or written as a file, and the empty path
names nothing. A path with a NUL character is refused before any of this, and so is one of 4096
bytes or more; a component longer than 255 bytes is too long when the walk comes to it.

Creating a directory with its missing parents takes the parents as the written path lists them
(`..` kept, `.` dropped), making each one that is not found, the way `mkdir -p` does. The
loaders of repositories, overrides and settings read their files from a workspace, and
`writeOutput` writes generated text, creating the directories above it first.
-/

namespace GirAda

/-- What a path names. -/
inductive Entry where
  | file (contents : String)
  | directory
  deriving DecidableEq, Repr, Inhabited

/-- A file system seen from a working directory. -/
structure Workspace where
  /-- The working directory, by its components from the root. -/
  cwd : List String
  /-- Every file and directory, by its components from the root, the working directory and
  those above it aside. -/
  entries : List (List String × Entry)
  deriving Repr, Inhabited

/-- The components of a path as written, without empty components and `.`: `..` is kept, since
whether it undoes the name before it depends on that name being a directory. -/
def pathComponents (path : String) : List String :=
  (path.splitOn "/").filter (fun c => !c.isEmpty && c != ".")

/-- The longest component of a path, in bytes. -/
def nameMax : Nat := 255

/-- The length in bytes from which a path is too long. -/
def pathMax : Nat := 4096

/-- Refuse a path that holds a NUL character or is too long. -/
def checkPath (path : String) : Except FileFault Unit :=
  if path.toList.contains '\x00' then .error .nulInName
  else if pathMax ≤ path.utf8ByteSize then .error .nameTooLong
  else .ok ()

/-- What the last component of a path names: an entry, present or not, by its components from
the root, or a directory reached by `.` or `..`. -/
inductive Target where
  | entry (components : List String) (entry : Option Entry)
  | directory
  deriving Repr

namespace Workspace

/-- An empty file system, seen from its root. -/
def empty : Workspace := ⟨[], []⟩

/-- An empty file system seen from a working directory, which exists with those above it. -/
def inDirectory (cwd : List String) : Workspace := ⟨cwd, []⟩

/-- What the components from the root name: the working directory and those above it are
directories. -/
def lookup (ws : Workspace) (cs : List String) : Option Entry :=
  if cs.isPrefixOf ws.cwd then some .directory else (ws.entries.find? (·.1 == cs)).map Prod.snd

/-- Set what the components from the root name. -/
def set (ws : Workspace) (cs : List String) (e : Entry) : Workspace :=
  ⟨ws.cwd, (ws.entries.filter (·.1 != cs)) ++ [(cs, e)]⟩

/-- Set what a name in the working directory names. -/
def place (ws : Workspace) (name : String) (e : Entry) : Workspace := ws.set (ws.cwd ++ [name]) e

/-- Walk from a directory through directories, one component at a time. -/
def walk (ws : Workspace) : List String → List String → Except FileFault (List String)
  | d, [] => .ok d
  | d, c :: cs =>
    if c.isEmpty || c == "." then ws.walk d cs
    else if c == ".." then ws.walk d.dropLast cs
    else if nameMax < c.utf8ByteSize then .error .nameTooLong
    else
      match ws.lookup (d ++ [c]) with
      | some .directory => ws.walk (d ++ [c]) cs
      | some (.file _) => .error .notDirectory
      | none => .error .notFound

/-- The directory a walk along a path starts from: the root for a path starting with `/`, the
working directory for any other. -/
def origin (ws : Workspace) (path : String) : List String :=
  if path.startsWith "/" then [] else ws.cwd

/-- What a path names, after walking the directories above its last component. -/
def target (ws : Workspace) (path : String) : Except FileFault Target := do
  checkPath path
  if path.isEmpty then throw .notFound
  let names := (path.splitOn "/").filter (fun c => !c.isEmpty)
  match names.getLast? with
  | none => return .directory
  | some last =>
    let d ← ws.walk (ws.origin path) names.dropLast
    if last == "." || last == ".." then return .directory
    else if nameMax < last.utf8ByteSize then throw .nameTooLong
    else return .entry (d ++ [last]) (ws.lookup (d ++ [last]))

/-- The contents of a file. -/
def read (ws : Workspace) (path : String) : Except FileFault String := do
  match ← ws.target path with
  | .entry _ (some (.file t)) => if path.endsWith "/" then throw .notDirectory else return t
  | .entry _ (some .directory) | .directory => throw .isDirectory
  | .entry _ none => throw .notFound

/-- Write a file, replacing what it held; its directory must exist. -/
def write (ws : Workspace) (path text : String) : Except FileFault Workspace := do
  match ← ws.target path with
  | .entry cs (some (.file _)) =>
    if path.endsWith "/" then throw .notDirectory else return ws.set cs (.file text)
  | .entry cs none => if path.endsWith "/" then throw .isDirectory else return ws.set cs (.file text)
  | .entry _ (some .directory) | .directory => throw .isDirectory

/-- Whether the components, walked from `start`, lead to a directory. -/
def isDirectory (ws : Workspace) (start cs : List String) : Bool :=
  match ws.walk start cs with
  | .ok _ => true
  | .error _ => false

/-- Make one directory, named by its components from `start`; the directory above must
exist. -/
def makeDirectory (ws : Workspace) (start cs : List String) : Except FileFault Workspace := do
  match cs.getLast? with
  | none => throw .fileExists
  | some last =>
    let d ← ws.walk start cs.dropLast
    if last == ".." then throw .fileExists
    else if nameMax < last.utf8ByteSize then throw .nameTooLong
    else
      match ws.lookup (d ++ [last]) with
      | some _ => throw .fileExists
      | none => return ws.set (d ++ [last]) .directory

/-- Make a directory and the missing ones above it; `rev` lists its components last first. A
directory above is made only when making this one finds something missing, and a failure is
forgiven when a directory stands there after all. -/
def createDirAllRev (ws : Workspace) (start : List String) :
    List String → Except FileFault Workspace
  | [] => .ok ws
  | c :: rest =>
    let cs := (c :: rest).reverse
    match ws.makeDirectory start cs with
    | .ok ws' => .ok ws'
    | .error .notFound => do
      let ws' ← ws.createDirAllRev start rest
      match ws'.makeDirectory start cs with
      | .ok w => .ok w
      | .error e => if ws'.isDirectory start cs then .ok ws' else .error e
    | .error e => if ws.isDirectory start cs then .ok ws else .error e

/-- Make a directory, named by its components from `start`, and the missing ones above it. -/
def createDirAll (ws : Workspace) (start cs : List String) : Except FileFault Workspace :=
  ws.createDirAllRev start cs.reverse

/-- Write generated text to a path, creating the directories above it first; the path of
those directories is checked as a path of its own. -/
def writeOutput (ws : Workspace) (path text : String) : Except RunError Workspace :=
  let parent := (pathComponents path).dropLast
  let parentText := (if path.startsWith "/" then "/" else "") ++ "/".intercalate parent
  let made : Except FileFault Workspace :=
    if parent.isEmpty then .ok ws
    else checkPath parentText >>= fun _ => ws.createDirAll (ws.origin path) parent
  match made >>= fun ws => ws.write path text with
  | .ok ws => .ok ws
  | .error f => .error (.failedToWrite path f)

/-- Load a repository from a file. -/
def loadRepository (ws : Workspace) (path : String) : Except Gir.LoadError Gir.Repository :=
  Gir.Repository.ofFile path (ws.read path)

/-- Load overrides from a file. -/
def loadOverrides (ws : Workspace) (path : String) : Except Gir.LoadError Override.Registry :=
  Override.Registry.ofFile path (ws.read path)

/-- Load settings from a file. -/
def loadConfig (ws : Workspace) (path : String) : Except Config.ConfigError Config :=
  Config.ofFile path (ws.read path)

end Workspace

end GirAda
