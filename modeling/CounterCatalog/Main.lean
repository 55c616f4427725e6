import CounterCatalog.Program
import CounterCatalog.Shell.Launcher
import CounterCatalog.Tree.Difference

/-!
# The command line

The program works on a copy of the files: those below the current directory, and those that the arguments
name. Children are run by the shell of this library. When the program has ended, what it wrote is printed
and what it changed in the copy is done to the files themselves. A file counts as one that can be run when
its first line names an interpreter.
-/

set_option autoImplicit false

namespace CounterCatalog.Main

/-- The names on the way down from the root that an absolute path spells. -/
def wayOf (path : String) : List String :=
  (Path.segments path).filter fun segment => !Path.isIdle segment

/-- The path of names on the way down from the root. -/
def pathOf (way : List Name) : String :=
  Text.Utf8.decodeLossy (Tree.pathOf way)

/-- The directory at the end of a way, and the tree with it and all directories on that way. -/
def directoryAt (tree : Tree) (way : List String) : Handle × Tree :=
  way.foldl Shell.addDirectory (Tree.root, tree)

/-- A regular file with the permissions that its content asks for. -/
def fileOf (content : ByteArray) : Node :=
  let runs := (Shell.Image.interpreter? content.toList).isSome
  .file content.toList (if runs then Node.openMode else Node.fileMode)

/-- The tree with a node under a name in a directory. -/
def placed (tree : Tree) (directory : Handle) (name : String) (node : Node) : Tree :=
  (tree.place directory (Text.Utf8.encode name) node).2

/-- The tree with what some entries of a directory are, and everything below them. -/
partial def load (tree : Tree) (directory : Handle) (entries : List IO.FS.DirEntry) : IO Tree :=
  match entries with
  | [] => pure tree
  | entry :: rest => do
    let tree ←
      match (← entry.path.symlinkMetadata).type with
      | .dir =>
        let (inner, tree) := Shell.addDirectory (directory, tree) entry.fileName
        load tree inner (← entry.path.readDir).toList
      | .file => pure (placed tree directory entry.fileName (fileOf (← IO.FS.readBinFile entry.path)))
      | .symlink =>
        try pure (placed tree directory entry.fileName (Shell.linkTo (← IO.FS.realPath entry.path).toString))
        catch _ => pure tree
      | .other => pure tree
    load tree directory rest

/-- The tree with what a path that an argument names is, if it is something that is not there yet. -/
def loadNamed (tree : Tree) (path : String) : IO Tree := do
  try
    let found ← IO.FS.realPath path
    let way := wayOf found.toString
    if (tree.locate Tree.root (Text.Utf8.encode found.toString)).toOption.isSome then return tree
    match (← found.metadata).type with
    | .dir =>
      let (directory, tree) := directoryAt tree way
      load tree directory (← found.readDir).toList
    | .file =>
      let (directory, tree) := directoryAt tree way.dropLast
      return placed tree directory (way.getLast?.getD "") (fileOf (← IO.FS.readBinFile found))
    | _ => return tree
  catch _ => return tree

/-- The variables of the environment that matter to the program and to the children that it starts. -/
def consulted : List String :=
  ["PERFLIST_CHECKOUT", "PERFLIST_OUTPUT", "PERFLIST_URL", "PERFLIST_BRANCH", "PERFLIST_GIT",
   "PERFLIST_MAKE", "PERFLIST_STRICT", "CLICOLOR_FORCE", "NO_COLOR", "PATH", "HOME", "LC_ALL"]

/-- The environment. -/
def readEnvironment : IO Environment := do
  let values ← consulted.mapM fun name => do
    return (← IO.getEnv name).toList.map fun value => (name, value)
  return ⟨values.flatten⟩

/-- Makes a directory or a regular file what it is in the copy. -/
def put (path : String) (node : Node) : IO Unit :=
  match node with
  | .directory _ _ _ => IO.FS.createDirAll path
  | .file content _ => IO.FS.writeBinFile path ⟨content.toArray⟩
  | _ => pure ()

/-- Takes away what is at a path, which may be an empty directory. -/
def remove (path : String) : IO Unit := do
  try IO.FS.removeFile path
  catch _ => try IO.FS.removeDir path catch _ => pure ()

/-- Does to the files what was done to their copy. -/
def apply (change : Tree.Change) : IO Unit :=
  match change with
  | .put way node => put (pathOf way) node
  | .remove way => remove (pathOf way)

end CounterCatalog.Main

open CounterCatalog in
/-- Runs the program on the files below the current directory and those that the arguments name. -/
def main (args : List String) : IO UInt32 := do
  let directory ← IO.currentDir
  let (cwd, base) := Main.directoryAt (Shell.withTools Tree.empty) (Main.wayOf directory.toString)
  let tree ← Main.load base cwd (← directory.readDir).toList
  let tree ← args.foldlM Main.loadNamed tree
  let environment ← Main.readEnvironment
  let result := Program.run (Shell.launcher environment) environment tree cwd args
  (tree.changes result.tree).forM Main.apply
  IO.print result.stdout
  (← IO.getStderr).write ⟨result.stderr.toArray⟩
  return UInt32.ofNat result.exit
