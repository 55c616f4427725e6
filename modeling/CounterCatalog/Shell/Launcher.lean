import CounterCatalog.Shell.Evaluate

/-!
# The shell as a launcher

With the tools of the system and a shell for scripts, children need no system to run on: what they do is a
function of what they are started with and of the files. A child is over when all jobs that it has left behind
are over too. A script that takes more than `stepLimit` steps inside one another is ended like one that was
killed.

Only `Main` depends on the modules of the shell. Everything else in the library takes the launcher as a parameter, so
what is proved of a run holds whatever its children are, and nothing is proved of the shell.
-/

set_option autoImplicit false

namespace CounterCatalog.Shell

/-- How many steps a script may take inside one another. -/
def stepLimit : Nat := 25000

/-- The number of the first process. -/
def firstProcess : Nat := 4200

/-- The world in which a program begins that is started from outside: it reads nothing, and each of its two
outputs goes to a channel. -/
def World.start (tree : Tree) : World where
  tree := tree
  openings := #[.ofReading (.device .null), .ofWriting (.channel 0), .ofWriting (.channel 1)]
  channels := #[⟨[], 0, [], none, false⟩, ⟨[], 0, [], none, false⟩]
  clock := 0
  nextProcess := firstProcess + 1
  posted := []
  orphans := []
  documents := #[]
  supply := firstSupply
  starved := false

/-- The frame in which a program begins that is started from outside. -/
def Frame.start (environment : Environment) (directory : Handle) : Frame where
  process := firstProcess
  parent := 1
  shellProcess := firstProcess
  directory := directory
  shownDirectory := []
  plainDirectory? := none
  streams := [(0, 0), (1, 1), (2, 2)]
  mask := 0o022
  ignored := []
  alarms := []
  title := []
  arguments := []
  values := environment.settings.map fun item =>
    (Chars.ofString item.1, ⟨some (Chars.ofString item.2), true, false⟩)
  scopes := []
  functions := []
  aliases := []
  traps := []
  options := []
  status := 0
  substituted := 0
  loops := 0
  calls := 0
  trapStatus? := none
  line := 0
  speaker? := none
  lastJob? := none
  known := []
  optionIndex := 1
  optionOffset? := none

/-- Runs the jobs that processes have left behind, and those that these leave behind, given how often that may
go on. -/
def runOrphans (run : Runner) : Nat → Step Unit
  | 0 => return ()
  | rounds + 1 => do
    let machine ← get
    if machine.orphans.isEmpty then return ()
    set { machine with orphans := [] }
    for job in machine.orphans do
      let _ ← Step.runJob (Step.runWhole run) job
    runOrphans run rounds

/-- Runs a program from its beginning until all is over, and gives how it ended. -/
def runImage (image : Image) : Step Status := do
  let run := Step.exec stepLimit
  let status ← Step.runFrame (← get).toFrame (Step.goOn run image)
  runOrphans run stepLimit
  return status

/-- What the children do whose programs are tools of the system and scripts. -/
def launcher (environment : Environment) : Launcher := fun launch tree =>
  let arguments := launch.args.map Chars.ofString
  let path? := (environment.value? "PATH").map Chars.ofString
  match Image.find tree launch.directory path? (Chars.ofString launch.program) arguments with
  | .error fault => .error fault
  | .ok image =>
    let frame := Frame.start environment launch.directory
    let machine : Machine := { World.start tree, frame with jobs := [] }
    let (result, after) := (runImage image).run machine
    let status :=
      match result with
      | .ok status => status
      | .error _ => .signalled 9
    .ok
      { status := status
        stdout := after.channelContent 0
        stderr := after.channelContent 1
        tree := after.tree }

/-- The names on the way to the directory that holds the tools of the system. -/
def toolWay : List String := ["usr", "bin"]

/-- The tree with a directory below another one, and its handle. -/
def addDirectory (state : Handle × Tree) (name : String) : Handle × Tree :=
  match state.2.child? state.1 (Text.Utf8.encode name) with
  | some handle => (handle, state.2)
  | none => state.2.placeDirectory state.1 (Text.Utf8.encode name) Node.openMode

/-- The tree with something at the end of a way from the root. -/
def addNode (tree : Tree) (way : List String) (name : String) (node : Node) : Tree :=
  let (directory, tree) := way.foldl addDirectory (Tree.root, tree)
  (tree.place directory (Text.Utf8.encode name) node).2

/-- A symbolic link to a path. -/
def linkTo (path : String) : Node :=
  .link (Text.Utf8.encode path)

/-- The devices, and the names under which a process finds its own streams. -/
def systemNodes : List (List String × String × Node) :=
  let streams := (List.range 10).map fun n =>
    (["proc", "self", "fd"], toString n, Node.stream n)
  [(["dev"], "null", .device .null), (["dev"], "zero", .device .zero), (["dev"], "full", .device .full),
   (["dev"], "tty", .device .terminal), (["dev"], "fd", linkTo "/proc/self/fd"),
   (["dev"], "stdin", linkTo "/proc/self/fd/0"), (["dev"], "stdout", linkTo "/proc/self/fd/1"),
   (["dev"], "stderr", linkTo "/proc/self/fd/2"), ([], "bin", linkTo "usr/bin")] ++ streams

/-- The tree with the tools of the system and the devices in it. -/
def withTools (tree : Tree) : Tree :=
  let tree := Tool.names.foldl (fun tree name => addNode tree toolWay name (.program name)) tree
  systemNodes.foldl (fun tree item => addNode tree item.1 item.2.1 item.2.2) tree

end CounterCatalog.Shell
