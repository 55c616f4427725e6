import CounterCatalog.Process.Command
import CounterCatalog.Proofs.Host.Perform
import CounterCatalog.Proofs.Text.Utf8

/-!
# What running a command comes to

A command has a child or none at all: `Command.child` is what becomes of it, `Command.launches` what is launched for
it, and `Command.verdict` what the run gives for that. Running a command does no more than that to a host, apart from
what goes to standard error (`Command.perform_run`), so the files are afterwards what the children have made of them
(`Launcher.replay`).
-/

set_option autoImplicit false

namespace CounterCatalog

/-! ## What children leave -/

/-- The files as a child leaves them; one that could not be started leaves them as they are. -/
def Tree.afterChild (tree : Tree) : Except Fault Outcome → Tree
  | .ok outcome => outcome.tree
  | .error _ => tree

/-- The files when launches have changed them one after the other, and nothing else has. -/
def Launcher.replay (launcher : Launcher) (tree : Tree) (launches : List Launch) : Tree :=
  launches.foldl (fun tree launch => tree.afterChild (launcher launch tree)) tree

/-- Launches that are replayed one after the other leave the files as all of them do. -/
theorem Launcher.replay_append (launcher : Launcher) (tree : Tree) (first second : List Launch) :
    launcher.replay tree (first ++ second) = launcher.replay (launcher.replay tree first) second :=
  List.foldl_append

namespace Host

variable {τ : Type}

/-- The host when launches have been made and nothing else has been done. -/
def launched (host : Host τ) (launcher : Launcher) (launches : List Launch) : Host τ :=
  { host with tree := launcher.replay host.tree launches, launches := host.launches ++ launches }

/-- What has been launched has nothing to do with standard error. -/
@[simp] theorem launched_withErrors (host : Host τ) (launcher : Launcher) (launches : List Launch)
    (errors : List UInt8) :
    (host.withErrors errors).launched launcher launches = (host.launched launcher launches).withErrors errors := rfl

end Host

namespace Command

variable {τ : Type} {command : Command}

/-- What becomes of a command's child. -/
def child (launcher : Launcher) (command : Command) (tree : Tree) (cwd : Handle) : Except Fault Outcome :=
  match command.launch tree cwd with
  | .error fault => .error fault
  | .ok launch => launcher launch tree

/-- What is launched for a command: nothing if its words cannot be passed on or its directory is not found. -/
def launches (command : Command) (tree : Tree) (cwd : Handle) : List Launch :=
  match command.launch tree cwd with
  | .error _ => []
  | .ok launch => [launch]

/-- The failure that a run makes of how its child ended: none if the command is run leniently. -/
def objection (command : Command) (status : Status) : Option Failure :=
  match command.strictness with
  | .lenient => none
  | .strict => command.failureOf status

/-- What a command gives for what became of its child. -/
def verdict (command : Command) : Except Fault Outcome → Except Failure Report
  | .error fault => .error (.within command.launching (.system fault))
  | .ok outcome =>
    match command.objection outcome.status with
    | some failure => .error failure
    | none => .ok ⟨outcome.status, Text.Utf8.decodeLossy outcome.stdout⟩

/-- The launches of a command leave the files as its child leaves them. -/
theorem replay_launches (launcher : Launcher) (command : Command) (tree : Tree) (cwd : Handle) :
    launcher.replay tree (command.launches tree cwd) = tree.afterChild (command.child launcher tree cwd) := by
  unfold launches child
  cases command.launch tree cwd <;> rfl

/-- A child that ended badly, and no other, is one that its command has a failure for. -/
theorem failureOf_eq_none_iff {status : Status} : command.failureOf status = none ↔ status.isSuccess = true := by
  unfold failureOf Status.isSuccess
  split <;> simp_all

/-! ## What a command gives -/

/-- What a command gives that is run to its end: what its child wrote to standard output. -/
def output (launcher : Launcher) (command : Command) (tree : Tree) (cwd : Handle) : Except Failure String :=
  (command.verdict (command.child launcher tree cwd)).map Report.stdout

variable {launcher : Launcher} {tree : Tree} {cwd : Handle}

/-- A command puts nothing out exactly if its verdict is a failure, and fails with that. -/
theorem output_eq_error_iff {failure : Failure} :
    command.output launcher tree cwd = .error failure ↔
      command.verdict (command.child launcher tree cwd) = .error failure := by
  unfold output
  cases command.verdict (command.child launcher tree cwd) <;> simp [Except.map]

/-- What a command puts out is the standard output that its verdict reports. -/
theorem output_eq_ok_iff {text : String} :
    command.output launcher tree cwd = .ok text ↔
      ∃ report, command.verdict (command.child launcher tree cwd) = .ok report ∧ report.stdout = text := by
  unfold output
  cases command.verdict (command.child launcher tree cwd) <;> simp [Except.map]

/-- A text that a child writes is what its command gives, unless the command objects to how the child ended. -/
theorem output_of_child {after : Tree} {status : Status} {text : String} {errors : List UInt8}
    (hchild : command.child launcher tree cwd = .ok ⟨status, Text.Utf8.encode text, errors, after⟩)
    (hstatus : command.objection status = none) : command.output launcher tree cwd = .ok text := by
  refine output_eq_ok_iff.2 ⟨⟨status, text⟩, ?_, rfl⟩
  unfold verdict
  rw [hchild]
  simp only [hstatus, Text.Utf8.decodeLossy_encode]

/-! ## Running a command -/

/-- Starting a command gives how its child ended, and leaves its launch and the files of that on the host. -/
theorem perform_start (launcher : Launcher) (command : Command) (host : Host τ) :
    ∃ errors, (command.start launcher).perform host =
      (Action.attempted command.launching (command.child launcher host.tree host.cwd),
        (host.launched launcher (command.launches host.tree host.cwd)).withErrors errors) := by
  unfold start child launches Host.launched
  simp only [Action.perform_bind, Action.perform_get, Action.perform_attempt, Action.perform_modify]
  cases command.launch host.tree host.cwd with
  | error fault =>
    refine ⟨[], ?_⟩
    simp only [Host.withErrors_nil, List.append_nil]
    rfl
  | ok launch =>
    simp only [Launcher.replay, List.foldl_cons, List.foldl_nil, Action.attempted]
    cases launcher launch host.tree with
    | error fault =>
      refine ⟨[], ?_⟩
      simp only [Host.withErrors_nil, Tree.afterChild]
    | ok outcome =>
      exact ⟨outcome.stderr, rfl⟩

/-- Judging a status gives the objection to it, if there is one, and nothing but the log shows it. -/
theorem perform_judge (command : Command) (status : Status) (host : Host τ) :
    ∃ errors, (command.judge status).perform host =
      (match command.objection status with
        | some failure => .error failure
        | none => .ok (), host.withErrors errors) := by
  unfold judge objection
  cases command.failureOf status with
  | none =>
    refine ⟨[], ?_⟩
    rw [Host.withErrors_nil]
    cases command.strictness <;> rfl
  | some failure =>
    cases command.strictness with
    | strict =>
      refine ⟨[], ?_⟩
      rw [Host.withErrors_nil]
      rfl
    | lenient =>
      obtain ⟨errors, herrors⟩ := host.withLog_eq .warn (failure.message ++ ", continuing")
      refine ⟨errors, ?_⟩
      rw [← herrors]
      rfl

/-- **Running a command gives its verdict, and nothing but its launch changes the host,** standard error apart. -/
theorem perform_run (launcher : Launcher) (command : Command) (host : Host τ) :
    ∃ errors, (command.run launcher).perform host =
      (command.verdict (command.child launcher host.tree host.cwd),
        (host.launched launcher (command.launches host.tree host.cwd)).withErrors errors) := by
  obtain ⟨announced, hannounced⟩ := host.withLog_eq .debug command.announcement
  obtain ⟨started, hstarted⟩ := perform_start launcher command (host.withErrors announced)
  simp only [Host.withErrors_tree, Host.withErrors_cwd, Host.launched_withErrors, Host.withErrors_withErrors] at hstarted
  unfold run
  simp only [Action.perform_bind, Action.perform_log, hannounced, hstarted]
  cases command.child launcher host.tree host.cwd with
  | error fault => exact ⟨announced ++ started, rfl⟩
  | ok outcome =>
    obtain ⟨judged, hjudged⟩ := perform_judge command outcome.status
      ((host.launched launcher (command.launches host.tree host.cwd)).withErrors (announced ++ started))
    refine ⟨announced ++ started ++ judged, ?_⟩
    simp only [Action.attempted, hjudged, Host.withErrors_withErrors, verdict]
    cases command.objection outcome.status <;> rfl

end Command

end CounterCatalog
