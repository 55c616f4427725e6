import CounterCatalog.Program
import CounterCatalog.Proofs.Host.Perform

/-!
# Requests about a file

A request to list labels or to look up counters is carried out where the program stands, or in the directory that the
request names. The run is then what carrying out its task gives (`run_of_request`).
-/

set_option autoImplicit false

namespace CounterCatalog.Program

open CommandLine

variable {τ : Type} {environment : Environment} {tree : Tree} {cwd here : Handle} {request : Request}

/-- The directory that a request is carried out in, given the one that it names. -/
def standing (tree : Tree) (cwd : Handle) : Option String → Except Fault Handle
  | none => .ok cwd
  | some dir => tree.directory cwd (Text.Utf8.encode dir)

/-- The text that a path leads to, if it leads to something that can be read and is UTF-8. -/
def textAt? (tree : Tree) (here : Handle) (path : String) : Option String :=
  match tree.read here (Text.Utf8.encode path) with
  | .ok content => Text.Utf8.decode? content
  | .error _ => none

/-- The task is to say something about a file. -/
def isAboutFile : Task → Bool
  | .parse _ | .lookup _ _ => true
  | _ => false

/-- The host on which a request's task is carried out. -/
def hostFor (environment : Environment) (tree : Tree) (here : Handle) (request : Request) : Host Unit :=
  { Host.fresh tree here (threshold request) () with keepsControls := keepsControls environment }

/-- Changing to a directory that is there changes the current directory and nothing else. -/
theorem perform_changeTo {host : Host τ} {dir : String}
    (h : host.tree.directory host.cwd (Text.Utf8.encode dir) = .ok here) :
    (changeTo dir).perform host = (.ok (), { host with cwd := here }) := by
  unfold changeTo
  simp only [Action.perform_bind, Action.perform_get, Action.perform_attempt, h, Action.attempted]
  rfl

/-- A request about a file is carried out in the directory that it names. -/
theorem perform_enter {host : Host τ} (htask : isAboutFile request.task = true)
    (hhere : standing host.tree host.cwd request.chdir? = .ok here) :
    (enter request).perform host = (.ok (), { host with cwd := here }) := by
  obtain ⟨chdir?, verbosity, quiet, task⟩ := request
  cases chdir? with
  | none =>
    cases hhere
    cases task with
    | parse file => rfl
    | lookup file names => rfl
    | _ => cases htask
  | some dir =>
    have hchange : (changeTo dir).perform host = (.ok (), { host with cwd := here }) := perform_changeTo hhere
    cases task with
    | parse file => exact hchange
    | lookup file names => exact hchange
    | _ => cases htask

/-- **A run for a request about a file is what carrying out its task gives.** -/
theorem run_of_request {args : List String} (launcher : Launcher)
    (hrequest : Request.ofWords environment args = .ok request) (htask : isAboutFile request.task = true)
    (hhere : standing tree cwd request.chdir? = .ok here) :
    run launcher environment tree cwd args =
      conclude ((carryOut launcher request.task).perform (hostFor environment tree here request)) := by
  have henter : (enter request).perform (hostFor environment tree cwd request) =
      (.ok (), hostFor environment tree here request) :=
    perform_enter htask hhere
  unfold run
  rw [hrequest]
  show conclude ((enter request >>= fun _ => carryOut launcher request.task).perform
    (hostFor environment tree cwd request)) = _
  rw [Action.perform_bind_of_ok henter]

end CounterCatalog.Program
