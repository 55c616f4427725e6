import CounterCatalog.Catalog.Generation
import CounterCatalog.Proofs.Catalog.Pipeline
import CounterCatalog.Proofs.Process.Launching

/-!
# The course of a run

A run takes its stages in a fixed order and stops at the first one that fails. `stages` lists them for what the run
finds on the way, and `Course` says how far a run gets with given files and children: which stage fails, and what has
been launched until then. There is always such a course (`exists_course`), and a run does what it says
(`generate_of_course`): until the counter list is opened, it touches the files through the children that it launches
and in no other way (`Action.ComesTo`).
-/

set_option autoImplicit false

namespace CounterCatalog

/-! ## Stages -/

/-- What resolving a checkout gives. -/
def Checkout.located (tree : Tree) (cwd : Handle) (checkout : String) : Except Failure String :=
  match tree.canonical cwd (Text.Utf8.encode checkout) with
  | .error fault => .error (.within ("canonicalizing " ++ checkout) (.system fault))
  | .ok path =>
    match Text.Utf8.decode? path with
    | some path => .ok path
    | none => .error (.within ("canonicalizing " ++ checkout) (Checkout.unreadable path))

/-- What opening a counter list gives. -/
def Listing.opened (tree : Tree) (cwd : Handle) (output : String) : Except Failure String :=
  match tree.create cwd (Text.Utf8.encode output) with
  | .error fault => .error (.within ("creating " ++ output) (.system fault))
  | .ok _ => .ok output

namespace Catalog

/-- A stage of a run, with what it finds where later stages depend on it. -/
inductive Stage where
  | sync
  | build
  | resolve (checkout output : String)
  | list (checkout : String) (labels : List String)
  | ask (checkout label : String)
  | create (output : String)

/-- Cloning or pulling and building, unless they are skipped. -/
def updates (settings : Settings) : List Stage :=
  (if settings.skipSync then [] else [.sync]) ++ (if settings.skipBuild then [] else [.build])

/-- Finding the checkout, listing the labels, asking about each of them, and opening the counter list. -/
def queries (checkout output : String) (labels : List String) : List Stage :=
  .resolve checkout output :: .list checkout labels :: (labels.map (.ask checkout) ++ [.create output])

/-- The stages of a run in their order. -/
def stages (settings : Settings) (checkout output : String) (labels : List String) : List Stage :=
  updates settings ++ queries checkout output labels

namespace Stage

variable (launcher : Launcher) (settings : Settings) (tree : Tree) (cwd : Handle)

/-- What a stage does: it runs a command, or it only looks at the files. -/
def work : Stage → Command ⊕ Except Failure String
  | sync => .inl (Checkout.syncCommand settings tree cwd)
  | build => .inl (Checkout.buildCommand settings)
  | resolve _ _ => .inr (Checkout.located tree cwd settings.checkout)
  | list checkout _ => .inl (Checkout.command checkout Checkout.listingProgram [])
  | ask checkout label => .inl (Checkout.command checkout Checkout.codeProgram [label])
  | create output => .inr (Listing.opened tree cwd output)

/-- What a stage gives. -/
def result (stage : Stage) : Except Failure String :=
  match stage.work settings tree cwd with
  | .inl command => command.output launcher tree cwd
  | .inr found => found

/-- What a stage launches. -/
def launches (stage : Stage) : List Launch :=
  match stage.work settings tree cwd with
  | .inl command => command.launches tree cwd
  | .inr _ => []

/-- A stage that gives a text finds what later stages depend on. -/
def Finds (text : String) : Stage → Prop
  | resolve checkout output => checkout = text ∧ output = settings.output tree cwd
  | list _ labels => labels = Event.labels text
  | _ => True

end Stage

/-- How far a run gets along stages: the failure of the first one that fails, if one does, and what has been launched
until then. -/
inductive Course (launcher : Launcher) (settings : Settings) (cwd : Handle) :
    List Stage → Tree → Option Failure → List Launch → Prop where
  | done {tree : Tree} : Course launcher settings cwd [] tree none []
  | stop {stage : Stage} {rest : List Stage} {tree : Tree} {failure : Failure}
      (failed : stage.result launcher settings tree cwd = .error failure) :
      Course launcher settings cwd (stage :: rest) tree (some failure) (stage.launches settings tree cwd)
  | step {stage : Stage} {rest : List Stage} {tree : Tree} {text : String} {failure? : Option Failure}
      {launches : List Launch} (gives : stage.result launcher settings tree cwd = .ok text)
      (finds : stage.Finds settings tree cwd text)
      (next : Course launcher settings cwd rest (launcher.replay tree (stage.launches settings tree cwd)) failure?
        launches) :
      Course launcher settings cwd (stage :: rest) tree failure? (stage.launches settings tree cwd ++ launches)

/-- A stage that succeeds leaves the files to the stages that follow. -/
theorem Course.stepTo {launcher : Launcher} {settings : Settings} {cwd : Handle} {stage : Stage} {rest : List Stage}
    {tree after : Tree} {text : String} {failure? : Option Failure} {launches : List Launch}
    (gives : stage.result launcher settings tree cwd = .ok text) (finds : stage.Finds settings tree cwd text)
    (leaves : launcher.replay tree (stage.launches settings tree cwd) = after)
    (next : Course launcher settings cwd rest after failure? launches) :
    Course launcher settings cwd (stage :: rest) tree failure? (stage.launches settings tree cwd ++ launches) := by
  subst leaves
  exact .step gives finds next

/-- A course that stops stops at one of its stages. -/
theorem Course.exists_failed {launcher : Launcher} {settings : Settings} {cwd : Handle} {plan : List Stage}
    {tree : Tree} {failure : Failure} {launches : List Launch}
    (course : Course launcher settings cwd plan tree (some failure) launches) :
    ∃ stage ∈ plan, ∃ tree, stage.result launcher settings tree cwd = .error failure := by
  induction plan generalizing tree launches with
  | nil => cases course
  | cons stage plan ih =>
    cases course with
    | stop failed => exact ⟨stage, List.mem_cons_self, tree, failed⟩
    | step gives finds course =>
      obtain ⟨later, hlater, hfailed⟩ := ih course
      exact ⟨later, List.mem_cons_of_mem _ hlater, hfailed⟩

/-! ## There is always a course -/

section Existence

variable (launcher : Launcher) (settings : Settings) (cwd : Handle)

/-- Stages that find nothing come before others, whatever those depend on. -/
theorem exists_course_append {ι : Type} {second : ι → List Stage} (first : List Stage)
    (hfinds : ∀ stage ∈ first, ∀ tree text, stage.Finds settings tree cwd text)
    (hsecond : ∀ tree, ∃ found failure? launches,
      Course launcher settings cwd (second found) tree failure? launches) (tree : Tree) :
    ∃ found failure? launches, Course launcher settings cwd (first ++ second found) tree failure? launches := by
  induction first generalizing tree with
  | nil => exact hsecond tree
  | cons stage first ih =>
    rw [List.forall_mem_cons] at hfinds
    cases hresult : stage.result launcher settings tree cwd with
    | error failure =>
      obtain ⟨found, -⟩ := hsecond tree
      exact ⟨found, some failure, _, .stop hresult⟩
    | ok text =>
      obtain ⟨found, failure?, launches, hcourse⟩ :=
        ih hfinds.2 (launcher.replay tree (stage.launches settings tree cwd))
      exact ⟨found, failure?, _, .step hresult (hfinds.1 tree text) hcourse⟩

/-- Asking about labels and opening a counter list find nothing. -/
theorem exists_course_asking (checkout output : String) (labels : List String) (tree : Tree) :
    ∃ failure? launches,
      Course launcher settings cwd (labels.map (.ask checkout) ++ [.create output]) tree failure? launches := by
  have hfinds : ∀ stage ∈ labels.map (Stage.ask checkout) ++ [.create output],
      ∀ tree text, stage.Finds settings tree cwd text := by
    intro stage hstage tree text
    rw [List.mem_append, List.mem_map, List.mem_singleton] at hstage
    rcases hstage with ⟨label, -, rfl⟩ | rfl <;> exact trivial
  have hlater : ∀ tree, ∃ (_ : Unit) (failure? : Option Failure) (launches : List Launch),
      Course launcher settings cwd [] tree failure? launches :=
    fun _ => ⟨(), none, [], .done⟩
  obtain ⟨-, failure?, launches, hcourse⟩ := exists_course_append launcher settings cwd _ hfinds hlater tree
  rw [List.append_nil] at hcourse
  exact ⟨failure?, launches, hcourse⟩

/-- Whatever the files and the children are, there are things to be found for which a run has a course. -/
theorem exists_course (tree : Tree) :
    ∃ checkout output labels failure? launches,
      Course launcher settings cwd (stages settings checkout output labels) tree failure? launches := by
  have hfinds : ∀ stage ∈ updates settings, ∀ tree text, stage.Finds settings tree cwd text := by
    intro stage hstage tree text
    rw [updates, List.mem_append, List.mem_ite_nil_left, List.mem_ite_nil_left, List.mem_singleton,
      List.mem_singleton] at hstage
    rcases hstage with ⟨-, rfl⟩ | ⟨-, rfl⟩ <;> exact trivial
  have hlater : ∀ tree, ∃ (found : String × String × List String) (failure? : Option Failure)
      (launches : List Launch),
      Course launcher settings cwd (queries found.1 found.2.1 found.2.2) tree failure? launches := by
    intro tree
    -- What a stage gives does not depend on what it is said to find, so it can be looked up first.
    cases hresolve : (Stage.resolve "" "").result launcher settings tree cwd with
    | error failure => exact ⟨("", "", []), some failure, _, .stop hresolve⟩
    | ok checkout =>
      cases hlist : (Stage.list checkout []).result launcher settings tree cwd with
      | error failure =>
        exact ⟨(checkout, settings.output tree cwd, []), some failure, _, .step hresolve ⟨rfl, rfl⟩ (.stop hlist)⟩
      | ok listing =>
        obtain ⟨failure?, launches, hcourse⟩ := exists_course_asking launcher settings cwd checkout
          (settings.output tree cwd) (Event.labels listing)
          (launcher.replay tree ((Stage.list checkout []).launches settings tree cwd))
        exact ⟨(checkout, settings.output tree cwd, Event.labels listing), failure?, _,
          .step hresolve ⟨rfl, rfl⟩ (.step hlist rfl hcourse)⟩
  obtain ⟨⟨checkout, output, labels⟩, failure?, launches, hcourse⟩ :=
    exists_course_append launcher settings cwd _ hfinds hlater tree
  exact ⟨checkout, output, labels, failure?, launches, hcourse⟩

end Existence

/-! ## A run goes along its course -/

section Following

variable {τ α β γ : Type} {launcher : Launcher} {settings : Settings} {host : Host τ} {stage : Stage}
  {rest : List Stage} {failure? : Option Failure} {launches : List Launch}

/-- An action does what a stage says, and makes something of what the stage gives. -/
def Stage.Does (stage : Stage) (launcher : Launcher) (settings : Settings) (action : Action τ α) (f : String → α) :
    Prop :=
  ∀ host, action.ComesTo launcher (Action.ofResult ((stage.result launcher settings host.tree host.cwd).map f)) host
    (stage.launches settings host.tree host.cwd)

/-- An action stops where a course stops; what is left of it at the end of the course is one of some actions. -/
def Along (launcher : Launcher) (action : Action τ β) (final : γ → Action τ β) (host : Host τ)
    (failure? : Option Failure) (launches : List Launch) : Prop :=
  ∃ value, action.ComesTo launcher (Action.settle failure? (final value)) host launches

variable {action : Action τ α} {f : String → α} {next : α → Action τ β} {final : γ → Action τ β}

/-- What follows an action that succeeds goes along the rest of a course. -/
theorem Along.bind {value : α} {first : List Launch} (h : action.ComesTo launcher (pure value) host first)
    (hnext : ∀ between : Host τ, between.cwd = host.cwd → between.tree = launcher.replay host.tree first →
      Along launcher (next value) final between failure? launches) :
    Along launcher (action >>= next) final host failure? (first ++ launches) :=
  h.exists_bind hnext

/-- The first stage of a course is taken first, and what follows goes along the rest of the course. -/
theorem along_cons [Nonempty γ] (hstage : stage.Does launcher settings action f)
    (course : Course launcher settings host.cwd (stage :: rest) host.tree failure? launches)
    (hnext : ∀ (text : String) (between : Host τ) (launches : List Launch),
      stage.Finds settings host.tree host.cwd text → between.cwd = host.cwd →
      between.tree = launcher.replay host.tree (stage.launches settings host.tree host.cwd) →
      Course launcher settings between.cwd rest between.tree failure? launches →
      Along launcher (next (f text)) final between failure? launches) :
    Along launcher (action >>= next) final host failure? launches := by
  have hdoes := hstage host
  cases course with
  | stop failed =>
    rw [failed] at hdoes
    exact ⟨Classical.arbitrary γ, hdoes.bind_throw⟩
  | step gives finds course =>
    rw [gives] at hdoes
    refine .bind hdoes fun between hcwd htree => ?_
    rw [← htree, ← hcwd] at course
    exact hnext _ between _ finds hcwd htree course

/-- A stage that is left out leaves its place in the course to the stages after it, and one that is not is gone
through first. -/
theorem along_unless [Nonempty γ] {skip : Bool} {message : String} {action : Action τ Unit} {next : Unit → Action τ β}
    (hstage : stage.Does launcher settings action fun _ => ())
    (course : Course launcher settings host.cwd ((if skip then [] else [stage]) ++ rest) host.tree failure? launches)
    (hnext : ∀ (between : Host τ) (launches : List Launch),
      Course launcher settings between.cwd rest between.tree failure? launches →
      Along launcher (next ()) final between failure? launches) :
    Along launcher ((if skip then Action.log .info message else action) >>= next) final host failure? launches := by
  cases skip with
  | false => exact along_cons hstage course fun _ between launches _ _ _ course => hnext between launches course
  | true =>
    have hlogged : Along launcher (Action.log .info message >>= next) final host failure? ([] ++ launches) :=
      .bind (Action.comesTo_log .info message) fun between hcwd htree =>
        hnext between launches (by rw [hcwd, htree]; exact course)
    rwa [List.nil_append] at hlogged

end Following

section Parts

variable {τ : Type} {launcher : Launcher} {settings : Settings}

/-- What a command's run gives is made from what its child wrote. -/
theorem comesTo_run_bind {α : Type} {command : Command} {next : Command.Report → Action τ α} {f : String → α}
    {host : Host τ}
    (hnext : ∀ report between, (next report).ComesTo launcher (pure (f report.stdout)) between []) :
    (command.run launcher >>= next).ComesTo launcher
      (Action.ofResult ((command.output launcher host.tree host.cwd).map f)) host
      (command.launches host.tree host.cwd) := by
  have hrun := (command.comesTo_run launcher host).bind_map hnext
  unfold Command.output
  cases hverdict : command.verdict (command.child launcher host.tree host.cwd) with
  | error failure =>
    rw [hverdict] at hrun
    exact hrun
  | ok report =>
    rw [hverdict] at hrun
    exact hrun

/-- Cloning or pulling is a stage of a run, of which nothing is kept. -/
theorem does_sync : Stage.sync.Does launcher settings (Checkout.sync launcher settings : Action τ Unit) fun _ => () := by
  intro host
  refine Action.comesTo_get (Action.ComesTo.bind_of_quiet (Action.comesTo_say _) fun between hcwd htree => ?_)
  rw [← hcwd, ← htree]
  exact comesTo_run_bind fun _ _ => Action.comesTo_self

/-- Building is a stage of a run, of which nothing is kept. -/
theorem does_build :
    Stage.build.Does launcher settings (Checkout.build launcher settings : Action τ Unit) fun _ => () := by
  intro host
  refine Action.ComesTo.bind_of_quiet (Action.comesTo_say _) fun between hcwd htree => ?_
  rw [← hcwd, ← htree]
  exact comesTo_run_bind fun _ _ => .bind_of_quiet (Action.comesTo_log _ _) fun _ _ _ => Action.comesTo_log _ _

/-- Looking for the checkout is a stage of a run, which gives its path. -/
theorem does_resolve (checkout output : String) :
    (Stage.resolve checkout output).Does launcher settings (Checkout.resolve settings.checkout : Action τ String) id := by
  intro host
  refine Action.comesTo_of_perform ?_
  unfold Checkout.resolve Stage.result Stage.work Checkout.located
  simp only [Action.perform_bind, Action.perform_get, Action.perform_attempt]
  cases host.tree.canonical host.cwd (Text.Utf8.encode settings.checkout) with
  | error fault => rfl
  | ok path =>
    cases hpath : Text.Utf8.decode? path with
    | none => simp only [Action.attempted, hpath, Action.perform_failWithin, Except.map]
    | some path => simp only [Action.attempted, hpath, Action.perform_pure, Except.map, id_eq]

/-- Listing the events is a stage of a run, which gives the labels in the listing. -/
theorem does_list (checkout : String) (labels : List String) :
    (Stage.list checkout labels).Does launcher settings
      (findLabels (Checkout.source launcher checkout) : Action τ (List String)) Event.labels := by
  intro host
  unfold findLabels Checkout.source Checkout.query
  rw [bind_assoc]
  refine comesTo_run_bind fun report between => ?_
  rw [pure_bind]
  exact .bind_of_quiet (Action.comesTo_log _ _) fun _ _ _ => Action.comesTo_self

/-- A question about a label is a stage of a run, which gives the record that its answer makes, if any. -/
theorem does_ask (checkout label : String) :
    (Stage.ask checkout label).Does launcher settings
      (resolveLabel (Checkout.source launcher checkout) label : Action τ (Option Record))
      fun answer => (Event.code? answer).map fun code => ⟨label, code⟩ := by
  intro host
  unfold resolveLabel Checkout.source Checkout.query
  rw [bind_assoc]
  refine comesTo_run_bind fun report between => ?_
  rw [pure_bind]
  cases Event.code? report.stdout with
  | none => exact .bind_of_quiet (Action.comesTo_log _ _) fun _ _ _ => Action.comesTo_self
  | some code => exact .bind_of_quiet (Action.comesTo_log _ _) fun _ _ _ => Action.comesTo_self

/-- A list that cannot be opened is not written, and the host stays as it is. -/
theorem perform_save_of_opened {host : Host τ} {output : String} {failure : Failure}
    (h : Listing.opened host.tree host.cwd output = .error failure) (records : List Record) :
    (Listing.save output records).perform host = (.error failure, host) := by
  unfold Listing.opened at h
  unfold Listing.save Writer.create
  simp only [Action.perform_bind, Action.perform_get, Action.perform_attempt]
  cases hcreate : host.tree.create host.cwd (Text.Utf8.encode output) with
  | error fault =>
    rw [hcreate] at h
    cases h
    rfl
  | ok opened =>
    rw [hcreate] at h
    cases h

end Parts

/-! ### Whole runs -/

section Whole

variable {τ : Type} {launcher : Launcher} {settings : Settings} {checkout output : String} {labels : List String}
  {host : Host τ} {failure? : Option Failure} {launches : List Launch}

/-- What a run still does when it has all records. -/
def conclusion (output : String) (records : List Record) : Action τ Nat := do
  let count ← Listing.save output records
  Action.say (summary count output)
  pure count

/-- The last stage opens the counter list, and with that the course is over. -/
theorem along_create (course : Course launcher settings host.cwd [.create output] host.tree failure? launches)
    (records : List Record) :
    Along launcher (conclusion output records) (conclusion output) host failure? launches := by
  cases course with
  | stop failed =>
    have hsave : (Listing.save output records).ComesTo launcher (throw _) host [] :=
      Action.comesTo_of_perform (perform_save_of_opened failed records)
    exact ⟨records, hsave.bind_throw⟩
  | step gives finds course =>
    cases course
    exact ⟨records, Action.comesTo_self⟩

/-- Every label is asked about in turn. -/
theorem along_asking {α γ : Type} [Nonempty γ] {rest : List Stage} {next : List Record → Action τ α}
    {final : γ → Action τ α}
    (course : Course launcher settings host.cwd (labels.map (.ask checkout) ++ rest) host.tree failure? launches)
    (hnext : ∀ (records : List Record) (between : Host τ) (launches : List Launch),
      Course launcher settings between.cwd rest between.tree failure? launches →
      Along launcher (next records) final between failure? launches) :
    Along launcher (resolveLabels (Checkout.source launcher checkout) labels >>= next) final host failure?
      launches := by
  induction labels generalizing host launches next with
  | nil => exact hnext [] host launches course
  | cons label labels ih =>
    unfold resolveLabels
    rw [bind_assoc]
    refine along_cons (does_ask checkout label) course fun answer between launches _ _ _ course => ?_
    rw [bind_assoc]
    refine ih course fun records after launches course => ?_
    rw [pure_bind]
    exact hnext _ after launches course

/-- **A run goes along its course.** -/
theorem generate_of_course
    (course : Course launcher settings host.cwd (stages settings checkout output labels) host.tree failure? launches) :
    Along launcher (generate launcher settings) (conclusion output) host failure? launches := by
  rw [stages, updates, List.append_assoc] at course
  refine along_unless does_sync course fun synced launches course => ?_
  refine along_unless does_build course fun built launches course => ?_
  refine along_cons (does_resolve checkout output) course fun path resolved launches finds hcwd htree course => ?_
  obtain ⟨rfl, rfl⟩ := finds
  -- Nothing is launched to find the checkout, so the path of the list is still what that stage says.
  have hreplay : resolved.tree = built.tree := htree
  rw [← hcwd, ← hreplay] at course ⊢
  obtain ⟨records, hcomes⟩ : Along launcher
      (writeList (Checkout.source launcher checkout) (settings.output resolved.tree resolved.cwd) >>= fun count => do
        Action.say (summary count (settings.output resolved.tree resolved.cwd))
        pure count)
      (conclusion (settings.output resolved.tree resolved.cwd)) resolved failure? launches := by
    unfold writeList
    rw [bind_assoc]
    refine along_cons (does_list checkout labels) course fun listing listed launches finds _ _ course => ?_
    cases finds
    rw [bind_assoc]
    exact along_asking course fun records asked launches course => along_create course records
  exact ⟨records, Action.comesTo_get hcomes⟩

end Whole

end Catalog

end CounterCatalog
