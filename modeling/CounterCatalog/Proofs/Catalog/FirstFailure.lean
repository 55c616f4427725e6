import CounterCatalog.Proofs.Catalog.Course
import CounterCatalog.Proofs.Process.Judging

/-!
# The child that stops a strict run

Cloning or pulling and building are the only stages of a run that can fail for how a child ended. A strict run fails for
that reason exactly when the first of those children that does not end successfully could be started
(`generate_failure_iff`).
-/

set_option autoImplicit false

namespace CounterCatalog

variable {τ : Type}

namespace Catalog

/-- The first child that does not end successfully when the commands of stages are run in turn: its command, and what
becomes of it. -/
inductive FirstUnsuccessful (launcher : Launcher) (settings : Settings) (cwd : Handle) :
    List Stage → Tree → Command → Except Fault Outcome → Prop where
  | here {stage : Stage} {rest : List Stage} {tree : Tree} {command : Command}
      (runs : stage.work settings tree cwd = .inl command)
      (unsuccessful : ¬ Successful (command.child launcher tree cwd)) :
      FirstUnsuccessful launcher settings cwd (stage :: rest) tree command (command.child launcher tree cwd)
  | later {stage : Stage} {rest : List Stage} {tree : Tree} {command later : Command} {outcome : Outcome}
      {ending : Except Fault Outcome} (runs : stage.work settings tree cwd = .inl command)
      (ends : command.child launcher tree cwd = .ok outcome) (successful : outcome.status.isSuccess = true)
      (next : FirstUnsuccessful launcher settings cwd rest outcome.tree later ending) :
      FirstUnsuccessful launcher settings cwd (stage :: rest) tree later ending

section First

variable {launcher : Launcher} {settings : Settings} {cwd : Handle} {tree : Tree} {plan rest : List Stage}
  {command : Command} {ending : Except Fault Outcome} {failure : Failure} {failure? : Option Failure}
  {launches : List Launch}

/-- The command that clones or pulls is as strict as the settings say. -/
theorem syncCommand_strictness (settings : Settings) (tree : Tree) (cwd : Handle) :
    (Checkout.syncCommand settings tree cwd).strictness = settings.strictness := by
  unfold Checkout.syncCommand
  split <;> rfl

/-- A stage that finds nothing and runs a command, as strictly as the settings say. -/
structure Stage.Updates (settings : Settings) (cwd : Handle) (stage : Stage) : Prop where
  runs : ∀ tree, ∃ command, stage.work settings tree cwd = .inl command ∧ command.strictness = settings.strictness
  finds : ∀ tree text, stage.Finds settings tree cwd text

/-- The stages that clone, pull and build each run a command, as strictly as the settings say, and find nothing. -/
theorem updates_of_mem {stage : Stage} (h : stage ∈ updates settings) : stage.Updates settings cwd := by
  rw [updates, List.mem_append, List.mem_ite_nil_left, List.mem_ite_nil_left, List.mem_singleton,
    List.mem_singleton] at h
  rcases h with ⟨-, rfl⟩ | ⟨-, rfl⟩
  · exact ⟨fun tree => ⟨_, rfl, syncCommand_strictness settings tree cwd⟩, fun _ _ => trivial⟩
  · exact ⟨fun _ => ⟨_, rfl, rfl⟩, fun _ _ => trivial⟩

/-- A stage that runs a command comes to what the command puts out. -/
theorem result_of_runs {stage : Stage} (h : stage.work settings tree cwd = .inl command) :
    stage.result launcher settings tree cwd = command.output launcher tree cwd := by
  simp only [Stage.result, h]

/-- A stage that runs a command leaves the files as its child leaves them. -/
theorem replay_of_runs {stage : Stage} (h : stage.work settings tree cwd = .inl command) :
    launcher.replay tree (stage.launches settings tree cwd) =
      tree.afterChild (command.child launcher tree cwd) := by
  simp only [Stage.launches, h, Command.replay_launches]

/-- A course goes as far as the first child that does not end successfully, and stops there. -/
theorem FirstUnsuccessful.course (first : FirstUnsuccessful launcher settings cwd plan tree command ending)
    (hstrict : settings.strictness = .strict) (hplan : ∀ stage ∈ plan, stage.Updates settings cwd)
    (rest : List Stage) :
    ∃ failure launches, command.verdict ending = .error failure ∧ command.strictness = .strict ∧
      Course launcher settings cwd (plan ++ rest) tree (some failure) launches := by
  induction first with
  | @here stage plan tree command runs unsuccessful =>
    obtain ⟨command', runs', hcommand⟩ := (hplan stage List.mem_cons_self).runs tree
    cases runs.symm.trans runs'
    obtain ⟨failure, hverdict⟩ :=
      Command.exists_verdict_of_not_successful (hcommand.trans hstrict) unsuccessful
    refine ⟨failure, _, hverdict, hcommand.trans hstrict, .stop ?_⟩
    rw [result_of_runs runs]
    exact Command.output_eq_error_iff.2 hverdict
  | @later stage plan tree command later outcome ending runs ends successful next ih =>
    rw [List.forall_mem_cons] at hplan
    obtain ⟨failure, launches, hverdict, hcommand, course⟩ := ih hplan.2
    obtain ⟨report, hreport⟩ := command.exists_verdict_of_successful ⟨outcome, ends, successful⟩
    have hresult : stage.result launcher settings tree cwd = .ok report.stdout := by
      rw [result_of_runs runs]
      exact Command.output_eq_ok_iff.2 ⟨report, hreport, rfl⟩
    have hreplay : launcher.replay tree (stage.launches settings tree cwd) = outcome.tree := by
      rw [replay_of_runs runs, ends]
      rfl
    rw [← hreplay] at course
    exact ⟨failure, _, hverdict, hcommand, .step hresult (hplan.1.finds tree report.stdout) course⟩

/-- A course that stops for how a child ended stops at the first child that did not end successfully, unless it is
the later stages that fail for such a reason. -/
theorem first_of_course (course : Course launcher settings cwd (plan ++ rest) tree (some failure) launches)
    (hchild : failure.IsOfChild) (hstrict : settings.strictness = .strict)
    (hplan : ∀ stage ∈ plan, stage.Updates settings cwd)
    (hrest : ∀ tree launches, ¬ Course launcher settings cwd rest tree (some failure) launches) :
    ∃ command outcome, FirstUnsuccessful launcher settings cwd plan tree command (.ok outcome) ∧
      command.failureOf outcome.status = some failure := by
  -- On the stages and not on the course, which says nothing of where the later stages begin.
  induction plan generalizing tree launches with
  | nil => exact (hrest tree launches course).elim
  | cons stage plan ih =>
    rw [List.forall_mem_cons] at hplan
    obtain ⟨command, runs, hcommand⟩ := hplan.1.runs tree
    cases course with
    | stop failed =>
      rw [result_of_runs runs] at failed
      have hverdict := Command.output_eq_error_iff.1 failed
      have hunsuccessful : ¬ Successful (command.child launcher tree cwd) := by
        intro hsuccess
        obtain ⟨report, hreport⟩ := command.exists_verdict_of_successful hsuccess
        cases hreport.symm.trans hverdict
      obtain ⟨outcome, hends, hfailure⟩ :=
        (Command.verdict_eq_error_iff (hcommand.trans hstrict)).1 ⟨hverdict, hchild⟩
      have first : FirstUnsuccessful launcher settings cwd (stage :: plan) tree command _ := .here runs hunsuccessful
      rw [hends] at first
      exact ⟨command, outcome, first, hfailure⟩
    | step gives finds course =>
      rw [result_of_runs runs] at gives
      obtain ⟨report, hverdict, -⟩ := Command.output_eq_ok_iff.1 gives
      obtain ⟨outcome, hends, hsuccess⟩ := Command.successful_of_verdict (hcommand.trans hstrict) hverdict
      rw [replay_of_runs runs, hends] at course
      obtain ⟨later, outcome', first, hfailure⟩ := ih course hplan.2
      exact ⟨later, outcome', .later runs hends hsuccess first, hfailure⟩

/-! ### The later stages -/

/-- The stages that only look, and those that run a program of the checkout, fail for other reasons. -/
theorem not_isOfChild_of_queries {checkout output : String} {labels : List String} {stage : Stage}
    (hstage : stage ∈ queries checkout output labels)
    (failed : stage.result launcher settings tree cwd = .error failure) : ¬ failure.IsOfChild := by
  have hcommand : ∀ command, stage.work settings tree cwd = .inl command → command.strictness = .lenient →
      ¬ failure.IsOfChild := by
    intro command runs hlenient
    rw [result_of_runs runs] at failed
    exact Command.not_isOfChild_of_lenient hlenient (Command.output_eq_error_iff.1 failed)
  rw [queries, List.mem_cons, List.mem_cons, List.mem_append, List.mem_map, List.mem_singleton] at hstage
  rcases hstage with rfl | rfl | ⟨label, -, rfl⟩ | rfl
  · have hlocated : Checkout.located tree cwd settings.checkout = .error failure := failed
    unfold Checkout.located at hlocated
    split at hlocated
    · cases hlocated
      exact id
    · split at hlocated
      · cases hlocated
      · cases hlocated
        exact id
  · exact hcommand _ rfl rfl
  · exact hcommand _ rfl rfl
  · have hopened : Listing.opened tree cwd output = .error failure := failed
    unfold Listing.opened at hopened
    split at hopened
    · cases hopened
      exact id
    · cases hopened

/-- What fails in the files themselves is not a failure of a child. -/
theorem not_isOfChild_of_attempt {τ α : Type} {doing : String} {result : Except Fault α} {host after : Host τ}
    (h : (Action.attempt doing result).perform host = (.error failure, after)) : ¬ failure.IsOfChild := by
  cases result with
  | ok value => cases h
  | error fault =>
    cases h
    exact id

/-- What is passed on is passed on without a failure. -/
theorem perform_pass_ne_error {τ : Type} {writer : Writer} {host after : Host τ} :
    (Listing.pass writer).perform host ≠ (.error failure, after) := by
  unfold Listing.pass
  cases writer.target with
  | file handle => nofun
  | device device => nofun
  | stream number => nofun

/-- Writing the list fails for other reasons too. -/
theorem not_isOfChild_of_conclusion {τ : Type} {output : String} {records : List Record} {host after : Host τ}
    (h : (conclusion output records).perform host = (.error failure, after)) : ¬ failure.IsOfChild := by
  rcases Action.perform_bind_eq_error_iff.1 h with hsave | ⟨count, between, -, hsaid⟩
  · -- The steps of saving in turn: only opening and writing can fail, and they fail for a fault.
    obtain hget | ⟨_, _, -, hsave⟩ := Action.perform_bind_eq_error_iff.1 hsave
    · cases hget
    obtain hcreate | ⟨created, _, -, hsave⟩ := Action.perform_bind_eq_error_iff.1 hsave
    · exact not_isOfChild_of_attempt hcreate
    obtain hset | ⟨_, _, -, hsave⟩ := Action.perform_bind_eq_error_iff.1 hsave
    · cases hset
    obtain hwrite | ⟨written, _, -, hsave⟩ := Action.perform_bind_eq_error_iff.1 hsave
    · exact not_isOfChild_of_attempt hwrite
    obtain hset | ⟨_, _, -, hsave⟩ := Action.perform_bind_eq_error_iff.1 hsave
    · cases hset
    obtain hpass | ⟨_, _, -, hcount⟩ := Action.perform_bind_eq_error_iff.1 hsave
    · exact (perform_pass_ne_error hpass).elim
    · cases hcount
  · cases hsaid

end First

/-! ### Whole runs -/

section Whole

variable {launcher : Launcher} {settings : Settings} {host : Host τ} {command : Command} {failure : Failure}

/-- A strict run fails as the first child that does not end successfully makes its command fail. -/
theorem generate_of_first {ending : Except Fault Outcome} (hstrict : settings.strictness = .strict)
    (first : FirstUnsuccessful launcher settings host.cwd (updates settings) host.tree command ending) :
    ∃ failure, command.verdict ending = .error failure ∧ command.strictness = .strict ∧
      ((generate launcher settings).perform host).1 = .error failure := by
  obtain ⟨failure, launches, hverdict, hcommand, course⟩ :=
    first.course hstrict (fun _ hstage => updates_of_mem hstage) (queries "" "" [])
  obtain ⟨records, after, hperform, -⟩ := generate_of_course course
  refine ⟨failure, hverdict, hcommand, ?_⟩
  rw [hperform]
  rfl

/-- A strict run fails for how a child ended exactly when the first child that does not end successfully was
started. -/
theorem generate_failure_iff (hstrict : settings.strictness = .strict) :
    ((generate launcher settings).perform host).1 = .error failure ∧ failure.IsOfChild ↔
      ∃ command outcome,
        FirstUnsuccessful launcher settings host.cwd (updates settings) host.tree command (.ok outcome) ∧
          command.failureOf outcome.status = some failure := by
  constructor
  · rintro ⟨hfailure, hchild⟩
    obtain ⟨checkout, output, labels, failure?, launches, course⟩ :=
      exists_course launcher settings host.cwd host.tree
    obtain ⟨records, after, hperform, -⟩ := generate_of_course course
    rw [hperform] at hfailure
    cases failure? with
    | none =>
      have hconclusion : (conclusion output records).perform after =
          (.error failure, ((conclusion output records).perform after).2) := Prod.ext hfailure rfl
      exact (not_isOfChild_of_conclusion hconclusion hchild).elim
    | some failure' =>
      obtain rfl : failure' = failure := Except.error.inj hfailure
      refine first_of_course course hchild hstrict (fun _ hstage => updates_of_mem hstage) ?_
      intro tree launches course
      obtain ⟨stage, hstage, tree, failed⟩ := course.exists_failed
      exact not_isOfChild_of_queries hstage failed hchild
  · rintro ⟨command, outcome, first, hfailure⟩
    obtain ⟨failure', hverdict, hcommand, hgenerate⟩ := generate_of_first hstrict first
    obtain ⟨hverdict', hchild⟩ := (Command.verdict_eq_error_iff hcommand).2 ⟨outcome, rfl, hfailure⟩
    rw [hverdict] at hverdict'
    cases hverdict'
    exact ⟨hgenerate, hchild⟩

end Whole

end Catalog

end CounterCatalog
