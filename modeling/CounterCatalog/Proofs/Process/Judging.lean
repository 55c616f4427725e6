import CounterCatalog.Proofs.Host.TwoRuns
import CounterCatalog.Proofs.Process.Running

/-!
# How strictly a command is run

A strict command that succeeds does what it does when it is lenient (`run_admitted`). If it fails, it says how its child
ended, or that there was none (`verdict_eq_error_iff`). A lenient command does not look at how its child ends, so it
cannot tell two children apart that otherwise do the same (`overlooks_of_lenient`, `Overlooks.alike_run`).
-/

set_option autoImplicit false

namespace CounterCatalog

variable {τ : Type}

/-! ## The same success -/

/-- A command that is run with a given strictness. -/
def Command.withStrictness (command : Command) (strictness : Strictness) : Command :=
  { command with strictness := strictness }

namespace Command

/-- A command is shown the same however strict it is. -/
@[simp] theorem withStrictness_line (command : Command) (strictness : Strictness) :
    (command.withStrictness strictness).line = command.line := rfl

/-- A status makes the same failure however strict the command is. -/
@[simp] theorem withStrictness_failureOf (command : Command) (strictness : Strictness) (status : Status) :
    (command.withStrictness strictness).failureOf status = command.failureOf status := rfl

/-- A command that succeeds when it is run strictly does the same when it is run leniently. -/
theorem run_admitted (launcher : Launcher) (command : Command) :
    ((command.withStrictness .strict).run launcher : Action τ Report).AdmittedBy
      ((command.withStrictness .lenient).run launcher) := by
  refine (Action.AdmittedBy.refl _).bind fun _ => ?_
  refine (Action.AdmittedBy.refl _).bind fun outcome => ?_
  refine Action.AdmittedBy.bind ?_ fun _ => .refl _
  intro host _ after hjudge
  unfold judge at hjudge ⊢
  rw [withStrictness_failureOf] at hjudge ⊢
  cases hfailure : command.failureOf outcome.status with
  | none =>
    rw [hfailure] at hjudge
    exact hjudge
  | some failure =>
    rw [hfailure] at hjudge
    cases hjudge

end Command

/-! ## Verdicts on children -/

/-- A child was started and ended by itself with code zero. -/
def Successful (ending : Except Fault Outcome) : Prop :=
  ∃ outcome, ending = .ok outcome ∧ outcome.status.isSuccess = true

/-- A failure says how a child ended, whatever was being done. -/
def Failure.IsOfChild : Failure → Prop
  | .exited _ _ | .killed _ => True
  | .within _ cause => cause.IsOfChild
  | _ => False

namespace Command

variable {command : Command} {ending : Except Fault Outcome} {failure : Failure}

/-- A strict command objects to everything but success. -/
theorem exists_verdict_of_not_successful (hstrict : command.strictness = .strict) (h : ¬ Successful ending) :
    ∃ failure, command.verdict ending = .error failure := by
  cases ending with
  | error fault => exact ⟨_, rfl⟩
  | ok outcome =>
    have hstatus : command.failureOf outcome.status ≠ none :=
      fun hnone => h ⟨outcome, rfl, failureOf_eq_none_iff.1 hnone⟩
    obtain ⟨failure, hfailure⟩ := Option.ne_none_iff_exists'.1 hstatus
    refine ⟨failure, ?_⟩
    simp only [verdict, objection, hstrict, hfailure]

/-- A strict command has a report to give only if its child was successful. -/
theorem successful_of_verdict {report : Report} (hstrict : command.strictness = .strict)
    (h : command.verdict ending = .ok report) : Successful ending := by
  refine Classical.byContradiction fun hending => ?_
  obtain ⟨failure, hfailure⟩ := exists_verdict_of_not_successful hstrict hending
  rw [hfailure] at h
  cases h

/-- Every command has a report to give of a child that was successful. -/
theorem exists_verdict_of_successful (h : Successful ending) : ∃ report, command.verdict ending = .ok report := by
  obtain ⟨outcome, rfl, hsuccess⟩ := h
  have hnone : command.objection outcome.status = none := by
    unfold objection
    rw [failureOf_eq_none_iff.2 hsuccess]
    cases command.strictness <;> rfl
  refine ⟨⟨outcome.status, Text.Utf8.decodeLossy outcome.stdout⟩, ?_⟩
  simp only [verdict, hnone]

/-- A lenient command fails only if its child could not be started. -/
theorem not_isOfChild_of_lenient (hlenient : command.strictness = .lenient)
    (h : command.verdict ending = .error failure) : ¬ failure.IsOfChild := by
  cases ending with
  | error fault =>
    cases h
    exact id
  | ok outcome => simp [verdict, objection, hlenient] at h

/-- A command has a failure for a code other than zero and for a signal. -/
theorem failureOf_eq_some_iff {status : Status} :
    command.failureOf status = some failure ↔
      (∃ code, status = .exited code ∧ code ≠ 0 ∧ failure = .exited command.line code) ∨
        ∃ signal, status = .signalled signal ∧ failure = .killed command.line := by
  cases status with
  | signalled signal => simp [failureOf, eq_comm]
  | exited code => cases code <;> simp [failureOf, eq_comm]

/-- The failure of a strict command is about how its child ended only if the child could be started. -/
theorem verdict_eq_error_iff (hstrict : command.strictness = .strict) :
    command.verdict ending = .error failure ∧ failure.IsOfChild ↔
      ∃ outcome, ending = .ok outcome ∧ command.failureOf outcome.status = some failure := by
  constructor
  · rintro ⟨hverdict, hchild⟩
    cases ending with
    | error fault =>
      cases hverdict
      exact hchild.elim
    | ok outcome =>
      refine ⟨outcome, rfl, ?_⟩
      simp only [verdict, objection, hstrict] at hverdict
      cases hfailure : command.failureOf outcome.status with
      | none => simp [hfailure] at hverdict
      | some failure' =>
        rw [hfailure] at hverdict
        cases hverdict
        rfl
  · rintro ⟨outcome, rfl, hfailure⟩
    refine ⟨by simp only [verdict, objection, hstrict, hfailure], ?_⟩
    rcases failureOf_eq_some_iff.1 hfailure with ⟨code, -, -, rfl⟩ | ⟨signal, -, rfl⟩ <;> exact trivial

end Command

/-! ## Children that differ in how they end -/

/-- What becomes of a child apart from how it ends and what it writes to standard error. -/
def deedOf (ending : Except Fault Outcome) : Except Fault (List UInt8 × Tree) :=
  ending.map fun outcome => (outcome.stdout, outcome.tree)

/-- A command cannot tell the children of two launchers apart: it gives the same text, and the files are the same
afterwards. -/
def Command.Overlooks (command : Command) (first second : Launcher) : Prop :=
  ∀ tree cwd, command.output first tree cwd = command.output second tree cwd ∧
    tree.afterChild (command.child first tree cwd) = tree.afterChild (command.child second tree cwd)

namespace Command

variable {first second : Launcher} {command : Command}

/-- What becomes of a command's child depends on the launcher only as far as the command's program goes. -/
theorem child_congr (h : ∀ launch tree, launch.program = command.program → first launch tree = second launch tree)
    (tree : Tree) (cwd : Handle) : command.child first tree cwd = command.child second tree cwd := by
  unfold child
  cases hlaunch : command.launch tree cwd with
  | error fault => rfl
  | ok started =>
    refine h started tree ?_
    unfold Command.launch at hlaunch
    split at hlaunch
    · cases hlaunch
    · split at hlaunch
      · cases hlaunch
        rfl
      · split at hlaunch
        · cases hlaunch
        · cases hlaunch
          rfl

/-- A command cannot tell launchers apart that give it the same children. -/
theorem overlooks_of_child (h : ∀ tree cwd, command.child first tree cwd = command.child second tree cwd) :
    command.Overlooks first second := by
  intro tree cwd
  unfold output
  rw [h tree cwd]
  exact ⟨rfl, rfl⟩

/-- A lenient command does not look at how its child ends. -/
theorem verdict_congr {ending ending' : Except Fault Outcome} (hlenient : command.strictness = .lenient)
    (h : deedOf ending = deedOf ending') (tree : Tree) :
    (command.verdict ending).map Report.stdout = (command.verdict ending').map Report.stdout ∧
      tree.afterChild ending = tree.afterChild ending' := by
  cases ending with
  | error fault =>
    cases ending' with
    | error fault' =>
      cases h
      exact ⟨rfl, rfl⟩
    | ok outcome' => cases h
  | ok outcome =>
    cases ending' with
    | error fault' => cases h
    | ok outcome' =>
      obtain ⟨hstdout, htree⟩ := Prod.mk.inj (Except.ok.inj h)
      simp only [verdict, objection, hlenient, Except.map, Tree.afterChild, hstdout, htree, and_self]

/-- A lenient command cannot tell launchers apart whose children do the same. -/
theorem overlooks_of_lenient (hdeed : ∀ launch tree, deedOf (first launch tree) = deedOf (second launch tree))
    (hlenient : command.strictness = .lenient) : command.Overlooks first second := by
  intro tree cwd
  refine verdict_congr hlenient ?_ tree
  unfold child
  cases command.launch tree cwd with
  | error fault => rfl
  | ok launch => exact hdeed launch tree

/-- A command is run by two launchers, and the same is made of the text that it gives. -/
theorem Overlooks.alike_run {α : Type} {next next' : Report → Action τ α} (h : command.Overlooks first second)
    (hnext : ∀ report report' : Report, report.stdout = report'.stdout → (next report).Alike (next' report')) :
    (command.run first >>= next).Alike (command.run second >>= next') := by
  intro host errors
  obtain ⟨logged, hfirst⟩ := command.perform_run first host
  obtain ⟨logged', hsecond⟩ := command.perform_run second (host.withStderr errors)
  obtain ⟨houtput, htree⟩ := h host.tree host.cwd
  rw [← replay_launches, ← replay_launches] at htree
  -- The two hosts between the run and what follows it differ only in what is on standard error.
  have hbetween : ((host.withStderr errors).launched second (command.launches host.tree host.cwd)).withErrors logged' =
      ((host.launched first (command.launches host.tree host.cwd)).withErrors logged).withStderr
        (errors ++ logged') := by
    simp only [Host.launched, Host.withStderr, Host.withErrors, htree]
  replace hsecond : (command.run second).perform (host.withStderr errors) =
      (command.verdict (command.child second host.tree host.cwd), _) := hsecond.trans (congrArg _ hbetween)
  unfold output at houtput
  rw [Action.perform_bind, Action.perform_bind, hfirst, hsecond]
  cases hverdict : command.verdict (command.child first host.tree host.cwd) with
  | error failure =>
    cases hverdict' : command.verdict (command.child second host.tree host.cwd) with
    | error failure' =>
      rw [hverdict, hverdict'] at houtput
      cases houtput
      exact ⟨_, rfl⟩
    | ok report' =>
      rw [hverdict, hverdict'] at houtput
      cases houtput
  | ok report =>
    cases hverdict' : command.verdict (command.child second host.tree host.cwd) with
    | error failure' =>
      rw [hverdict, hverdict'] at houtput
      cases houtput
    | ok report' =>
      rw [hverdict, hverdict'] at houtput
      exact hnext report report' (Except.ok.inj houtput) _ _

end Command

end CounterCatalog
