import CounterCatalog.Checkout.Update
import CounterCatalog.Proofs.Process.Judging
import CounterCatalog.Proofs.Text.ShellWords

/-!
# Commands as they are shown

A command is shown by its line: bare where it is echoed, and between double quotes in what announces a run and in what
a failed run says (`shown`). A shell splits the line into the program and the arguments again, and every text that shows
a line determines it. So commands that are shown alike have the same words (`line_faithful`).
-/

set_option autoImplicit false

namespace CounterCatalog

variable {τ : Type}

namespace Command

open Text.ShellWords (doubleQuote)

variable {command first second : Command} {failure failure' : Failure}

/-! ## Lines between double quotes -/

/-- A text that shows a command's line between double quotes. -/
def shown (lead : String) (command : Command) (rest : String) : String :=
  lead ++ "\"" ++ command.line ++ "\"" ++ rest

/-- A command is shown as its line in double quotes. -/
theorem toList_shown (lead : String) (command : Command) (rest : String) :
    (shown lead command rest).toList =
      lead.toList ++ doubleQuote :: (command.line.toList ++ doubleQuote :: rest.toList) := by
  have hquote : "\"".toList = [doubleQuote] := rfl
  simp only [shown, String.toList_append, hquote, List.append_assoc, List.cons_append, List.nil_append]

/-- Two texts that are the same show the same words, and the same follows them. -/
theorem words_eq_of_shown {lead rest rest' : String} (h : shown lead first rest = shown lead second rest') :
    first.words = second.words ∧ rest = rest' := by
  have hchars : (shown lead first rest).toList = (shown lead second rest').toList := by rw [h]
  rw [toList_shown, toList_shown] at hchars
  obtain ⟨-, hmarked⟩ := List.cons.inj (List.append_cancel_left hchars)
  obtain ⟨hwords, hrest⟩ := Text.ShellWords.eq_of_marked hmarked
  exact ⟨hwords, String.toList_inj.1 hrest⟩

/-! ## Announcements -/

/-- How an announcement goes on behind a command's line. -/
def place (dir? : Option String) : String :=
  match dir? with
  | some dir => " in \"" ++ dir ++ "\""
  | none => ""

/-- A command is announced by its line in double quotes and by where it runs. -/
theorem announcement_eq (command : Command) : command.announcement = shown "running " command (place command.dir) := by
  have hlead : "running \"" = "running " ++ "\"" := rfl
  have hplace : "\" in \"" = "\"" ++ " in \"" := rfl
  unfold announcement place shown
  cases command.dir with
  | none => rw [hlead, String.append_empty]
  | some dir => rw [hlead, hplace]; simp only [String.append_assoc]

/-- Where a command runs can be told from how it is said. -/
theorem place_injective {dir? dir?' : Option String} (h : place dir? = place dir?') : dir? = dir?' := by
  have hchars : (place dir?).toList = (place dir?').toList := by rw [h]
  cases dir? with
  | none =>
    cases dir?' with
    | none => rfl
    | some dir' => simp [place] at hchars
  | some dir =>
    cases dir?' with
    | none => simp [place] at hchars
    | some dir' =>
      simp only [place, String.toList_append] at hchars
      have hdir := List.append_cancel_left (List.append_cancel_right hchars)
      rw [String.toList_inj.1 hdir]

/-! ## Failures -/

/-- A failure is a command's: the command could not be launched, or its child ended badly. -/
inductive Blames (command : Command) : Failure → Prop
  | launch (fault : Fault) : Blames command (.within command.launching (.system fault))
  | ending {status : Status} {failure : Failure} (isEnding : command.failureOf status = some failure) :
      Blames command failure

/-- The failure of a verdict blames its command. -/
theorem blames_of_verdict {ending : Except Fault Outcome} (h : command.verdict ending = .error failure) :
    command.Blames failure := by
  cases ending with
  | error fault =>
    cases h
    exact .launch fault
  | ok outcome =>
    cases hobjection : command.objection outcome.status with
    | none => simp [verdict, hobjection] at h
    | some objection =>
      simp only [verdict, hobjection, Except.error.injEq] at h
      subst h
      unfold Command.objection at hobjection
      cases hstrictness : command.strictness with
      | lenient => simp [hstrictness] at hobjection
      | strict =>
        rw [hstrictness] at hobjection
        exact .ending hobjection

/-- A run fails with no other failures than its command's. -/
theorem blames_of_run {launcher : Launcher} {host : Host τ}
    (h : ((command.run launcher).perform host).1 = .error failure) : command.Blames failure := by
  obtain ⟨errors, hrun⟩ := perform_run launcher command host
  rw [hrun] at h
  exact blames_of_verdict h

/-- A command's failure shows the line, behind its first word if there was no child and else in front. -/
theorem Blames.exists_shown (h : command.Blames failure) :
    ∃ lead rest, failure.message = shown lead command rest ∧ (lead = "launching " ∨ lead = "") := by
  cases h with
  | launch fault =>
    refine ⟨"launching ", ": " ++ fault.message, ?_, .inl rfl⟩
    have hlead : "launching \"" = "launching " ++ "\"" := rfl
    simp only [Failure.message, launching, hlead, shown, String.append_assoc]
  | ending hending =>
    rcases failureOf_eq_some_iff.1 hending with ⟨code, -, -, rfl⟩ | ⟨signal, -, rfl⟩
    · refine ⟨"", " exited with code " ++ String.ofList (Nat.toDigits 10 code), ?_, .inr rfl⟩
      have hrest : "\" exited with code " = "\"" ++ " exited with code " := rfl
      simp only [Failure.message, hrest, shown, String.append_assoc, String.empty_append]
    · refine ⟨"", " probably killed by signal", ?_, .inr rfl⟩
      have hrest : "\" probably killed by signal" = "\"" ++ " probably killed by signal" := rfl
      simp only [Failure.message, hrest, shown, String.append_assoc, String.empty_append]

/-- The first word of a failure tells whether there was a child, so it cannot hide where the line begins. -/
theorem Blames.words_eq (h : first.Blames failure) (h' : second.Blames failure')
    (hmessage : failure.message = failure'.message) : first.words = second.words := by
  obtain ⟨lead, rest, hshown, hlead⟩ := h.exists_shown
  obtain ⟨lead', rest', hshown', hlead'⟩ := h'.exists_shown
  rw [hshown, hshown'] at hmessage
  by_cases hsame : lead = lead'
  · subst hsame
    exact (words_eq_of_shown hmessage).1
  · have hchars : (shown lead first rest).toList.head? = (shown lead' second rest').toList.head? := by rw [hmessage]
    rw [toList_shown, toList_shown] at hchars
    rcases hlead with rfl | rfl <;> rcases hlead' with rfl | rfl
    · exact absurd rfl hsame
    · exact absurd hchars (by simp [doubleQuote])
    · exact absurd hchars (by simp [doubleQuote])
    · exact absurd rfl hsame

end Command

/-! ## The echo of an update -/

namespace Checkout

/-- An update writes the line of its command to standard output, and nothing else. -/
theorem stdout_sync (launcher : Launcher) (settings : Settings) (host : Host τ) :
    ((sync launcher settings).perform host).2.stdout =
      host.stdout ++ ("perflist: " ++ (syncCommand settings host.tree host.cwd).line) ++ "\n" := by
  let command := syncCommand settings host.tree host.cwd
  obtain ⟨errors, hrun⟩ := command.perform_run launcher (host.withLine ("perflist: " ++ command.line))
  unfold sync
  simp only [Action.perform_bind, Action.perform_get, Action.perform_say]
  rw [hrun]
  -- Neither the child nor how it is judged writes to standard output.
  cases command.verdict (command.child launcher _ _) <;> rfl

/-- The same echo is that of the same command. -/
theorem words_eq_of_stdout {launcher launcher' : Launcher} {settings settings' : Settings} {host host' : Host τ}
    (hbefore : host.stdout = host'.stdout)
    (hafter : ((sync launcher settings).perform host).2.stdout = ((sync launcher' settings').perform host').2.stdout) :
    (syncCommand settings host.tree host.cwd).words = (syncCommand settings' host'.tree host'.cwd).words := by
  rw [stdout_sync, stdout_sync, hbefore] at hafter
  have hchars := congrArg String.toList hafter
  simp only [String.toList_append, List.append_assoc] at hchars
  have hline := List.append_cancel_right (List.append_cancel_left (List.append_cancel_left hchars))
  exact Text.ShellWords.join_injective (String.toList_inj.1 hline)

end Checkout

/-! ## Faithful lines -/

/-- **A command's line can be taken for no other command's.** A shell splits it into the program and the arguments
again, whatever characters they hold. So commands have the same words if their lines are the same, or the messages
that announce them, which also name the directory, or the messages of failures that are theirs, and those are all that
a run fails with. Updates with the same echo are made with the same words. -/
theorem Command.line_faithful :
    (∀ command : Command, Text.ShellWords.split command.line = some (command.program :: command.args)) ∧
    (∀ first second : Command,
      (first.line = second.line → first.words = second.words) ∧
      (first.announcement = second.announcement → first.words = second.words ∧ first.dir = second.dir) ∧
      ∀ failure failure', first.Blames failure → second.Blames failure' → failure.message = failure'.message →
        first.words = second.words) ∧
    (∀ (launcher : Launcher) (command : Command) (host : Host τ) (failure : Failure),
      ((command.run launcher).perform host).1 = .error failure → command.Blames failure) ∧
    ∀ (launcher launcher' : Launcher) (settings settings' : Settings) (host host' : Host τ),
      host.stdout = host'.stdout →
      ((Checkout.sync launcher settings).perform host).2.stdout =
        ((Checkout.sync launcher' settings').perform host').2.stdout →
      (Checkout.syncCommand settings host.tree host.cwd).words =
        (Checkout.syncCommand settings' host'.tree host'.cwd).words := by
  refine ⟨?split, ?alike, ?run, ?echo⟩
  case split =>
    intro command
    exact Text.ShellWords.split_join command.words
  case alike =>
    intro first second
    refine ⟨Text.ShellWords.join_injective, ?_, ?_⟩
    · intro hannouncement
      rw [announcement_eq, announcement_eq] at hannouncement
      obtain ⟨hwords, hplace⟩ := words_eq_of_shown hannouncement
      exact ⟨hwords, place_injective hplace⟩
    · intro failure failure' hfirst hsecond hmessage
      exact hfirst.words_eq hsecond hmessage
  case run =>
    intro launcher command host failure hrun
    exact blames_of_run hrun
  case echo =>
    intro launcher launcher' settings settings' host host' hbefore hafter
    exact Checkout.words_eq_of_stdout hbefore hafter

/-- A command with words that are empty, nothing but quotes, and full of what a shell would read as something else. -/
def Command.awkward (strictness : Strictness) : Command :=
  ⟨"a b", ["", "'''", "\\", "\t\n", "\" in \"/", "it's \\' é"], none, strictness⟩

/-- A launcher that finds no program. -/
def barrenLauncher : Launcher :=
  fun _ _ => .error .notFound

/-- A command whose program is missing fails with its line in the message, strictly or not. -/
theorem Command.run_awkward (strictness : Strictness) (host : Host τ) :
    (((awkward strictness).run barrenLauncher).perform host).1 =
      .error (.within (awkward .strict).launching (.system .notFound)) := by
  obtain ⟨errors, hrun⟩ := (awkward strictness).perform_run barrenLauncher host
  have hlaunch : (awkward strictness).launch host.tree host.cwd =
      .ok ⟨(awkward strictness).program, (awkward strictness).args, host.cwd⟩ := by
    have hzero : ((awkward strictness).words.any holdsZero || (awkward strictness).dir.any holdsZero) = false := by
      cases strictness <;> decide
    simp only [launch, hzero, Bool.false_eq_true, if_false]
    rfl
  rw [hrun, child, hlaunch]
  rfl

/-- The words with quotes, backslashes and blanks in them are found again in the line, and two commands that are
shown, announced, blamed or echoed alike have the same words. -/
theorem Command.line_faithful_awkward :
    let strict := awkward .strict
    let lenient := awkward .lenient
    let host : Host Unit := Host.fresh Tree.empty Tree.root .error ()
    let failure : Failure := .within strict.launching (.system .notFound)
    let settings : Settings := { Settings.standard with make := "gmake" }
    Text.ShellWords.split strict.line = some (strict.program :: strict.args) ∧
      (strict.line = lenient.line ∧ strict.words = lenient.words) ∧
      (strict.announcement = lenient.announcement ∧ strict.dir = lenient.dir) ∧
      (((strict.run barrenLauncher).perform host).1 = .error failure ∧
        ((lenient.run barrenLauncher).perform host).1 = .error failure ∧ strict.words = lenient.words) ∧
      ((Checkout.sync barrenLauncher .standard).perform host).2.stdout =
          ((Checkout.sync barrenLauncher settings).perform host).2.stdout ∧
        (Checkout.syncCommand .standard host.tree host.cwd).words =
          (Checkout.syncCommand settings host.tree host.cwd).words := by
  intro strict lenient host failure settings
  obtain ⟨hsplit, halike, hfails, hecho⟩ := @Command.line_faithful Unit
  obtain ⟨hline, hannouncement, hmessage⟩ := halike strict lenient
  have hrun : ((strict.run barrenLauncher).perform host).1 = .error failure := run_awkward _ _
  have hrun' : ((lenient.run barrenLauncher).perform host).1 = .error failure := run_awkward _ _
  have hblames : strict.Blames failure := hfails barrenLauncher strict host failure hrun
  have hblames' : lenient.Blames failure := hfails barrenLauncher lenient host failure hrun'
  have hstdout : ((Checkout.sync barrenLauncher .standard).perform host).2.stdout =
      ((Checkout.sync barrenLauncher settings).perform host).2.stdout := by
    rw [Checkout.stdout_sync, Checkout.stdout_sync]
    rfl
  exact ⟨hsplit strict, ⟨rfl, hline rfl⟩, ⟨rfl, (hannouncement rfl).2⟩,
    ⟨hrun, hrun', hmessage failure failure hblames hblames' rfl⟩, hstdout,
    hecho barrenLauncher barrenLauncher .standard settings host host rfl hstdout⟩

end CounterCatalog
