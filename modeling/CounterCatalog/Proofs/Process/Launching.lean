import CounterCatalog.Proofs.Process.Running

/-!
# Actions that only launch children

Until it reaches some other action, an action may do no more to the files than launching children does
(`Action.ComesTo`). Such actions compose (`ComesTo.bind`), and running a command is one (`Command.comesTo_run`).
-/

set_option autoImplicit false

namespace CounterCatalog

namespace Action

variable {τ α β : Type} {launcher : Launcher} {action rest : Action τ α} {next : α → Action τ β} {host : Host τ}
  {launches : List Launch}

/-- On a host an action comes down to what is left of it once it has made launches, which is all that it has done to
the files by then. -/
def ComesTo (launcher : Launcher) (action rest : Action τ α) (host : Host τ) (launches : List Launch) : Prop :=
  ∃ between, action.perform host = rest.perform between ∧ between.cwd = host.cwd ∧
    between.launches = host.launches ++ launches ∧ between.tree = launcher.replay host.tree launches

/-- The action that gives a result and does nothing else. -/
def ofResult (result : Except Failure α) : Action τ α :=
  match result with
  | .ok value => pure value
  | .error failure => throw failure

/-- The failure, if there is one, and else what is left to be done. -/
def settle (failure? : Option Failure) (rest : Action τ α) : Action τ α :=
  match failure? with
  | some failure => throw failure
  | none => rest

/-- A result is given with the host as it was. -/
theorem perform_ofResult (result : Except Failure α) (host : Host τ) :
    (ofResult result).perform host = (result, host) := by
  cases result <;> rfl

/-- Every action comes down to itself before it has launched anything. -/
theorem comesTo_self : ComesTo launcher action action host [] :=
  ⟨host, rfl, rfl, (List.append_nil _).symm, rfl⟩

/-- A line on standard output launches nothing. -/
theorem comesTo_say (line : String) : ComesTo launcher (say line) (pure ()) host [] :=
  ⟨host.withLine line, rfl, rfl, (List.append_nil _).symm, rfl⟩

/-- A message that is logged launches nothing. -/
theorem comesTo_log (level : Level) (message : String) : ComesTo launcher (log level message) (pure ()) host [] := by
  obtain ⟨errors, herrors⟩ := host.withLog_eq level message
  refine ⟨host.withErrors errors, ?_, rfl, (List.append_nil _).symm, rfl⟩
  rw [perform_log, herrors, perform_pure]

/-- Looking at the host launches nothing. -/
theorem comesTo_get {f : Host τ → Action τ α} (h : ComesTo launcher (f host) rest host launches) :
    ComesTo launcher (get >>= f) rest host launches := by
  obtain ⟨between, hperform, hbetween⟩ := h
  exact ⟨between, hperform, hbetween⟩

/-- An action that leaves the host as it is comes to its result. -/
theorem comesTo_of_perform {result : Except Failure α} (h : action.perform host = (result, host)) :
    ComesTo launcher action (ofResult result) host [] :=
  ⟨host, h.trans (perform_ofResult result host).symm, rfl, (List.append_nil _).symm, rfl⟩

namespace ComesTo

/-- What follows an action that succeeds finds the files as the launches have left them. What is left at the end may
depend on the host that it finds. -/
theorem exists_bind {ι : Type} {value : α} {final : ι → Action τ β} {more : List Launch}
    (h : ComesTo launcher action (pure value) host launches)
    (hnext : ∀ between : Host τ, between.cwd = host.cwd → between.tree = launcher.replay host.tree launches →
      ∃ index, ComesTo launcher (next value) (final index) between more) :
    ∃ index, ComesTo launcher (action >>= next) (final index) host (launches ++ more) := by
  obtain ⟨between, hperform, hcwd, hlaunches, htree⟩ := h
  obtain ⟨index, after, hperform', hcwd', hlaunches', htree'⟩ := hnext between hcwd htree
  refine ⟨index, after, (perform_bind_of_ok hperform).trans hperform', hcwd'.trans hcwd, ?_, ?_⟩
  · rw [hlaunches', hlaunches, List.append_assoc]
  · rw [htree', htree, launcher.replay_append]

/-- A first part that comes down to a value leaves the second part to go on from there, and the launches add up. -/
theorem bind {value : α} {rest : Action τ β} {more : List Launch} (h : ComesTo launcher action (pure value) host launches)
    (hnext : ∀ between : Host τ, between.cwd = host.cwd → between.tree = launcher.replay host.tree launches →
      ComesTo launcher (next value) rest between more) :
    ComesTo launcher (action >>= next) rest host (launches ++ more) := by
  obtain ⟨-, hboth⟩ : ∃ _ : Unit, ComesTo launcher (action >>= next) rest host (launches ++ more) :=
    h.exists_bind fun between hcwd htree => ⟨(), hnext between hcwd htree⟩
  exact hboth

/-- What follows an action that succeeds without a launch finds the files as they were. -/
theorem bind_of_quiet {value : α} {rest : Action τ β} (h : ComesTo launcher action (pure value) host [])
    (hnext : ∀ between : Host τ, between.cwd = host.cwd → between.tree = host.tree →
      ComesTo launcher (next value) rest between launches) :
    ComesTo launcher (action >>= next) rest host launches := by
  have hboth := h.bind hnext
  rwa [List.nil_append] at hboth

/-- A first part that fails leaves nothing of the second one. -/
theorem bind_throw {failure : Failure} (h : ComesTo launcher action (throw failure) host launches) :
    ComesTo launcher (action >>= next) (throw failure) host launches := by
  obtain ⟨between, hperform, hbetween⟩ := h
  exact ⟨between, perform_bind_of_error hperform, hbetween⟩

/-- What an action gives is made into something else, and at most a message is logged about it. -/
theorem bind_map {result : Except Failure α} {f : α → β} (h : ComesTo launcher action (ofResult result) host launches)
    (hnext : ∀ value between, ComesTo launcher (next value) (pure (f value)) between []) :
    ComesTo launcher (action >>= next) (ofResult (result.map f)) host launches := by
  cases result with
  | error failure => exact h.bind_throw
  | ok value =>
    have hboth := h.bind fun between _ _ => hnext value between
    rwa [List.append_nil] at hboth

end ComesTo

end Action

/-- Running a command comes to its verdict on what became of its child. -/
theorem Command.comesTo_run {τ : Type} (launcher : Launcher) (command : Command) (host : Host τ) :
    (command.run launcher).ComesTo launcher
      (Action.ofResult (command.verdict (command.child launcher host.tree host.cwd))) host
      (command.launches host.tree host.cwd) := by
  obtain ⟨errors, hperform⟩ := command.perform_run launcher host
  refine ⟨(host.launched launcher (command.launches host.tree host.cwd)).withErrors errors, ?_, rfl, rfl, rfl⟩
  rw [hperform, Action.perform_ofResult]

end CounterCatalog
