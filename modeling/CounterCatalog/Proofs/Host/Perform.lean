import CounterCatalog.Host

/-!
# What actions do to a host

Every way to put an action together is run as its parts are: one after the other, as long as none of them
fails. A log message changes standard error and nothing else, and it never fails.
-/

set_option autoImplicit false

namespace CounterCatalog

variable {τ α β : Type}

/-! ## What is logged -/

namespace Host

/-- More on standard error does not change the files. -/
@[simp] theorem withErrors_tree (host : Host τ) (errors : List UInt8) : (host.withErrors errors).tree = host.tree := rfl

/-- More on standard error does not change the current directory. -/
@[simp] theorem withErrors_cwd (host : Host τ) (errors : List UInt8) : (host.withErrors errors).cwd = host.cwd := rfl

/-- Nothing more on standard error is no change. -/
theorem withErrors_nil (host : Host τ) : host.withErrors [] = host := by
  simp only [withErrors, List.append_nil]

/-- What is put on standard error twice is put there in that order. -/
theorem withErrors_withErrors (host : Host τ) (first second : List UInt8) :
    (host.withErrors first).withErrors second = host.withErrors (first ++ second) := by
  simp only [withErrors, List.append_assoc]

/-- A log message changes nothing but standard error. -/
theorem withLog_eq (host : Host τ) (level : Level) (message : String) :
    ∃ errors, host.withLog level message = host.withErrors errors := by
  unfold withLog
  split
  · exact ⟨_, rfl⟩
  · exact ⟨[], host.withErrors_nil.symm⟩

end Host

/-! ## Running actions -/

namespace Action

variable {host after : Host τ} {action : Action τ α} {next : α → Action τ β}

/-- A value is given with the host as it was. -/
@[simp] theorem perform_pure (value : α) (host : Host τ) :
    (pure value : Action τ α).perform host = (.ok value, host) := rfl

/-- The host is given and stays as it was. -/
@[simp] theorem perform_get (host : Host τ) : (get : Action τ (Host τ)).perform host = (.ok host, host) := rfl

/-- The host is changed as it is said. -/
@[simp] theorem perform_modify (change : Host τ → Host τ) (host : Host τ) :
    (modify change : Action τ Unit).perform host = (.ok (), change host) := rfl

/-- A message is logged, if its level is. -/
@[simp] theorem perform_log (level : Level) (message : String) (host : Host τ) :
    (log level message).perform host = (.ok (), host.withLog level message) := rfl

/-- The files are replaced, and nothing else. -/
@[simp] theorem perform_setTree (tree : Tree) (host : Host τ) :
    (setTree tree).perform host = (.ok (), { host with tree := tree }) := rfl

/-- A line is put on standard output. -/
@[simp] theorem perform_say (line : String) (host : Host τ) :
    (say line).perform host = (.ok (), host.withLine line) := rfl

/-- A failure within something leaves the host as it was. -/
@[simp] theorem perform_failWithin (doing : String) (cause : Failure) (host : Host τ) :
    (failWithin doing cause : Action τ α).perform host = (.error (.within doing cause), host) := rfl

/-- What an operation of the system gives while something is being done. -/
def attempted (doing : String) (result : Except Fault α) : Except Failure α :=
  match result with
  | .ok value => .ok value
  | .error fault => .error (.within doing (.system fault))

/-- What is attempted leaves the host as it was. -/
@[simp] theorem perform_attempt (doing : String) (result : Except Fault α) (host : Host τ) :
    (attempt doing result).perform host = (attempted doing result, host) := by
  cases result <;> rfl

/-- An action that follows another is run on the host that the other left, unless the other failed. -/
theorem perform_bind (action : Action τ α) (next : α → Action τ β) (host : Host τ) :
    (action >>= next).perform host =
      match action.perform host with
      | (.ok value, after) => (next value).perform after
      | (.error failure, after) => (.error failure, after) := by
  show (ExceptT.bindCont next (action.run host).1) (action.run host).2 = _
  unfold perform
  cases action.run host with
  | mk result after => cases result <;> rfl

/-- What follows an action that succeeded is run on the host that it left. -/
theorem perform_bind_of_ok {value : α} (h : action.perform host = (.ok value, after)) :
    (action >>= next).perform host = (next value).perform after := by
  rw [perform_bind, h]

/-- A run whose first part fails ends there. -/
theorem perform_bind_of_error {failure : Failure} (h : action.perform host = (.error failure, after)) :
    (action >>= next).perform host = (.error failure, after) := by
  rw [perform_bind, h]

/-- Two actions succeed one after the other when the first one does and so does what follows it. -/
theorem perform_bind_eq_ok_iff {result : β} :
    (action >>= next).perform host = (.ok result, after) ↔
      ∃ value between, action.perform host = (.ok value, between) ∧
        (next value).perform between = (.ok result, after) := by
  rw [perform_bind]
  constructor
  · intro h
    split at h
    · next value between hfirst => exact ⟨value, between, hfirst, h⟩
    · cases h
  · rintro ⟨value, between, hfirst, hnext⟩
    rw [hfirst]
    exact hnext

/-- Of two actions one after the other the first one fails, or it succeeds and what follows it fails. -/
theorem perform_bind_eq_error_iff {failure : Failure} :
    (action >>= next).perform host = (.error failure, after) ↔
      action.perform host = (.error failure, after) ∨
        ∃ value between, action.perform host = (.ok value, between) ∧
          (next value).perform between = (.error failure, after) := by
  rw [perform_bind]
  constructor
  · intro h
    split at h
    · next value between hfirst => exact .inr ⟨value, between, hfirst, h⟩
    · next failure' between hfirst =>
      cases h
      exact .inl hfirst
  · rintro (hfirst | ⟨value, between, hfirst, hnext⟩)
    · rw [hfirst]
    · rw [hfirst]
      exact hnext

/-- Log messages for the elements of a list change nothing but standard error. -/
theorem perform_forIn_log (level : Level) (message : α → String) (elements : List α) (host : Host τ) :
    ∃ errors, Action.perform (forIn elements PUnit.unit fun element _ => do
        log level (message element)
        pure (ForInStep.yield PUnit.unit)) host = (.ok PUnit.unit, host.withErrors errors) := by
  induction elements generalizing host with
  | nil => exact ⟨[], by simp [Host.withErrors]⟩
  | cons element elements ih =>
    obtain ⟨first, hfirst⟩ := host.withLog_eq level (message element)
    obtain ⟨errors, herrors⟩ := ih (host.withErrors first)
    refine ⟨first ++ errors, ?_⟩
    rw [← Host.withErrors_withErrors, ← herrors, ← hfirst]
    simp only [List.forIn_cons, perform_bind, perform_log, perform_pure]

end Action

end CounterCatalog
