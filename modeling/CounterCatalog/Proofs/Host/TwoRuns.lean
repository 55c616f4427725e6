import CounterCatalog.Counter.Listing
import CounterCatalog.Proofs.Host.Perform

/-!
# Comparing two runs

An action may be compared with another on the same host in two ways. It is *admitted* by the other if whatever
it succeeds with the other succeeds with as well (`Action.AdmittedBy`), and the two are *alike* if they cannot be told
apart except by what they write to standard error (`Action.Alike`). Both are kept when actions follow one another,
so that two programs are compared part by part. Writing a counter list looks at the files only, so it is like itself
(`Listing.alike_save`).
-/

set_option autoImplicit false

namespace CounterCatalog

variable {τ α β : Type}

/-- The host with something else on its standard error. -/
def Host.withStderr (host : Host τ) (errors : List UInt8) : Host τ :=
  { host with stderr := errors }

namespace Action

/-! ## The same success -/

/-- Whatever an action succeeds with, another one succeeds with, and leaves the same host. -/
def AdmittedBy (action other : Action τ α) : Prop :=
  ∀ host value after, action.perform host = (.ok value, after) → other.perform host = (.ok value, after)

section Admitted

variable {action other : Action τ α} {next next' : α → Action τ β}

/-- An action succeeds with what it succeeds with. -/
theorem AdmittedBy.refl (action : Action τ α) : action.AdmittedBy action :=
  fun _ _ _ h => h

/-- What admits each of two parts admits one after the other. -/
theorem AdmittedBy.bind (h : action.AdmittedBy other) (hnext : ∀ value, (next value).AdmittedBy (next' value)) :
    (action >>= next).AdmittedBy (other >>= next') := by
  intro host result after hboth
  obtain ⟨value, between, hfirst, hsecond⟩ := perform_bind_eq_ok_iff.1 hboth
  exact perform_bind_eq_ok_iff.2 ⟨value, between, h _ _ _ hfirst, hnext _ _ _ _ hsecond⟩

/-- What admits both branches admits the choice between them. -/
theorem AdmittedBy.ite {condition : Prop} [Decidable condition] {action' other' : Action τ α}
    (h : action.AdmittedBy other) (h' : action'.AdmittedBy other') :
    (if condition then action else action').AdmittedBy (if condition then other else other') := by
  split
  · exact h
  · exact h'

end Admitted

/-! ## The same but for standard error -/

/-- Two actions give the same and leave the same host, whatever is on standard error before and afterwards. -/
def Alike (first second : Action τ α) : Prop :=
  ∀ host errors, ∃ errors', second.perform (host.withStderr errors) =
    ((first.perform host).1, (first.perform host).2.withStderr errors')

section Alike

variable {first second : Action τ α} {next next' : α → Action τ β}

/-- Giving a value has nothing to do with standard error. -/
theorem alike_pure (value : α) : (pure value : Action τ α).Alike (pure value) :=
  fun _ errors => ⟨errors, rfl⟩

/-- Failing has nothing to do with standard error. -/
theorem alike_throw (failure : Failure) : (throw failure : Action τ α).Alike (throw failure) :=
  fun _ errors => ⟨errors, rfl⟩

/-- A line on standard output has nothing to do with standard error. -/
theorem alike_say (line : String) : (say line : Action τ Unit).Alike (say line) :=
  fun _ errors => ⟨errors, rfl⟩

/-- Changing the files has nothing to do with standard error. -/
theorem alike_setTree (tree : Tree) : (setTree tree : Action τ Unit).Alike (setTree tree) :=
  fun _ errors => ⟨errors, rfl⟩

/-- What is attempted has nothing to do with standard error. -/
theorem alike_attempt (doing : String) (result : Except Fault α) :
    (attempt doing result : Action τ α).Alike (attempt doing result) := by
  cases result with
  | error fault => exact alike_throw _
  | ok value => exact alike_pure value

/-- Messages may differ. -/
theorem alike_log (level level' : Level) (message message' : String) :
    (log level message : Action τ Unit).Alike (log level' message') := by
  intro host errors
  obtain ⟨logged, hlogged⟩ := host.withLog_eq level message
  obtain ⟨logged', hlogged'⟩ := (host.withStderr errors).withLog_eq level' message'
  refine ⟨errors ++ logged', ?_⟩
  rw [perform_log, perform_log, hlogged, hlogged']
  rfl

/-- Parts that are alike make wholes that are alike. -/
theorem Alike.bind (h : first.Alike second) (hnext : ∀ value, (next value).Alike (next' value)) :
    (first >>= next).Alike (second >>= next') := by
  intro host errors
  obtain ⟨errors', hsecond⟩ := h host errors
  rw [perform_bind, perform_bind, hsecond]
  cases hfirst : first.perform host with
  | mk result after =>
    cases result with
    | error failure => exact ⟨errors', rfl⟩
    | ok value => exact hnext value after errors'

/-- Branches that are alike make choices that are alike. -/
theorem Alike.ite {condition : Prop} [Decidable condition] {first' second' : Action τ α} (h : first.Alike second)
    (h' : first'.Alike second') :
    (if condition then first else first').Alike (if condition then second else second') := by
  split
  · exact h
  · exact h'

/-- An action that begins by looking at the host is like one that does so too. -/
theorem alike_get {f f' : Host τ → Action τ α} (h : ∀ host errors, (f host).Alike (f' (host.withStderr errors))) :
    (get >>= f).Alike (get >>= f') := by
  intro host errors
  obtain ⟨errors', hsecond⟩ := h host errors host errors
  exact ⟨errors', hsecond⟩

end Alike

end Action

namespace Listing

/-- Passing on what was handed to a stream has nothing to do with what standard error says already. -/
theorem alike_pass (writer : Writer) : (pass writer : Action τ Unit).Alike (pass writer) := by
  unfold pass
  cases writer.target with
  | file handle => exact Action.alike_pure ()
  | device device => exact Action.alike_pure ()
  | stream number =>
    intro host errors
    simp only [Action.perform_modify, Host.withStream]
    split
    · exact ⟨errors, rfl⟩
    · split
      · exact ⟨errors ++ writer.shown, rfl⟩
      · exact ⟨errors, rfl⟩

/-- Writing a list does not look at standard error. -/
theorem alike_save (path : String) (records : List Record) :
    (save path records : Action τ Nat).Alike (save path records) := by
  refine Action.alike_get fun host errors => ?_
  refine (Action.alike_attempt _ _).bind fun created => ?_
  refine (Action.alike_setTree _).bind fun _ => ?_
  refine (Action.alike_attempt _ _).bind fun written => ?_
  refine (Action.alike_setTree _).bind fun _ => ?_
  exact (alike_pass _).bind fun _ => Action.alike_pure _

end Listing

end CounterCatalog
