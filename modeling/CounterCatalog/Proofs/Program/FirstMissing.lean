import CounterCatalog.Proofs.Counter.Joining
import CounterCatalog.Proofs.Program.Lookup
import Mathlib.Data.List.TakeWhile

/-!
# Looking up names until one is missing

A lookup prints the counters of the names that stand before the first one that the list does not define, and stops with
an error there (`lookup_stops_at_missing`). Names behind that one play no part in it. Nothing at all is printed of a list
that cannot be read.
-/

set_option autoImplicit false

namespace CounterCatalog

open Text

namespace Listing

variable {counters found : List Counter} {names : List String} {file : String}

/-- A list of counters has one with this name. -/
def Defines (counters : List Counter) (name : String) : Prop :=
  ∃ counter ∈ counters, counter.name = name

instance (counters : List Counter) (name : String) : Decidable (Defines counters name) :=
  inferInstanceAs (Decidable (∃ counter ∈ counters, counter.name = name))

/-- A counter of a list that comes before all others with its name. -/
def IsFirst (counters : List Counter) (counter : Counter) : Prop :=
  ∃ before after, counters = before ++ counter :: after ∧ ∀ other ∈ before, other.name ≠ counter.name

/-- A counter is the first of its name exactly if a search for the name finds it. -/
theorem isFirst_iff {counter : Counter} :
    IsFirst counters counter ↔ (counters.find? fun other => other.name = counter.name) = some counter := by
  rw [List.find?_eq_some_iff_append]
  simp [IsFirst]

/-- The names before the first one that is not defined. -/
def known (counters : List Counter) (names : List String) : List String :=
  names.takeWhile fun name => Defines counters name

/-- The first name that is not defined. -/
def missing? (counters : List Counter) (names : List String) : Option String :=
  (names.dropWhile fun name => Defines counters name).head?

/-- The first missing name is one that no counter has. -/
theorem not_defines_of_missing? {name : String} (h : missing? counters names = some name) :
    ¬ Defines counters name := by
  have hstop := List.head?_dropWhile_not (fun name => decide (Defines counters name)) names
  unfold missing? at h
  rw [h] at hstop
  simpa using hstop

/-- The names before the first one that is not defined stand for counters, each the first of its name. -/
theorem exists_finds_known (counters : List Counter) (names : List String) (file : String) :
    ∃ found, Finds counters file (known counters names) found ∧ found.map Counter.name = known counters names ∧
      ∀ counter ∈ found, IsFirst counters counter := by
  have hknown : ∀ name ∈ known counters names, Defines counters name := by
    intro name hname
    simpa using List.mem_takeWhile_imp hname
  obtain ⟨found, hfound⟩ : ∃ found, Finds counters file (known counters names) found := exists_finds hknown
  obtain ⟨hnames, hfirst⟩ := finds_iff.1 hfound
  exact ⟨found, hfound, hnames.symm, fun counter hcounter => isFirst_iff.2 (hfirst counter hcounter)⟩

/-- Picking a name that no counter has fails with the name and the file. -/
theorem pick_of_not_defines {name : String} (h : ¬ Defines counters name) :
    pick counters name file = .error (.unlistedCounter name file) := by
  have hnone : (counters.find? fun counter => counter.name = name) = none := by
    rw [List.find?_eq_none]
    intro counter hcounter hname
    exact h ⟨counter, hcounter, by simpa using hname⟩
  rw [pick, hnone]

/-- Names behind one that is not defined make no difference. -/
theorem known_congr (front : List String) {missing : String} (h : ¬ Defines counters missing)
    (later later' : List String) :
    known counters (front ++ missing :: later) = known counters (front ++ missing :: later') ∧
      missing? counters (front ++ missing :: later) = missing? counters (front ++ missing :: later') := by
  induction front with
  | nil => simp [known, missing?, h]
  | cons name front ih =>
    unfold known missing? at ih ⊢
    by_cases hname : Defines counters name
    · simpa [hname] using ih
    · simp [hname]

end Listing

namespace Program

open CommandLine

variable {τ : Type} {counters found : List Counter} {names : List String} {file : String}

/-- Printing ends with the counter before the first name that is not defined. -/
theorem perform_printCounters_known (h : Listing.Finds counters file (Listing.known counters names) found)
    (host : Host τ) :
    (printCounters counters file names).perform host =
      (match Listing.missing? counters names with
        | none => .ok ()
        | some name => .error (.unlistedCounter name file),
        { host with stdout := host.stdout ++ Listing.printed found }) := by
  have hsplit : Listing.known counters names ++ names.dropWhile (fun name => Listing.Defines counters name) = names :=
    List.takeWhile_append_dropWhile
  have hprint := perform_printCounters_append h (names.dropWhile fun name => Listing.Defines counters name) host
  rw [hsplit] at hprint
  rw [hprint]
  cases hrest : names.dropWhile fun name => Listing.Defines counters name with
  | nil =>
    have hmissing : Listing.missing? counters names = none := by rw [Listing.missing?, hrest]; rfl
    rw [hmissing]
    rfl
  | cons name later =>
    have hmissing : Listing.missing? counters names = some name := by rw [Listing.missing?, hrest]; rfl
    rw [hmissing, printCounters, Listing.pick_of_not_defines (Listing.not_defines_of_missing? hmissing)]
    rfl

/-- A list without a text cannot be loaded. -/
theorem perform_load_of_textAt?_none {host : Host τ} (h : textAt? host.tree host.cwd file = none) :
    ∃ failure errors, (Listing.load file).perform host = (.error failure, host.withErrors errors) := by
  unfold textAt? at h
  split at h
  · next content hread =>
    obtain ⟨errors, hload⟩ := Listing.perform_load_of_read hread
    rw [Listing.loaded, Listing.counters?_eq_none_iff.2 h] at hload
    exact ⟨_, errors, hload⟩
  · next fault hread =>
    obtain ⟨failure, hload⟩ := Listing.perform_load_of_unread hread
    refine ⟨failure, [], ?_⟩
    rw [hload, Host.withErrors_nil]

/-- A list with a text is loaded. -/
theorem perform_load_of_textAt? {host : Host τ} {text : String} (h : textAt? host.tree host.cwd file = some text)
    (hcounters : Listing.counters? (Utf8.encode text) = some counters) :
    ∃ errors, (Listing.load file).perform host = (.ok counters, host.withErrors errors) := by
  unfold textAt? at h
  split at h
  · next content hread =>
    obtain ⟨errors, hload⟩ := Listing.perform_load_of_read hread
    rw [Utf8.decode?_eq_some_iff.1 h, Listing.loaded, hcounters] at hload
    exact ⟨errors, hload⟩
  · cases h

/-- What a lookup gives that has printed counters, given what was logged before and the name that is missing. -/
def ending (tree : Tree) (file : String) (remarks : List UInt8) (found : List Counter) : Option String → Run
  | none => ⟨0, Listing.printed found, remarks, tree⟩
  | some name => ⟨1, Listing.printed found, remarks ++ Utf8.encode (complaint (.unlistedCounter name file)), tree⟩

/-- **A lookup prints up to the first name that is missing.** Nothing is printed of a list that cannot be opened or is
no text, and the exit code is 1. Otherwise a line is printed for each name before the first one that the list does not
define, in the order of the names and with the first counter of that name; the exit code is 0 if there is no such name,
and 1 with an error that gives the name and the file if there is one. What was logged before depends on no name, and
names behind the missing one make no difference. -/
theorem lookup_stops_at_missing {environment : Environment} {tree : Tree} {cwd here : Handle} {chdir? : Option String}
    (launcher : Launcher) (verbosity : Nat) (quiet : Bool) (file : String)
    (hhere : standing tree cwd chdir? = .ok here) :
    ∃ remarks : List UInt8,
      (textAt? tree here file = none → ∃ failure, ∀ args names,
        Request.ofWords environment args = .ok ⟨chdir?, verbosity, quiet, .lookup file names⟩ →
        run launcher environment tree cwd args = ⟨1, "", remarks ++ Utf8.encode (complaint failure), tree⟩) ∧
      ∀ text, textAt? tree here file = some text →
        ∃ counters, Listing.counters? (Utf8.encode text) = some counters ∧
          (∀ args names,
            Request.ofWords environment args = .ok ⟨chdir?, verbosity, quiet, .lookup file names⟩ →
            ∃ found, found.map Counter.name = Listing.known counters names ∧
              (∀ counter ∈ found, Listing.IsFirst counters counter) ∧
              run launcher environment tree cwd args =
                ending tree file remarks found (Listing.missing? counters names)) ∧
          ∀ args args' front missing later later', ¬ Listing.Defines counters missing →
            Request.ofWords environment args =
              .ok ⟨chdir?, verbosity, quiet, .lookup file (front ++ missing :: later)⟩ →
            Request.ofWords environment args' =
              .ok ⟨chdir?, verbosity, quiet, .lookup file (front ++ missing :: later')⟩ →
            run launcher environment tree cwd args = run launcher environment tree cwd args' := by
  -- The host on which the file is loaded is the same whatever the names are.
  generalize hhost : hostFor environment tree here ⟨chdir?, verbosity, quiet, .lookup file []⟩ = host
  have hrun : ∀ args names,
      Request.ofWords environment args = .ok ⟨chdir?, verbosity, quiet, .lookup file names⟩ →
      run launcher environment tree cwd args = conclude ((lookUp file names).perform host) := by
    intro args names hrequest
    rw [← hhost]
    exact run_of_request launcher hrequest rfl hhere
  cases htext : textAt? tree here file with
  | none =>
    have hnone : textAt? host.tree host.cwd file = none := by
      rw [← hhost]
      exact htext
    obtain ⟨failure, errors, hload⟩ := perform_load_of_textAt?_none hnone
    refine ⟨errors, fun _ => ⟨failure, ?_⟩, ?_⟩
    · intro args names hrequest
      rw [hrun args names hrequest, lookUp, Action.perform_bind_of_error hload, ← hhost]
      rfl
    · rintro _ ⟨⟩
  | some text =>
    obtain ⟨counters, hcounters, -⟩ := Listing.exists_counters?_encode text
    have hsome : textAt? host.tree host.cwd file = some text := by
      rw [← hhost]
      exact htext
    obtain ⟨errors, hload⟩ := perform_load_of_textAt? hsome hcounters
    have hfound : ∀ args names,
        Request.ofWords environment args = .ok ⟨chdir?, verbosity, quiet, .lookup file names⟩ →
        ∀ found, Listing.Finds counters file (Listing.known counters names) found →
          run launcher environment tree cwd args =
            ending tree file errors found (Listing.missing? counters names) := by
      intro args names hrequest found hfinds
      rw [hrun args names hrequest, lookUp, Action.perform_bind_of_ok hload, perform_printCounters_known hfinds,
        ← hhost]
      cases Listing.missing? counters names <;>
        simp [conclude, ending, hostFor, Host.fresh, Host.withErrors]
    refine ⟨errors, by rintro ⟨⟩, ?_⟩
    rintro _ ⟨⟩
    refine ⟨counters, hcounters, ?_, ?_⟩
    · intro args names hrequest
      obtain ⟨found, hfinds, hnames, hfirst⟩ := Listing.exists_finds_known counters names file
      exact ⟨found, hnames, hfirst, hfound args names hrequest found hfinds⟩
    · intro args args' front missing later later' hmissing hrequest hrequest'
      obtain ⟨found, hfinds, -, -⟩ := Listing.exists_finds_known counters (front ++ missing :: later) file
      obtain ⟨hknown, hnext⟩ := Listing.known_congr front hmissing later later'
      have hsame := hfound args' _ hrequest' found (hknown ▸ hfinds)
      rw [hfound args _ hrequest found hfinds, hsame, hnext]

/-- A lookup of `b`, `z` and `a` in a list that does not define `z` prints one line and says so; one in a file that is
not there prints none. -/
theorem lookup_stops_at_missing_sample :
    ∃ remarks errors,
      run (fun _ _ => .error .notFound) ⟨[]⟩ listTree Tree.root ["lookup", "--", "f", "b", "z", "a"] =
        ⟨1, "b,0x1f,0x0,7\n", remarks ++ Utf8.encode "perflist: error: counter `z` not found in f\n", listTree⟩ ∧
      run (fun _ _ => .error .notFound) ⟨[]⟩ listTree Tree.root ["lookup", "--", "h", "a"] =
        ⟨1, "", errors, listTree⟩ := by
  have hcounters : Listing.counters? (Utf8.encode untidyList) =
      some [⟨"a", 5, 0, none⟩, ⟨"a", 6, 0, none⟩, ⟨"b", 0x1f, 0, some 7⟩] := by
    decide +kernel
  have hasks : ∀ file names, names ≠ [] → Request.ofWords ⟨[]⟩ ("lookup" :: "--" :: file :: names) =
      .ok ⟨none, 0, false, .lookup file names⟩ :=
    fun file names hnames => ofWords_lookup rfl hnames
  have hhere : standing listTree Tree.root none = .ok Tree.root := rfl
  obtain ⟨remarks, -, hlisted⟩ := @lookup_stops_at_missing ⟨[]⟩ _ _ _ _ (fun _ _ => .error .notFound) 0 false "f" hhere
  obtain ⟨errors, hunread, -⟩ := @lookup_stops_at_missing ⟨[]⟩ _ _ _ _ (fun _ _ => .error .notFound) 0 false "h" hhere
  have htext : textAt? listTree Tree.root "f" = some untidyList := by
    decide +kernel
  obtain ⟨counters, hsome, hprints, -⟩ := hlisted untidyList htext
  obtain rfl := Option.some.inj (hcounters.symm.trans hsome)
  obtain ⟨found, hnames, hfirst, hrun⟩ := hprints _ ["b", "z", "a"] (hasks "f" _ (by decide))
  obtain ⟨failure, hfails⟩ := hunread (by decide)
  have hfound : found = [⟨"b", 0x1f, 0, some 7⟩] := by
    obtain ⟨counter, rfl, hname⟩ : ∃ counter, found = [counter] ∧ counter.name = "b" := by
      rw [show Listing.known _ ["b", "z", "a"] = ["b"] by decide] at hnames
      simpa [List.map_eq_singleton_iff] using hnames
    have hcounter := Listing.isFirst_iff.1 (hfirst counter (List.mem_singleton_self counter))
    rw [hname] at hcounter
    rw [← Option.some.inj hcounter]
  have hmissing : Listing.missing? [⟨"a", 5, 0, none⟩, ⟨"a", 6, 0, none⟩, ⟨"b", 0x1f, 0, some 7⟩] ["b", "z", "a"] =
      some "z" := by
    decide
  have hprinted : Listing.printed [⟨"b", 0x1f, 0, some 7⟩] = "b,0x1f,0x0,7\n" := by decide +kernel
  have hcomplaint : complaint (.unlistedCounter "z" "f") = "perflist: error: counter `z` not found in f\n" := by
    decide +kernel
  refine ⟨remarks, _, hrun.trans ?_, hfails _ ["a"] (hasks "h" _ (by decide))⟩
  rw [hfound, hmissing, ending, hprinted, hcomplaint]

end Program

end CounterCatalog
