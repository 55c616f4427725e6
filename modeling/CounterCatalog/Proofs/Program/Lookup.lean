import CounterCatalog.Proofs.Counter.Display
import CounterCatalog.Proofs.Counter.ReadBack
import CounterCatalog.Proofs.Program.Serving
import Mathlib.Data.List.Forall2

/-!
# Looking up counters again

A lookup prints one line for each name, and what it printed is a counter list. Its counters are those that were found,
in the order of the names and as they were found, so looking up the same names in it prints the same lines again
(`lookup_again`). For that nothing is asked of the list that the names were looked up in first, except that it is a
text: whatever a line of it gives a counter is written in one way when it is printed.
-/

set_option autoImplicit false

namespace CounterCatalog

open Text

namespace Listing

variable {counters found : List Counter} {names : List String} {file : String}

/-! ## The counters that names stand for -/

/-- The counters that names stand for, name by name. -/
def Finds (counters : List Counter) (file : String) (names : List String) (found : List Counter) : Prop :=
  List.Forall₂ (fun name counter => pick counters name file = .ok counter) names found

/-- A name is picked exactly if a search for it finds the counter. -/
theorem pick_eq_ok_iff {name : String} {counter : Counter} :
    pick counters name file = .ok counter ↔ (counters.find? fun other => other.name = name) = some counter := by
  unfold pick
  cases counters.find? fun other => other.name = name <;> simp

/-- A name that some counter has is found. -/
theorem exists_first {name : String} (h : ∃ counter ∈ counters, counter.name = name) :
    ∃ first, (counters.find? fun other => other.name = name) = some first := by
  apply Option.isSome_iff_exists.1
  rw [List.find?_isSome]
  simpa using h

/-- What is found under a name has that name. -/
theorem name_of_first {name : String} {first : Counter}
    (h : (counters.find? fun other => other.name = name) = some first) : first.name = name := by
  simpa using List.find?_some h

/-- Names that some counters have are all found. -/
theorem exists_finds (h : ∀ name ∈ names, ∃ counter ∈ counters, counter.name = name) :
    ∃ found, Finds counters file names found := by
  induction names with
  | nil => exact ⟨[], .nil⟩
  | cons name names ih =>
    rw [List.forall_mem_cons] at h
    obtain ⟨first, hfirst⟩ := exists_first h.1
    obtain ⟨found, hfound⟩ := ih h.2
    exact ⟨first :: found, .cons (pick_eq_ok_iff.2 hfirst) hfound⟩

/-- What was found are counters with those names, and each of them is the first one that has its name. -/
theorem finds_iff :
    Finds counters file names found ↔ names = found.map Counter.name ∧
      ∀ counter ∈ found, (counters.find? fun other => other.name = counter.name) = some counter := by
  unfold Finds
  induction found generalizing names with
  | nil => simp
  | cons counter found ih =>
    cases names with
    | nil => simp
    | cons name names =>
      rw [List.forall₂_cons, ih, pick_eq_ok_iff, List.map_cons, List.cons.injEq, List.forall_mem_cons]
      constructor
      · rintro ⟨hfirst, hnames, hfound⟩
        have hname := name_of_first hfirst
        rw [← hname] at hfirst
        exact ⟨⟨hname.symm, hnames⟩, hfirst, hfound⟩
      · rintro ⟨⟨hname, hnames⟩, hfirst, hfound⟩
        rw [hname]
        exact ⟨hfirst, hnames, hfound⟩

/-- What is found is among the counters. -/
theorem Finds.subset (h : Finds counters file names found) : ∀ counter ∈ found, counter ∈ counters := by
  intro counter hcounter
  exact List.mem_of_find?_eq_some ((finds_iff.1 h).2 counter hcounter)

/-- Among what was found the same is found again: counters there that have one name are one counter. -/
theorem Finds.again (h : Finds counters file names found) (other : String) : Finds found other names found := by
  obtain ⟨hnames, hfound⟩ := finds_iff.1 h
  refine finds_iff.2 ⟨hnames, ?_⟩
  intro counter hcounter
  obtain ⟨first, hfirst⟩ := exists_first ⟨counter, hcounter, rfl⟩
  have hsame := hfound first (List.mem_of_find?_eq_some hfirst)
  rw [name_of_first hfirst, hfound counter hcounter] at hsame
  rw [hfirst, Option.some.inj hsame]

end Listing

/-! ## Running a lookup -/

namespace Program

open CommandLine

variable {τ : Type} {counters found : List Counter} {names : List String} {file : String}

/-- A command line asks for a lookup where the program stands, whatever it says about logging. -/
def AsksFor (environment : Environment) (args : List String) (file : String) (names : List String) : Prop :=
  ∃ verbosity quiet, Request.ofWords environment args = .ok ⟨none, verbosity, quiet, .lookup file names⟩

/-- Behind `--` all words of a lookup are operands. -/
theorem words_operands (typed : Typed) (words : List String) :
    Reading.words (.inside .lookup) ⟨typed, none, true⟩ words =
      .ok (⟨{ typed with operands := typed.operands ++ words }, none, true⟩, none) := by
  induction words generalizing typed with
  | nil => simp [Reading.words]
  | cons word words ih =>
    have htakes : Scope.takesAfter (.inside .lookup) typed.operands.length = true := by
      simp [Scope.takesAfter, Scope.operands]
    have hone : Reading.word (.inside .lookup) ⟨typed, none, true⟩ word =
        .ok ⟨{ typed with operands := typed.operands ++ [word] }, none, true⟩ := by
      rw [Reading.word, if_pos rfl, Reading.operand, if_pos htakes]
      rfl
    have hstep : Reading.words (.inside .lookup) ⟨typed, none, true⟩ (word :: words) =
        Reading.words (.inside .lookup) ⟨{ typed with operands := typed.operands ++ [word] }, none, true⟩ words := by
      rw [Reading.words, hone]
      rfl
    rw [hstep, ih]
    simp only [List.append_assoc, List.singleton_append]

/-- A lookup can be asked for in any file and of any names, in an environment that the program accepts. -/
theorem ofWords_lookup {environment : Environment} (henvironment : checkEnvironment environment .top .nothing = .ok ())
    (hnames : names ≠ []) :
    Request.ofWords environment ("lookup" :: "--" :: file :: names) = .ok ⟨none, 0, false, .lookup file names⟩ := by
  have htop : Reading.start.words .top ("lookup" :: "--" :: file :: names) =
      .ok (Reading.start, some (.lookup, "--" :: file :: names)) := rfl
  have hinside : Reading.start.words (.inside .lookup) ("--" :: file :: names) =
      .ok (⟨⟨[], [], 0, file :: names⟩, none, true⟩, none) :=
    words_operands .nothing (file :: names)
  have hinner : finish environment (.inside .lookup) ⟨⟨[], [], 0, file :: names⟩, none, true⟩ =
      .ok ⟨[], [], 0, file :: names⟩ := by
    cases names with
    | nil => exact absurd rfl hnames
    | cons name names => rfl
  have houter : finish environment .top .start = .ok .nothing := by
    unfold finish
    show (checkEnvironment environment .top .nothing >>= _) = _
    rw [henvironment]
    rfl
  unfold Request.ofWords
  rw [htop]
  show (Reading.start.words (.inside .lookup) ("--" :: file :: names) >>= _) = _
  rw [hinside]
  show (finish environment (.inside .lookup) _ >>= _) = _
  rw [hinner]
  show (finish environment .top .start >>= _) = _
  rw [houter]
  rfl

/-- A file and names behind two dashes ask for a lookup of those names in that file. -/
theorem asksFor_lookup {environment : Environment} (henvironment : checkEnvironment environment .top .nothing = .ok ())
    (hnames : names ≠ []) : AsksFor environment ("lookup" :: "--" :: file :: names) file names :=
  ⟨0, false, ofWords_lookup henvironment hnames⟩

/-- Names that are found are printed, and names behind them are looked up after that. -/
theorem perform_printCounters_append (h : Listing.Finds counters file names found) (rest : List String)
    (host : Host τ) :
    (printCounters counters file (names ++ rest)).perform host =
      (printCounters counters file rest).perform { host with stdout := host.stdout ++ Listing.printed found } := by
  unfold Listing.Finds at h
  induction h generalizing host with
  | nil => simp [Listing.printed]
  | @cons name counter names found hpick _ ih =>
    have hprinted : Listing.printed (counter :: found) = counter.render ++ "\n" ++ Listing.printed found := by
      simp [Listing.printed, Counter.render, String.append_assoc]
    rw [List.cons_append, printCounters, hpick]
    simp only
    rw [Action.perform_bind_of_ok (Action.perform_say _ _), ih, hprinted, Host.withLine]
    simp only [String.append_assoc]

/-- The counters that are found are printed, and nothing else of the host changes. -/
theorem perform_printCounters (h : Listing.Finds counters file names found) (host : Host τ) :
    (printCounters counters file names).perform host =
      (.ok (), { host with stdout := host.stdout ++ Listing.printed found }) := by
  have hprint := perform_printCounters_append h [] host
  rwa [List.append_nil] at hprint

/-- A lookup of names that are all found prints their counters, and leaves the files as they are. -/
theorem run_lookup {environment : Environment} {args : List String} {tree : Tree} {cwd handle : Handle}
    {content : List UInt8} {mode : Nat} (launcher : Launcher) (hasks : AsksFor environment args file names)
    (hfile : tree.locate cwd (Utf8.encode file) = .ok (handle, .file content mode))
    (hcounters : Listing.counters? content = some counters) (hfound : Listing.Finds counters file names found) :
    ∃ errors, run launcher environment tree cwd args = ⟨0, Listing.printed found, errors, tree⟩ := by
  obtain ⟨verbosity, quiet, hrequest⟩ := hasks
  generalize hhost : hostFor environment tree cwd ⟨none, verbosity, quiet, .lookup file names⟩ = host
  have hlocate : host.tree.locate host.cwd (Utf8.encode file) = .ok (handle, .file content mode) := by
    rw [← hhost]
    exact hfile
  obtain ⟨errors, hload⟩ := Listing.perform_load hlocate hcounters
  have hlookup : (lookUp file names).perform host =
      (.ok (), { host.withErrors errors with stdout := host.stdout ++ Listing.printed found }) := by
    rw [lookUp, Action.perform_bind_of_ok hload, perform_printCounters hfound]
    rfl
  refine ⟨errors, (run_of_request launcher hrequest rfl rfl).trans ?_⟩
  rw [hhost, carryOut, hlookup, ← hhost]
  simp [conclude, hostFor, Host.fresh, Host.withErrors]

/-- **What a lookup prints is a counter list, and looking up the same names in it prints it again.** The names are
looked up in a text in which each of them is defined. Wherever what was printed is put, it is read as the counters that
were found, in the order of the names, and a lookup of the names there prints the same, in whatever environment and
however it is asked for. -/
theorem lookup_again {environment : Environment} {args : List String} {tree : Tree} {cwd handle : Handle}
    {text : String} {mode : Nat} (launcher : Launcher) (hasks : AsksFor environment args file names)
    (hfile : tree.locate cwd (Utf8.encode file) = .ok (handle, .file (Utf8.encode text) mode))
    (hlisted : ∀ name ∈ names, ∃ counter ∈ (Listing.counters? (Utf8.encode text)).getD [], counter.name = name) :
    ∃ counters found printed errors,
      Listing.counters? (Utf8.encode text) = some counters ∧
      Listing.Finds counters file names found ∧
      run launcher environment tree cwd args = ⟨0, printed, errors, tree⟩ ∧
      Listing.counters? (Utf8.encode printed) = some found ∧
      ∀ launcher' environment' args' tree' cwd' file' handle' mode',
        tree'.locate cwd' (Utf8.encode file') = .ok (handle', .file (Utf8.encode printed) mode') →
        (∀ (τ : Type) (host : Host τ), host.tree = tree' → host.cwd = cwd' →
          ∃ errors', (Listing.load file').perform host = (.ok found, host.withErrors errors')) ∧
        (AsksFor environment' args' file' names →
          ∃ errors', run launcher' environment' tree' cwd' args' = ⟨0, printed, errors', tree'⟩) := by
  obtain ⟨counters, hcounters, hnamed⟩ := Listing.exists_counters?_encode text
  rw [hcounters, Option.getD_some] at hlisted
  have hfinds : ∃ found, Listing.Finds counters file names found := Listing.exists_finds hlisted
  obtain ⟨found, hfound⟩ := hfinds
  obtain ⟨errors, hrun⟩ := run_lookup launcher hasks hfile hcounters hfound
  have hread : Listing.counters? (Utf8.encode (Listing.printed found)) = some found :=
    Listing.counters?_printed fun counter hcounter => hnamed counter (hfound.subset counter hcounter)
  refine ⟨counters, found, Listing.printed found, errors, hcounters, hfound, hrun, hread, ?_⟩
  intro launcher' environment' args' tree' cwd' file' handle' mode' hfile'
  constructor
  · intro τ host htree hcwd
    rw [← htree, ← hcwd] at hfile'
    exact Listing.perform_load hfile' hread
  · intro hasks'
    exact run_lookup launcher' hasks' hfile' hread (hfound.again file')

/-- A list with a line that is skipped, a name that is defined twice and numbers that are written in several ways. -/
def untidyList : String := "a, 5\r\nskipped\na,6\nb,0X1f,0,07,more\n"

/-- What a lookup of `b`, `a` and `b` prints of that list. -/
def tidyList : String := "b,0x1f,0x0,7\na,0x5\nb,0x1f,0x0,7\n"

/-- Both lists as files, `f` and `g`. -/
def listTree : Tree :=
  ⟨#[.directory Tree.root [([0x66], 1), ([0x67], 2)] Node.openMode, .file (Utf8.encode untidyList) Node.fileMode,
    .file (Utf8.encode tidyList) Node.fileMode]⟩

/-- Looking up the same names in what a lookup has printed prints it once more. -/
theorem lookup_again_sample :
    ∃ errors errors',
      run (fun _ _ => .error .notFound) ⟨[]⟩ listTree Tree.root ["lookup", "--", "f", "b", "a", "b"] =
        ⟨0, tidyList, errors, listTree⟩ ∧
      run (fun _ _ => .error .notFound) ⟨[]⟩ listTree Tree.root ["lookup", "--", "g", "b", "a", "b"] =
        ⟨0, tidyList, errors', listTree⟩ := by
  have hasks : ∀ file, AsksFor ⟨[]⟩ ["lookup", "--", file, "b", "a", "b"] file ["b", "a", "b"] :=
    fun file => asksFor_lookup rfl (by decide)
  have hfile : listTree.locate Tree.root (Utf8.encode "f") = .ok (1, .file (Utf8.encode untidyList) Node.fileMode) := by
    decide
  have hfile' : listTree.locate Tree.root (Utf8.encode "g") = .ok (2, .file (Utf8.encode tidyList) Node.fileMode) := by
    decide
  have hlisted : ∀ name ∈ ["b", "a", "b"],
      ∃ counter ∈ (Listing.counters? (Utf8.encode untidyList)).getD [], counter.name = name := by
    decide
  obtain ⟨counters, found, printed, errors, -, -, hrun, -, hagain⟩ :=
    lookup_again (fun _ _ => .error .notFound) (hasks "f") hfile hlisted
  have hprinted : printed = tidyList := by
    have hstdout : (run (fun _ _ => .error .notFound) ⟨[]⟩ listTree Tree.root
        ["lookup", "--", "f", "b", "a", "b"]).stdout = tidyList := by
      decide +kernel
    rw [hrun] at hstdout
    exact hstdout
  rw [hprinted] at hrun hagain
  obtain ⟨-, hsame⟩ := hagain (fun _ _ => .error .notFound) ⟨[]⟩ ["lookup", "--", "g", "b", "a", "b"] listTree Tree.root
    "g" 2 Node.fileMode hfile'
  obtain ⟨errors', hrun'⟩ := hsame (hasks "g")
  exact ⟨errors, errors', hrun, hrun'⟩

end Program

end CounterCatalog
