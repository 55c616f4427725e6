import CounterCatalog.Proofs.Catalog.Course
import CounterCatalog.Proofs.Program.Serving

/-!
# Labels on paper and labels in questions

The labels of a saved listing are printed one a line. These lines are the questions that a source is asked that gives
the same listing, in order and with repetitions (`printed_are_asked`): a text that is UTF-8 is decoded strictly and
lossily alike, and no label is empty or has a line feed in it, so the lines can be told apart.
-/

set_option autoImplicit false

namespace CounterCatalog

open Text

/-! ## The lines of labels -/

namespace Event

/-- Labels, each with a line feed behind it. -/
def listed (labels : List String) : String :=
  String.ofList (labels.flatMap fun label => label.toList ++ ['\n'])

variable {labels : List String}

/-- Listed labels are the line of the first and those of the others. -/
theorem listed_cons (label : String) (labels : List String) :
    listed (label :: labels) = label ++ "\n" ++ listed labels := by
  simp [listed, String.append_assoc]

/-- Joined labels with a line feed behind them are labels with a line feed behind each. -/
theorem intercalate_append_newline (h : labels ≠ []) : "\n".intercalate labels ++ "\n" = listed labels := by
  induction labels with
  | nil => exact absurd rfl h
  | cons label labels ih =>
    rw [listed_cons]
    by_cases hrest : labels = []
    · rw [hrest, String.intercalate_singleton]
      exact (String.append_empty).symm
    · rw [String.intercalate_cons_of_ne_nil hrest, String.append_assoc, ih hrest]

/-- Only no labels are listed as nothing. -/
theorem listed_eq_empty_iff : listed labels = "" ↔ labels = [] := by
  cases labels with
  | nil => exact iff_of_true rfl rfl
  | cons label labels => simp [listed_cons]

/-- Cutting at line feeds gives the labels, and nothing behind the last of them. -/
theorem splitOn_listed (h : ∀ label ∈ labels, '\n' ∉ label.toList) :
    splitOn '\n' (listed labels).toList = labels.map String.toList ++ [[]] := by
  have hlines : (listed labels).toList = (labels.map String.toList).flatMap fun line => line ++ ['\n'] := by
    rw [listed, String.toList_ofList, List.flatMap_map]
  rw [hlines]
  exact splitOn_flatMap (List.forall_mem_map.2 h)

/-- There are as many lines as labels. -/
theorem count_listed (h : ∀ label ∈ labels, '\n' ∉ label.toList) :
    (listed labels).toList.count '\n' = labels.length := by
  induction labels with
  | nil => rfl
  | cons label labels ih =>
    rw [List.forall_mem_cons] at h
    rw [listed_cons, String.toList_append, String.toList_append, List.count_append, List.count_append,
      List.count_eq_zero_of_not_mem h.1, ih h.2]
    exact Nat.add_comm _ _

end Event

/-! ## The questions of a run -/

/-- What a child is started as: its program and its arguments. -/
def Launch.words (launch : Launch) : List String :=
  launch.program :: launch.args

/-- A command that gives something has launched one child. -/
theorem Command.exists_launches {launcher : Launcher} {command : Command} {tree : Tree} {cwd : Handle} {text : String}
    (h : command.output launcher tree cwd = .ok text) :
    ∃ directory, command.launches tree cwd = [⟨command.program, command.args, directory⟩] := by
  obtain ⟨report, hverdict, -⟩ := output_eq_ok_iff.1 h
  unfold Command.child at hverdict
  unfold Command.launches
  cases hlaunch : command.launch tree cwd with
  | error fault =>
    rw [hlaunch] at hverdict
    cases hverdict
  | ok launch =>
    unfold Command.launch at hlaunch
    split at hlaunch
    · cases hlaunch
    · split at hlaunch
      · cases hlaunch
        exact ⟨cwd, rfl⟩
      · split at hlaunch <;> cases hlaunch
        exact ⟨_, rfl⟩

namespace Listing

variable {τ : Type}

/-- Passing on what was written succeeds, asks nothing and launches nothing. -/
theorem exists_perform_pass (writer : Writer) (host : Host τ) :
    ∃ after, (pass writer).perform host = (.ok (), after) ∧ after.memory = host.memory ∧
      after.launches = host.launches := by
  unfold pass
  cases writer.target with
  | stream number =>
    refine ⟨_, Action.perform_modify _ host, ?_⟩
    unfold Host.withStream
    split_ifs <;> exact ⟨rfl, rfl⟩
  | _ => exact ⟨host, rfl, rfl, rfl⟩

/-- Saving asks nothing and launches nothing, whether or not it succeeds. -/
theorem exists_perform_save (output : String) (records : List Record) (host : Host τ) :
    ∃ result after, (save output records).perform host = (result, after) ∧ after.memory = host.memory ∧
      after.launches = host.launches := by
  unfold save
  simp only [Action.perform_bind, Action.perform_get, Action.perform_attempt, Action.perform_setTree]
  cases Writer.create host.tree host.cwd (Utf8.encode output) with
  | error fault => exact ⟨_, _, rfl, rfl, rfl⟩
  | ok created =>
    simp only [Action.attempted]
    cases created.1.records created.2 records with
    | error fault => exact ⟨_, _, rfl, rfl, rfl⟩
    | ok written =>
      simp only [Except.bind]
      cases written.1.finish written.2 with
      | error fault => exact ⟨_, _, rfl, rfl, rfl⟩
      | ok finished =>
        obtain ⟨after, hpass, hkept⟩ := exists_perform_pass finished.1 { host with tree := finished.2 }
        simp only [hpass, Action.perform_pure]
        exact ⟨_, _, rfl, hkept⟩

end Listing

namespace Catalog

variable {launcher : Launcher} {settings : Settings} {cwd : Handle} {tree : Tree} {checkout : String}
  {labels : List String} {launches : List Launch}

/-- Where no question fails, a child has been asked about each label, in order. -/
theorem words_of_course_asking
    (course : Course launcher settings cwd (labels.map (.ask checkout)) tree none launches) :
    launches.map Launch.words = labels.map fun label => [Path.join checkout Checkout.codeProgram, label] := by
  induction labels generalizing tree launches with
  | nil =>
    cases course
    rfl
  | cons label labels ih =>
    cases course with
    | step gives finds course =>
      obtain ⟨directory, hlaunches⟩ := Command.exists_launches gives
      have hone : (Stage.ask checkout label).launches settings tree cwd =
          [⟨Path.join checkout Checkout.codeProgram, [label], directory⟩] :=
        hlaunches
      rw [List.map_append, ih course, hone]
      rfl

/-- A source made up of programs is asked for its listing and about each label, before anything is written. -/
theorem launches_of_writeList {τ : Type} {host : Host τ} (output : String)
    (course : Course launcher settings host.cwd (.list checkout labels :: labels.map (.ask checkout)) host.tree none
      launches) :
    ∃ result after, (writeList (Checkout.source launcher checkout) output).perform host = (result, after) ∧
      after.launches = host.launches ++ launches := by
  have halong : Along launcher (writeList (Checkout.source launcher checkout) output) (Listing.save output) host none
      launches := by
    unfold writeList
    refine along_cons (does_list checkout labels) course fun listing listed launches finds _ _ course => ?_
    cases finds
    rw [← List.append_nil ((Event.labels listing).map (Stage.ask checkout))] at course
    refine along_asking course fun records asked launches course => ?_
    cases course
    exact ⟨records, Action.comesTo_self⟩
  obtain ⟨records, between, hperform, -, hlaunches, -⟩ := halong
  obtain ⟨result, after, hsave, -, hkept⟩ := Listing.exists_perform_save output records between
  exact ⟨result, after, hperform.trans hsave, hkept.trans hlaunches⟩

end Catalog

/-! ## Printing labels -/

namespace Program

open CommandLine

variable {τ : Type} {file text : String}

/-- A text that is at a path is read with the host as it was. -/
theorem perform_readText {host : Host τ} (h : textAt? host.tree host.cwd file = some text) :
    (readText file).perform host = (.ok text, host) := by
  unfold textAt? at h
  split at h
  · next content hread =>
    unfold readText
    simp only [Action.perform_bind, Action.perform_get, Action.perform_attempt, hread, Action.attempted, h,
      Action.perform_pure]
  · cases h

/-- The labels of a listing are printed one a line, and nothing else changes but standard error. -/
theorem perform_printLabels {host : Host τ} (h : textAt? host.tree host.cwd file = some text) :
    ∃ errors, (printLabels file).perform host =
      (.ok (), Host.withErrors { host with stdout := host.stdout ++ Event.listed (Event.labels text) } errors) := by
  obtain ⟨errors, herrors⟩ := Host.withLog_eq { host with stdout := host.stdout ++ Event.listed (Event.labels text) }
    .info (Counter.Numeral.decimal (Event.labels text).length ++ " event labels in " ++ file)
  refine ⟨errors, ?_⟩
  unfold printLabels
  rw [Action.perform_bind_of_ok (perform_readText h)]
  by_cases hlabels : Event.labels text = []
  · have hsame : { host with stdout := host.stdout ++ Event.listed (Event.labels text) } = host := by
      rw [Event.listed_eq_empty_iff.2 hlabels, String.append_empty]
    rw [hsame] at herrors ⊢
    simp only [ne_eq, hlabels, not_true_eq_false, if_false, Action.perform_log]
    rw [← hlabels, herrors]
  · have hline : host.withLine ("\n".intercalate (Event.labels text)) =
        { host with stdout := host.stdout ++ Event.listed (Event.labels text) } := by
      rw [Host.withLine, String.append_assoc, Event.intercalate_append_newline hlabels]
    simp only [ne_eq, hlabels, not_false_eq_true, if_true, Action.perform_bind, Action.perform_say,
      Action.perform_log, hline, herrors]

/-- **The labels that are printed are the questions that are asked.** The labels of a saved text are printed one a
line: cutting what was printed at its line feeds gives them back, there are as many line feeds as labels, nothing is
printed only if there are none, and none of them is empty or has a line feed in it. A source that gives the same text
as its listing is asked about exactly these labels, in this order, if no question fails; and so are the programs of a
checkout of which one writes that text. -/
theorem printed_are_asked {environment : Environment} {args : List String} {request : Request} {tree : Tree}
    {cwd here : Handle} (launcher : Launcher) (hrequest : Request.ofWords environment args = .ok request)
    (htask : request.task = .parse file) (hhere : standing tree cwd request.chdir? = .ok here)
    (htext : textAt? tree here file = some text) :
    ∃ printed errors,
      run launcher environment tree cwd args = ⟨0, printed, errors, tree⟩ ∧
      printed = Event.listed (Event.labels text) ∧
      splitOn '\n' printed.toList = (Event.labels text).map String.toList ++ [[]] ∧
      printed.toList.count '\n' = (Event.labels text).length ∧
      (printed = "" ↔ Event.labels text = []) ∧
      (∀ label ∈ Event.labels text, label ≠ "" ∧ '\n' ∉ label.toList) ∧
      (∀ (transcript : Transcript) (output : String) (host : Host (List String)) (answers : List String),
        transcript.listing = .ok text →
        transcript.answers host.memory.length (Event.labels text) = answers.map .ok →
        ∃ result after, (Catalog.writeList transcript.source output).perform host = (result, after) ∧
          after.memory = host.memory ++ Event.labels text) ∧
      ∀ (σ : Type) (children : Launcher) (settings : Settings) (checkout output : String) (host : Host σ)
          (outcome : Outcome) (asked : List String) (launches : List Launch),
        (Checkout.command checkout Checkout.listingProgram []).child children host.tree host.cwd = .ok outcome →
        outcome.stdout = Utf8.encode text →
        Catalog.Course children settings host.cwd (.list checkout asked :: asked.map (.ask checkout)) host.tree none
          launches →
        launches.map Launch.words =
          [Path.join checkout Checkout.listingProgram] ::
            (Event.labels text).map (fun label => [Path.join checkout Checkout.codeProgram, label]) ∧
        ∃ result after, (Catalog.writeList (Checkout.source children checkout) output).perform host = (result, after) ∧
          after.launches = host.launches ++ launches := by
  have hline : ∀ label ∈ Event.labels text, label ≠ "" ∧ '\n' ∉ label.toList :=
    fun label hlabel => Event.line_of_mem_labels hlabel
  have hstart : textAt? (hostFor environment tree here request).tree (hostFor environment tree here request).cwd file =
      some text := htext
  obtain ⟨errors, hprint⟩ := perform_printLabels hstart
  refine ⟨Event.listed (Event.labels text), errors, ?_, rfl,
    Event.splitOn_listed fun label hlabel => (hline label hlabel).2,
    Event.count_listed fun label hlabel => (hline label hlabel).2, Event.listed_eq_empty_iff, hline, ?_, ?_⟩
  · rw [run_of_request launcher hrequest (by rw [htask]; rfl) hhere, htask, carryOut, hprint]
    simp [conclude, hostFor, Host.fresh, Host.withErrors]
  · intro transcript output host answers hlisting hanswers
    obtain ⟨found, resolved, hfound, hresolved, hmemory, -, -⟩ := Catalog.perform_transcript hlisting hanswers
    obtain ⟨result, after, hsave, hkept, -⟩ := Listing.exists_perform_save output
      (Catalog.recordsOf (Event.labels text) answers) resolved
    refine ⟨result, after, ?_, hkept.trans hmemory⟩
    unfold Catalog.writeList
    rw [Action.perform_bind_of_ok hfound, Action.perform_bind_of_ok hresolved, hsave]
  · intro σ children settings checkout output host outcome asked launches hchild hstdout course
    have hwrite := Catalog.launches_of_writeList output course
    cases course with
    | step gives finds course =>
      -- What a program writes is decoded lossily, which leaves a text as it is.
      have hlisting : (Checkout.command checkout Checkout.listingProgram []).output children host.tree host.cwd =
          .ok text := by
        have hwritten : outcome = ⟨outcome.status, Utf8.encode text, outcome.stderr, outcome.tree⟩ := by
          rw [← hstdout]
        exact Command.output_of_child (hchild.trans (congrArg Except.ok hwritten)) rfl
      obtain rfl := Except.ok.inj (hlisting.symm.trans gives)
      obtain rfl : asked = Event.labels text := finds
      obtain ⟨directory, hlaunches⟩ := Command.exists_launches hlisting
      have hone : (Catalog.Stage.list checkout (Event.labels text)).launches settings host.tree host.cwd =
          [⟨Path.join checkout Checkout.listingProgram, [], directory⟩] :=
        hlaunches
      refine ⟨?_, hwrite⟩
      rw [List.map_append, Catalog.words_of_course_asking course, hone]
      rfl

/-- The sample listing as a file `s`. -/
def savedTree : Tree :=
  ⟨#[.directory Tree.root [([0x73], 1)] Node.openMode, .file (Utf8.encode Catalog.sampleListing) Node.fileMode]⟩

/-- Children that write the sample listing when they are started without arguments, and know no event. -/
def forgetfulLauncher : Launcher := fun launch tree =>
  .ok ⟨.exited 1, Utf8.encode (if launch.args = [] then Catalog.sampleListing else "no such event\n"), [], tree⟩

/-- What asking those children launches. -/
def forgetfulLaunches : List Launch :=
  [⟨"/examples/showevtinfo", [], Tree.root⟩, ⟨"/examples/check_events", ["a"], Tree.root⟩,
    ⟨"/examples/check_events", ["b.some_thing"], Tree.root⟩, ⟨"/examples/check_events", ["a"], Tree.root⟩]

/-- No stage of the sample questions fails, though none of them is answered with a code. -/
theorem course_forgetful : Catalog.Course forgetfulLauncher Settings.standard Tree.root
    (.list "/" ["a", "b.some_thing", "a"] :: ["a", "b.some_thing", "a"].map (.ask "/")) Tree.empty none
    forgetfulLaunches := by
  have hlist : (Catalog.Stage.list "/" ["a", "b.some_thing", "a"]).result forgetfulLauncher Settings.standard Tree.empty
      Tree.root = .ok Catalog.sampleListing :=
    Command.output_of_child rfl rfl
  have hfirst : (Catalog.Stage.ask "/" "a").result forgetfulLauncher Settings.standard Tree.empty Tree.root =
      .ok "no such event\n" :=
    Command.output_of_child rfl rfl
  have hsecond : (Catalog.Stage.ask "/" "b.some_thing").result forgetfulLauncher Settings.standard Tree.empty Tree.root =
      .ok "no such event\n" :=
    Command.output_of_child rfl rfl
  refine .stepTo hlist Catalog.labels_sampleListing.symm (show _ = Tree.empty from rfl) ?_
  refine .stepTo hfirst trivial (show _ = Tree.empty from rfl) ?_
  refine .stepTo hsecond trivial (show _ = Tree.empty from rfl) ?_
  exact .stepTo hfirst trivial (show _ = Tree.empty from rfl) .done

/-- The lines that are printed of the sample listing are the questions that the sample source is asked, and those that
the children are. -/
theorem printed_are_asked_sample :
    (∃ errors, run forgetfulLauncher ⟨[]⟩ savedTree Tree.root ["parse", "s"] =
      ⟨0, "a\nb.some_thing\na\n", errors, savedTree⟩) ∧
    (∃ result after, (Catalog.writeList Catalog.sampleTranscript.source "o").perform Catalog.sampleHost =
      (result, after) ∧ after.memory = ["a", "b.some_thing", "a"]) ∧
    ∃ result after, (Catalog.writeList (Checkout.source forgetfulLauncher "/") "o").perform
      (Host.fresh Tree.empty Tree.root .info ()) = (result, after) ∧ after.launches = forgetfulLaunches := by
  have htext : textAt? savedTree Tree.root "s" = some Catalog.sampleListing :=
    Utf8.decode?_encode Catalog.sampleListing
  have hrequest : Request.ofWords ⟨[]⟩ ["parse", "s"] = .ok ⟨none, 0, false, .parse "s"⟩ := by
    rfl
  obtain ⟨printed, errors, hrun, hprinted, -, -, -, -, htranscript, hchildren⟩ :=
    printed_are_asked forgetfulLauncher hrequest rfl rfl htext
  rw [Catalog.labels_sampleListing] at hprinted
  have hanswers := Catalog.answers_sampleTranscript
  obtain ⟨result, after, hwrite, hmemory⟩ := htranscript Catalog.sampleTranscript "o" Catalog.sampleHost
    Catalog.sampleAnswers rfl hanswers
  rw [Catalog.labels_sampleListing] at hmemory
  have hchild : (Checkout.command "/" Checkout.listingProgram []).child forgetfulLauncher Tree.empty Tree.root =
      .ok ⟨.exited 1, Utf8.encode Catalog.sampleListing, [], Tree.empty⟩ := by
    rfl
  have hstdout : (⟨.exited 1, Utf8.encode Catalog.sampleListing, [], Tree.empty⟩ : Outcome).stdout =
      Utf8.encode Catalog.sampleListing := by
    dsimp only
  obtain ⟨-, result', after', hwrite', hlaunches⟩ := hchildren Unit forgetfulLauncher Settings.standard "/" "o"
    (Host.fresh Tree.empty Tree.root .info ()) _ _ _ hchild hstdout course_forgetful
  refine ⟨⟨errors, hrun.trans ?_⟩, ⟨result, after, hwrite, hmemory⟩, result', after', hwrite', hlaunches⟩
  rw [hprinted]
  rfl

end Program

end CounterCatalog
