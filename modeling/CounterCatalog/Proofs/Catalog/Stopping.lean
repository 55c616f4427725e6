import CounterCatalog.Proofs.Catalog.Course

/-!
# What a run leaves that fails

Records are collected before the counter list is opened. So when a source does not answer, the questions after that
one are not asked and the files stay as they are, however many labels had been resolved by then; and when a stage of a
run fails, the stages after it are not taken, and of the files only what the children have done to them is left
(`failure_leaves_output`).

Children may answer differently when they are asked the same again: a child that does so leaves a mark among the nodes
that no name leads to, and the next one finds it.
-/

set_option autoImplicit false

namespace CounterCatalog.Catalog

/-! ## Any source -/

section Sources

variable {τ : Type} {source : EventSource τ} {host found asked after : Host τ} {failure : Failure}

/-- Without a listing there are no questions and there is no list. -/
theorem writeList_of_listing_error (h : source.listing.perform host = (.error failure, after)) (output : String) :
    (writeList source output).perform host = (.error failure, after) := by
  have hlabels : (findLabels source).perform host = (.error failure, after) := Action.perform_bind_of_error h
  exact Action.perform_bind_of_error hlabels

/-- The first question without an answer is the last one. -/
theorem resolveLabels_of_answer_error {labels rest : List String} {label : String} {records : List Record}
    (hasked : (resolveLabels source labels).perform host = (.ok records, asked))
    (hanswer : (source.answer label).perform asked = (.error failure, after)) :
    (resolveLabels source (labels ++ label :: rest)).perform host = (.error failure, after) := by
  induction labels generalizing host records with
  | nil =>
    cases hasked
    have hlabel : (resolveLabel source label).perform asked = (.error failure, after) :=
      Action.perform_bind_of_error hanswer
    exact Action.perform_bind_of_error hlabel
  | cons first labels ih =>
    obtain ⟨record, between, hfirst, hlater⟩ := Action.perform_bind_eq_ok_iff.1 hasked
    obtain ⟨records, resolved, hrecords, hpure⟩ := Action.perform_bind_eq_ok_iff.1 hlater
    cases hpure
    exact (Action.perform_bind_of_ok hfirst).trans (Action.perform_bind_of_error (ih hrecords))

/-- Without an answer there is no list. -/
theorem writeList_of_answer_error {labels rest : List String} {label : String} {records : List Record}
    (hlabels : (findLabels source).perform host = (.ok (labels ++ label :: rest), found))
    (hasked : (resolveLabels source labels).perform found = (.ok records, asked))
    (hanswer : (source.answer label).perform asked = (.error failure, after)) (output : String) :
    (writeList source output).perform host = (.error failure, after) :=
  (Action.perform_bind_of_ok hlabels).trans
    (Action.perform_bind_of_error (resolveLabels_of_answer_error hasked hanswer))

end Sources

/-! ## Sample runs -/

/-- A source that cannot list its events. -/
def silentTranscript : Transcript where
  listing := .error (.unavailable "off")
  answer _ _ := .ok ""

/-- A source that answers the first question and not the second. -/
def stallingTranscript : Transcript where
  listing := .ok sampleListing
  answer number _ := if number = 1 then .error (.unavailable "off") else .ok "Codes : 0x53003c\n"

/-- The files of the sample run once it has a checkout. -/
def sampleCloned : Tree :=
  ⟨#[.directory Tree.root [([0x63], 2), ([0x6F], 1)] Node.openMode, .file [1, 2, 3] Node.fileMode,
    .directory Tree.root [] Node.openMode]⟩

/-- Cloning makes the checkout and ends with a code that is not zero. The second event cannot be asked about, and all
others have one code. -/
def stallingLauncher : Launcher := fun launch tree =>
  if launch.program = "git" then .ok ⟨.exited 1, [], [], sampleCloned⟩
  else if launch.args = ["b.some_thing"] then .error .permissionDenied
  else .ok ⟨.exited 0, Text.Utf8.encode (if launch.args = [] then sampleListing else "Codes : 0x53003c\n"), [], tree⟩

/-- Settings for the sample run, which builds nothing. -/
def sampleSettings : Settings :=
  { Settings.standard with checkout := "c", skipBuild := true }

/-- What the sample run launches: it goes as far as the second label. -/
def sampleLaunches : List Launch :=
  [⟨"git", ["clone", "-b", "master", "--single-branch", "https://github.com/wcohen/libpfm4.git", "c"], Tree.root⟩,
    ⟨"/c/examples/showevtinfo", [], 2⟩, ⟨"/c/examples/check_events", ["a"], 2⟩,
    ⟨"/c/examples/check_events", ["b.some_thing"], 2⟩]

/-- The failure of the sample run. -/
def sampleFailure : Failure :=
  .within "launching \"/c/examples/check_events b.some_thing\"" (.system .permissionDenied)

/-- The sample run stops at the second question. -/
theorem course_sample : Course stallingLauncher sampleSettings Tree.root
    (stages sampleSettings "/c" "perf_list.csv" ["a", "b.some_thing", "a"]) sampleHost.tree (some sampleFailure)
    sampleLaunches := by
  have hsync : Stage.sync.result stallingLauncher sampleSettings sampleHost.tree Tree.root = .ok "" := by
    rfl
  refine .stepTo hsync trivial (show _ = sampleCloned from rfl) ?_
  have hresolve : (Stage.resolve "/c" "perf_list.csv").result stallingLauncher sampleSettings sampleCloned Tree.root =
      .ok "/c" := by
    rfl
  refine .stepTo hresolve ⟨rfl, rfl⟩ rfl ?_
  have hlist : (Stage.list "/c" ["a", "b.some_thing", "a"]).result stallingLauncher sampleSettings sampleCloned
      Tree.root = .ok sampleListing :=
    Command.output_of_child rfl rfl
  refine .stepTo hlist labels_sampleListing.symm (show _ = sampleCloned from rfl) ?_
  have hfirst : (Stage.ask "/c" "a").result stallingLauncher sampleSettings sampleCloned Tree.root =
      .ok "Codes : 0x53003c\n" :=
    Command.output_of_child rfl rfl
  refine .stepTo hfirst trivial (show _ = sampleCloned from rfl) ?_
  have hsecond : (Stage.ask "/c" "b.some_thing").result stallingLauncher sampleSettings sampleCloned Tree.root =
      .error sampleFailure := by
    rfl
  exact .stop hsecond

/-! ## Failing runs -/

/-- **A run that fails leaves the counter list alone.** A source without a listing is asked nothing, and one that does
not answer about a label is asked no more; either way its failure is given and nothing else of the host is touched.
A run stops with the failure of its first stage that fails: it launches nothing for a later one, and the files are
what the children have made of them that were launched until then. Every run has such a course, and one without a
failing stage goes on to write the list. -/
theorem failure_leaves_output :
    (∀ (transcript : Transcript) (output : String) (host : Host (List String)) (failure : Failure),
      transcript.listing = .error failure →
      (writeList transcript.source output).perform host = (.error failure, host)) ∧
    (∀ (transcript : Transcript) (output listing : String) (host : Host (List String)) (asked rest : List String)
        (label : String) (answers : List String) (failure : Failure),
      transcript.listing = .ok listing → Event.labels listing = asked ++ label :: rest →
      transcript.answers host.memory.length asked = answers.map .ok →
      transcript.answer (host.memory.length + asked.length) label = .error failure →
      ∃ errors, (writeList transcript.source output).perform host =
        (.error failure, Host.withErrors { host with memory := host.memory ++ (asked ++ [label]) } errors)) ∧
    (∀ (τ : Type) (launcher : Launcher) (settings : Settings) (host : Host τ) (checkout output : String)
        (labels : List String) (failure : Failure) (launches : List Launch),
      Course launcher settings host.cwd (stages settings checkout output labels) host.tree (some failure) launches →
      ∃ after, (generate launcher settings).perform host = (.error failure, after) ∧
        after.launches = host.launches ++ launches ∧ after.tree = launcher.replay host.tree launches) ∧
    ∀ (τ : Type) (launcher : Launcher) (settings : Settings) (host : Host τ),
      ∃ checkout output labels failure? launches records,
        Course launcher settings host.cwd (stages settings checkout output labels) host.tree failure? launches ∧
        (generate launcher settings).ComesTo launcher (Action.settle failure? (conclusion output records)) host
          launches := by
  refine ⟨?_, ?_, ?_, ?_⟩
  · intro transcript output host failure hlisting
    refine writeList_of_listing_error ?_ output
    rw [perform_listing, hlisting]
  · intro transcript output listing host asked rest label answers failure hlisting hlabels hanswers hanswer
    obtain ⟨found, hfound⟩ := perform_findLabels hlisting host
    rw [hlabels] at hfound
    have hfollow : transcript.answers (host.withErrors found).memory.length asked = answers.map .ok := hanswers
    obtain ⟨resolved, hresolved⟩ := perform_resolveLabels hfollow
    have hstop := perform_answer transcript label
      (Host.withErrors { host.withErrors found with memory := (host.withErrors found).memory ++ asked } resolved)
    -- The label is asked about with all labels before it remembered.
    rw [Host.withErrors, Host.withErrors, List.length_append, hanswer] at hstop
    refine ⟨found ++ resolved, (writeList_of_answer_error hfound hresolved hstop output).trans ?_⟩
    simp only [Host.withErrors, List.append_assoc]
  · intro τ launcher settings host checkout output labels failure launches course
    obtain ⟨records, after, hperform, -, hlaunches, htree⟩ := generate_of_course course
    exact ⟨after, hperform, hlaunches, htree⟩
  · intro τ launcher settings host
    obtain ⟨checkout, output, labels, failure?, launches, course⟩ :=
      exists_course launcher settings host.cwd host.tree
    obtain ⟨records, hcomes⟩ := generate_of_course course
    exact ⟨checkout, output, labels, failure?, launches, records, course, hcomes⟩

/-- The sample runs stop before the list is opened: the second source has been asked about two labels, and the run
that clones its checkout leaves the files as cloning has left them. -/
theorem failure_leaves_output_sample :
    (writeList silentTranscript.source "o").perform sampleHost = (.error (.unavailable "off"), sampleHost) ∧
    (∃ errors, (writeList stallingTranscript.source "o").perform sampleHost =
      (.error (.unavailable "off"), Host.withErrors { sampleHost with memory := ["a", "b.some_thing"] } errors)) ∧
    ∃ after, (generate stallingLauncher sampleSettings).perform sampleHost = (.error sampleFailure, after) ∧
      after.launches = sampleLaunches ∧ after.tree = sampleCloned := by
  obtain ⟨hlisting, hanswer, hcourse, -⟩ := failure_leaves_output
  refine ⟨hlisting silentTranscript "o" sampleHost _ rfl, ?_, ?_⟩
  · exact hanswer stallingTranscript "o" sampleListing sampleHost ["a"] ["a"] "b.some_thing" ["Codes : 0x53003c\n"] _
      rfl labels_sampleListing rfl rfl
  · exact hcourse _ _ _ sampleHost _ _ _ _ _ course_sample

end CounterCatalog.Catalog
