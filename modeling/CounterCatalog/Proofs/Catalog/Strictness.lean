import CounterCatalog.Proofs.Catalog.FirstFailure
import CounterCatalog.Proofs.Catalog.Stopping

/-!
# What strictness changes

How strictly a run is made matters for the children that clone, pull and build, and for no others. A strict run that
succeeds is the lenient run; one that fails because of how a child ended fails because of the first of those children
that did not end successfully, provided that it could be started at all; and how the programs of the checkout end
changes nothing either way (`strict_run`).
-/

set_option autoImplicit false

namespace CounterCatalog

variable {τ : Type}

/-! ## A strict run that succeeds -/

/-- The settings of a run that is made with a given strictness. -/
def Settings.withStrictness (settings : Settings) (strictness : Strictness) : Settings :=
  { settings with strictness := strictness }

namespace Catalog

/-- With another strictness, the command that clones or pulls is the same but for that. -/
theorem syncCommand_withStrictness (settings : Settings) (strictness : Strictness) (tree : Tree) (cwd : Handle) :
    Checkout.syncCommand (settings.withStrictness strictness) tree cwd =
      (Checkout.syncCommand settings tree cwd).withStrictness strictness := by
  unfold Checkout.syncCommand
  rw [Settings.withStrictness]
  split <;> rfl

/-- What clones or pulls is the program that the settings name. -/
theorem syncCommand_program (settings : Settings) (tree : Tree) (cwd : Handle) :
    (Checkout.syncCommand settings tree cwd).program = settings.git := by
  unfold Checkout.syncCommand
  split <;> rfl

/-- Whatever a strict run clones or pulls with success, a lenient run does alike. -/
theorem sync_admitted (launcher : Launcher) (settings : Settings) :
    (Checkout.sync launcher (settings.withStrictness .strict) : Action τ Unit).AdmittedBy
      (Checkout.sync launcher (settings.withStrictness .lenient)) := by
  refine (Action.AdmittedBy.refl get).bind fun host => ?_
  simp only [syncCommand_withStrictness, Command.withStrictness_line]
  refine (Action.AdmittedBy.refl _).bind fun _ => ?_
  exact (Command.run_admitted launcher _).bind fun _ => .refl _

/-- Whatever a strict run builds with success, a lenient run does alike. -/
theorem build_admitted (launcher : Launcher) (settings : Settings) :
    (Checkout.build launcher (settings.withStrictness .strict) : Action τ Unit).AdmittedBy
      (Checkout.build launcher (settings.withStrictness .lenient)) := by
  refine (Action.AdmittedBy.refl _).bind fun _ => ?_
  exact (Command.run_admitted launcher (Checkout.buildCommand settings)).bind fun _ => .refl _

/-- A strict run that succeeds is the lenient run. -/
theorem generate_admitted (launcher : Launcher) (settings : Settings) :
    (generate launcher (settings.withStrictness .strict) : Action τ Nat).AdmittedBy
      (generate launcher (settings.withStrictness .lenient)) := by
  have hsync : (syncStep launcher (settings.withStrictness .strict) : Action τ Unit).AdmittedBy
      (syncStep launcher (settings.withStrictness .lenient)) :=
    .ite (.refl _) (sync_admitted launcher settings)
  have hbuild : (buildStep launcher (settings.withStrictness .strict) : Action τ Unit).AdmittedBy
      (buildStep launcher (settings.withStrictness .lenient)) :=
    .ite (.refl _) (build_admitted launcher settings)
  exact hsync.bind fun _ => hbuild.bind fun _ => .refl _

/-! ## Runs with children that end differently -/

section Overlooked

variable {first second : Launcher} {settings : Settings}

/-- Launchers that differ only in how children end answer a query alike. -/
theorem alike_query (hdeed : ∀ launch tree, deedOf (first launch tree) = deedOf (second launch tree))
    (checkout program : String) (args : List String) :
    (Checkout.query first checkout program args : Action τ String).Alike
      (Checkout.query second checkout program args) := by
  have hoverlooks : (Checkout.command checkout program args).Overlooks first second :=
    Command.overlooks_of_lenient hdeed rfl
  refine hoverlooks.alike_run fun report report' hstdout => ?_
  rw [hstdout]
  exact Action.alike_pure _

/-- Launchers that differ only in how children end resolve labels alike. -/
theorem alike_resolveLabels (hdeed : ∀ launch tree, deedOf (first launch tree) = deedOf (second launch tree))
    (checkout : String) (labels : List String) :
    (resolveLabels (Checkout.source first checkout) labels : Action τ (List Record)).Alike
      (resolveLabels (Checkout.source second checkout) labels) := by
  induction labels with
  | nil => exact Action.alike_pure []
  | cons label labels ih =>
    have hlabel : (resolveLabel (Checkout.source first checkout) label : Action τ (Option Record)).Alike
        (resolveLabel (Checkout.source second checkout) label) := by
      refine (alike_query hdeed checkout Checkout.codeProgram [label]).bind fun answer => ?_
      cases Event.code? answer with
      | none => exact (Action.alike_log _ _ _ _).bind fun _ => Action.alike_pure _
      | some code => exact (Action.alike_log _ _ _ _).bind fun _ => Action.alike_pure _
    exact hlabel.bind fun record => ih.bind fun records => Action.alike_pure _

/-- Launchers that differ only in how children end write a list alike. -/
theorem alike_writeList (hdeed : ∀ launch tree, deedOf (first launch tree) = deedOf (second launch tree))
    (checkout output : String) :
    (writeList (Checkout.source first checkout) output : Action τ Nat).Alike
      (writeList (Checkout.source second checkout) output) := by
  have hlabels : (findLabels (Checkout.source first checkout) : Action τ (List String)).Alike
      (findLabels (Checkout.source second checkout)) :=
    (alike_query hdeed checkout Checkout.listingProgram []).bind fun listing =>
      (Action.alike_log _ _ _ _).bind fun _ => Action.alike_pure _
  exact hlabels.bind fun labels => (alike_resolveLabels hdeed checkout labels).bind fun records =>
    Listing.alike_save output records

/-- Looking for the checkout runs alike, since nothing is launched for it. -/
theorem alike_resolve (checkout : String) :
    (Checkout.resolve checkout : Action τ String).Alike (Checkout.resolve checkout) := by
  refine Action.alike_get fun host errors => ?_
  refine (Action.alike_attempt _ _).bind fun path => ?_
  cases Text.Utf8.decode? path with
  | none => exact Action.alike_throw _
  | some path => exact Action.alike_pure path

/-- Runs that differ in how children end, but not the children that clone, pull or build if they are strict, are
alike. -/
theorem alike_generate (hdeed : ∀ launch tree, deedOf (first launch tree) = deedOf (second launch tree))
    (hsync : ∀ tree cwd, (Checkout.syncCommand settings tree cwd).Overlooks first second)
    (hbuild : (Checkout.buildCommand settings).Overlooks first second) :
    (generate first settings : Action τ Nat).Alike (generate second settings) := by
  have hsyncStep : (syncStep first settings : Action τ Unit).Alike (syncStep second settings) := by
    refine .ite (Action.alike_log _ _ _ _) (Action.alike_get fun host errors => ?_)
    refine (Action.alike_say _).bind fun _ => ?_
    exact (hsync host.tree host.cwd).alike_run fun _ _ _ => Action.alike_pure ()
  have hbuildStep : (buildStep first settings : Action τ Unit).Alike (buildStep second settings) := by
    refine .ite (Action.alike_log _ _ _ _) ((Action.alike_say _).bind fun _ => ?_)
    exact hbuild.alike_run fun _ _ _ => (Action.alike_log _ _ _ _).bind fun _ => Action.alike_log _ _ _ _
  refine hsyncStep.bind fun _ => hbuildStep.bind fun _ => (alike_resolve _).bind fun checkout => ?_
  refine Action.alike_get fun host errors => ?_
  refine (alike_writeList hdeed checkout _).bind fun count => ?_
  exact (Action.alike_say _).bind fun _ => Action.alike_pure _

end Overlooked

/-! ## Sample runs -/

/-- Cloning and building succeed, and the programs of the checkout end in some way after they have answered. -/
def answeringLauncher (status : Status) : Launcher := fun launch tree =>
  if launch.program = "git" then .ok ⟨.exited 0, [], [], sampleCloned⟩
  else if launch.program = "make" then .ok ⟨.exited 0, [], [], tree⟩
  else .ok ⟨status, Text.Utf8.encode (if launch.args = [] then sampleListing else "Codes : 0x53003c\n"), [], tree⟩

/-- Settings for sample runs that clone and build. -/
def updatingSettings : Settings :=
  { Settings.standard with checkout := "c", output? := some "o", strictness := .strict }

/-- The sample launchers differ only in how the programs of the checkout end. -/
theorem deedOf_answeringLauncher (status status' : Status) (launch : Launch) (tree : Tree) :
    deedOf (answeringLauncher status launch tree) = deedOf (answeringLauncher status' launch tree) := by
  unfold answeringLauncher
  split
  · rfl
  · split <;> rfl

/-- What the sample runs launch. -/
def answeredLaunches : List Launch :=
  [⟨"git", ["clone", "-b", "master", "--single-branch", "https://github.com/wcohen/libpfm4.git", "c"], Tree.root⟩,
    ⟨"make", [], 2⟩, ⟨"/c/examples/showevtinfo", [], 2⟩, ⟨"/c/examples/check_events", ["a"], 2⟩,
    ⟨"/c/examples/check_events", ["b.some_thing"], 2⟩, ⟨"/c/examples/check_events", ["a"], 2⟩]

/-- The answers reach the file, though the programs of the checkout end with a code. -/
theorem perform_generate_answering : ∃ after,
    (generate (answeringLauncher (.exited 1)) updatingSettings).perform sampleHost = (.ok 3, after) ∧
      after.launches = answeredLaunches ∧
      after.tree.read Tree.root (Text.Utf8.encode "o") =
        .ok (Text.Utf8.encode "a,0x53003c\nb.some_thing,0x53003c\na,0x53003c\n") := by
  have hrun : ((generate (answeringLauncher (.exited 1)) updatingSettings).perform sampleHost).1 = .ok 3 ∧
      ((generate (answeringLauncher (.exited 1)) updatingSettings).perform sampleHost).2.launches =
        answeredLaunches ∧
      ((generate (answeringLauncher (.exited 1)) updatingSettings).perform sampleHost).2.tree.read Tree.root
          (Text.Utf8.encode "o") =
        .ok (Text.Utf8.encode "a,0x53003c\nb.some_thing,0x53003c\na,0x53003c\n") := by
    decide +kernel
  obtain ⟨hcount, hlaunches, hread⟩ := hrun
  exact ⟨_, Prod.ext hcount rfl, hlaunches, hread⟩

/-- **Strictness matters for cloning, pulling and building, and for nothing else.** A strict run that succeeds is the
lenient run: it gives the same count and leaves the same host, with the same launches and the same files. A strict
run fails for how a child ended exactly when the first child that does not end successfully, among those that clone,
pull or build, could be started, and then the failure says how that child ended; a child that could not be started is
another failure. Whether a run is strict or not, two ways for the programs of the checkout to end cannot be told
apart by what is made of their answers: not by the records, nor by the count, nor by the files. -/
theorem strict_run :
    (∀ (τ : Type) (launcher : Launcher) (settings : Settings) (host after : Host τ) (count : Nat),
      (generate launcher (settings.withStrictness .strict)).perform host = (.ok count, after) →
      (generate launcher (settings.withStrictness .lenient)).perform host = (.ok count, after)) ∧
    (∀ (τ : Type) (launcher : Launcher) (settings : Settings) (host : Host τ) (failure : Failure),
      settings.strictness = .strict →
      (((generate launcher settings).perform host).1 = .error failure ∧ failure.IsOfChild ↔
        ∃ command outcome,
          FirstUnsuccessful launcher settings host.cwd (updates settings) host.tree command (.ok outcome) ∧
            ((∃ code, outcome.status = .exited code ∧ code ≠ 0 ∧ failure = .exited command.line code) ∨
              ∃ signal, outcome.status = .signalled signal ∧ failure = .killed command.line))) ∧
    (∀ (τ : Type) (launcher : Launcher) (settings : Settings) (host : Host τ) (command : Command) (fault : Fault),
      settings.strictness = .strict →
      FirstUnsuccessful launcher settings host.cwd (updates settings) host.tree command (.error fault) →
      ((generate launcher settings).perform host).1 = .error (.within command.launching (.system fault))) ∧
    ∀ (τ : Type) (first second : Launcher) (settings : Settings),
      (∀ launch tree, deedOf (first launch tree) = deedOf (second launch tree)) →
      (settings.strictness = .strict → ∀ command,
        (∃ tree cwd, command = Checkout.syncCommand settings tree cwd) ∨ command = Checkout.buildCommand settings →
        ∀ tree cwd, command.child first tree cwd = command.child second tree cwd) →
      (∀ checkout labels, (resolveLabels (Checkout.source first checkout) labels : Action τ (List Record)).Alike
        (resolveLabels (Checkout.source second checkout) labels)) ∧
      (generate first settings : Action τ Nat).Alike (generate second settings) := by
  refine ⟨?_, ?_, ?_, ?_⟩
  · intro τ launcher settings host after count h
    exact generate_admitted launcher settings host count after h
  · intro τ launcher settings host failure hstrict
    rw [generate_failure_iff hstrict]
    simp only [Command.failureOf_eq_some_iff]
  · intro τ launcher settings host command fault hstrict first
    obtain ⟨failure, hverdict, -, hgenerate⟩ := generate_of_first hstrict first
    cases hverdict
    exact hgenerate
  · intro τ first second settings hdeed hsame
    have hoverlooks : ∀ command : Command, command.strictness = settings.strictness →
        ((∃ tree cwd, command = Checkout.syncCommand settings tree cwd) ∨
          command = Checkout.buildCommand settings) → command.Overlooks first second := by
      intro command hcommand hupdates
      cases hstrictness : settings.strictness with
      | strict => exact Command.overlooks_of_child (hsame hstrictness command hupdates)
      | lenient => exact Command.overlooks_of_lenient hdeed (hcommand.trans hstrictness)
    refine ⟨alike_resolveLabels hdeed, alike_generate hdeed (fun tree cwd => ?_) (hoverlooks _ rfl (.inr rfl))⟩
    exact hoverlooks _ (syncCommand_strictness settings tree cwd) (.inl ⟨tree, cwd, rfl⟩)

/-- A sample run writes the same three records strictly and leniently, whatever the programs of the checkout end with.
Cloning stops it with a code, and with a fault when there is nothing to clone with. -/
theorem strict_run_sample :
    (∃ after,
      (generate (answeringLauncher (.exited 1)) (updatingSettings.withStrictness .strict)).perform sampleHost =
        (.ok 3, after) ∧
      (generate (answeringLauncher (.exited 1)) (updatingSettings.withStrictness .lenient)).perform sampleHost =
        (.ok 3, after) ∧
      after.launches = answeredLaunches ∧
      after.tree.read Tree.root (Text.Utf8.encode "o") =
        .ok (Text.Utf8.encode "a,0x53003c\nb.some_thing,0x53003c\na,0x53003c\n")) ∧
    (((generate stallingLauncher updatingSettings).perform sampleHost).1 =
      .error (.exited "git clone -b master --single-branch https://github.com/wcohen/libpfm4.git c" 1)) ∧
    (((generate (fun _ _ => .error .notFound) updatingSettings).perform sampleHost).1 =
      .error (.within (Checkout.syncCommand updatingSettings sampleHost.tree sampleHost.cwd).launching
        (.system .notFound))) ∧
    (generate (answeringLauncher (.exited 1)) updatingSettings : Action (List String) Nat).Alike
      (generate (answeringLauncher (.signalled 9)) updatingSettings) := by
  obtain ⟨hadmitted, hfails, hmissing, hdeeds⟩ := strict_run
  refine ⟨?_, ?_, ?_, ?_⟩
  · obtain ⟨after, hstrict, hlaunches, hread⟩ := perform_generate_answering
    exact ⟨after, hstrict, hadmitted _ _ updatingSettings sampleHost after 3 hstrict, hlaunches, hread⟩
  · have first : FirstUnsuccessful stallingLauncher updatingSettings sampleHost.cwd (updates updatingSettings)
        sampleHost.tree (Checkout.syncCommand updatingSettings sampleHost.tree sampleHost.cwd)
        (.ok ⟨.exited 1, [], [], sampleCloned⟩) := by
      refine .here rfl ?_
      rintro ⟨outcome, houtcome, hsuccess⟩
      cases houtcome
      cases hsuccess
    exact ((hfails _ _ updatingSettings sampleHost _ rfl).2
      ⟨_, _, first, .inl ⟨1, rfl, by decide, rfl⟩⟩).1
  · refine hmissing _ _ updatingSettings sampleHost _ _ rfl (.here rfl ?_)
    rintro ⟨outcome, houtcome, -⟩
    cases houtcome
  · refine (hdeeds _ _ _ updatingSettings (deedOf_answeringLauncher _ _) ?_).2
    rintro - command hcommand
    refine Command.child_congr fun launch tree hprogram => ?_
    have hupdates : launch.program = "git" ∨ launch.program = "make" := by
      rw [hprogram]
      rcases hcommand with ⟨tree, cwd, rfl⟩ | rfl
      · exact .inl (syncCommand_program updatingSettings tree cwd)
      · exact .inr rfl
    unfold answeringLauncher
    rcases hupdates with hgit | hmake
    · simp only [hgit, if_true]
    · simp only [hmake]
      rfl

end Catalog

end CounterCatalog
