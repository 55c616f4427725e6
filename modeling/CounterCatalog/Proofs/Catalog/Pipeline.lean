import CounterCatalog.Catalog.Records
import CounterCatalog.Proofs.Counter.ReadBack
import CounterCatalog.Proofs.Counter.Writing
import CounterCatalog.Proofs.Event.Line

/-!
# From the listing to the file and back

A source that answers every question is asked about each label of its listing once, in order. The file then holds
the lines of the records that the answers make, one line for each, whatever it held before
(`writeList_exact`). Reading it back gives the counters that those records define, provided that no label has a
comma in it (`load_writeList`).
-/

set_option autoImplicit false

namespace CounterCatalog

/-! ## Any source -/

/-- A record that some source could have made: its label stands in a listing, and its code in an answer. -/
def Record.Obtainable (record : Record) : Prop :=
  (∃ listing, record.label ∈ Event.labels listing) ∧ ∃ answer, Event.code? answer = some record.code

/-- The label and the code of an obtainable record have no character in them that would break its line. -/
theorem Record.Obtainable.wellFormed {record : Record} (h : record.Obtainable) : record.WellFormed := by
  obtain ⟨⟨listing, hlabel⟩, answer, hcode⟩ := h
  obtain ⟨hne, hline⟩ := Event.line_of_mem_labels hlabel
  exact ⟨hne, hline, Event.hex_of_code? hcode⟩

namespace Catalog

section Sources

variable {τ : Type} {source : EventSource τ} {host found resolved : Host τ} {labels : List String}
  {records : List Record} {output : String} {handle : Handle} {made : Tree} {mode : Nat}

/-- Labels that were found are those of some listing. -/
theorem labels_of_findLabels (h : (findLabels source).perform host = (.ok labels, found)) :
    ∃ listing, labels = Event.labels listing := by
  obtain ⟨listing, _, -, hrest⟩ := Action.perform_bind_eq_ok_iff.1 h
  obtain ⟨_, _, -, hpure⟩ := Action.perform_bind_eq_ok_iff.1 hrest
  cases hpure
  exact ⟨listing, rfl⟩

/-- A record that is made for a label has that label, and its code stands in an answer. -/
theorem record_of_resolveLabel {label : String} {record? : Option Record}
    (h : (resolveLabel source label).perform host = (.ok record?, resolved)) :
    ∀ record ∈ record?, record.label = label ∧ ∃ answer, Event.code? answer = some record.code := by
  obtain ⟨answer, _, -, hrest⟩ := Action.perform_bind_eq_ok_iff.1 h
  cases hcode : Event.code? answer with
  | none =>
    rw [hcode] at hrest
    cases hrest
    simp
  | some code =>
    rw [hcode] at hrest
    cases hrest
    rintro record ⟨⟩
    exact ⟨rfl, answer, hcode⟩

/-- The records that are made for labels have some of those labels, and their codes stand in answers. -/
theorem record_of_resolveLabels (h : (resolveLabels source labels).perform host = (.ok records, resolved)) :
    ∀ record ∈ records, record.label ∈ labels ∧ ∃ answer, Event.code? answer = some record.code := by
  induction labels generalizing host records with
  | nil =>
    cases h
    simp
  | cons label labels ih =>
    obtain ⟨record?, between, hfirst, hrest⟩ := Action.perform_bind_eq_ok_iff.1 h
    obtain ⟨rest, _, hrecords, hpure⟩ := Action.perform_bind_eq_ok_iff.1 hrest
    cases hpure
    intro record hrecord
    rcases List.mem_append.1 hrecord with hmem | hmem
    · obtain ⟨hlabel, hcode⟩ := record_of_resolveLabel hfirst record (by simpa using hmem)
      exact ⟨by simp [hlabel], hcode⟩
    · obtain ⟨hlabel, hcode⟩ := ih hrecords record hmem
      exact ⟨List.mem_cons_of_mem _ hlabel, hcode⟩

/-- The records of a source are well formed, whatever it lists and answers. -/
theorem wellFormed_of_resolveLabels (hlabels : (findLabels source).perform host = (.ok labels, found))
    (hrecords : (resolveLabels source labels).perform found = (.ok records, resolved)) :
    ∀ record ∈ records, record.WellFormed := by
  intro record hrecord
  obtain ⟨listing, rfl⟩ := labels_of_findLabels hlabels
  obtain ⟨hlabel, hcode⟩ := record_of_resolveLabels hrecords record hrecord
  have hobtainable : record.Obtainable := ⟨⟨listing, hlabel⟩, hcode⟩
  exact hobtainable.wellFormed

/-- When the source has answered for every label, the path that is written to leads to the lines of the records,
and only the files have changed since the last answer. -/
theorem perform_writeList (hlabels : (findLabels source).perform host = (.ok labels, found))
    (hrecords : (resolveLabels source labels).perform found = (.ok records, resolved))
    (anchored : Tree.Anchored resolved.tree resolved.cwd)
    (hopen : resolved.tree.create resolved.cwd (Text.Utf8.encode output) = .ok (.file handle, made)) :
    ∃ tree mode, (writeList source output).perform host = (.ok records.length, { resolved with tree := tree }) ∧
      tree.locate resolved.cwd (Text.Utf8.encode output) =
        .ok (handle, .file (Record.listBytes records) mode) := by
  obtain ⟨tree, mode, hsave, hlocate⟩ := Listing.exists_save anchored hopen records
  refine ⟨tree, mode, ?_, hlocate⟩
  unfold writeList
  rw [Action.perform_bind_of_ok hlabels, Action.perform_bind_of_ok hrecords, hsave]

/-- The counters that are loaded from the file are those of the lines of the records. -/
theorem exists_loaded {counters : List Counter} (hlabels : (findLabels source).perform host = (.ok labels, found))
    (hrecords : (resolveLabels source labels).perform found = (.ok records, resolved))
    (anchored : Tree.Anchored resolved.tree resolved.cwd)
    (hopen : resolved.tree.create resolved.cwd (Text.Utf8.encode output) = .ok (.file handle, made))
    (hcounters : Listing.counters? (Record.listBytes records) = some counters) :
    ∃ after loaded, (writeList source output).perform host = (.ok records.length, after) ∧
      (Listing.load output).perform after = (.ok counters, loaded) := by
  obtain ⟨tree, mode, hrun, hlocate⟩ := perform_writeList hlabels hrecords anchored hopen
  have hfile : ({ resolved with tree := tree } : Host τ).tree.locate resolved.cwd (Text.Utf8.encode output) =
      .ok (handle, .file (Record.listBytes records) mode) := hlocate
  obtain ⟨errors, hload⟩ := Listing.perform_load hfile hcounters
  exact ⟨_, _, hrun, hload⟩

end Sources

end Catalog

/-! ## Transcripts -/

/-- What a transcript answers to labels that are asked about one after the other, given how many were asked about
before them. -/
def Transcript.answers (transcript : Transcript) (before : Nat) (labels : List String) :
    List (Except Failure String) :=
  (labels.zipIdx before).map fun item => transcript.answer item.2 item.1

namespace Catalog

/-- The records that answers make for the labels that were asked about: one for each answer that gives a code, in
order. -/
def recordsOf (labels answers : List String) : List Record :=
  (labels.zip answers).filterMap fun item => (Event.code? item.2).map fun code => ⟨item.1, code⟩

/-- An answer with a code makes the first record, and one without a code makes none. -/
theorem recordsOf_cons (label answer : String) (labels answers : List String) :
    recordsOf (label :: labels) (answer :: answers) =
      ((Event.code? answer).map fun code => (⟨label, code⟩ : Record)).toList ++ recordsOf labels answers := by
  rw [recordsOf, List.zip_cons_cons, List.filterMap_cons, recordsOf]
  cases Event.code? answer <;> rfl

variable {transcript : Transcript} {host : Host (List String)}

/-- What a transcript gives at once leaves the host as it was. -/
theorem perform_liftExcept (result : Except Failure String) (host : Host (List String)) :
    (Transcript.source.liftExcept result).perform host = (result, host) := by
  cases result <;> rfl

/-- The listing of a transcript is given without a trace on the host. -/
theorem perform_listing (transcript : Transcript) (host : Host (List String)) :
    transcript.source.listing.perform host = (transcript.listing, host) := by
  exact perform_liftExcept transcript.listing host

/-- A transcript answers by the number of questions before, and the host remembers the question. -/
theorem perform_answer (transcript : Transcript) (label : String) (host : Host (List String)) :
    (transcript.source.answer label).perform host =
      (transcript.answer host.memory.length label, { host with memory := host.memory ++ [label] }) := by
  unfold Transcript.source
  simp only [Action.perform_bind, Action.perform_get, Action.perform_modify, perform_liftExcept]

/-- An answered question makes at most one record. -/
theorem perform_resolveLabel {label answer : String} (h : transcript.answer host.memory.length label = .ok answer) :
    ∃ errors, (resolveLabel transcript.source label).perform host =
      (.ok ((Event.code? answer).map fun code => ⟨label, code⟩),
        Host.withErrors { host with memory := host.memory ++ [label] } errors) := by
  have hasked := perform_answer transcript label host
  rw [h] at hasked
  unfold resolveLabel
  rw [Action.perform_bind_of_ok hasked]
  cases Event.code? answer with
  | none =>
    obtain ⟨errors, herrors⟩ :=
      Host.withLog_eq { host with memory := host.memory ++ [label] } .debug ("no code for " ++ label)
    exact ⟨errors, by simp only [Action.perform_bind, Action.perform_log, Action.perform_pure, herrors,
      Option.map_none]⟩
  | some code =>
    obtain ⟨errors, herrors⟩ :=
      Host.withLog_eq { host with memory := host.memory ++ [label] } .trace (label ++ " -> " ++ code)
    exact ⟨errors, by simp only [Action.perform_bind, Action.perform_log, Action.perform_pure, herrors,
      Option.map_some]⟩

/-- Answered questions are asked once each, in order, and make the records of their answers. -/
theorem perform_resolveLabels {labels answers : List String}
    (h : transcript.answers host.memory.length labels = answers.map .ok) :
    ∃ errors, (resolveLabels transcript.source labels).perform host =
      (.ok (recordsOf labels answers),
        Host.withErrors { host with memory := host.memory ++ labels } errors) := by
  induction labels generalizing host answers with
  | nil => exact ⟨[], by simp [resolveLabels, recordsOf, Host.withErrors]⟩
  | cons label labels ih =>
    cases answers with
    | nil => simp [Transcript.answers] at h
    | cons answer answers =>
      obtain ⟨hanswer, hanswers⟩ := List.cons.inj h
      obtain ⟨first, hfirst⟩ := perform_resolveLabel hanswer
      -- The labels that follow are asked about on the host that remembers this one too.
      have hnext : transcript.answers
          (Host.withErrors { host with memory := host.memory ++ [label] } first).memory.length labels =
            answers.map .ok := by
        rw [Host.withErrors, List.length_append, List.length_singleton]
        exact hanswers
      obtain ⟨errors, herrors⟩ := ih hnext
      refine ⟨first ++ errors, ?_⟩
      unfold resolveLabels
      rw [Action.perform_bind_of_ok hfirst, Action.perform_bind_of_ok herrors, recordsOf_cons]
      simp only [Action.perform_pure, Host.withErrors, List.append_assoc, List.singleton_append]

/-- The labels that are found with a transcript are those of its listing; nothing but the log shows it. -/
theorem perform_findLabels {listing : String} (h : transcript.listing = .ok listing) (host : Host (List String)) :
    ∃ errors, (findLabels transcript.source).perform host =
      (.ok (Event.labels listing), host.withErrors errors) := by
  obtain ⟨errors, herrors⟩ := host.withLog_eq .info
    ("found " ++ Counter.Numeral.decimal (Event.labels listing).length ++ " event labels")
  refine ⟨errors, ?_⟩
  unfold findLabels
  rw [Action.perform_bind, perform_listing, h]
  simp only [Action.perform_bind, Action.perform_log, Action.perform_pure, herrors]

/-- There are as many records as answers with a code. -/
theorem length_recordsOf {labels answers : List String} (h : labels.length = answers.length) :
    (recordsOf labels answers).length = answers.countP fun answer => (Event.code? answer).isSome := by
  induction labels generalizing answers with
  | nil =>
    rw [List.eq_nil_of_length_eq_zero h.symm]
    rfl
  | cons label labels ih =>
    obtain ⟨answer, answers, rfl⟩ := List.exists_cons_of_length_eq_add_one h.symm
    rw [recordsOf_cons, List.length_append, ih (Nat.succ.inj h), List.countP_cons, Nat.add_comm]
    cases Event.code? answer <;> rfl

/-! ## A sample run -/

/-- A listing of three events, the first and the last of one name. -/
def sampleListing : String :=
  "Name : a\n#-----------------------------\nName : b\nUmask-00 : 0x01 : PMU : [some thing]\n" ++
    "#-----------------------------\nName : a\n"

/-- Answers to three questions: a code, a code of more than sixty-four bits, and none. -/
def sampleAnswers : List String :=
  ["Codes : 0x53003c\n", "Codes : 0x10000000000000000\n", "no such event\n"]

/-- A source with that listing and those answers. -/
def sampleTranscript : Transcript where
  listing := .ok sampleListing
  answer number _ := .ok (sampleAnswers.getD number "")

/-- A host with a single file, which holds three bytes. -/
def sampleHost : Host (List String) :=
  Host.fresh ⟨#[.directory Tree.root [([0x6F], 1)] Node.openMode, .file [1, 2, 3] Node.fileMode]⟩
    Tree.root .info []

/-- The two answers that give a code make two records. -/
def sampleRecords : List Record :=
  [⟨"a", "0x53003c"⟩, ⟨"b.some_thing", "0x10000000000000000"⟩]

/-- The sample listing has three labels, two of which are the same. -/
theorem labels_sampleListing : Event.labels sampleListing = ["a", "b.some_thing", "a"] := by
  have hblocks : Event.blockChars sampleListing.toList =
      ["Name : a\n".toList, "\nName : b\nUmask-00 : 0x01 : PMU : [some thing]\n".toList,
        "\nName : a\n".toList] := by
    cbv
  have hfirst : Event.blockLabels "Name : a\n".toList = ["a".toList] := by
    have hname : Event.name? "Name : a\n".toList = some "a".toList := by decide
    rw [Event.blockLabels, hname, Event.umasks_of_none (by decide)]
  have hlast : Event.blockLabels "\nName : a\n".toList = ["a".toList] := by
    have hname : Event.name? "\nName : a\n".toList = some "a".toList := by decide
    rw [Event.blockLabels, hname, Event.umasks_of_none (by decide)]
  have hvaried : Event.blockLabels "\nName : b\nUmask-00 : 0x01 : PMU : [some thing]\n".toList =
      ["b.some_thing".toList] := by
    have hname : Event.name? "\nName : b\nUmask-00 : 0x01 : PMU : [some thing]\n".toList = some "b".toList := by
      decide
    have humask : Text.firstSite Event.umaskHere?
        "\nName : b\nUmask-00 : 0x01 : PMU : [some thing]\n".toList =
          some ("some thing".toList, "\n".toList) := by
      decide
    rw [Event.blockLabels, hname, Event.umasks_of_some humask, Event.umasks_of_none (by decide)]
    rfl
  rw [Event.labels, Event.listingLabels, hblocks]
  simp only [List.flatMap_cons, hfirst, hvaried, hlast]
  rfl

/-- The current directory of the sample host is there. -/
theorem anchored_sampleHost : Tree.Anchored sampleHost.tree sampleHost.cwd :=
  ⟨rfl, rfl⟩

/-- Opening the counter list of the sample host empties the file that is there. -/
theorem create_sampleHost : sampleHost.tree.create sampleHost.cwd (Text.Utf8.encode "o") =
    .ok (.file 1, sampleHost.tree.set 1 (.file [] Node.fileMode)) :=
  rfl

/-- The sample transcript answers for each label of its listing. -/
theorem answers_sampleTranscript :
    sampleTranscript.answers sampleHost.memory.length (Event.labels sampleListing) = sampleAnswers.map .ok := by
  rw [labels_sampleListing]
  rfl

/-- Two of the sample answers make a record. -/
theorem recordsOf_sampleAnswers : recordsOf (Event.labels sampleListing) sampleAnswers = sampleRecords := by
  rw [labels_sampleListing]
  decide

/-! ## Whole runs -/

/-- A transcript that answers for every label of its listing makes the records of its answers, and nothing of the
host is touched but what it remembers and what is logged. -/
theorem perform_transcript {listing : String} {answers : List String} (hlisting : transcript.listing = .ok listing)
    (hanswers : transcript.answers host.memory.length (Event.labels listing) = answers.map .ok) :
    ∃ found resolved, (findLabels transcript.source).perform host = (.ok (Event.labels listing), found) ∧
      (resolveLabels transcript.source (Event.labels listing)).perform found =
        (.ok (recordsOf (Event.labels listing) answers), resolved) ∧
      resolved.memory = host.memory ++ Event.labels listing ∧ resolved.tree = host.tree ∧
      resolved.cwd = host.cwd := by
  obtain ⟨before, hlabels⟩ := perform_findLabels hlisting host
  have hfollow : transcript.answers (host.withErrors before).memory.length (Event.labels listing) =
      answers.map .ok := hanswers
  obtain ⟨errors, hrecords⟩ := perform_resolveLabels hfollow
  exact ⟨_, _, hlabels, hrecords, rfl, rfl, rfl⟩

/-- **The file holds exactly the lines of the records.** Every label of the listing is asked about once, in order
and with repetitions. The file is then, whatever it held, the lines `label,code` of those questions whose answer
gives a code, in the same order; their number is given back, and it is that of the line feeds, at which the file
falls apart into one line for each record. -/
theorem writeList_exact {output listing : String} {answers : List String} {records : List Record} {handle : Handle}
    {made : Tree} (hlisting : transcript.listing = .ok listing)
    (hanswers : transcript.answers host.memory.length (Event.labels listing) = answers.map .ok)
    (hrecords : recordsOf (Event.labels listing) answers = records)
    (anchored : Tree.Anchored host.tree host.cwd)
    (hopen : host.tree.create host.cwd (Text.Utf8.encode output) = .ok (.file handle, made)) :
    ∃ after content,
      (writeList transcript.source output).perform host = (.ok records.length, after) ∧
      after.memory = host.memory ++ Event.labels listing ∧
      after.tree.read host.cwd (Text.Utf8.encode output) = .ok content ∧
      content = (records.flatMap fun record =>
        Text.Utf8.encode (record.label ++ "," ++ record.code ++ "\n")) ∧
      records.length = (answers.countP fun answer => (Event.code? answer).isSome) ∧
      content.count 0x0A = records.length ∧
      Text.splitOn 0x0A content =
        (records.map fun record => Text.Utf8.encode (record.label ++ "," ++ record.code)) ++ [[]] ∧
      (∀ label ∈ Event.labels listing, '\n' ∉ label.toList) ∧
      ∀ answer ∈ answers, ∀ code, Event.code? answer = some code → '\n' ∉ code.toList := by
  subst hrecords
  have hlength : (Event.labels listing).length = answers.length := by
    simpa [Transcript.answers] using congrArg List.length hanswers
  obtain ⟨found, resolved, hlabels, hresolved, hmemory, htree, hcwd⟩ := perform_transcript hlisting hanswers
  have hwell := wellFormed_of_resolveLabels hlabels hresolved
  rw [← htree, ← hcwd] at anchored hopen
  obtain ⟨tree, mode, hrun, hlocate⟩ := perform_writeList hlabels hresolved anchored hopen
  refine ⟨_, _, hrun, hmemory, ?_, rfl, length_recordsOf hlength, Record.count_listBytes hwell,
    Record.splitOn_listBytes hwell, fun label hlabel => (Event.line_of_mem_labels hlabel).2, ?_⟩
  · unfold Tree.read
    rw [← hcwd, hlocate]
    rfl
  · intro answer _ code hcode hnewline
    obtain ⟨digits, hdigits, heq⟩ := Event.hex_of_code? hcode
    rw [heq] at hnewline
    have hdigit : '\n' ∈ digits := by simpa using hnewline
    exact absurd (hdigits.2 '\n' hdigit) (by decide)

/-- The file of the sample run holds two lines. -/
theorem writeList_sample :
    ∃ after content,
      (writeList sampleTranscript.source "o").perform sampleHost = (.ok 2, after) ∧
      after.memory = ["a", "b.some_thing", "a"] ∧
      after.tree.read sampleHost.cwd (Text.Utf8.encode "o") = .ok content ∧
      content = Text.Utf8.encode "a,0x53003c\nb.some_thing,0x10000000000000000\n" := by
  obtain ⟨after, content, hrun, hmemory, hread, hcontent, -⟩ := writeList_exact rfl answers_sampleTranscript
    recordsOf_sampleAnswers anchored_sampleHost create_sampleHost
  refine ⟨after, content, hrun, ?_, hread, ?_⟩
  · rw [hmemory, labels_sampleListing]
    rfl
  · rw [hcontent]
    rfl

/-- **A written list is read back,** whatever the source, if no label that was found has a comma in it. What is
read are the counters of the records that were made: in order, one for each record whose number fits into
sixty-four bits. So a name is looked up as among those records, and the first one counts. -/
theorem load_writeList {τ : Type} {source : EventSource τ} {host found resolved : Host τ} {labels : List String}
    {records : List Record} {output : String} {handle : Handle} {made : Tree}
    (hlabels : (findLabels source).perform host = (.ok labels, found))
    (hrecords : (resolveLabels source labels).perform found = (.ok records, resolved))
    (hcomma : ∀ label ∈ labels, ',' ∉ label.toList)
    (anchored : Tree.Anchored resolved.tree resolved.cwd)
    (hopen : resolved.tree.create resolved.cwd (Text.Utf8.encode output) = .ok (.file handle, made)) :
    ∃ after loaded counters,
      (writeList source output).perform host = (.ok records.length, after) ∧
      (Listing.load output).perform after = (.ok counters, loaded) ∧
      counters = (records.filter fun record => record.value < 2 ^ 64).map Record.counter ∧
      ∀ name, Listing.pick counters name output =
        match records.find? fun record => record.label = name ∧ record.value < 2 ^ 64 with
        | some record => .ok record.counter
        | none => .error (.unlistedCounter name output) := by
  have hcounters := Listing.counters?_listBytes (wellFormed_of_resolveLabels hlabels hrecords)
    fun record hrecord => hcomma record.label (record_of_resolveLabels hrecords record hrecord).1
  obtain ⟨after, loaded, hrun, hload⟩ := exists_loaded hlabels hrecords anchored hopen hcounters
  exact ⟨after, loaded, _, hrun, hload, rfl, fun name => Listing.pick_map_counter records name output⟩

/-- Of the two lines in the file of the sample run only the first defines a counter. -/
theorem load_sample :
    ∃ after loaded counters,
      (writeList sampleTranscript.source "o").perform sampleHost = (.ok 2, after) ∧
      (Listing.load "o").perform after = (.ok counters, loaded) ∧
      counters = [⟨"a", 0x53003c, 0, none⟩] ∧
      Listing.pick counters "b.some_thing" "o" = .error (.unlistedCounter "b.some_thing" "o") := by
  obtain ⟨found, resolved, hlabels, hrecords, -, htree, hcwd⟩ := perform_transcript rfl answers_sampleTranscript
  rw [labels_sampleListing] at hlabels hrecords
  have anchored := anchored_sampleHost
  have hopen := create_sampleHost
  rw [← htree, ← hcwd] at anchored hopen
  obtain ⟨after, loaded, counters, hrun, hload, hcounters, hpick⟩ :=
    load_writeList hlabels hrecords (by decide) anchored hopen
  refine ⟨after, loaded, counters, hrun, hload, hcounters.trans ?_, (hpick "b.some_thing").trans ?_⟩
  · decide
  · rfl

end Catalog

end CounterCatalog
