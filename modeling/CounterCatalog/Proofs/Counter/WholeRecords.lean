import CounterCatalog.Proofs.Counter.Writing
import Mathlib.Logic.Relation
import Mathlib.Tactic.WLOG

/-!
# No record is ever torn

A run of one writer is a sequence of moments: it begins when the writer has been opened, and from one moment to the
next the writer is given a record, or something else happens that leaves its file alone. `Moment.Whole` says what
holds at every moment: the file holds the lines of the first records and the writer those of the others. One step
keeps it and never takes a record out of the file again (`Step.whole`), and so does a run (`Run.whole`). From any
moment the writer can be given another record or finish, and then the file is the one that `Listing.save` makes of
the same records at once (`whole_records`).
-/

set_option autoImplicit false

namespace CounterCatalog.Writer

open Relation

/-! ## Runs of one writer -/

/-- A moment in the run of a writer: the records that it has been given so far, the writer, and the files. -/
structure Moment where
  given : List Record
  writer : Writer
  tree : Tree

/-- From one moment to the next the writer is given a record, or the files change elsewhere than at its handle. -/
inductive Step (handle : Handle) : Moment → Moment → Prop where
  | record {given : List Record} {writer after : Writer} {tree tree' : Tree} (record : Record)
      (taken : writer.record tree record = .ok (after, tree')) :
      Step handle ⟨given, writer, tree⟩ ⟨given ++ [record], after, tree'⟩
  | elsewhere {given : List Record} {writer : Writer} {tree tree' : Tree}
      (same : tree'.get? handle = tree.get? handle) :
      Step handle ⟨given, writer, tree⟩ ⟨given, writer, tree'⟩

/-- Any number of steps. -/
abbrev Run (handle : Handle) : Moment → Moment → Prop :=
  ReflTransGen (Step handle)

/-- The file at a handle holds the lines of the first `k` records that its writer has been given, and the writer
those of the others. -/
structure Moment.Whole (handle : Handle) (mode k : Nat) (moment : Moment) : Prop where
  le : k ≤ moment.given.length
  disk : moment.tree.get? handle = some (.file (Record.listBytes (moment.given.take k)) mode)
  held : Record.listBytes (moment.given.take k) ++ moment.writer.held = Record.listBytes moment.given
  count : moment.writer.count = moment.given.length

/-! ## What a step keeps -/

section Steps

variable {base tree tree' : Tree} {handle : Handle} {mode k : Nat} {written pending : List Record} {writer : Writer}
  {moment later : Moment}

/-- What a writer follows is seen in its own tree; no other tree has to be remembered. -/
theorem Follows.get? (follows : Follows base handle mode written pending writer tree)
    (hbase : handle < base.nodes.size) :
    tree.get? handle = some (.file (Record.listBytes written) mode) := by
  rw [follows.tree, Tree.get?_set_self hbase]

/-- Whatever else happens to the files, a writer goes on where it was. -/
theorem Follows.elsewhere (follows : Follows base handle mode written pending writer tree)
    (hbase : handle < base.nodes.size) (same : tree'.get? handle = tree.get? handle) :
    Follows tree' handle mode written pending writer tree' where
  target := follows.target
  tree := (Tree.set_get? (same.trans (follows.get? hbase))).symm
  handed := follows.handed
  held := follows.held
  count := follows.count

/-- At a moment the writer has put the first of its records into the file and holds back the others. -/
def Moment.Follows (handle : Handle) (mode : Nat) (written pending : List Record) (moment : Moment) : Prop :=
  moment.given = written ++ pending ∧ handle < moment.tree.nodes.size ∧
    Writer.Follows moment.tree handle mode written pending moment.writer moment.tree

/-- A writer that has been given the records that it has written and those that it holds back is at such a moment. -/
theorem Follows.atMoment (follows : Follows base handle mode written pending writer tree)
    (hbase : handle < base.nodes.size) {given : List Record} (hgiven : given = written ++ pending) :
    Moment.Follows handle mode written pending ⟨given, writer, tree⟩ :=
  ⟨hgiven, Tree.lt_of_get? (follows.get? hbase), follows.elsewhere hbase rfl⟩

/-- At such a moment the number of records in the file is that of the written ones. -/
theorem Moment.Follows.whole (follows : moment.Follows handle mode written pending) :
    moment.Whole handle mode written.length := by
  obtain ⟨hgiven, hsize, hfollows⟩ := follows
  have htake : moment.given.take written.length = written := by
    rw [hgiven, List.take_left]
  refine ⟨?_, ?_, ?_, ?_⟩
  · rw [hgiven, List.length_append]
    exact Nat.le_add_right _ _
  · rw [htake]
    exact hfollows.get? hsize
  · rw [htake, hfollows.held, ← Record.listBytes_append, hgiven]
  · rw [hfollows.count, hgiven]

/-- **A step keeps every record whole and takes none out of the file again.** -/
theorem Step.follows (step : Step handle moment later) (follows : moment.Follows handle mode written pending) :
    ∃ written' pending', later.Follows handle mode written' pending' ∧ written <+: written' := by
  obtain ⟨hgiven, hsize, hfollows⟩ := follows
  cases step with
  | record record taken =>
    obtain ⟨after, tree', written', pending', hrecord, hfollows', hprefix, hall⟩ :=
      hfollows.record hsize record
    rw [taken] at hrecord
    cases hrecord
    refine ⟨written', pending', hfollows'.atMoment hsize ?_, hprefix⟩
    rw [hall]
    exact congrArg (· ++ [record]) hgiven
  | elsewhere same =>
    have hget := same.trans (hfollows.get? hsize)
    exact ⟨written, pending, ⟨hgiven, Tree.lt_of_get? hget, hfollows.elsewhere hsize same⟩, List.prefix_rfl⟩

/-- A run keeps every record whole and takes none out of the file again. -/
theorem Run.follows (run : Run handle moment later) (follows : moment.Follows handle mode written pending) :
    ∃ written' pending', later.Follows handle mode written' pending' ∧ written <+: written' := by
  induction run with
  | refl => exact ⟨written, pending, follows, List.prefix_rfl⟩
  | tail _ step ih =>
    obtain ⟨between, held, hbetween, hprefix⟩ := ih
    obtain ⟨written', pending', hlater, hprefix'⟩ := step.follows hbetween
    exact ⟨written', pending', hlater, hprefix.trans hprefix'⟩

end Steps

/-! ## From opening to finishing -/

section Whole

variable {τ : Type} {tree made : Tree} {cwd handle : Handle} {mode k : Nat} {written pending : List Record}
  {path : String} {writer : Writer} {moment : Moment}

/-- A path that leads to the file reads the lines of the first records, and no piece of another one. -/
theorem Moment.Whole.read (whole : moment.Whole handle mode k) {cwd : Handle} {path : List UInt8} {node : Node}
    (hlocate : moment.tree.locate cwd path = .ok (handle, node)) :
    moment.tree.read cwd path = .ok (Record.listBytes (moment.given.take k)) := by
  have hnode := Tree.get?_of_locate hlocate
  rw [whole.disk, Option.some.injEq] at hnode
  unfold Tree.read
  rw [hlocate, ← hnode]
  rfl

/-- How many records are in the file can be told from its bytes, since no line is empty. -/
theorem Moment.Whole.unique {k' : Nat} (first : moment.Whole handle mode k) (second : moment.Whole handle mode k') :
    k = k' := by
  wlog hle : k ≤ k' generalizing k k'
  · exact (this second first (Nat.le_of_not_le hle)).symm
  have hbytes : Record.listBytes (moment.given.take k') = Record.listBytes (moment.given.take k) := by
    have hdisk := second.disk.symm.trans first.disk
    simpa using hdisk
  have hsplit : moment.given.take k' = moment.given.take k ++ (moment.given.drop k).take (k' - k) := by
    rw [← List.take_add, Nat.add_sub_cancel' hle]
  rw [hsplit, Record.listBytes_append, List.append_right_eq_self] at hbytes
  have hrest := congrArg List.length (Record.listBytes_eq_nil_iff.1 hbytes)
  rw [List.length_take, List.length_drop, List.length_nil] at hrest
  have hbound := second.le
  omega

/-- A writer that finishes gives the number of its records and has put all of them into the file. -/
theorem Moment.Follows.finish (follows : moment.Follows handle mode written pending) :
    ∃ done final, moment.writer.finish moment.tree = .ok (done, final) ∧ done.count = moment.given.length ∧
      final.get? handle = some (.file (Record.listBytes moment.given) mode) := by
  obtain ⟨hgiven, hsize, hfollows⟩ := follows
  obtain ⟨done, final, hflush, hdone⟩ := hfollows.flush hsize
  refine ⟨done, final, hflush, ?_, ?_⟩
  · rw [hdone.count, hgiven, List.append_nil]
  · rw [hdone.get? hsize, hgiven]

/-- What is known of a writer of a regular file that has just been opened. -/
theorem create_eq_ok_file (anchored : Tree.Anchored tree cwd)
    (hopen : create tree cwd (Text.Utf8.encode path) = .ok (writer, made)) (htarget : writer.target = .file handle) :
    tree.create cwd (Text.Utf8.encode path) = .ok (.file handle, made) ∧
      ∃ mode, made.locate cwd (Text.Utf8.encode path) = .ok (handle, .file [] mode) ∧
        Moment.Follows handle mode [] [] ⟨[], writer, made⟩ := by
  have hcreate : tree.create cwd (Text.Utf8.encode path) = .ok (.file handle, made) := by
    unfold create at hopen
    split at hopen
    · cases hopen
    · next target tree' heq =>
      cases hopen
      cases htarget
      exact heq
  obtain ⟨-, mode, hlocate⟩ := Tree.locate_create anchored hcreate
  have hempty := Tree.get?_of_locate hlocate
  obtain ⟨opened, hopened, hfollows⟩ := follows_create hcreate hempty
  rw [hopen] at hopened
  cases hopened
  exact ⟨hcreate, mode, hlocate, rfl, Tree.lt_of_get? hempty, hfollows⟩

/-- **No record is ever torn.** At every moment in the run of a writer the file holds the lines of the first `k`
records that it was given, for a `k` that never falls, and with the bytes that are held back the lines of all of
them; their number has been counted. So whoever reads the file finds whole records only. The writer takes every
record, and when it finishes it gives their number and the file holds the lines of all of them, whatever it held
before it was opened: the same file and the same number as from writing them all at once. -/
theorem whole_records (anchored : Tree.Anchored tree cwd)
    (hopen : create tree cwd (Text.Utf8.encode path) = .ok (writer, made)) (htarget : writer.target = .file handle) :
    ∃ mode, made.locate cwd (Text.Utf8.encode path) = .ok (handle, .file [] mode) ∧
      ∀ moment, Run handle ⟨[], writer, made⟩ moment →
        ∃ k, moment.Whole handle mode k ∧
          (∀ later k', Run handle moment later → later.Whole handle mode k' → k ≤ k') ∧
          (∀ {dir : Handle} {name : List UInt8} {node : Node}, moment.tree.locate dir name = .ok (handle, node) →
            moment.tree.read dir name = .ok (Record.listBytes (moment.given.take k))) ∧
          (∀ record, ∃ after tree', moment.writer.record moment.tree record = .ok (after, tree')) ∧
          ∃ done final, moment.writer.finish moment.tree = .ok (done, final) ∧
            done.count = moment.given.length ∧
            final.get? handle = some (.file (Record.listBytes moment.given) mode) ∧
            ∀ host : Host τ, host.tree = tree → host.cwd = cwd →
              ∃ saved, (Listing.save path moment.given).perform host = (.ok done.count, saved) ∧
                saved.tree.get? handle = final.get? handle ∧
                saved.tree.read cwd (Text.Utf8.encode path) = .ok (Record.listBytes moment.given) := by
  obtain ⟨hcreate, mode, hlocate, hstart⟩ := create_eq_ok_file anchored hopen htarget
  refine ⟨mode, hlocate, fun moment run => ?_⟩
  obtain ⟨written, pending, hfollows, -⟩ := Run.follows run hstart
  have hwhole := hfollows.whole
  obtain ⟨done, final, hfinish, hcount, hfinal⟩ := hfollows.finish
  refine ⟨written.length, hwhole, ?later, hwhole.read, ?record, done, final, hfinish, hcount, hfinal, ?save⟩
  case later =>
    intro later k' run' hlater
    obtain ⟨written', pending', hfollows', hprefix⟩ := Run.follows run' hfollows
    -- `Whole` leaves no choice of `k'`, so it is the number that the run has kept.
    rw [hlater.unique hfollows'.whole]
    exact hprefix.length_le
  case record =>
    intro record
    obtain ⟨-, hsize, hwriter⟩ := hfollows
    obtain ⟨after, tree', -, -, hrecord, -⟩ := hwriter.record hsize record
    exact ⟨after, tree', hrecord⟩
  case save =>
    rintro host rfl rfl
    have hempty := Tree.get?_of_locate hlocate
    have hsave := Listing.perform_save hcreate hempty moment.given
    rw [← hcount] at hsave
    refine ⟨_, hsave, ?_, ?_⟩
    · rw [hfinal]
      exact Tree.get?_set_self (Tree.lt_of_get? hempty)
    · unfold Tree.read
      rw [Tree.locate_set_file hlocate]
      rfl

/-! ## A sample run -/

/-- A tree with a single file, which holds three bytes. -/
def sampleTree : Tree :=
  ⟨#[.directory Tree.root [([0x6F], 1)] Node.openMode, .file [1, 2, 3] Node.fileMode]⟩

/-- That tree once a writer has been opened at the file. -/
def sampleMade : Tree :=
  ⟨#[.directory Tree.root [([0x6F], 1)] Node.openMode, .file [] Node.fileMode]⟩

/-- A record whose label is `n` times the same letter. -/
def lengthyRecord (n : Nat) : Record :=
  ⟨String.ofList (List.replicate n 'a'), "0x1"⟩

/-- The line has five bytes more than the label. -/
@[simp] theorem length_bytes_lengthyRecord (n : Nat) : (lengthyRecord n).bytes.length = n + 5 := by
  have hlabel : (Text.Utf8.encodeChars (List.replicate n 'a')).length = n := by
    induction n with
    | zero => rfl
    | succ n ih =>
      rw [List.replicate_succ, Text.Utf8.encodeChars_cons, List.length_append, ih]
      exact Nat.add_comm _ _
  have hline : (lengthyRecord n).line = String.ofList (List.replicate n 'a') ++ ",0x1\n" := by
    unfold Record.line
    rw [String.append_assoc, String.append_assoc]
    rfl
  have hrest : (Text.Utf8.encode ",0x1\n").length = 5 := rfl
  rw [Record.bytes, hline, Text.Utf8.encode_append, List.length_append, hrest, Text.Utf8.encode, String.toList_ofList,
    hlabel]

/-- Two records that fill what a writer can hold back, one for which there is no room behind them, one that is
longer than what can be held back at all, and a short one. -/
def lengthyRecords : List Record :=
  [lengthyRecord 4091, lengthyRecord 4091, lengthyRecord 1, lengthyRecord 9000, lengthyRecord 2]

/-- A full writer has put nothing into the file; the record without room brings the two before it there, and the
long one itself and the one before it. The last record is there once the writer has finished. -/
theorem whole_records_sample :
    ∃ opened filled straddled last done final,
      create sampleTree Tree.root (Text.Utf8.encode "o") = .ok (opened, sampleMade) ∧
      Run 1 ⟨[], opened, sampleMade⟩ filled ∧ Run 1 filled straddled ∧ Run 1 straddled last ∧
      filled.given = lengthyRecords.take 2 ∧ filled.writer.held.length = capacity ∧
      filled.Whole 1 Node.fileMode 0 ∧
      straddled.given = lengthyRecords.take 3 ∧ straddled.Whole 1 Node.fileMode 2 ∧
      last.given = lengthyRecords ∧ last.Whole 1 Node.fileMode 4 ∧
      last.writer.finish last.tree = .ok (done, final) ∧ done.count = 5 ∧
      final.get? 1 = some (.file (Record.listBytes lengthyRecords) Node.fileMode) := by
  have hfile : sampleMade.locate Tree.root (Text.Utf8.encode "o") = .ok (1, .file [] Node.fileMode) := rfl
  have hbase : 1 < sampleMade.nodes.size := by decide
  obtain ⟨opened, hopen, hstart⟩ : ∃ opened, create sampleTree Tree.root (Text.Utf8.encode "o") =
      .ok (opened, sampleMade) ∧ Follows sampleMade 1 Node.fileMode [] [] opened sampleMade :=
    follows_create rfl rfl
  obtain ⟨mode, hlocate, hmoments⟩ := @whole_records Unit _ _ _ _ _ _ ⟨rfl, rfl⟩ hopen hstart.target
  rw [hfile] at hlocate
  cases hlocate
  -- Two records are held back, the third one behind a hand-over; the fourth is handed over, the fifth held back.
  obtain ⟨one, hone, hfirst⟩ := hstart.record_held (lengthyRecord 4091)
    (by simp [hstart.held, Record.listBytes, capacity]) (by simp [capacity])
  obtain ⟨two, htwo, hsecond⟩ := hfirst.record_held (lengthyRecord 4091)
    (by simp [hfirst.held, Record.listBytes, capacity]) (by simp [capacity])
  have hfull : two.held.length = capacity := by
    simp [hsecond.held, Record.listBytes, capacity]
  obtain ⟨three, atThree, hthree, hthird⟩ := hsecond.record_flushed hbase (lengthyRecord 1)
    (by simp [hfull]) (by simp [capacity])
  obtain ⟨four, atFour, hfour, hfourth⟩ := hthird.record_direct hbase (lengthyRecord 9000)
    (by simp [capacity])
  obtain ⟨five, hfive, hfifth⟩ := hfourth.record_held (lengthyRecord 2)
    (by simp [hfourth.held, Record.listBytes, capacity]) (by simp [capacity])
  have hfilled : Run 1 ⟨[], opened, sampleMade⟩ ⟨lengthyRecords.take 2, two, sampleMade⟩ :=
    (ReflTransGen.single (.record _ hone)).tail (.record _ htwo)
  have hstraddled : Run 1 ⟨lengthyRecords.take 2, two, sampleMade⟩ ⟨lengthyRecords.take 3, three, atThree⟩ :=
    .single (.record _ hthree)
  have hlast : Run 1 ⟨lengthyRecords.take 3, three, atThree⟩ ⟨lengthyRecords, five, atFour⟩ :=
    (ReflTransGen.single (.record _ hfour)).tail (.record _ hfive)
  have hall := hfilled.trans (hstraddled.trans hlast)
  obtain ⟨k₁, hwhole₁, -⟩ := hmoments _ hfilled
  obtain ⟨k₂, hwhole₂, -⟩ := hmoments _ (hfilled.trans hstraddled)
  obtain ⟨k₃, hwhole₃, -, -, -, done, final, hfinish, hcount, hfinal, -⟩ := hmoments _ hall
  obtain rfl := hwhole₁.unique (hsecond.atMoment hbase rfl).whole
  obtain rfl := hwhole₂.unique (hthird.atMoment hbase rfl).whole
  obtain rfl := hwhole₃.unique (hfifth.atMoment hbase rfl).whole
  exact ⟨opened, _, _, _, done, final, hopen, hfilled, hstraddled, hlast, rfl, hfull, hwhole₁, rfl, hwhole₂, rfl,
    hwhole₃, hfinish, hcount, hfinal⟩

end Whole

end CounterCatalog.Writer
