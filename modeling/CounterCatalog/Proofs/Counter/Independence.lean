import CounterCatalog.Proofs.Counter.Cells

/-!
# Files that do not interfere

A session takes its steps in any order. When its paths name different files, each path has a cell of its own
(`Arranged`), and a step changes the cell of its own path only (`Arranged.step`). So the steps with a file come to the
same among steps with other files as by themselves (`run_independent`).
-/

set_option autoImplicit false

namespace CounterCatalog.Session

variable {session : Session} {path other : String} {site : Tree.Site} {cell cell' : Cell}

/-! ## Many files -/

/-- A session over different files: each of the paths names a site of its own, and the session holds a cell there. -/
structure Arranged (paths : Set String) (sites : String → Tree.Site) (cells : String → Cell) (session : Session) :
    Prop where
  anchored : Tree.Anchored session.tree session.cwd
  shows : ∀ path ∈ paths, session.Shows path (sites path) (cells path)
  apart : Set.InjOn sites paths

section Many

variable {paths : Set String} {sites : String → Tree.Site} {cells : String → Cell} {taken : Step} {answer : Answer}

/-- A step with one file changes the cell of that file, and no others. -/
theorem Arranged.step (arranged : Arranged paths sites cells session) (hpath : path ∈ paths)
    (h : Decides path taken (cells path) answer cell') :
    (session.step path taken).1 = answer ∧
      ∃ sites', Arranged paths sites' (Function.update cells path cell') (session.step path taken).2 := by
  obtain ⟨hanswer, site', moves, hshows⟩ := h session (sites path) arranged.anchored (arranged.shows path hpath)
  have hothers : ∀ other ∈ paths, other ≠ path → sites other ≠ sites path :=
    fun other hother hne heq => hne (arranged.apart hother hpath heq)
  -- A file that was only made for this step is no file that stood there before.
  have hnew : ∀ other ∈ paths, other ≠ path → sites other ≠ site' := by
    intro other hother hne heq
    rcases moves.settles with rfl | ⟨handle, rfl, hnone⟩
    · exact hothers other hother hne heq
    · have hshown := arranged.shows other hother
      rw [heq] at hshown
      cases hcell : cells other with
      | missing =>
        rw [hcell] at hshown
        cases hshown
      | present content progress? =>
        rw [hcell] at hshown
        cases hshown with
        | present site file writer =>
          rw [hnone] at file
          cases file
  refine ⟨hanswer, Function.update sites path site', ?anchored, ?shows, ?apart⟩
  case anchored =>
    rw [moves.cwd]
    exact arranged.anchored.touches moves.touches
  case shows =>
    intro other hother
    by_cases heq : other = path
    · subst heq
      rw [Function.update_self, Function.update_self]
      exact hshows
    · rw [Function.update_of_ne heq, Function.update_of_ne heq]
      exact moves.shows (arranged.shows other hother) heq (hothers other hother heq)
  case apart =>
    intro first hfirst second hsecond heq
    by_cases hone : first = path
    · subst hone
      by_contra hne
      rw [Function.update_self, Function.update_of_ne (Ne.symm hne)] at heq
      exact hnew second hsecond (Ne.symm hne) heq.symm
    · rw [Function.update_of_ne hone] at heq
      by_cases htwo : second = path
      · subst htwo
        rw [Function.update_self] at heq
        exact (hnew first hfirst hone heq).elim
      · rw [Function.update_of_ne htwo] at heq
        exact arranged.apart hfirst hsecond heq

/-- The answers to the steps with the file at a path, among those to other steps. -/
def answersTo (path : String) (steps : List (String × Step)) (answers : List Answer) : List Answer :=
  ((steps.zip answers).filter fun item => item.1.1 = path).map Prod.snd

/-- The steps with the file at a path. -/
def stepsWith (path : String) (steps : List (String × Step)) : List (String × Step) :=
  steps.filter fun item => item.1 = path

/-- A run is its first step and the run of the other steps from there. -/
theorem run_cons (session : Session) (path : String) (step : Step) (steps : List (String × Step)) :
    session.run ((path, step) :: steps) =
      ((session.step path step).1 :: ((session.step path step).2.run steps).1,
        ((session.step path step).2.run steps).2) := rfl

/-- A step with the path is kept among the steps with that path. -/
theorem stepsWith_cons_self (path : String) (step : Step) (steps : List (String × Step)) :
    stepsWith path ((path, step) :: steps) = (path, step) :: stepsWith path steps :=
  List.filter_cons_of_pos (by simp)

/-- A step with another path is left out of the steps with a path. -/
theorem stepsWith_cons_of_ne (h : other ≠ path) (step : Step) (steps : List (String × Step)) :
    stepsWith path ((other, step) :: steps) = stepsWith path steps :=
  List.filter_cons_of_neg (by simpa using h)

/-- The answer to a step with the path is kept. -/
theorem answersTo_cons_self (path : String) (step : Step) (steps : List (String × Step)) (answers : List Answer) :
    answersTo path ((path, step) :: steps) (answer :: answers) = answer :: answersTo path steps answers := by
  unfold answersTo
  rw [List.zip_cons_cons, List.filter_cons_of_pos (by simp), List.map_cons]

/-- The answer to a step with another path is left out. -/
theorem answersTo_cons_of_ne (h : other ≠ path) (step : Step) (steps : List (String × Step)) (answers : List Answer) :
    answersTo path ((other, step) :: steps) (answer :: answers) = answersTo path steps answers := by
  unfold answersTo
  rw [List.zip_cons_cons, List.filter_cons_of_neg (by simpa using h)]

/-- Two sessions that hold the same for a path, one of which takes all steps and the other only those with that path,
answer these alike and hold the same for the path afterwards. -/
theorem Arranged.run {sites' : String → Tree.Site} {cells' : String → Cell} {alone : Session}
    {steps : List (String × Step)} (arranged : Arranged paths sites cells session)
    (arranged' : Arranged paths sites' cells' alone) (hpath : path ∈ paths) (hcell : cells path = cells' path)
    (hsteps : ∀ item ∈ steps, item.1 ∈ paths ∧ item.2.IsPlain) :
    answersTo path steps (session.run steps).1 = (alone.run (stepsWith path steps)).1 ∧
      ∃ first first' second second',
        Arranged paths first second (session.run steps).2 ∧
        Arranged paths first' second' (alone.run (stepsWith path steps)).2 ∧ second path = second' path := by
  -- The sessions drift apart at a step with another file, which only the first of them takes.
  induction steps generalizing session alone sites sites' cells cells' with
  | nil => exact ⟨rfl, sites, sites', cells, cells', arranged, arranged', hcell⟩
  | cons item steps ih =>
    rw [List.forall_mem_cons] at hsteps
    obtain ⟨other, taken⟩ := item
    obtain ⟨answer, cell', hdecides⟩ := exists_decided hsteps.1.2 other (cells other)
    obtain ⟨hanswer, next, hnext⟩ := arranged.step hsteps.1.1 hdecides
    by_cases heq : other = path
    · subst heq
      rw [hcell] at hdecides
      obtain ⟨hanswer', next', hnext'⟩ := arranged'.step hpath hdecides
      have hsame : Function.update cells other cell' other = Function.update cells' other cell' other := by
        rw [Function.update_self, Function.update_self]
      obtain ⟨hanswers, hrest⟩ := ih hnext hnext' hsame hsteps.2
      rw [stepsWith_cons_self, run_cons, run_cons, answersTo_cons_self]
      refine ⟨?_, hrest⟩
      rw [hanswers, hanswer, hanswer']
    · have hsame : Function.update cells other cell' path = cells' path := by
        rw [Function.update_of_ne (Ne.symm heq)]
        exact hcell
      obtain ⟨hanswers, hrest⟩ := ih hnext arranged' hsame hsteps.2
      rw [stepsWith_cons_of_ne heq, run_cons, answersTo_cons_of_ne heq]
      exact ⟨hanswers, hrest⟩

end Many

/-! ## What a session begins with -/

/-- A session that has opened no writer holds a cell for every path that names a file. -/
theorem exists_shows {tree : Tree} {cwd : Handle}
    (h : tree.siteOf? cwd (Text.Utf8.encode path) = some site) :
    ∃ cell, Shows ⟨tree, cwd, []⟩ path site cell := by
  cases site with
  | name directory name => exact ⟨.missing, .missing h rfl⟩
  | file handle =>
    obtain ⟨place, content, mode, -, hspot⟩ := Tree.siteOf?_eq_file_iff.1 h
    exact ⟨.present content none, .present h (Tree.get?_of_spotOf hspot) rfl⟩

/-- Paths name different files when each of them names a site and no two of them the same. -/
structure NameDifferentFiles (tree : Tree) (cwd : Handle) (paths : Set String) : Prop where
  anchored : Tree.Anchored tree cwd
  named : ∀ path ∈ paths, ∃ site, tree.siteOf? cwd (Text.Utf8.encode path) = some site
  apart : Set.InjOn (fun path => tree.siteOf? cwd (Text.Utf8.encode path)) paths

/-- Paths that name different files begin with a cell and a site for each of them. -/
theorem exists_arranged {tree : Tree} {cwd : Handle} {paths : Set String} (h : NameDifferentFiles tree cwd paths) :
    ∃ sites cells, Arranged paths sites cells ⟨tree, cwd, []⟩ := by
  have hcell : ∀ path, ∃ (site : Tree.Site) (cell : Cell), path ∈ paths →
      tree.siteOf? cwd (Text.Utf8.encode path) = some site ∧ Shows ⟨tree, cwd, []⟩ path site cell := by
    intro path
    by_cases hpath : path ∈ paths
    · obtain ⟨site, hsite⟩ := h.named path hpath
      obtain ⟨cell, hshows⟩ := exists_shows hsite
      exact ⟨site, cell, fun _ => ⟨hsite, hshows⟩⟩
    · exact ⟨.file 0, .missing, fun hmem => (hpath hmem).elim⟩
  choose sites cells hboth using hcell
  refine ⟨sites, cells, h.anchored, fun path hpath => (hboth path hpath).2, ?_⟩
  intro first hfirst second hsecond heq
  refine h.apart hfirst hsecond ?_
  show tree.siteOf? cwd (Text.Utf8.encode first) = tree.siteOf? cwd (Text.Utf8.encode second)
  rw [(hboth first hfirst).1, (hboth second hsecond).1, heq]

/-- Two sessions hold the same for a path. The file has the same bytes in both, or there is none; and a writer is open
for the path in both or in neither, has got equally far, and writes to that file. -/
structure SameAt (path : String) (first second : Session) : Prop where
  content : first.tree.read first.cwd (Text.Utf8.encode path) = second.tree.read second.cwd (Text.Utf8.encode path)
  writer : (first.writer? path).map (fun writer => (writer.handed, writer.held, writer.count, writer.shown)) =
    (second.writer? path).map fun writer => (writer.handed, writer.held, writer.count, writer.shown)
  target : ∀ session ∈ [first, second], ∀ writer, session.writer? path = some writer →
    ∃ handle content mode, writer.target = .file handle ∧
      session.tree.locate session.cwd (Text.Utf8.encode path) = .ok (handle, .file content mode)

/-- What a session holds for a path can be seen by reading the file and looking at the writer. -/
theorem sameAt_of_shows {first second : Session} {site' : Tree.Site} (hfirst : first.Shows path site cell)
    (hsecond : second.Shows path site' cell) : SameAt path first second := by
  have htarget : ∀ (session : Session) (site : Tree.Site), session.Shows path site cell → ∀ writer,
      session.writer? path = some writer → ∃ handle content mode, writer.target = .file handle ∧
        session.tree.locate session.cwd (Text.Utf8.encode path) = .ok (handle, .file content mode) := by
    intro session site shows writer hwriter
    cases shows with
    | missing site closed =>
      rw [closed] at hwriter
      cases hwriter
    | @present handle content mode progress? site file opened' =>
      rw [opened'] at hwriter
      obtain ⟨progress, -, rfl⟩ := Option.map_eq_some_iff.1 hwriter
      exact ⟨handle, content, mode, rfl, Tree.locate_of_siteOf?_file site file⟩
  refine ⟨?content, ?writer, ?target⟩
  case content =>
    unfold Tree.read
    cases cell with
    | missing => rw [locate_of_missing hfirst, locate_of_missing hsecond]
    | present content progress? =>
      obtain ⟨handle, mode, hlocate⟩ := locate_of_present hfirst
      obtain ⟨handle', mode', hlocate'⟩ := locate_of_present hsecond
      rw [hlocate, hlocate']
      rfl
  case writer =>
    cases hfirst with
    | missing _ closed =>
      cases hsecond with
      | missing _ closed' => rw [closed, closed']
    | present _ _ writer =>
      cases hsecond with
      | present _ _ writer' =>
        rw [writer, writer', Option.map_map, Option.map_map]
        rfl
  case target =>
    intro session hsession
    rw [List.mem_cons, List.mem_singleton] at hsession
    rcases hsession with rfl | rfl
    · exact htarget _ _ hfirst
    · exact htarget _ _ hsecond

/-! ## Writing a list record by record -/

/-- Records that are given to an open writer are in its file when it has finished, behind those that it had already. -/
theorem run_records {base : Tree} {handle : Handle} {mode : Nat} {written pending : List Record} {writer : Writer}
    (follows : Writer.Follows base handle mode written pending writer session.tree)
    (hbase : handle < base.nodes.size) (hwriter : session.writer? path = some writer) (records : List Record) :
    ∃ after, session.run (records.map (fun record => (path, .record record)) ++ [(path, .finish)]) =
        (List.replicate records.length .done ++ [.count (written ++ pending ++ records).length], after) ∧
      after.cwd = session.cwd ∧
      after.tree = base.set handle (.file (Record.listBytes (written ++ pending ++ records)) mode) := by
  induction records generalizing session written pending writer with
  | nil =>
    obtain ⟨writer', tree', hflush, hdone⟩ := follows.flush hbase
    have hstep : session.step path .finish =
        (.count writer'.count, ({ session with tree := tree' } : Session).dropWriter path) := by
      unfold step Writer.finish
      simp only [hwriter, hflush]
    refine ⟨({ session with tree := tree' } : Session).dropWriter path, ?_, rfl, ?_⟩
    · rw [List.map_nil, List.nil_append, run_cons, hstep, hdone.count, List.append_nil]
      rfl
    · rw [List.append_nil]
      exact hdone.tree
  | cons record records ih =>
    obtain ⟨writer', tree', written', pending', hrecord, follows', -, hall⟩ := follows.record hbase record
    have hstep : session.step path (.record record) =
        (.done, ({ session with tree := tree' } : Session).setWriter path writer') := by
      unfold step
      simp only [hwriter, hrecord]
    have hnext : Writer.Follows base handle mode written' pending' writer'
        (({ session with tree := tree' } : Session).setWriter path writer').tree := follows'
    obtain ⟨after, hrun, hcwd, htree⟩ := ih hnext (writer?_setWriter_self _ _ _)
    rw [hall, List.append_assoc _ [record], List.singleton_append] at hrun htree
    refine ⟨after, ?_, hcwd, htree⟩
    rw [List.map_cons, List.cons_append, run_cons, hstep, hrun]
    rfl

/-- A list that is opened, written record by record and finished is in its file as a whole, whatever that held. -/
theorem run_list {tree : Tree} {cwd : Handle} (anchored : Tree.Anchored tree cwd)
    (hsite : tree.siteOf? cwd (Text.Utf8.encode path) = some site) (records : List Record) :
    ∃ after, run ⟨tree, cwd, []⟩
        ((path, .start) :: records.map (fun record => (path, .record record)) ++ [(path, .finish)]) =
          (.done :: List.replicate records.length .done ++ [.count records.length], after) ∧
      after.tree.read after.cwd (Text.Utf8.encode path) = .ok (Record.listBytes records) := by
  obtain ⟨handle, made, mode, hcreate, hfile, hmade, -, -⟩ := Tree.create_of_siteOf? anchored hsite
  obtain ⟨writer, hopen, hfollows⟩ := Writer.follows_create hcreate hfile
  have hbase := Tree.lt_of_get? hfile
  have hstep : step ⟨tree, cwd, []⟩ path .start = (.done, setWriter ⟨made, cwd, []⟩ path writer) := by
    show openWriter ⟨tree, cwd, []⟩ path = _
    unfold openWriter
    rw [hopen]
    rfl
  have hfollow : Writer.Follows made handle mode [] [] writer (setWriter ⟨made, cwd, []⟩ path writer).tree := hfollows
  obtain ⟨after, hrun, hcwd, htree⟩ := run_records hfollow hbase (writer?_setWriter_self _ _ _) records
  refine ⟨after, ?_, ?_⟩
  · rw [List.cons_append, run_cons, hstep, hrun]
    rfl
  · have hset : after.tree.get? handle = some (.file (Record.listBytes records) mode) := by
      rw [htree]
      exact Tree.get?_set_self hbase
    have hstill : after.tree.siteOf? cwd (Text.Utf8.encode path) = some (.file handle) := by
      refine Tree.siteOf?_of_file ?_ hmade hset
      rw [htree]
      exact Tree.keeps_set_file hfile
    have hafter : after.cwd = cwd := hcwd
    unfold Tree.read
    rw [hafter, Tree.locate_of_siteOf?_file hstill hset]
    rfl

/-! ## A sample session -/

/-- The files of the sample session: one that stands there already, with two bytes. -/
def sampleFiles : Tree :=
  ⟨#[.directory Tree.root [([0x6F], 1)] Node.openMode, .file [1, 2] Node.fileMode]⟩

/-- Two lists are written record by record while a third is written and read as a whole. -/
def sampleSteps : List (String × Step) :=
  [("o", .start), ("p", .start), ("o", .record ⟨"a", "0x1"⟩), ("p", .record ⟨"b", "0x2"⟩),
    ("q", .write [⟨"c", "0x3"⟩]), ("o", .record ⟨"d", "0x4"⟩), ("p", .finish), ("q", .find "c"), ("o", .finish)]

/-- The three sample paths name different files. -/
theorem different_sampleFiles : NameDifferentFiles sampleFiles Tree.root {"o", "p", "q"} := by
  have ho : sampleFiles.siteOf? Tree.root (Text.Utf8.encode "o") = some (.file 1) := by rfl
  have hp : sampleFiles.siteOf? Tree.root (Text.Utf8.encode "p") = some (.name 0 [0x70]) := by rfl
  have hq : sampleFiles.siteOf? Tree.root (Text.Utf8.encode "q") = some (.name 0 [0x71]) := by rfl
  refine ⟨⟨rfl, rfl⟩, ?named, ?apart⟩
  case named =>
    rintro path (rfl | rfl | rfl)
    · exact ⟨_, ho⟩
    · exact ⟨_, hp⟩
    · exact ⟨_, hq⟩
  case apart =>
    rintro first (rfl | rfl | rfl) second (rfl | rfl | rfl) heq <;> simp_all

/-- The sample steps are plain ones with the three paths. -/
theorem isPlain_sampleSteps :
    ∀ item ∈ sampleSteps, item.1 ∈ ({"o", "p", "q"} : Set String) ∧ item.2.IsPlain := by
  intro item hitem
  simp only [sampleSteps, List.mem_cons, List.not_mem_nil, or_false] at hitem
  rcases hitem with rfl | rfl | rfl | rfl | rfl | rfl | rfl | rfl | rfl <;> exact ⟨by simp, trivial⟩

/-- **Files do not interfere.** Of steps with different files in any order, those with one of them are answered as they
are by themselves, and leave the file and its writer as they do by themselves. So the records that are given to a
writer are in its file when it has finished, all of them and in order, and it gives their number, whatever other
writers are given in between. -/
theorem run_independent {tree : Tree} {cwd : Handle} {paths : Set String} {steps : List (String × Step)}
    (different : NameDifferentFiles tree cwd paths) (hsteps : ∀ item ∈ steps, item.1 ∈ paths ∧ item.2.IsPlain)
    (hpath : path ∈ paths) :
    answersTo path steps (run ⟨tree, cwd, []⟩ steps).1 = (run ⟨tree, cwd, []⟩ (stepsWith path steps)).1 ∧
      SameAt path (run ⟨tree, cwd, []⟩ steps).2 (run ⟨tree, cwd, []⟩ (stepsWith path steps)).2 ∧
      ∀ records, stepsWith path steps =
          (path, .start) :: records.map (fun record => (path, .record record)) ++ [(path, .finish)] →
        answersTo path steps (run ⟨tree, cwd, []⟩ steps).1 =
            .done :: List.replicate records.length .done ++ [.count records.length] ∧
          (run ⟨tree, cwd, []⟩ steps).2.tree.read (run ⟨tree, cwd, []⟩ steps).2.cwd (Text.Utf8.encode path) =
            .ok (Record.listBytes records) := by
  obtain ⟨sites, cells, arranged⟩ := exists_arranged different
  obtain ⟨hanswers, first, first', second, second', hall, hown, hsame⟩ :=
    arranged.run arranged hpath rfl hsteps
  have hshown := hown.shows path hpath
  rw [← hsame] at hshown
  have hat := sameAt_of_shows (hall.shows path hpath) hshown
  refine ⟨hanswers, hat, fun records hlist => ?_⟩
  obtain ⟨site, hsite⟩ := different.named path hpath
  obtain ⟨after, hrun, hread⟩ := run_list different.anchored hsite records
  have hcontent := hat.content
  rw [hlist, hrun] at hanswers hcontent
  exact ⟨hanswers, hcontent.trans hread⟩

/-- In the sample session each of the two writers gives its own count, and its file holds its own records. -/
theorem run_independent_sample :
    answersTo "o" sampleSteps (run ⟨sampleFiles, Tree.root, []⟩ sampleSteps).1 = [.done, .done, .done, .count 2] ∧
      answersTo "p" sampleSteps (run ⟨sampleFiles, Tree.root, []⟩ sampleSteps).1 = [.done, .done, .count 1] ∧
      (run ⟨sampleFiles, Tree.root, []⟩ sampleSteps).2.tree.read
          (run ⟨sampleFiles, Tree.root, []⟩ sampleSteps).2.cwd (Text.Utf8.encode "o") =
        .ok (Text.Utf8.encode "a,0x1\nd,0x4\n") ∧
      (run ⟨sampleFiles, Tree.root, []⟩ sampleSteps).2.tree.read
          (run ⟨sampleFiles, Tree.root, []⟩ sampleSteps).2.cwd (Text.Utf8.encode "p") =
        .ok (Text.Utf8.encode "b,0x2\n") := by
  have hmem : "o" ∈ ({"o", "p", "q"} : Set String) := by simp
  have hmem' : "p" ∈ ({"o", "p", "q"} : Set String) := by simp
  obtain ⟨-, -, ho⟩ := run_independent different_sampleFiles isPlain_sampleSteps hmem
  obtain ⟨-, -, hp⟩ := run_independent different_sampleFiles isPlain_sampleSteps hmem'
  obtain ⟨hanswers, hread⟩ := ho [⟨"a", "0x1"⟩, ⟨"d", "0x4"⟩] rfl
  obtain ⟨hanswers', hread'⟩ := hp [⟨"b", "0x2"⟩] rfl
  exact ⟨hanswers, hanswers', hread, hread'⟩

end CounterCatalog.Session
