import CounterCatalog.Counter.Session
import CounterCatalog.Proofs.Counter.Locality
import CounterCatalog.Proofs.Counter.ReadBack
import CounterCatalog.Proofs.Counter.Writing
import CounterCatalog.Proofs.Tree.Sites

/-!
# What a step sees of a session

Of what a session holds, a step with the file at a path sees one cell only: the file's bytes, and how far the writer
has got that is open for the path (`Shows`). The cell decides what the step answers and which cell it leaves
(`exists_decided`), and a step with one file leaves the cells of other files as they are (`Moves.shows`).
-/

set_option autoImplicit false

namespace CounterCatalog

/-- What a session holds for a path. -/
inductive Cell where
  /-- A file that is still to be made. -/
  | missing
  /-- A file with its bytes, and how far its writer has got if one is open. -/
  | present (content : List UInt8) (progress? : Option Progress)

/-- How far the writer has got that is open in a cell. -/
def Cell.progress? : Cell → Option Progress
  | .missing => none
  | .present _ progress? => progress?

namespace Session

/-- A session holds a cell for a path that names a site. -/
inductive Shows (session : Session) (path : String) : Tree.Site → Cell → Prop where
  | missing {directory : Handle} {name : Name}
      (site : session.tree.siteOf? session.cwd (Text.Utf8.encode path) = some (.name directory name))
      (closed : session.writer? path = none) : Shows session path (.name directory name) .missing
  | present {handle : Handle} {content : List UInt8} {mode : Nat} {progress? : Option Progress}
      (site : session.tree.siteOf? session.cwd (Text.Utf8.encode path) = some (.file handle))
      (file : session.tree.get? handle = some (.file content mode))
      (writer : session.writer? path = progress?.map fun progress => progress.writer handle) :
      Shows session path (.file handle) (.present content progress?)

/-- A session comes from another by a step with the file at a path: the files change at the site of that path only,
which is a new file then if it was a free name, and no writer changes but the one for that path. -/
structure Moves (path : String) (site site' : Tree.Site) (before after : Session) : Prop where
  cwd : after.cwd = before.cwd
  touches : Tree.Touches site before.tree after.tree
  settles : site' = site ∨ ∃ handle, site' = .file handle ∧ before.tree.get? handle = none
  writers : ∀ other, other ≠ path → after.writer? other = before.writer? other

variable {session before after : Session} {path other : String} {site site' : Tree.Site} {cell cell' : Cell}

/-- A path whose cell shows leads to its site. -/
theorem Shows.siteOf? (shows : session.Shows path site cell) :
    session.tree.siteOf? session.cwd (Text.Utf8.encode path) = some site := by
  cases shows with
  | missing site closed => exact site
  | present site file writer => exact site

/-- A session that stays as it is comes from itself by a step with any path. -/
theorem Moves.refl (path : String) (site : Tree.Site) (session : Session) : Moves path site site session session :=
  ⟨rfl, .refl _ _, .inl rfl, fun _ _ => rfl⟩

/-- A step with one file leaves the cell of another. -/
theorem Moves.shows {own own' : Tree.Site} (moves : Moves path own own' before after) (shows : before.Shows other site cell)
    (hpath : other ≠ path) (hsite : site ≠ own) : after.Shows other site cell := by
  have hkept := moves.touches.siteOf? shows.siteOf? hsite
  rw [← moves.cwd] at hkept
  cases shows with
  | missing _ closed => exact .missing hkept ((moves.writers other hpath).trans closed)
  | present _ file writer =>
    exact .present hkept (moves.touches.file hsite file) ((moves.writers other hpath).trans writer)

/-! ## Open writers -/

section Writers

variable (session : Session) (path : String) (writer : Writer)

/-- A writer that has been dropped is no longer open. -/
@[simp] theorem writer?_dropWriter_self : (session.dropWriter path).writer? path = none := by
  unfold writer? dropWriter
  simp

/-- Dropping a writer leaves those at other paths open. -/
theorem writer?_dropWriter_of_ne {other : String} (h : other ≠ path) :
    (session.dropWriter path).writer? other = session.writer? other := by
  unfold writer? dropWriter
  rw [List.find?_filter]
  congr 2
  funext item
  by_cases hitem : item.1 = other <;> simp [hitem, h]

/-- The writer that was opened at a path is the one that is open there. -/
@[simp] theorem writer?_setWriter_self : (session.setWriter path writer).writer? path = some writer := by
  unfold writer? setWriter
  simp

/-- Opening a writer leaves those at other paths as they are. -/
theorem writer?_setWriter_of_ne {other : String} (h : other ≠ path) :
    (session.setWriter path writer).writer? other = session.writer? other := by
  rw [← writer?_dropWriter_of_ne session path h]
  unfold writer? setWriter
  rw [List.find?_cons_of_neg]
  simpa using Ne.symm h

end Writers

/-! ## What a step does is decided by the cell -/

/-- With a cell at its path, a step gives an answer and leaves a cell there, in every session alike. -/
def Decides (path : String) (step : Step) (cell : Cell) (answer : Answer) (cell' : Cell) : Prop :=
  ∀ (session : Session) (site : Tree.Site), Tree.Anchored session.tree session.cwd → session.Shows path site cell →
    (session.step path step).1 = answer ∧ ∃ site',
      Moves path site site' session (session.step path step).2 ∧ (session.step path step).2.Shows path site' cell'

/-- A step that leaves the session as it is. -/
theorem decides_of_same {step : Step} {answer : Answer}
    (h : ∀ (session : Session) (site : Tree.Site), session.Shows path site cell →
      session.step path step = (answer, session)) : Decides path step cell answer cell := by
  intro session site _ shows
  rw [h session site shows]
  exact ⟨rfl, site, .refl path site session, shows⟩

/-- A session in which the file at a path has been written, after it was opened or made at its site. -/
theorem exists_moves {made : Tree} {handle : Handle} {content content' : List UInt8} {mode : Nat}
    {progress? : Option Progress} (touches : Tree.Touches site before.tree made)
    (hfile : made.get? handle = some (.file content mode))
    (hsite : made.siteOf? before.cwd (Text.Utf8.encode path) = some (.file handle))
    (hown : site = .file handle ∨ before.tree.get? handle = none) (hcwd : after.cwd = before.cwd)
    (htree : after.tree = made.set handle (.file content' mode))
    (hwriter : after.writer? path = progress?.map fun progress => progress.writer handle)
    (hwriters : ∀ other, other ≠ path → after.writer? other = before.writer? other) :
    ∃ site', Moves path site site' before after ∧ after.Shows path site' (.present content' progress?) := by
  have hset : after.tree.get? handle = some (.file content' mode) := by
    rw [htree]
    exact Tree.get?_set_self (Tree.lt_of_get? hfile)
  have hstill : after.tree.siteOf? after.cwd (Text.Utf8.encode path) = some (.file handle) := by
    rw [hcwd]
    refine Tree.siteOf?_of_file ?_ hsite hset
    rw [htree]
    exact Tree.keeps_set_file hfile
  refine ⟨.file handle, ⟨hcwd, ?_, ?_, hwriters⟩, .present hstill hset hwriter⟩
  · rw [htree]
    exact touches.set_file hfile hown
  · rcases hown with rfl | hnone
    · exact .inl rfl
    · exact .inr ⟨handle, rfl, hnone⟩

section Steps

variable {content : List UInt8} {progress? : Option Progress}

/-- A path to a file that is still to be made leads nowhere. -/
theorem locate_of_missing (shows : session.Shows path site .missing) :
    session.tree.locate session.cwd (Text.Utf8.encode path) = .error .notFound := by
  cases shows with
  | missing site closed => exact Tree.locate_of_siteOf?_name site

/-- A path to a file leads to its bytes. -/
theorem locate_of_present (shows : session.Shows path site (.present content progress?)) :
    ∃ handle mode, session.tree.locate session.cwd (Text.Utf8.encode path) = .ok (handle, .file content mode) := by
  cases shows with
  | present site file writer => exact ⟨_, _, Tree.locate_of_siteOf?_file site file⟩

/-- The bytes that are read are decided by the cell. -/
theorem exists_decided_bytes (path : String) (cell : Cell) : ∃ answer, Decides path .bytes cell answer cell := by
  cases cell with
  | missing =>
    refine ⟨.failed (.system .notFound), decides_of_same fun session site shows => ?_⟩
    unfold step Tree.read
    simp only [locate_of_missing shows]
  | present content progress? =>
    refine ⟨.bytes content, decides_of_same fun session site shows => ?_⟩
    obtain ⟨handle, mode, hlocate⟩ := locate_of_present shows
    unfold step Tree.read
    simp only [hlocate, Tree.contentOf]

/-- Loading a list leaves the session as it is. -/
theorem exists_decided_load (path : String) (cell : Cell) : ∃ result, ∀ (session : Session) (site : Tree.Site),
    session.Shows path site cell → session.perform (Listing.load path) = (result, session) := by
  cases cell with
  | missing =>
    refine ⟨.error (.within ("opening " ++ path) (.system .notFound)), fun session site shows => ?_⟩
    have hmissing : (Host.fresh session.tree session.cwd .error ()).tree.locate
        (Host.fresh session.tree session.cwd .error ()).cwd (Text.Utf8.encode path) = .error .notFound :=
      locate_of_missing shows
    unfold Session.perform
    rw [Listing.perform_load_of_error hmissing]
    rfl
  | present content progress? =>
    refine ⟨Listing.loaded path content, fun session site shows => ?_⟩
    obtain ⟨handle, mode, hlocate⟩ := locate_of_present shows
    have hfile : (Host.fresh session.tree session.cwd .error ()).tree.locate
        (Host.fresh session.tree session.cwd .error ()).cwd (Text.Utf8.encode path) =
          .ok (handle, .file content mode) :=
      hlocate
    obtain ⟨errors, hload⟩ := Listing.perform_load_file hfile
    unfold Session.perform
    rw [hload]
    rfl

/-- The counters that are read are decided by the cell. -/
theorem exists_decided_read (path : String) (cell : Cell) : ∃ answer, Decides path .read cell answer cell := by
  obtain ⟨result, hload⟩ := exists_decided_load path cell
  refine ⟨answerOf .counters result, decides_of_same fun session site shows => ?_⟩
  unfold step
  simp only [hload session site shows]

/-- The counter that is found under a name is decided by the cell. -/
theorem exists_decided_find (path name : String) (cell : Cell) :
    ∃ answer, Decides path (.find name) cell answer cell := by
  obtain ⟨result, hload⟩ := exists_decided_load path cell
  refine ⟨answerOf .counter (result.bind fun counters => Listing.pick counters name path),
    decides_of_same fun session site shows => ?_⟩
  unfold step
  simp only [hload session site shows]

/-- The file that is opened at a path is the one that its writer writes to. -/
theorem writer?_of_create (shows : session.Shows path site cell) {handle : Handle}
    (hown : site = .file handle ∨ (∃ directory name, site = .name directory name) ∧ session.tree.get? handle = none) :
    session.writer? path = cell.progress?.map fun progress => progress.writer handle := by
  cases shows with
  | missing site closed => exact closed
  | present site file writer =>
    rcases hown with heq | ⟨⟨directory, name, heq⟩, -⟩
    · cases heq
      exact writer
    · cases heq

/-- A whole list that is written is what the file holds then, and an open writer stays where it is. -/
theorem decides_write (path : String) (records : List Record) (cell : Cell) :
    Decides path (.write records) cell (.count records.length)
      (.present (Record.listBytes records) (cell.progress?)) := by
  intro session site anchored shows
  obtain ⟨handle, made, mode, hcreate, hfile, hsite, touches, hown⟩ := Tree.create_of_siteOf? anchored shows.siteOf?
  have hopen : (Host.fresh session.tree session.cwd .error ()).tree.create
      (Host.fresh session.tree session.cwd .error ()).cwd (Text.Utf8.encode path) = .ok (.file handle, made) :=
    hcreate
  have hsave : session.perform (Listing.save path records) = (.ok records.length,
      { session with tree := made.set handle (.file (Record.listBytes records) mode) }) := by
    unfold Session.perform
    rw [Listing.perform_save hopen hfile records]
  have hstep : session.step path (.write records) = (.count records.length,
      { session with tree := made.set handle (.file (Record.listBytes records) mode) }) := by
    unfold step
    simp only [hsave, answerOf]
  rw [hstep]
  exact ⟨rfl, exists_moves touches hfile hsite (hown.imp_right And.right) rfl rfl (writer?_of_create shows hown)
    fun _ _ => rfl⟩

/-- A writer that has just been opened. -/
def opened : Progress := ⟨0, [], 0⟩

/-- A writer that is opened empties the file; one that was open is given up, which leaves what it still held. -/
theorem exists_decided_start (path : String) (cell : Cell) :
    ∃ content, Decides path .start cell .done (.present content (some opened)) := by
  -- The cell says whether a writer is open, so what is left in the file is known before any session is.
  obtain ⟨content, hopen⟩ : ∃ content, ∀ (session : Session) (handle : Handle) (made : Tree) (mode : Nat),
      session.tree.create session.cwd (Text.Utf8.encode path) = .ok (.file handle, made) →
      made.get? handle = some (.file [] mode) →
      session.writer? path = cell.progress?.map (fun progress => progress.writer handle) →
      session.openWriter path = (.done,
        ({ session with tree := made.set handle (.file content mode) } : Session).setWriter path
          (opened.writer handle)) := by
    cases hprogress : cell.progress? with
    | none =>
      refine ⟨[], fun session handle made mode hcreate hfile hwriter => ?_⟩
      unfold openWriter Writer.create
      simp only [hcreate, hwriter, Option.map_none, Tree.set_get? hfile]
      rfl
    | some progress =>
      obtain ⟨content, habandon⟩ := Writer.exists_abandon progress []
      refine ⟨content, fun session handle made mode hcreate hfile hwriter => ?_⟩
      unfold openWriter Writer.create
      simp only [hcreate, hwriter, Option.map_some, habandon handle made mode hfile]
      rfl
  refine ⟨content, fun session site anchored shows => ?_⟩
  obtain ⟨handle, made, mode, hcreate, hfile, hsite, touches, hown⟩ := Tree.create_of_siteOf? anchored shows.siteOf?
  have hstep : session.step path .start = (.done,
      ({ session with tree := made.set handle (.file content mode) } : Session).setWriter path
        (opened.writer handle)) :=
    hopen session handle made mode hcreate hfile (writer?_of_create shows hown)
  rw [hstep]
  exact ⟨rfl, exists_moves touches hfile hsite (hown.imp_right And.right) rfl rfl
    (writer?_setWriter_self _ _ _) fun other hother => writer?_setWriter_of_ne _ _ _ hother⟩

/-- No writer is open at a path whose cell has none. -/
theorem writer?_of_closed (shows : session.Shows path site cell) (hcell : cell.progress? = none) :
    session.writer? path = none := by
  cases shows with
  | missing site closed => exact closed
  | present site file writer =>
    rw [writer]
    exact congrArg _ hcell

/-- Without an open writer there is nothing to write a record with. -/
theorem decides_record_closed (path : String) (record : Record) (hcell : cell.progress? = none) :
    Decides path (.record record) cell .notOpen cell := by
  refine decides_of_same fun session site shows => ?_
  unfold step
  simp only [writer?_of_closed shows hcell]

/-- Without an open writer there is nothing to finish. -/
theorem decides_finish_closed (path : String) (hcell : cell.progress? = none) :
    Decides path .finish cell .notOpen cell := by
  refine decides_of_same fun session site shows => ?_
  unfold step
  simp only [writer?_of_closed shows hcell]

/-- With a writer open, writing a record is decided by the cell. -/
theorem exists_decided_record (path : String) (record : Record) (content : List UInt8) (progress : Progress) :
    ∃ content' progress', Decides path (.record record) (.present content (some progress)) .done
      (.present content' (some progress')) := by
  obtain ⟨progress', content', hrecord⟩ := Writer.local_record record progress content
  refine ⟨content', progress', fun session site anchored shows => ?_⟩
  cases shows with
  | @present handle _ mode _ site file writer =>
    have hstep : session.step path (.record record) = (.done,
        ({ session with tree := session.tree.set handle (.file content' mode) } : Session).setWriter path
          (progress'.writer handle)) := by
      have hwritten := hrecord handle session.tree mode file
      unfold step
      simp only [writer, Option.map_some, hwritten]
    rw [hstep]
    exact ⟨rfl, exists_moves (.refl _ _) file site (.inl rfl) rfl rfl (writer?_setWriter_self _ _ _)
      fun other hother => writer?_setWriter_of_ne _ _ _ hother⟩

/-- With a writer open, finishing it is decided by the cell, and no writer is open after it. -/
theorem exists_decided_finish (path : String) (content : List UInt8) (progress : Progress) :
    ∃ answer content', Decides path .finish (.present content (some progress)) answer (.present content' none) := by
  obtain ⟨progress', content', hflush⟩ := Writer.local_flush progress content
  refine ⟨.count progress'.count, content', fun session site anchored shows => ?_⟩
  cases shows with
  | @present handle _ mode _ site file writer =>
    have hstep : session.step path .finish = (.count progress'.count,
        ({ session with tree := session.tree.set handle (.file content' mode) } : Session).dropWriter path) := by
      have hflushed := hflush handle session.tree mode file
      unfold step Writer.finish
      simp only [writer, Option.map_some, hflushed]
      rfl
    rw [hstep]
    exact ⟨rfl, exists_moves (.refl _ _) file site (.inl rfl) rfl rfl (writer?_dropWriter_self _ _)
      fun other hother => writer?_dropWriter_of_ne _ _ hother⟩

end Steps

/-- A step that works on a counter list; putting any file somewhere else, with the directories that it needs, is not
one. -/
def Step.IsPlain : Step → Prop
  | .put _ _ => False
  | _ => True

/-- **The cell at its path decides what a step answers and which cell it leaves.** -/
theorem exists_decided {step : Step} (hplain : step.IsPlain) (path : String) (cell : Cell) :
    ∃ answer cell', Decides path step cell answer cell' := by
  cases step with
  | put content mode => exact hplain.elim
  | bytes =>
    obtain ⟨answer, h⟩ := exists_decided_bytes path cell
    exact ⟨answer, cell, h⟩
  | write records => exact ⟨_, _, decides_write path records cell⟩
  | read =>
    obtain ⟨answer, h⟩ := exists_decided_read path cell
    exact ⟨answer, cell, h⟩
  | find name =>
    obtain ⟨answer, h⟩ := exists_decided_find path name cell
    exact ⟨answer, cell, h⟩
  | start =>
    obtain ⟨content, h⟩ := exists_decided_start path cell
    exact ⟨_, _, h⟩
  | record record =>
    cases hcell : cell.progress? with
    | none => exact ⟨_, _, decides_record_closed path record hcell⟩
    | some progress =>
      cases cell with
      | missing => cases hcell
      | present content progress? =>
        cases hcell
        obtain ⟨content', progress', h⟩ := exists_decided_record path record content progress
        exact ⟨_, _, h⟩
  | finish =>
    cases hcell : cell.progress? with
    | none => exact ⟨_, _, decides_finish_closed path hcell⟩
    | some progress =>
      cases cell with
      | missing => cases hcell
      | present content progress? =>
        cases hcell
        obtain ⟨answer, content', h⟩ := exists_decided_finish path content progress
        exact ⟨_, _, h⟩

end Session

end CounterCatalog
