import CounterCatalog.Counter.Listing

/-!
# Sessions over counter lists

A session works on several counter lists at once: it writes and reads whole lists and keeps writers open,
each under the path it was opened with. A step answers, or fails without ending the session. Opening a
path again puts a new writer in the place of the old one, which hands over what it still holds. A writer is
gone once it has been asked to finish, whether or not it could.
-/

set_option autoImplicit false

namespace CounterCatalog

/-- The files of a session and its open writers, by path. -/
structure Session where
  /-- The files. -/
  tree : Tree
  /-- The current directory. -/
  cwd : Handle
  /-- The open writers. -/
  writers : List (String × Writer)

namespace Session

/-- What a session can be asked to do with the file at a path. -/
inductive Step where
  /-- Put a file there. -/
  | put (content : List UInt8) (mode : Nat)
  /-- Give its bytes. -/
  | bytes
  /-- Write a whole counter list. -/
  | write (records : List Record)
  /-- Read the counters. -/
  | read
  /-- Look a counter up. -/
  | find (name : String)
  /-- Open a writer. -/
  | start
  /-- Give the open writer a record. -/
  | record (record : Record)
  /-- Finish the open writer. -/
  | finish

/-- What a step answers. -/
inductive Answer where
  | done
  | notOpen
  | bytes (content : List UInt8)
  | count (n : Nat)
  | counters (counters : List Counter)
  | counter (counter : Counter)
  | failed (failure : Failure)

/-- The open writer of a path. -/
def writer? (session : Session) (path : String) : Option Writer :=
  (session.writers.find? fun item => item.1 = path).map Prod.snd

/-- The session without an open writer for a path. -/
def dropWriter (session : Session) (path : String) : Session :=
  { session with writers := session.writers.filter fun item => item.1 ≠ path }

/-- The session with an open writer for a path, in the place of any other. -/
def setWriter (session : Session) (path : String) (writer : Writer) : Session :=
  { session with writers := (path, writer) :: (session.dropWriter path).writers }

/-- Runs an action on the files of the session. -/
def perform {α : Type} (session : Session) (action : Action Unit α) :
    Except Failure α × Session :=
  let (result, host) := action.perform (Host.fresh session.tree session.cwd .error ())
  (result, { session with tree := host.tree })

/-- The answer of an action that gave a value or failed. -/
def answerOf {α : Type} (answer : α → Answer) : Except Failure α → Answer
  | .ok value => answer value
  | .error failure => .failed failure

/-- Opens a writer; one that was open for the path hands over what it holds. -/
def openWriter (session : Session) (path : String) : Answer × Session :=
  match Writer.create session.tree session.cwd (Text.Utf8.encode path) with
  | .error fault => (.failed (.system fault), session)
  | .ok (writer, tree) =>
    let tree :=
      match session.writer? path with
      | some old => old.abandon tree
      | none => tree
    (.done, { session with tree := tree }.setWriter path writer)

/-- Takes one step with the file at a path. -/
def step (session : Session) (path : String) : Step → Answer × Session
  | .put content mode =>
    match session.tree.install session.cwd path content mode with
    | .error fault => (.failed (.system fault), session)
    | .ok tree => (.done, { session with tree := tree })
  | .bytes =>
    match session.tree.read session.cwd (Text.Utf8.encode path) with
    | .error fault => (.failed (.system fault), session)
    | .ok content => (.bytes content, session)
  | .write records =>
    let (result, session) := session.perform (Listing.save path records)
    (answerOf .count result, session)
  | .read =>
    let (result, session) := session.perform (Listing.load path)
    (answerOf .counters result, session)
  | .find name =>
    let (result, session) := session.perform (Listing.load path)
    (answerOf .counter (result.bind fun counters => Listing.pick counters name path), session)
  | .start => session.openWriter path
  | .record record =>
    match session.writer? path with
    | none => (.notOpen, session)
    | some writer =>
      match writer.record session.tree record with
      | .error fault => (.failed (.system fault), session)
      | .ok (writer, tree) => (.done, { session with tree := tree }.setWriter path writer)
  | .finish =>
    match session.writer? path with
    | none => (.notOpen, session)
    | some writer =>
      match writer.finish session.tree with
      | .error fault => (.failed (.system fault), session.dropWriter path)
      | .ok (writer, tree) => (.count writer.count, { session with tree := tree }.dropWriter path)

/-- Takes steps one after the other and gives their answers in order. -/
def run (session : Session) : List (String × Step) → List Answer × Session
  | [] => ([], session)
  | (path, step) :: steps =>
    let (answer, session) := session.step path step
    let (answers, session) := session.run steps
    (answer :: answers, session)

end Session

end CounterCatalog
