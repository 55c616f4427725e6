import CounterCatalog.Host

/-!
# Event sources

An event source gives two kinds of text: the listing of all events, and what it can say about the code of
one label. It may fail, and it may answer the same question differently each time. A transcript is a source
fixed beforehand: it answers by the number of the question and the label, and the labels asked about are
remembered.
-/

set_option autoImplicit false

namespace CounterCatalog

/-- The two texts that a catalog is made from. -/
structure EventSource (τ : Type) where
  /-- The listing of all events. -/
  listing : Action τ String
  /-- What the source says about the code of a label. -/
  answer : String → Action τ String

/-- The answers of an event source, fixed beforehand. -/
structure Transcript where
  /-- The listing of all events. -/
  listing : Except Failure String
  /-- The answer to a label, which may depend on how many labels were asked about before. -/
  answer : Nat → String → Except Failure String

namespace Transcript

/-- The source that follows a transcript and remembers, in order, the labels it was asked about. -/
def source (transcript : Transcript) : EventSource (List String) where
  listing := liftExcept transcript.listing
  answer label := do
    let asked := (← get).memory
    modify fun host => { host with memory := asked ++ [label] }
    liftExcept (transcript.answer asked.length label)
where
  /-- An action that does nothing but give a result. -/
  liftExcept (result : Except Failure String) : Action (List String) String :=
    match result with
    | .ok text => pure text
    | .error failure => throw failure

end Transcript

end CounterCatalog
