import CounterCatalog.Counter.Writer
import CounterCatalog.Proofs.Tree.Making

/-!
# Writers that see only their own file

What a writer of a regular file does depends on how far it has got and on what its file holds, and on nothing else of
the tree it works in; and it changes nothing else there (`Writer.Local`). Every operation of a writer is of that kind.
-/

set_option autoImplicit false

namespace CounterCatalog

/-- How far a writer has got: the number of bytes that it has handed over, those that it holds back, and the number of
its records. -/
structure Progress where
  handed : Nat
  held : List UInt8
  count : Nat

/-- The writer of a file that has got so far. -/
def Progress.writer (progress : Progress) (handle : Handle) : Writer where
  target := .file handle
  handed := progress.handed
  held := progress.held
  count := progress.count
  shown := []

namespace Writer

/-- An operation of a writer succeeds on every regular file. How far the writer gets by it, and what the file then
holds, are the same in all trees in which the file holds the same. -/
def Local (operation : Writer → Tree → Except Fault (Writer × Tree)) : Prop :=
  ∀ (progress : Progress) (content : List UInt8), ∃ (progress' : Progress) (content' : List UInt8),
    ∀ (handle : Handle) (tree : Tree) (mode : Nat), tree.get? handle = some (.file content mode) →
      operation (progress.writer handle) tree = .ok (progress'.writer handle, tree.set handle (.file content' mode))

/-- Handing bytes over is an affair of the writer and its file. -/
theorem local_hand (bytes : List UInt8) : Local fun writer tree => writer.hand tree bytes := by
  intro progress content
  refine ⟨{ progress with handed := progress.handed + bytes.length },
    Tree.overwrite content progress.handed bytes, ?_⟩
  intro handle tree mode hfile
  simp only [hand, Progress.writer, Tree.writeAt, hfile]

/-- Handing over what is held back is an affair of the writer and its file. -/
theorem local_flush : Local flush := by
  intro progress content
  by_cases hheld : progress.held = []
  · refine ⟨progress, content, fun handle tree mode hfile => ?_⟩
    rw [Tree.set_get? hfile]
    exact if_pos hheld
  · obtain ⟨progress', content', hhand⟩ := local_hand progress.held progress content
    refine ⟨{ progress' with held := [] }, content', fun handle tree mode hfile => ?_⟩
    have hwriter : ¬ (progress.writer handle).held = [] := hheld
    unfold flush
    rw [if_neg hwriter]
    have hhanded : (progress.writer handle).hand tree (progress.writer handle).held =
        .ok (progress'.writer handle, tree.set handle (.file content' mode)) := hhand handle tree mode hfile
    rw [hhanded]
    rfl

/-- Making room is an affair of the writer and its file. -/
theorem local_makeRoom (bytes : List UInt8) : Local fun writer tree => writer.makeRoom tree bytes := by
  intro progress content
  by_cases hroom : capacity - progress.held.length < bytes.length
  · obtain ⟨progress', content', hflush⟩ := local_flush progress content
    refine ⟨progress', content', fun handle tree mode hfile => ?_⟩
    exact (if_pos hroom).trans (hflush handle tree mode hfile)
  · refine ⟨progress, content, fun handle tree mode hfile => ?_⟩
    rw [Tree.set_get? hfile]
    exact if_neg hroom

/-- Taking bytes is an affair of the writer and its file. -/
theorem local_take (bytes : List UInt8) : Local fun writer tree => writer.take tree bytes := by
  intro progress content
  obtain ⟨between, content₁, hroom⟩ := local_makeRoom bytes progress content
  by_cases hlong : capacity ≤ bytes.length
  · obtain ⟨progress', content', hhand⟩ := local_hand bytes between content₁
    refine ⟨progress', content', fun handle tree mode hfile => ?_⟩
    have hmade : (tree.set handle (.file content₁ mode)).get? handle = some (.file content₁ mode) :=
      Tree.get?_set_self (Tree.lt_of_get? hfile)
    have hhanded := hhand handle _ mode hmade
    rw [Tree.set_set] at hhanded
    simp only [take, hroom handle tree mode hfile, if_pos hlong]
    exact hhanded
  · refine ⟨{ between with held := between.held ++ bytes }, content₁, fun handle tree mode hfile => ?_⟩
    simp only [take, hroom handle tree mode hfile, if_neg hlong]
    rfl

/-- Writing a record is an affair of the writer and its file. -/
theorem local_record (record : Record) : Local fun writer tree => writer.record tree record := by
  intro progress content
  obtain ⟨progress', content', htake⟩ := local_take record.bytes progress content
  refine ⟨{ progress' with count := progress'.count + 1 }, content', fun handle tree mode hfile => ?_⟩
  simp only [Writer.record, htake handle tree mode hfile]
  rfl

/-- A writer that is given up leaves its file as one that has flushed. -/
theorem exists_abandon (progress : Progress) (content : List UInt8) :
    ∃ content', ∀ (handle : Handle) (tree : Tree) (mode : Nat), tree.get? handle = some (.file content mode) →
      (progress.writer handle).abandon tree = tree.set handle (.file content' mode) := by
  obtain ⟨progress', content', hflush⟩ := local_flush progress content
  refine ⟨content', fun handle tree mode hfile => ?_⟩
  unfold abandon
  rw [hflush handle tree mode hfile]

end Writer

end CounterCatalog
