import CounterCatalog.Counter.Listing
import CounterCatalog.Proofs.Host.Perform
import CounterCatalog.Proofs.Text.Utf8
import CounterCatalog.Proofs.Tree.Making

/-!
# What a writer does to its file

A writer of a regular file has at any moment put the lines of the first of its records there, and holds back
those of the others (`Follows`). Every record keeps it so, and so do all of them (`Follows.record`,
`Follows.records`). When it has finished, the file holds the lines of all records (`perform_save`).
-/

set_option autoImplicit false

namespace CounterCatalog

/-! ## Bytes at the end of a file -/

/-- No line is empty, for a comma is in it. -/
theorem Record.bytes_ne_nil (record : Record) : record.bytes ≠ [] := by
  have hcomma : UInt8.ofNat ','.toNat ∈ record.bytes := by
    rw [bytes, Text.Utf8.encode, Text.Utf8.mem_encodeChars_iff (by decide)]
    simp [line]
  exact List.ne_nil_of_mem hcomma

/-- The lines of some records and others are those of the first, then those of the others. -/
theorem Record.listBytes_append (first second : List Record) :
    Record.listBytes (first ++ second) = Record.listBytes first ++ Record.listBytes second :=
  List.flatMap_append

/-- The lines of one record are its line. -/
theorem Record.listBytes_singleton (record : Record) : Record.listBytes [record] = record.bytes :=
  List.append_nil record.bytes

/-- There are no bytes exactly if there are no records. -/
theorem Record.listBytes_eq_nil_iff {records : List Record} : Record.listBytes records = [] ↔ records = [] := by
  unfold listBytes
  rw [List.flatMap_eq_nil_iff]
  constructor
  · exact fun h => List.eq_nil_iff_forall_not_mem.2 fun record hrecord => record.bytes_ne_nil (h record hrecord)
  · rintro rfl record hrecord
    cases hrecord

/-- Bytes that are written at the end of a content come behind it. -/
theorem Tree.overwrite_length (content bytes : List UInt8) :
    Tree.overwrite content content.length bytes = content ++ bytes := by
  simp [Tree.overwrite]

namespace Writer

/-- A writer of a regular file that has put the lines of some records there and holds back those of others. -/
structure Follows (base : Tree) (handle : Handle) (mode : Nat) (written pending : List Record)
    (writer : Writer) (tree : Tree) : Prop where
  /-- The bytes go to the file. -/
  target : writer.target = .file handle
  /-- The file holds the lines of the written records, and the rest of the tree is as it was. -/
  tree : tree = base.set handle (.file (Record.listBytes written) mode)
  /-- The next bytes go to the end of the file. -/
  handed : writer.handed = (Record.listBytes written).length
  /-- The lines of the other records are held back. -/
  held : writer.held = Record.listBytes pending
  /-- All records have been counted. -/
  count : writer.count = (written ++ pending).length

variable {base tree : Tree} {handle : Handle} {mode : Nat} {written pending : List Record} {writer : Writer}

/-- Bytes that are handed over come to stand at the end of the file. -/
theorem Follows.hand (follows : Follows base handle mode written pending writer tree)
    (hbase : handle < base.nodes.size) (bytes : List UInt8) :
    writer.hand tree bytes = .ok ({ writer with handed := writer.handed + bytes.length },
      base.set handle (.file (Record.listBytes written ++ bytes) mode)) := by
  have hfile : tree.get? handle = some (.file (Record.listBytes written) mode) := by
    rw [follows.tree, Tree.get?_set_self hbase]
  unfold Writer.hand
  simp only [follows.target, Tree.writeAt, hfile, follows.handed, Tree.overwrite_length]
  rw [follows.tree, Tree.set_set]

/-- A writer that has handed over what it held back has written all its records. -/
theorem Follows.flush (follows : Follows base handle mode written pending writer tree)
    (hbase : handle < base.nodes.size) :
    ∃ writer' tree', writer.flush tree = .ok (writer', tree') ∧
      Follows base handle mode (written ++ pending) [] writer' tree' := by
  unfold Writer.flush
  by_cases hheld : writer.held = []
  · have hpending : pending = [] := Record.listBytes_eq_nil_iff.1 (follows.held.symm.trans hheld)
    subst hpending
    rw [if_pos hheld, List.append_nil]
    exact ⟨writer, tree, rfl, follows⟩
  · rw [if_neg hheld, follows.hand hbase]
    refine ⟨_, _, rfl, ⟨follows.target, ?_, ?_, rfl, ?_⟩⟩
    · rw [Record.listBytes_append, follows.held]
    · rw [Record.listBytes_append, List.length_append, follows.handed, follows.held]
    · rw [List.append_nil]
      exact follows.count

/-- A line for which there is no room, or never is any, has a writer hand over what it holds back. -/
theorem makeRoom_eq_flush {bytes : List UInt8} (hbytes : bytes ≠ [])
    (h : capacity < writer.held.length + bytes.length ∨ capacity ≤ bytes.length) (tree : Tree) :
    writer.makeRoom tree bytes = writer.flush tree := by
  have hpos := List.length_pos_iff.2 hbytes
  unfold Writer.makeRoom
  by_cases hroom : capacity - writer.held.length < bytes.length
  · rw [if_pos hroom]
  · -- The line is as long as the capacity and nothing is held back, so there is nothing to hand over.
    have hheld : writer.held.length = 0 := by
      unfold capacity at h hroom
      omega
    rw [if_neg hroom, Writer.flush, if_pos (List.length_eq_zero_iff.1 hheld)]

/-- A line for which there is room is held back behind those that are. -/
theorem Follows.record_held (follows : Follows base handle mode written pending writer tree) (record : Record)
    (hroom : writer.held.length + record.bytes.length ≤ capacity) (hshort : record.bytes.length < capacity) :
    ∃ writer', writer.record tree record = .ok (writer', tree) ∧
      Follows base handle mode written (pending ++ [record]) writer' tree := by
  have hmakeRoom : writer.makeRoom tree record.bytes = .ok (writer, tree) := by
    unfold Writer.makeRoom
    exact if_neg (by omega)
  unfold Writer.record take
  simp only [hmakeRoom, if_neg (Nat.not_le.2 hshort)]
  refine ⟨_, rfl, ⟨follows.target, follows.tree, follows.handed, ?_, ?_⟩⟩
  · rw [Record.listBytes_append, Record.listBytes_singleton, follows.held]
  · rw [← List.append_assoc, List.length_append, ← follows.count]
    rfl

/-- A line for which there is no room is held back once those before it have been handed over. -/
theorem Follows.record_flushed (follows : Follows base handle mode written pending writer tree)
    (hbase : handle < base.nodes.size) (record : Record)
    (hfull : capacity < writer.held.length + record.bytes.length) (hshort : record.bytes.length < capacity) :
    ∃ writer' tree', writer.record tree record = .ok (writer', tree') ∧
      Follows base handle mode (written ++ pending) [record] writer' tree' := by
  obtain ⟨writer', tree', hflush, hflushed⟩ := follows.flush hbase
  unfold Writer.record take
  simp only [makeRoom_eq_flush record.bytes_ne_nil (.inl hfull), hflush, if_neg (Nat.not_le.2 hshort)]
  refine ⟨_, _, rfl, ⟨hflushed.target, hflushed.tree, hflushed.handed, ?_, ?_⟩⟩
  · rw [Record.listBytes_singleton, hflushed.held]
    rfl
  · rw [List.length_append, ← List.append_nil (written ++ pending), ← hflushed.count]
    rfl

/-- A line as long as the capacity is handed over itself, and nothing is held back that it would overtake. -/
theorem Follows.record_direct (follows : Follows base handle mode written pending writer tree)
    (hbase : handle < base.nodes.size) (record : Record) (hlong : capacity ≤ record.bytes.length) :
    ∃ writer' tree', writer.record tree record = .ok (writer', tree') ∧
      Follows base handle mode (written ++ pending ++ [record]) [] writer' tree' := by
  obtain ⟨writer', tree', hflush, hflushed⟩ := follows.flush hbase
  unfold Writer.record take
  simp only [makeRoom_eq_flush record.bytes_ne_nil (.inr hlong), hflush, if_pos hlong, hflushed.hand hbase]
  refine ⟨_, _, rfl, ⟨hflushed.target, ?_, ?_, hflushed.held, ?_⟩⟩
  · rw [Record.listBytes_append _ [record], Record.listBytes_singleton]
  · rw [Record.listBytes_append _ [record], Record.listBytes_singleton, List.length_append, hflushed.handed]
  · rw [List.append_nil, List.length_append, ← List.append_nil (written ++ pending), ← hflushed.count]
    rfl

/-- **A record is written behind those before it, whole or not yet at all.** -/
theorem Follows.record (follows : Follows base handle mode written pending writer tree)
    (hbase : handle < base.nodes.size) (record : Record) :
    ∃ writer' tree' written' pending', writer.record tree record = .ok (writer', tree') ∧
      Follows base handle mode written' pending' writer' tree' ∧
      written <+: written' ∧ written' ++ pending' = written ++ pending ++ [record] := by
  by_cases hlong : capacity ≤ record.bytes.length
  · obtain ⟨writer', tree', hrecord, hfollows⟩ := follows.record_direct hbase record hlong
    refine ⟨writer', tree', _, _, hrecord, hfollows, ?_, List.append_nil _⟩
    rw [List.append_assoc]
    exact List.prefix_append _ _
  · by_cases hroom : writer.held.length + record.bytes.length ≤ capacity
    · obtain ⟨writer', hrecord, hfollows⟩ := follows.record_held record hroom (Nat.not_le.1 hlong)
      exact ⟨writer', tree, _, _, hrecord, hfollows, List.prefix_rfl, (List.append_assoc _ _ _).symm⟩
    · obtain ⟨writer', tree', hrecord, hfollows⟩ :=
        follows.record_flushed hbase record (Nat.not_le.1 hroom) (Nat.not_le.1 hlong)
      exact ⟨writer', tree', _, _, hrecord, hfollows, List.prefix_append _ _, rfl⟩

/-- Records are written one behind the other. -/
theorem Follows.records (follows : Follows base handle mode written pending writer tree)
    (hbase : handle < base.nodes.size) (records : List Record) :
    ∃ writer' tree' written' pending', writer.records tree records = .ok (writer', tree') ∧
      Follows base handle mode written' pending' writer' tree' ∧
      written <+: written' ∧ written' ++ pending' = written ++ pending ++ records := by
  induction records generalizing writer tree written pending with
  | nil =>
    rw [List.append_nil]
    exact ⟨writer, tree, written, pending, rfl, follows, List.prefix_rfl, rfl⟩
  | cons record records ih =>
    obtain ⟨writer', tree', written', pending', hrecord, follows', hprefix, hall⟩ := follows.record hbase record
    obtain ⟨writer'', tree'', written'', pending'', hrecords, follows'', hprefix', hall'⟩ := ih follows'
    refine ⟨writer'', tree'', written'', pending'', ?_, follows'', hprefix.trans hprefix', ?_⟩
    · rw [Writer.records, hrecord]
      exact hrecords
    · rw [hall', hall, List.append_assoc _ [record], List.singleton_append]

/-- A writer that has just been opened has written nothing. -/
theorem follows_create {cwd : Handle} {path : List UInt8}
    (hopen : tree.create cwd path = .ok (.file handle, base)) (hempty : base.get? handle = some (.file [] mode)) :
    ∃ writer, create tree cwd path = .ok (writer, base) ∧ Follows base handle mode [] [] writer base := by
  refine ⟨⟨.file handle, 0, [], 0, []⟩, ?_, ⟨rfl, (Tree.set_get? hempty).symm, rfl, rfl, rfl⟩⟩
  unfold create
  rw [hopen]

end Writer

namespace Listing

variable {τ : Type}

/-- **A regular file holds the lines of all the records that were written to it, whatever it held.** Nothing
else of the host is touched. -/
theorem perform_save {host : Host τ} {path : String} {handle : Handle} {made : Tree} {mode : Nat}
    (hopen : host.tree.create host.cwd (Text.Utf8.encode path) = .ok (.file handle, made))
    (hempty : made.get? handle = some (.file [] mode)) (records : List Record) :
    (save path records).perform host =
      (.ok records.length, { host with tree := made.set handle (.file (Record.listBytes records) mode) }) := by
  have hbase := Tree.lt_of_get? hempty
  obtain ⟨writer, hcreate, hfollows⟩ := Writer.follows_create hopen hempty
  obtain ⟨writer', tree', written, pending, hrecords, hfollows', -, hall⟩ := hfollows.records hbase records
  obtain ⟨writer'', tree'', hfinish, hdone⟩ := hfollows'.flush hbase
  have hwritten : written ++ pending = records := hall
  have hpass : (pass writer'' : Action τ Unit) = pure () := by
    unfold pass
    rw [hdone.target]
  have hboth : ((writer.records made records).bind fun item => item.1.finish item.2) = .ok (writer'', tree'') := by
    rw [hrecords]
    exact hfinish
  unfold save Action.attempt
  simp only [Action.perform_bind, Action.perform_get, Action.perform_setTree, Action.perform_pure, hcreate, hboth,
    hpass]
  rw [hdone.count, hdone.tree, hwritten, List.append_nil]

/-- The path of a counter list that was written leads to the lines of its records, and nothing but the files has
changed. -/
theorem exists_save {host : Host τ} {path : String} {handle : Handle} {made : Tree}
    (anchored : Tree.Anchored host.tree host.cwd)
    (hopen : host.tree.create host.cwd (Text.Utf8.encode path) = .ok (.file handle, made)) (records : List Record) :
    ∃ tree mode, (save path records).perform host = (.ok records.length, { host with tree := tree }) ∧
      tree.locate host.cwd (Text.Utf8.encode path) = .ok (handle, .file (Record.listBytes records) mode) := by
  obtain ⟨-, mode, hlocate⟩ := Tree.locate_create anchored hopen
  exact ⟨_, mode, perform_save hopen (Tree.get?_of_locate hlocate) records, Tree.locate_set_file hlocate⟩

end Listing

end CounterCatalog
