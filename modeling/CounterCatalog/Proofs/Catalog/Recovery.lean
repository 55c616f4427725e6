import CounterCatalog.Proofs.Catalog.Pipeline
import CounterCatalog.Proofs.Event.Apart

/-!
# Nothing is lost in a file

A counter list has no escapes, and a label may have commas in it. Its records can be told from its bytes all the same:
no label and no code has a line feed in it and no code has a comma, so a line ends where a record does, and the last
comma of a line is the one between the label and the code (`ofContent?_listBytes`). Two different lists of records
therefore never make the same file (`records_recovered`).
-/

set_option autoImplicit false

namespace CounterCatalog

namespace Record

/-! ## Telling the records of a file -/

/-- The record of a line, cut at its last comma. -/
def ofLine? (line : List UInt8) : Option Record := do
  let (label, code) ← Text.splitAtLast 0x2C line
  pure ⟨← Text.Utf8.decode? label, ← Text.Utf8.decode? code⟩

/-- The records of a file, cut at its line feeds. -/
def ofContent? (content : List UInt8) : Option (List Record) :=
  (Text.splitOn 0x0A content).dropLast.mapM ofLine?

variable {record : Record} {records : List Record}

/-- The code of a well-formed record is what stands behind the last comma of its line. -/
theorem WellFormed.ofLine?_text_bytes (h : record.WellFormed) :
    ofLine? (Text.Utf8.encode record.text) = some record := by
  have hcode : ',' ∉ record.code.toList := h.not_mem_code (by decide) (by decide) (by decide)
  have hbytes : (0x2C : UInt8) ∉ Text.Utf8.encode record.code := by
    intro hmem
    exact hcode ((Text.Utf8.mem_encodeChars_iff (c := ',') (by decide)).1 hmem)
  have htext : Text.Utf8.encode record.text =
      Text.Utf8.encode record.label ++ 0x2C :: Text.Utf8.encode record.code := by
    rw [text, Text.Utf8.encode_append, Text.Utf8.encode_append, List.append_assoc]
    rfl
  rw [ofLine?, htext, Text.splitAtLast_append_cons hbytes]
  simp only [Option.bind_eq_bind, Option.bind_some, Text.Utf8.decode?_encode, Option.pure_def]

/-- The lines of well-formed records are read as those records. -/
theorem mapM_ofLine? (h : ∀ record ∈ records, record.WellFormed) :
    (records.map fun record => Text.Utf8.encode record.text).mapM ofLine? = some records := by
  induction records with
  | nil => rfl
  | cons record records ih =>
    rw [List.forall_mem_cons] at h
    rw [List.map_cons, List.mapM_cons, h.1.ofLine?_text_bytes, ih h.2]
    rfl

/-- The records of a file are those whose lines it holds. -/
theorem ofContent?_listBytes (h : ∀ record ∈ records, record.WellFormed) :
    ofContent? (listBytes records) = some records := by
  rw [ofContent?, splitOn_listBytes h, List.dropLast_concat]
  exact mapM_ofLine? h

end Record

namespace Catalog

variable {τ : Type} {host : Host τ} {path : String} {records : List Record} {handle : Handle} {made : Tree}

/-- The path of a counter list that was written reads the lines of its records. -/
theorem read_save (anchored : Tree.Anchored host.tree host.cwd)
    (hopen : host.tree.create host.cwd (Text.Utf8.encode path) = .ok (.file handle, made)) (records : List Record) :
    ∃ after, (Listing.save path records).perform host = (.ok records.length, after) ∧
      after.tree.read host.cwd (Text.Utf8.encode path) = .ok (Record.listBytes records) := by
  obtain ⟨tree, mode, hsave, hlocate⟩ := Listing.exists_save anchored hopen records
  refine ⟨_, hsave, ?_⟩
  unfold Tree.read
  rw [hlocate]
  rfl

/-- **A file that was written says which records it was written from.** The records may be any that a source could
have made, with commas in their labels and in any number. The lines between the line feeds of the file, each cut at its
last comma, are those records, in the same order and as often as they were given; and whatever other such records are
written somewhere, the bytes are the same only if the records are. -/
theorem records_recovered (hrecords : ∀ record ∈ records, record.Obtainable)
    (anchored : Tree.Anchored host.tree host.cwd)
    (hopen : host.tree.create host.cwd (Text.Utf8.encode path) = .ok (.file handle, made)) :
    ∃ after content,
      (Listing.save path records).perform host = (.ok records.length, after) ∧
      after.tree.read host.cwd (Text.Utf8.encode path) = .ok content ∧
      Record.ofContent? content = some records ∧
      ∀ (others : List Record) (elsewhere : Host τ) (path' : String) (handle' : Handle) (made' : Tree),
        (∀ other ∈ others, other.Obtainable) → Tree.Anchored elsewhere.tree elsewhere.cwd →
        elsewhere.tree.create elsewhere.cwd (Text.Utf8.encode path') = .ok (.file handle', made') →
        ((Listing.save path' others).perform elsewhere).2.tree.read elsewhere.cwd (Text.Utf8.encode path') =
          .ok content →
        others = records := by
  obtain ⟨after, hsave, hread⟩ := read_save anchored hopen records
  have hcontent : Record.ofContent? (Record.listBytes records) = some records :=
    Record.ofContent?_listBytes fun record hrecord => (hrecords record hrecord).wellFormed
  refine ⟨after, Record.listBytes records, hsave, hread, hcontent, ?_⟩
  intro others elsewhere path' handle' made' hothers hanchored hopen' hsame
  obtain ⟨after', hsave', hread'⟩ := read_save hanchored hopen' others
  have hbytes : Record.listBytes others = Record.listBytes records := by
    rw [hsave', hread'] at hsame
    exact Except.ok.inj hsame
  have hother : Record.ofContent? (Record.listBytes others) = some others :=
    Record.ofContent?_listBytes fun other hother => (hothers other hother).wellFormed
  rw [hbytes, hcontent] at hother
  exact (Option.some.inj hother).symm

/-- A listing of an event with one variant, whose description has a comma in it. -/
def commaListing : String :=
  "Name : b\nUmask-0 : 0x1 : PMU : [x,0x1]\n"

/-- A record whose label looks like a record itself. -/
def commaRecord : Record := ⟨"b.x,0x1", "0x3c"⟩

/-- The label with a comma in it is found. -/
theorem labels_commaListing : Event.labels commaListing = [commaRecord.label] := by
  have hname : Event.name? commaListing.toList = some "b".toList := by decide
  have hvariant : Text.firstSite Event.umaskHere? commaListing.toList = some ("x,0x1".toList, "\n".toList) := by
    decide
  rw [Event.labels_of_not_mem (by decide), Event.labelsOfBlock, Event.blockLabels, hname,
    Event.umasks_of_some hvariant, Event.umasks_of_none (by decide)]
  rfl

/-- The record with a comma in its label is one that can be obtained. -/
theorem obtainable_commaRecord : commaRecord.Obtainable := by
  have hlabel : commaRecord.label ∈ Event.labels commaListing := by
    rw [labels_commaListing]
    exact List.mem_singleton_self _
  exact ⟨⟨_, hlabel⟩, "Codes : 0x3c\n", by decide⟩

/-- A record with a comma in its label that is written twice is told twice. -/
theorem records_recovered_comma :
    ∃ after content,
      (Listing.save "o" [commaRecord, commaRecord]).perform sampleHost = (.ok 2, after) ∧
      after.tree.read sampleHost.cwd (Text.Utf8.encode "o") = .ok content ∧
      Record.ofContent? content = some [commaRecord, commaRecord] := by
  have hrecords : ∀ record ∈ [commaRecord, commaRecord], record.Obtainable := by
    intro record hrecord
    have heq : record = commaRecord := by simpa using hrecord
    rw [heq]
    exact obtainable_commaRecord
  obtain ⟨after, content, hsave, hread, hcontent, -⟩ :=
    records_recovered hrecords anchored_sampleHost create_sampleHost
  exact ⟨after, content, hsave, hread, hcontent⟩

end Catalog

end CounterCatalog
