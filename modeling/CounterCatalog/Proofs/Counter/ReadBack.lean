import CounterCatalog.Counter.Listing
import CounterCatalog.Proofs.Counter.Numeral
import CounterCatalog.Proofs.Host.Perform
import CounterCatalog.Proofs.Text.Lines

/-!
# Reading back what was written

The lines of well-formed records are cut apart again where they were put together, so a file that holds them has
as many line feeds as records. Their labels must have no comma if a reader is to find the code behind the first
one; then it gets the label and the number of the code, and nothing for a number of more than sixty-four bits
(`counters?_listBytes`).
-/

set_option autoImplicit false

namespace CounterCatalog

open Text

namespace Record

/-- A record that its line can be told apart by: its label is not empty and stays on one line, and its code is
`0x` and one or more hexadecimal digits. -/
structure WellFormed (record : Record) : Prop where
  /-- The label is not empty. -/
  label_ne : record.label ≠ ""
  /-- The label stays on one line. -/
  label_line : '\n' ∉ record.label.toList
  /-- The code is hexadecimal. -/
  code_hex : ∃ digits, IsRun isHexDigit digits ∧ record.code.toList = '0' :: 'x' :: digits

/-- A record's line without its line feed. -/
def text (record : Record) : String :=
  record.label ++ "," ++ record.code

/-- The number that a record's code stands for. -/
def value (record : Record) : Nat :=
  Counter.Numeral.number 16 (record.code.toList.drop 2)

/-- The counter that a record defines if its number fits into sixty-four bits. -/
def counter (record : Record) : Counter :=
  { name := record.label, config := UInt64.ofNat record.value, extended := 0, kind := none }

variable {record : Record} {records : List Record}

/-! ## The lines of a file -/

/-- The bytes of a record are those of its text and a line feed. -/
theorem bytes_eq (record : Record) : record.bytes = Utf8.encode record.text ++ [0x0A] := by
  have hline : record.line = record.text ++ "\n" := rfl
  rw [bytes, hline, Utf8.encode_append]
  rfl

/-- A code is on one line and has neither a comma nor a carriage return in it. -/
theorem WellFormed.not_mem_code (h : record.WellFormed) {c : Char} (hc : isHexDigit c = false) (h0 : c ≠ '0')
    (hx : c ≠ 'x') : c ∉ record.code.toList := by
  obtain ⟨digits, hdigits, hcode⟩ := h.code_hex
  intro hmem
  rw [hcode] at hmem
  rcases List.mem_cons.1 hmem with heq | hmem
  · exact h0 heq
  rcases List.mem_cons.1 hmem with heq | hmem
  · exact hx heq
  · rw [hdigits.2 c hmem] at hc
    cases hc

/-- No line feed is in the text of a well-formed record. -/
theorem WellFormed.newline_not_mem (h : record.WellFormed) : (0x0A : UInt8) ∉ Utf8.encode record.text := by
  have hcode : '\n' ∉ record.code.toList := h.not_mem_code (by decide) (by decide) (by decide)
  show UInt8.ofNat '\n'.toNat ∉ Utf8.encodeChars record.text.toList
  rw [Utf8.mem_encodeChars_iff (by decide)]
  simp only [text, String.toList_append, List.mem_append, not_or]
  exact ⟨⟨h.label_line, by simp⟩, hcode⟩

/-- The last byte of a well-formed record's text is no carriage return. -/
theorem WellFormed.getLast?_ne (h : record.WellFormed) : (Utf8.encode record.text).getLast? ≠ some 0x0D := by
  obtain ⟨digits, -, hcode⟩ := h.code_hex
  -- The last byte is one of the code's, since the code is not empty, and no carriage return is among those.
  have hreturn : '\r' ∉ record.code.toList := h.not_mem_code (by decide) (by decide) (by decide)
  rw [Utf8.encode, text, String.toList_append]
  exact Utf8.getLast?_encodeChars_append (by simp [hcode]) hreturn

/-- The bytes of records are their texts, each with a line feed. -/
theorem listBytes_eq (records : List Record) :
    listBytes records = (records.map fun record => Utf8.encode record.text).flatMap fun line => line ++ [0x0A] := by
  rw [listBytes, List.flatMap_map]
  congr 1
  funext record
  exact record.bytes_eq

/-- **Cutting a file at its line feeds gives the texts of the records,** and nothing behind the last of
them. -/
theorem splitOn_listBytes (h : ∀ record ∈ records, record.WellFormed) :
    splitOn 0x0A (listBytes records) = (records.map fun record => Utf8.encode record.text) ++ [[]] := by
  rw [listBytes_eq]
  exact splitOn_flatMap (List.forall_mem_map.2 fun record hrecord => (h record hrecord).newline_not_mem)

/-- There are as many line feeds as well-formed records. -/
theorem count_listBytes (h : ∀ record ∈ records, record.WellFormed) :
    (listBytes records).count 0x0A = records.length := by
  induction records with
  | nil => rfl
  | cons record records ih =>
    rw [List.forall_mem_cons] at h
    have hnone := List.count_eq_zero_of_not_mem h.1.newline_not_mem
    have hcount : List.count (0x0A : UInt8) (listBytes records) = records.length := ih h.2
    rw [listBytes] at hcount
    rw [listBytes, List.flatMap_cons, List.count_append, record.bytes_eq, List.count_append, hnone, hcount,
      List.count_singleton_self, List.length_cons, Nat.zero_add, Nat.add_comm]

/-- The lines of well-formed records are their texts in bytes. -/
theorem terminatedLines_listBytes (h : ∀ record ∈ records, record.WellFormed) :
    terminatedLines (listBytes records) = records.map fun record => Utf8.encode record.text := by
  rw [listBytes_eq]
  apply terminatedLines_flatMap
  · exact List.forall_mem_map.2 fun record hrecord => (h record hrecord).newline_not_mem
  · exact List.forall_mem_map.2 fun record hrecord => (h record hrecord).getLast?_ne

/-! ## The counters of a file -/

/-- The last field of a line is the code, and those before it are what the label falls apart into at its commas. -/
theorem WellFormed.splitOn_text (h : record.WellFormed) :
    splitOn ',' record.text.toList = splitOn ',' record.label.toList ++ [record.code.toList] := by
  have hcode : ',' ∉ record.code.toList := h.not_mem_code (by decide) (by decide) (by decide)
  have htext : record.text.toList = record.label.toList ++ ',' :: record.code.toList := by
    simp [text]
  rw [htext, splitOn_append_sep, splitOn_of_not_mem hcode]

/-- A record whose label has no comma in it is read as the counter that it defines, if its number fits into
sixty-four bits, and else as none. -/
theorem WellFormed.ofLine?_text (h : record.WellFormed) (hcomma : ',' ∉ record.label.toList) :
    Counter.ofLine? record.text = if record.value < 2 ^ 64 then some record.counter else none := by
  obtain ⟨digits, hdigits, hcode⟩ := h.code_hex
  have hfields : splitOn ',' record.text.toList = [record.label.toList, record.code.toList] := by
    rw [h.splitOn_text, splitOn_of_not_mem hcomma, List.singleton_append]
  have hvalue : record.value = Counter.Numeral.number 16 digits := by
    rw [value, hcode]
    rfl
  have hlabel : record.label.toList ≠ [] := fun hnil => h.label_ne (String.toList_eq_nil_iff.1 hnil)
  rw [Counter.ofLine?, hfields, Counter.ofFields?, hcode, Counter.Numeral.parse?_hex hdigits, hvalue]
  split_ifs
  · simp [counter, hvalue]
  · rfl

end Record

namespace Listing

variable {τ : Type} {records : List Record}

/-- The lines of well-formed records are their texts. -/
theorem lines_listBytes (h : ∀ record ∈ records, record.WellFormed) :
    lines (Record.listBytes records) = (records.map Record.text).map some := by
  rw [lines, Record.terminatedLines_listBytes h, List.map_map, List.map_map]
  exact List.map_congr_left fun record _ => Utf8.decode?_encode record.text

/-- The lines of a file are read one by one. -/
theorem counters?_listBytes_eq (h : ∀ record ∈ records, record.WellFormed) :
    counters? (Record.listBytes records) = some ((records.map Record.text).filterMap Counter.ofLine?) := by
  rw [counters?, lines_listBytes h, Utf8.mapM_id_map_some, Option.map_some]

/-- The counters of records without a comma in the label are those whose number fits into sixty-four bits. -/
theorem filterMap_ofLine?_text (h : ∀ record ∈ records, record.WellFormed)
    (hcomma : ∀ record ∈ records, ',' ∉ record.label.toList) :
    (records.map Record.text).filterMap Counter.ofLine? =
      (records.filter fun record => record.value < 2 ^ 64).map Record.counter := by
  induction records with
  | nil => rfl
  | cons record records ih =>
    rw [List.forall_mem_cons] at h hcomma
    have hone := h.1.ofLine?_text hcomma.1
    have hrest := ih h.2 hcomma.2
    by_cases hfits : record.value < 2 ^ 64
    · rw [if_pos hfits] at hone
      rw [List.map_cons, List.filterMap_cons_some hone, hrest, List.filter_cons_of_pos (by simpa using hfits),
        List.map_cons]
    · rw [if_neg hfits] at hone
      rw [List.map_cons, List.filterMap_cons_none hone, hrest, List.filter_cons_of_neg (by simpa using hfits)]

/-- **The counters of a file are those that its records define,** in order; only the records whose number does
not fit into sixty-four bits define none. -/
theorem counters?_listBytes (h : ∀ record ∈ records, record.WellFormed)
    (hcomma : ∀ record ∈ records, ',' ∉ record.label.toList) :
    counters? (Record.listBytes records) =
      some ((records.filter fun record => record.value < 2 ^ 64).map Record.counter) := by
  rw [counters?_listBytes_eq h, filterMap_ofLine?_text h hcomma]

/-- What loading the counter list at a path gives if it holds these bytes. -/
def loaded (path : String) (content : List UInt8) : Except Failure (List Counter) :=
  match counters? content with
  | some counters => .ok counters
  | none => .error (.within ("reading " ++ path) (.system .invalidUtf8))

/-- The bytes at a path are read without anything else being done, and a failure says that they cannot be. -/
theorem perform_readBytes (host : Host τ) (path : String) :
    match host.tree.read host.cwd (Utf8.encode path) with
    | .ok content => (readBytes path).perform host = (.ok content, host)
    | .error _ => ∃ failure, (readBytes path).perform host = (.error failure, host) := by
  unfold readBytes Tree.read
  simp only [Action.perform_bind, Action.perform_get]
  cases host.tree.locate host.cwd (Utf8.encode path) with
  | error fault => exact ⟨_, rfl⟩
  | ok found =>
    obtain ⟨handle, node⟩ := found
    dsimp only
    cases hcontent : Tree.contentOf node with
    | error fault =>
      dsimp only
      split
      · next heq => cases heq
      · exact ⟨_, rfl⟩
      · next heq =>
        cases heq
        rw [hcontent]
        exact ⟨_, rfl⟩
    | ok content =>
      dsimp only
      split
      · next heq => cases heq
      · next heq =>
        cases heq
        cases hcontent
      · next heq =>
        cases heq
        rw [hcontent]
        rfl

/-- What can be read is loaded, and nothing but standard error changes. -/
theorem perform_load_of_read {host : Host τ} {path : String} {content : List UInt8}
    (h : host.tree.read host.cwd (Utf8.encode path) = .ok content) :
    ∃ errors, (load path).perform host = (loaded path content, host.withErrors errors) := by
  obtain ⟨errors, hlogged⟩ := Action.perform_forIn_log .debug
    (fun line => path ++ ": skipping \"" ++ line ++ "\"") (skipped content) host
  have hread := perform_readBytes host path
  rw [h] at hread
  refine ⟨errors, ?_⟩
  unfold load loaded
  rw [Action.perform_bind_of_ok hread, Action.perform_bind_of_ok hlogged]
  cases counters? content <;> rfl

/-- A list that cannot be read fails to load, and the host stays as it was. -/
theorem perform_load_of_unread {host : Host τ} {path : String} {fault : Fault}
    (h : host.tree.read host.cwd (Utf8.encode path) = .error fault) :
    ∃ failure, (load path).perform host = (.error failure, host) := by
  have hread := perform_readBytes host path
  rw [h] at hread
  obtain ⟨failure, hread⟩ := hread
  exact ⟨failure, Action.perform_bind_of_error hread⟩

/-- A regular file is loaded, and nothing but standard error changes. -/
theorem perform_load_file {host : Host τ} {path : String} {handle : Handle} {content : List UInt8} {mode : Nat}
    (hfile : host.tree.locate host.cwd (Utf8.encode path) = .ok (handle, .file content mode)) :
    ∃ errors, (load path).perform host = (loaded path content, host.withErrors errors) := by
  apply perform_load_of_read
  unfold Tree.read
  rw [hfile]
  rfl

/-- A list that cannot be opened fails to load with the fault of opening it. -/
theorem perform_load_of_error {host : Host τ} {path : String} {fault : Fault}
    (h : host.tree.locate host.cwd (Utf8.encode path) = .error fault) :
    (load path).perform host = (.error (.within ("opening " ++ path) (.system fault)), host) := by
  have hread : (readBytes path).perform host = (.error (.within ("opening " ++ path) (.system fault)), host) := by
    unfold readBytes
    simp only [Action.perform_bind, Action.perform_get, h]
    rfl
  exact Action.perform_bind_of_error hread

/-- A file whose lines are all text is loaded as its counters. -/
theorem perform_load {host : Host τ} {path : String} {handle : Handle} {content : List UInt8} {mode : Nat}
    {counters : List Counter}
    (hfile : host.tree.locate host.cwd (Utf8.encode path) = .ok (handle, .file content mode))
    (hcounters : counters? content = some counters) :
    ∃ errors, (load path).perform host = (.ok counters, host.withErrors errors) := by
  obtain ⟨errors, hload⟩ := perform_load_file hfile
  unfold loaded at hload
  rw [hcounters] at hload
  exact ⟨errors, hload⟩

/-- A host with a file `f` that holds these bytes, and no other. -/
def fileHost (content : List UInt8) : Host Unit :=
  Host.fresh ⟨#[.directory Tree.root [([0x66], 1)] Node.openMode, .file content Node.fileMode]⟩ Tree.root .error ()

/-- The sample path leads to the sample content. -/
theorem locate_fileHost (content : List UInt8) :
    (fileHost content).tree.locate (fileHost content).cwd (Utf8.encode "f") = .ok (1, .file content Node.fileMode) :=
  rfl

/-- A name is looked up among records as it is among the counters that they define. -/
theorem pick_map_counter (records : List Record) (name path : String) :
    pick ((records.filter fun record => record.value < 2 ^ 64).map Record.counter) name path =
      match records.find? fun record => record.label = name ∧ record.value < 2 ^ 64 with
      | some record => .ok record.counter
      | none => .error (.unlistedCounter name path) := by
  have hfind : ((records.filter fun record => record.value < 2 ^ 64).map Record.counter).find?
      (fun counter => counter.name = name) =
      (records.find? fun record => record.label = name ∧ record.value < 2 ^ 64).map Record.counter := by
    rw [List.find?_map, List.find?_filter]
    congr 2
    funext record
    have hname : record.counter.name = record.label := rfl
    simp only [Function.comp_apply, hname, decide_eq_true_eq, and_comm]
  rw [pick, hfind]
  cases records.find? fun record => record.label = name ∧ record.value < 2 ^ 64 <;> rfl

end Listing

end CounterCatalog
