import CounterCatalog.Proofs.Catalog.Recovery

/-!
# Whose number a lookup gives

A counter list has no escapes, so whoever reads a line takes the label to end at the first comma in it. A label without
a comma is looked up with its own number. One with commas is cut: a reader finds the name that stands in front of its
first comma, and takes what follows that comma in the label for the number (`Record.CutTo`). That is the one way in which
a lookup gives a number that is not the code of the name that was asked for (`pick_own_or_cut`), and it happens
(`pick_cut`): the program quotes nothing, neither when it writes nor when it reads.
-/

set_option autoImplicit false

namespace CounterCatalog

open Text

/-! ## Lines of labels with commas -/

namespace Record

/-- A reader who ends the label at its first comma finds the counter in the record's line. The configuration is read
from the label, between its first comma and the next one; the fields for the extended configuration and the kind come
from what is left of the label, and the code is the last field. -/
def CutTo (record : Record) (counter : Counter) : Prop :=
  ∃ number more, splitOn ',' record.label.toList = counter.name.toList :: number :: more ∧
    Counter.Numeral.parse? number = some counter.config ∧
    counter.extended = ((more ++ [record.code.toList]).head?.bind Counter.Numeral.parse?).getD 0 ∧
    counter.kind = (more ++ [record.code.toList]).tail.head?.bind Counter.kind?

variable {record : Record} {counter : Counter}

/-- A label that is cut goes on with a comma behind the name that it is cut to. -/
theorem CutTo.label_eq (h : record.CutTo counter) : counter.name.toList ++ [','] <+: record.label.toList := by
  obtain ⟨number, more, hsplit, -⟩ := h
  by_cases hcomma : ',' ∈ record.label.toList
  · obtain ⟨name, rest, hlabel, hname⟩ := List.eq_append_cons_of_mem hcomma
    rw [hlabel, splitOn_append_cons hname] at hsplit
    have heq : name = counter.name.toList := (List.cons.inj hsplit).1
    rw [hlabel, heq]
    exact ⟨rest, by simp⟩
  · rw [splitOn_of_not_mem hcomma] at hsplit
    exact absurd (List.cons.inj hsplit).2.symm (List.cons_ne_nil number more)

/-- What is read from the line of a record is the counter that it defines, or one that its label is cut to. -/
theorem WellFormed.own_or_cut (h : record.WellFormed) (hread : Counter.ofLine? record.text = some counter) :
    record.value < 2 ^ 64 ∧ counter = record.counter ∨ record.CutTo counter := by
  by_cases hcomma : ',' ∈ record.label.toList
  · right
    obtain ⟨name, rest, hlabel, hname⟩ := List.eq_append_cons_of_mem hcomma
    have hne : splitOn ',' rest ≠ [] := splitOn_ne_nil rest
    obtain ⟨number, more, hrest⟩ := List.exists_cons_of_ne_nil hne
    have hfields : splitOn ',' record.label.toList = name :: number :: more := by
      rw [hlabel, splitOn_append_cons hname, hrest]
    rw [Counter.ofLine?, h.splitOn_text, hfields, List.cons_append, List.cons_append, Counter.ofFields?] at hread
    cases hnumber : Counter.Numeral.parse? number with
    | none =>
      rw [hnumber] at hread
      cases hread
    | some config =>
      rw [hnumber] at hread
      dsimp only at hread
      split at hread
      · cases hread
      · cases hread
        refine ⟨number, more, ?_, hnumber, rfl, rfl⟩
        rw [hfields, String.toList_ofList]
  · left
    rw [h.ofLine?_text hcomma] at hread
    split at hread
    · next hfits => exact ⟨hfits, (Option.some.inj hread).symm⟩
    · cases hread

end Record

namespace Listing

variable {records : List Record} {counters : List Counter} {name path : String} {counter : Counter}

/-- A counter that is looked up in the lines of records was read from one of them, and has the name asked for. -/
theorem exists_record_of_pick (h : ∀ record ∈ records, record.WellFormed)
    (hcounters : counters? (Record.listBytes records) = some counters)
    (hpick : pick counters name path = .ok counter) :
    counter.name = name ∧ ∃ record ∈ records, Counter.ofLine? record.text = some counter := by
  rw [counters?_listBytes_eq h, Option.some.injEq] at hcounters
  unfold pick at hpick
  cases hfind : counters.find? fun other => other.name = name with
  | none =>
    rw [hfind] at hpick
    cases hpick
  | some found =>
    rw [hfind] at hpick
    cases hpick
    have hmem := List.mem_of_find?_eq_some hfind
    rw [← hcounters, List.mem_filterMap] at hmem
    obtain ⟨text, htext, hread⟩ := hmem
    obtain ⟨record, hrecord, rfl⟩ := List.mem_map.1 htext
    exact ⟨by simpa using List.find?_some hfind, record, hrecord, hread⟩

end Listing

namespace Catalog

/-! ## Looking up in a file that was written -/

/-- **A lookup gives the number of the name, or one that a label is cut to.** Whatever the source, and whatever its labels
have in them: a counter that is found in the file that was written is told by one of the records that were made. Either
that record's label is exactly the name, its code has the number that the counter has, and the counter has no extended
configuration and no kind; or the record's label goes on behind the name with a comma, and the counter is what the
label is cut to. So for a name that no label goes on behind with a comma, only the first can be. -/
theorem pick_own_or_cut {τ : Type} {source : EventSource τ} {host found resolved : Host τ} {labels : List String}
    {records : List Record} {output : String} {handle : Handle} {made : Tree}
    (hlabels : (findLabels source).perform host = (.ok labels, found))
    (hrecords : (resolveLabels source labels).perform found = (.ok records, resolved))
    (anchored : Tree.Anchored resolved.tree resolved.cwd)
    (hopen : resolved.tree.create resolved.cwd (Utf8.encode output) = .ok (.file handle, made)) :
    ∃ after loaded counters,
      (writeList source output).perform host = (.ok records.length, after) ∧
      (Listing.load output).perform after = (.ok counters, loaded) ∧
      ∀ name counter, Listing.pick counters name output = .ok counter →
        (∃ record ∈ records, record.label = name ∧ record.value = counter.config.toNat ∧
          counter.extended = 0 ∧ counter.kind = none) ∨
        ∃ record ∈ records, name.toList ++ [','] <+: record.label.toList ∧ counter.name = name ∧
          record.CutTo counter := by
  have hwell := wellFormed_of_resolveLabels hlabels hrecords
  have hcounters := Listing.counters?_listBytes_eq hwell
  obtain ⟨after, loaded, hrun, hload⟩ := exists_loaded hlabels hrecords anchored hopen hcounters
  refine ⟨after, loaded, _, hrun, hload, ?_⟩
  intro name counter hpick
  obtain ⟨hname, record, hrecord, hread⟩ := Listing.exists_record_of_pick hwell hcounters hpick
  rcases (hwell record hrecord).own_or_cut hread with ⟨hfits, rfl⟩ | hcut
  · left
    have hvalue : record.value = record.counter.config.toNat := (UInt64.toNat_ofNat_of_lt hfits).symm
    exact ⟨record, hrecord, hname, hvalue, rfl, rfl⟩
  · right
    refine ⟨record, hrecord, ?_, hname, hcut⟩
    rw [← hname]
    exact hcut.label_eq

/-- A source that lists one event with one variant, whose description has a comma in it, and has a code for it. -/
def commaTranscript : Transcript where
  listing := .ok commaListing
  answer _ _ := .ok "Codes : 0x3c\n"

/-- That source makes one record, and the file is open for writing then. -/
theorem perform_commaTranscript :
    ∃ found resolved, (findLabels commaTranscript.source).perform sampleHost = (.ok [commaRecord.label], found) ∧
      (resolveLabels commaTranscript.source [commaRecord.label]).perform found = (.ok [commaRecord], resolved) ∧
      Tree.Anchored resolved.tree resolved.cwd ∧
      ∃ made, resolved.tree.create resolved.cwd (Utf8.encode "o") = .ok (.file 1, made) := by
  have hanswers : commaTranscript.answers sampleHost.memory.length (Event.labels commaListing) =
      ["Codes : 0x3c\n"].map .ok := by
    rw [labels_commaListing]
    rfl
  have hmade : recordsOf [commaRecord.label] ["Codes : 0x3c\n"] = [commaRecord] := by decide
  obtain ⟨found, resolved, hlabels, hrecords, -, htree, hcwd⟩ := perform_transcript rfl hanswers
  rw [labels_commaListing] at hlabels hrecords
  rw [hmade] at hrecords
  refine ⟨found, resolved, hlabels, hrecords, ?_, ?_⟩
  · rw [htree, hcwd]
    exact anchored_sampleHost
  · rw [htree, hcwd]
    exact ⟨_, create_sampleHost⟩

/-- The only record that was made has another label, and what is found under the name that this label is cut to is a
number in the label. -/
theorem pick_cut :
    ∃ found resolved after loaded counters,
      (findLabels commaTranscript.source).perform sampleHost = (.ok [commaRecord.label], found) ∧
      (resolveLabels commaTranscript.source [commaRecord.label]).perform found = (.ok [commaRecord], resolved) ∧
      (writeList commaTranscript.source "o").perform sampleHost = (.ok 1, after) ∧
      (Listing.load "o").perform after = (.ok counters, loaded) ∧
      Listing.pick counters "b.x" "o" = .ok ⟨"b.x", 1, 0x3c, none⟩ ∧
      ¬ ∃ record ∈ [commaRecord], record.label = "b.x" := by
  have hcounters : Listing.counters? (Record.listBytes [commaRecord]) = some [⟨"b.x", 1, 0x3c, none⟩] := by
    decide +kernel
  obtain ⟨found, resolved, hlabels, hrecords, anchored, made, hopen⟩ := perform_commaTranscript
  obtain ⟨after, loaded, hrun, hload⟩ := exists_loaded hlabels hrecords anchored hopen hcounters
  exact ⟨found, resolved, after, loaded, _, hlabels, hrecords, hrun, hload, rfl, by decide⟩

/-- Nothing else can be found there. -/
theorem pick_own_or_cut_comma :
    ∃ after loaded counters,
      (writeList commaTranscript.source "o").perform sampleHost = (.ok 1, after) ∧
      (Listing.load "o").perform after = (.ok counters, loaded) ∧
      ∀ counter, Listing.pick counters "b.x" "o" = .ok counter → counter = ⟨"b.x", 1, 0x3c, none⟩ := by
  obtain ⟨found, resolved, hlabels, hrecords, anchored, made, hopen⟩ := perform_commaTranscript
  obtain ⟨after, loaded, counters, hrun, hload, hpick⟩ := pick_own_or_cut hlabels hrecords anchored hopen
  refine ⟨after, loaded, counters, hrun, hload, ?_⟩
  intro counter hfound
  rcases hpick "b.x" counter hfound with ⟨record, hrecord, hlabel, -⟩ | ⟨record, hrecord, -, hname, hcut⟩
  · rw [List.mem_singleton.1 hrecord] at hlabel
    exact absurd hlabel (by decide)
  · obtain ⟨number, more, hsplit, hnumber, hextended, hkind⟩ := List.mem_singleton.1 hrecord ▸ hcut
    have hfields : splitOn ',' commaRecord.label.toList = ["b.x".toList, "0x1".toList] := by decide
    rw [hfields, List.cons.injEq, List.cons.injEq] at hsplit
    obtain ⟨-, rfl, rfl⟩ := hsplit
    have hconfig : Counter.Numeral.parse? "0x1".toList = some 1 := by decide
    obtain ⟨name, config, extended, kind⟩ := counter
    obtain rfl := Option.some.inj (hconfig.symm.trans hnumber)
    have hzero : extended = 0x3c := hextended.trans (by decide)
    have hnone : kind = none := hkind.trans (by decide)
    rw [show name = "b.x" from hname, hzero, hnone]

end Catalog

end CounterCatalog
