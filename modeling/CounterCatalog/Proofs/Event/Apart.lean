import CounterCatalog.Catalog.Records
import CounterCatalog.Checkout.Source
import CounterCatalog.Proofs.Process.Running
import CounterCatalog.Proofs.Event.Rendering
import CounterCatalog.Proofs.Text.Decoding

/-!
# Blocks that do not touch each other

A listing may be no UTF-8, its events may be malformed and its brackets unclosed. Whatever stands in one block, the
labels of the other blocks are the same (`labels_apart`): bytes are decoded afresh at the separator, since its first
character is ASCII; decoding never makes or hides a separator that stands between two pieces; and a name or a variant
is looked for in one block at a time, none of which has the separator in it.
-/

set_option autoImplicit false

namespace CounterCatalog.Event

open Text

/-! ## Cutting a listing -/

/-- A separator between two listings cuts them apart, whatever they hold, and cuts nothing else. -/
theorem blockChars_append_separator (before after : List Char) :
    blockChars (before ++ (separator ++ after)) = blockChars before ++ blockChars after :=
  splitOnWord_append_word_both separatorHead_not_mem before after

/-- The labels of two listings with a separator between them are those of the first, then those of the second. -/
theorem listingLabels_append_separator (before after : List Char) :
    listingLabels (before ++ (separator ++ after)) = listingLabels before ++ listingLabels after := by
  rw [listingLabels, blockChars_append_separator, List.flatMap_append, listingLabels, listingLabels]

/-- The labels of a listing are those of its blocks. -/
theorem labels_eq_flatMap (listing : String) : labels listing = (blocks listing).flatMap labelsOfBlock := by
  rw [labels, listingLabels, List.map_flatMap, blocks, List.flatMap_map]
  simp only [labelsOfBlock, String.toList_ofList]

/-- No separator is in a block. -/
theorem not_separator_of_mem_blocks {listing block : String} (h : block ∈ blocks listing) :
    ¬ separator <:+: block.toList := by
  obtain ⟨chars, hchars, rfl⟩ := List.mem_map.1 h
  rw [String.toList_ofList]
  exact not_infix_of_mem_splitOnWord hchars

/-- A listing without `#` is one block. -/
theorem labels_of_not_mem {listing : String} (h : '#' ∉ listing.toList) : labels listing = labelsOfBlock listing := by
  have hblock : blockChars listing.toList = [listing.toList] :=
    splitOnWord_eq_singleton (separator_not_infix_of_not_mem h)
  rw [labels, listingLabels, hblock, labelsOfBlock, List.flatMap_cons, List.flatMap_nil, List.append_nil]

/-- A listing of one block with a name and no variants has that name as its only label. -/
theorem labels_eq_singleton {listing name : String} (hblock : '#' ∉ listing.toList)
    (hname : name? listing.toList = some name.toList) (hvariants : firstSite umaskHere? listing.toList = none) :
    labels listing = [name] := by
  rw [labels_of_not_mem hblock, labelsOfBlock, blockLabels, hname, umasks_of_none hvariants, List.map_singleton,
    String.ofList_toList]

/-- A listing of one block without a name has no labels. -/
theorem labels_eq_nil {listing : String} (hblock : '#' ∉ listing.toList) (hname : name? listing.toList = none) :
    labels listing = [] := by
  rw [labels_of_not_mem hblock, labelsOfBlock, blockLabels, hname, List.map_nil]

/-! ## Cutting bytes -/

/-- The separator as it is written. -/
def separatorBytes : List UInt8 :=
  Utf8.encodeChars separator

/-- What stands on either side of a separator is decoded by itself. -/
theorem toList_decodeLossy_append (before after : List UInt8) :
    (Utf8.decodeLossy (before ++ separatorBytes ++ after)).toList =
      (Utf8.decodeLossy before).toList ++ (separator ++ (Utf8.decodeLossy after).toList) := by
  have hhead : separatorHead.toNat < 0x80 := by decide
  have hdecode := Utf8.decodeCharsLossy_append_encodeChars hhead separatorTail before after
  rw [Utf8.decodeLossy, List.append_assoc, separatorBytes, separator, hdecode]
  simp only [Utf8.decodeLossy, String.toList_ofList]

/-- Bytes on either side of a separator are decoded into blocks of their own. -/
theorem blocks_decodeLossy_append (before after : List UInt8) :
    blocks (Utf8.decodeLossy (before ++ separatorBytes ++ after)) =
      blocks (Utf8.decodeLossy before) ++ blocks (Utf8.decodeLossy after) := by
  rw [blocks, toList_decodeLossy_append, blockChars_append_separator, List.map_append, blocks, blocks]

/-- The labels on either side of a separator are found as if the other side were not there. -/
theorem labels_decodeLossy_append (before after : List UInt8) :
    labels (Utf8.decodeLossy (before ++ separatorBytes ++ after)) =
      labels (Utf8.decodeLossy before) ++ labels (Utf8.decodeLossy after) := by
  rw [labels, toList_decodeLossy_append, listingLabels_append_separator, List.map_append, labels, labels]

/-- Pieces that are joined with separators give the labels that each of them gives alone. -/
theorem labels_decodeLossy_joinWith (pieces : List (List UInt8)) :
    labels (Utf8.decodeLossy (joinWith separatorBytes pieces)) =
      pieces.flatMap fun piece => labels (Utf8.decodeLossy piece) := by
  induction pieces with
  | nil => exact labels_eq_nil (by decide) (by decide)
  | cons piece pieces ih =>
    cases pieces with
    | nil => simp only [joinWith, List.flatMap_cons, List.flatMap_nil, List.append_nil]
    | cons next pieces =>
      have hcons : (piece :: next :: pieces).flatMap (fun piece => labels (Utf8.decodeLossy piece)) =
          labels (Utf8.decodeLossy piece) ++
            (next :: pieces).flatMap fun piece => labels (Utf8.decodeLossy piece) :=
        List.flatMap_cons
      rw [joinWith, labels_decodeLossy_append, ih, hcons]

end CounterCatalog.Event

namespace CounterCatalog.Catalog

variable {τ : Type} {launcher : Launcher} {host : Host τ} {checkout : String} {outcome : Outcome}

/-! ## A listing that a program writes -/

/-- A program of the checkout that could be started gives what it wrote, however it ended. -/
theorem perform_query {program : String} {args : List String}
    (hchild : (Checkout.command checkout program args).child launcher host.tree host.cwd = .ok outcome) :
    ∃ after, (Checkout.query launcher checkout program args).perform host =
      (.ok (Text.Utf8.decodeLossy outcome.stdout), after) := by
  obtain ⟨errors, hrun⟩ := Command.perform_run launcher (Checkout.command checkout program args) host
  have hverdict : (Checkout.command checkout program args).verdict (.ok outcome) =
      .ok ⟨outcome.status, Text.Utf8.decodeLossy outcome.stdout⟩ := rfl
  rw [hchild, hverdict] at hrun
  exact ⟨_, Action.perform_bind_of_ok hrun⟩

/-- The labels of a checkout are those of what its listing program puts out, whatever it ends with. -/
theorem perform_findLabels_source
    (hchild : (Checkout.command checkout Checkout.listingProgram []).child launcher host.tree host.cwd =
      .ok outcome) :
    ∃ after, (findLabels (Checkout.source launcher checkout)).perform host =
      (.ok (Event.labels (Text.Utf8.decodeLossy outcome.stdout)), after) := by
  obtain ⟨between, hquery⟩ := perform_query hchild
  unfold findLabels Checkout.source
  exact ⟨_, Action.perform_bind_of_ok hquery⟩

/-- **Garbage stays in its block.** The bytes before a separator and those behind it, UTF-8 or not, have the labels
and the blocks that they have by themselves, one after the other; so do any number of pieces with separators between
them, and these labels are what is found when the listing's program writes those pieces. Labels are found in one
block at a time, and no block has the separator in it. -/
theorem labels_apart :
    (∀ before after : List UInt8,
      Event.labels (Text.Utf8.decodeLossy (before ++ Event.separatorBytes ++ after)) =
        Event.labels (Text.Utf8.decodeLossy before) ++ Event.labels (Text.Utf8.decodeLossy after) ∧
      Event.blocks (Text.Utf8.decodeLossy (before ++ Event.separatorBytes ++ after)) =
        Event.blocks (Text.Utf8.decodeLossy before) ++ Event.blocks (Text.Utf8.decodeLossy after)) ∧
    (∀ pieces : List (List UInt8),
      Event.labels (Text.Utf8.decodeLossy (Text.joinWith Event.separatorBytes pieces)) =
        pieces.flatMap fun piece => Event.labels (Text.Utf8.decodeLossy piece)) ∧
    (∀ listing : String, Event.labels listing = (Event.blocks listing).flatMap Event.labelsOfBlock ∧
      ∀ block ∈ Event.blocks listing, ¬ Event.separator <:+: block.toList) ∧
    ∀ (τ : Type) (launcher : Launcher) (checkout : String) (host : Host τ) (outcome : Outcome)
      (pieces : List (List UInt8)),
      (Checkout.command checkout Checkout.listingProgram []).child launcher host.tree host.cwd = .ok outcome →
      outcome.stdout = Text.joinWith Event.separatorBytes pieces →
      ∃ after, (findLabels (Checkout.source launcher checkout)).perform host =
        (.ok (pieces.flatMap fun piece => Event.labels (Text.Utf8.decodeLossy piece)), after) := by
  refine ⟨?_, Event.labels_decodeLossy_joinWith, ?_, ?_⟩
  · intro before after
    exact ⟨Event.labels_decodeLossy_append before after, Event.blocks_decodeLossy_append before after⟩
  · intro listing
    exact ⟨Event.labels_eq_flatMap listing, fun block hblock => Event.not_separator_of_mem_blocks hblock⟩
  · intro τ launcher checkout host outcome pieces hchild hstdout
    obtain ⟨after, hfound⟩ := perform_findLabels_source hchild
    rw [hstdout, Event.labels_decodeLossy_joinWith] at hfound
    exact ⟨after, hfound⟩

/-- Three pieces: an event whose variant's line is cut short inside a character, an event with a stray byte behind its
name, and a closing bracket. -/
def brokenPieces : List (List UInt8) :=
  [Text.Utf8.encode "Name : a\nUmask-0 : 0x1 : PMU : [x" ++ [0xE2, 0x82], Text.Utf8.encode "Name : b" ++ [0xFF],
    Text.Utf8.encode "]\n"]

/-- Children that all write those pieces, with separators between them, and end badly. -/
def brokenLauncher : Launcher := fun _ tree =>
  .ok ⟨.exited 1, Text.joinWith Event.separatorBytes brokenPieces, [], tree⟩

/-- The bracket that is left open in the first piece is not closed in the last. -/
theorem labels_apart_broken :
    ∃ after, (findLabels (Checkout.source brokenLauncher "/")).perform
      (Host.fresh Tree.empty Tree.root .info ()) = (.ok ["a", "b"], after) := by
  have hfirst : Event.labels (Text.Utf8.decodeLossy
      (Text.Utf8.encode "Name : a\nUmask-0 : 0x1 : PMU : [x" ++ [0xE2, 0x82])) = ["a"] :=
    Event.labels_eq_singleton (by decide) (show _ = some "a".toList by decide) (by decide)
  have hsecond : Event.labels (Text.Utf8.decodeLossy (Text.Utf8.encode "Name : b" ++ [0xFF])) = ["b"] :=
    Event.labels_eq_singleton (by decide) (show _ = some "b".toList by decide) (by decide)
  have hthird : Event.labels (Text.Utf8.decodeLossy (Text.Utf8.encode "]\n")) = [] :=
    Event.labels_eq_nil (by decide) (by decide)
  obtain ⟨after, hfound⟩ := labels_apart.2.2.2 Unit brokenLauncher "/" (Host.fresh Tree.empty Tree.root .info ())
    ⟨.exited 1, Text.joinWith Event.separatorBytes brokenPieces, [], Tree.empty⟩ brokenPieces rfl rfl
  refine ⟨after, ?_⟩
  rw [hfound, brokenPieces]
  simp only [List.flatMap_cons, List.flatMap_nil, hfirst, hsecond, hthird, List.append_nil, List.cons_append,
    List.nil_append]

end CounterCatalog.Catalog
