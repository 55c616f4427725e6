import CounterCatalog.Proofs.Event.Site
import CounterCatalog.Proofs.Text.Split

/-!
# Listings as they are written, and read back

A listing is written event by event: the separator's line, the name's line and one line for each variant,
with free lines in between. `labels_listing` says that reading it gives back the names and descriptions that
it was written from.

The scanners look for their words anywhere in the text, not line by line. The proof is therefore about
where the three words `Name`, `Umask-` and the separator can begin: in no free text, and across no border,
since a line feed, a space or a bracket stands at each of them. What stands before a word is then passed over
(`firstSite_append`), and what the word begins is read as it was written.
-/

set_option autoImplicit false

namespace CounterCatalog.Event

open Text

/-! ## Writing a listing -/

/-- The text has none of the three words that the format is made of. -/
def IsFree (text : List Char) : Prop :=
  ¬ "Name".toList <:+: text ∧ ¬ "Umask-".toList <:+: text ∧ ¬ separator <:+: text

instance (text : List Char) : Decidable (IsFree text) :=
  inferInstanceAs (Decidable (_ ∧ _ ∧ _))

/-- Text that says nothing about events. -/
def FreeText : Type := { text : List Char // IsFree text }

/-- A variant as a listing writes it. -/
structure VariantEntry where
  /-- The number of the variant. -/
  number : List Char
  /-- The mask of the variant, without `0x`. -/
  mask : List Char
  /-- The description of the variant. -/
  description : List Char
  /-- What the line says after the description. -/
  remark : FreeText
  number_digits : IsRun Char.isDigit number
  mask_digits : IsRun isHexDigit mask
  description_chars : ∀ c ∈ description, c ≠ ']' ∧ c ≠ '\n'
  description_whole : ¬ separator <:+: description

/-- An event as a listing writes it. -/
structure EventEntry where
  /-- The lines between the separator and the name. -/
  before : List FreeText
  /-- The name of the event. -/
  name : List Char
  /-- The lines between the name and the variants. -/
  after : List FreeText
  /-- The variants of the event. -/
  variants : List VariantEntry
  name_chars : IsRun isNameChar name
  name_plain : ¬ "Umask-".toList <:+: name

/-- Free lines, each with its line feed. -/
def freeLines (lines : List FreeText) : List Char :=
  lines.flatMap fun line => line.val ++ ['\n']

/-- The line of a variant. -/
def VariantEntry.line (variant : VariantEntry) : List Char :=
  "Umask-".toList ++ variant.number ++ " : 0x".toList ++ variant.mask ++ " : PMU : [".toList ++
    variant.description ++ "]".toList ++ variant.remark.val ++ "\n".toList

/-- What an event's part of a listing has in front of its variants, without the separator. -/
def EventEntry.head (event : EventEntry) : List Char :=
  "\n".toList ++ freeLines event.before ++ "Name     : ".toList ++ event.name ++ "\n".toList ++
    freeLines event.after

/-- An event's part of a listing, without the separator. -/
def EventEntry.body (event : EventEntry) : List Char :=
  event.head ++ event.variants.flatMap VariantEntry.line

/-- A listing of events after a preamble of free lines. -/
def listing (preamble : List FreeText) (events : List EventEntry) : List Char :=
  freeLines preamble ++ events.flatMap fun event => separator ++ event.body

/-- The labels that an event was written for. -/
def EventEntry.labels (event : EventEntry) : List (List Char) :=
  if event.variants = [] then [event.name]
  else event.variants.map fun variant =>
    event.name ++ '.' :: variant.description.map fun c => if c = ' ' then '_' else c

/-- The line of a variant as a site of the format, with the text that follows it. -/
theorem VariantEntry.line_append (variant : VariantEntry) (rest : List Char) :
    variant.line ++ rest =
      "Umask-".toList ++ variant.number ++ " : ".toList ++ "0x".toList ++ variant.mask ++ " : ".toList ++
        "PMU".toList ++ " : ".toList ++
        '[' :: (variant.description ++ ']' :: (variant.remark.val ++ '\n' :: rest)) := by
  unfold VariantEntry.line
  simp

/-- The head of an event as a site of the format between free lines, with the text that follows it. -/
theorem EventEntry.head_append (event : EventEntry) (rest : List Char) :
    event.head ++ rest =
      '\n' :: freeLines event.before ++
        ("Name".toList ++ "     : ".toList ++ event.name ++ '\n' :: (freeLines event.after ++ rest)) := by
  unfold EventEntry.head
  simp

/-! ## Where the words of the format can stand -/

/-- A word without a line feed is in free lines and what follows them only if it is in one of the lines or in
what follows. -/
theorem not_infix_freeLines_append {word rest : List Char} {lines : List FreeText} (hword : '\n' ∉ word)
    (hlines : ∀ line ∈ lines, ¬ word <:+: line.val) (hrest : ¬ word <:+: rest) :
    ¬ word <:+: freeLines lines ++ rest := by
  induction lines with
  | nil => exact hrest
  | cons line lines ih =>
    rw [freeLines, List.flatMap_cons, List.append_assoc, List.append_assoc, List.singleton_append]
    exact not_infix_append_cons hword (hlines line (by simp)) (ih fun l hl => hlines l (by simp [hl]))

/-- A word without a line feed that is in none of some free lines is not in all of them together. -/
theorem not_infix_freeLines {word : List Char} {lines : List FreeText} (hne : word ≠ []) (hword : '\n' ∉ word)
    (hlines : ∀ line ∈ lines, ¬ word <:+: line.val) : ¬ word <:+: freeLines lines := by
  have hnil : ¬ word <:+: [] := by simpa using hne
  have h := not_infix_freeLines_append hword hlines hnil
  rwa [List.append_nil] at h

/-- The word `Name` is not in free lines. -/
theorem not_name_freeLines (lines : List FreeText) : ¬ "Name".toList <:+: freeLines lines :=
  not_infix_freeLines (by simp) (by simp) fun line _ => line.property.1

/-- The word `Umask-` is not in free lines. -/
theorem not_umask_freeLines (lines : List FreeText) : ¬ "Umask-".toList <:+: freeLines lines :=
  not_infix_freeLines (by simp) (by simp) fun line _ => line.property.2.1

/-- The separator is made of a hash and dashes only. -/
theorem not_mem_separator {c : Char} (hhash : c ≠ '#') (hdash : c ≠ '-') : c ∉ separator := by
  simp [separator, separatorHead, separatorTail, hhash, hdash]

/-- The hash of the separator does not occur in it again. -/
theorem separatorHead_not_mem : separatorHead ∉ separatorTail := by
  simp [separatorHead, separatorTail]

/-- Where no hash is, no separator is. -/
theorem separator_not_infix_of_not_mem {text : List Char} (h : '#' ∉ text) : ¬ separator <:+: text :=
  not_infix_of_not_mem (by simp [separator, separatorHead]) h

/-- A run of characters of a class has no other characters in it. -/
theorem not_mem_of_isRun {p : Char → Bool} {run : List Char} {c : Char} (h : IsRun p run)
    (hc : p c = false) : c ∉ run := by
  intro hmem
  rw [h.2 c hmem] at hc
  cases hc

/-- Free lines make no separator with what follows them. -/
theorem not_separator_freeLines_append (lines : List FreeText) {rest : List Char}
    (hrest : ¬ separator <:+: rest) : ¬ separator <:+: freeLines lines ++ rest :=
  not_infix_freeLines_append (not_mem_separator (by decide) (by decide)) (fun line _ => line.property.2.2)
    hrest

/-- The line of a variant makes no separator with what follows it. -/
theorem not_separator_line_append (variant : VariantEntry) {rest : List Char}
    (hrest : ¬ separator <:+: rest) : ¬ separator <:+: variant.line ++ rest := by
  have hnumber : '#' ∉ variant.number := not_mem_of_isRun variant.number_digits (by decide)
  have hmask : '#' ∉ variant.mask := not_mem_of_isRun variant.mask_digits (by decide)
  have hhead : ¬ separator <:+: "Umask-".toList ++ variant.number ++ " : ".toList ++ "0x".toList ++
      variant.mask ++ " : ".toList ++ "PMU".toList ++ " : ".toList := by
    apply separator_not_infix_of_not_mem
    simp [hnumber, hmask]
  have htail : ¬ separator <:+: variant.remark.val ++ '\n' :: rest :=
    not_infix_append_cons (not_mem_separator (by decide) (by decide)) variant.remark.property.2.2 hrest
  have hdescription := not_infix_append_cons (d := ']') (not_mem_separator (by decide) (by decide))
    variant.description_whole htail
  rw [variant.line_append]
  exact not_infix_append_cons (not_mem_separator (by decide) (by decide)) hhead hdescription

/-- No separator is in what an event is written as. -/
theorem not_separator_body (event : EventEntry) : ¬ separator <:+: event.body := by
  have hvariants : ¬ separator <:+: event.variants.flatMap VariantEntry.line := by
    induction event.variants with
    | nil => exact separator_not_infix_of_not_mem (by simp)
    | cons variant variants ih =>
      rw [List.flatMap_cons]
      exact not_separator_line_append variant ih
  have hname : ¬ separator <:+: "Name".toList ++ "     : ".toList ++ event.name := by
    apply separator_not_infix_of_not_mem
    simpa using not_mem_of_isRun event.name_chars (by decide)
  have hrest := not_infix_append_cons (d := '\n') (not_mem_separator (by decide) (by decide)) hname
    (not_separator_freeLines_append event.after hvariants)
  rw [EventEntry.body, event.head_append, List.cons_append]
  exact not_infix_cons (not_mem_separator (by decide) (by decide)) (by simp [separator])
    (not_separator_freeLines_append event.before hrest)

/-! ## Reading what was written -/

/-- One or more spaces are a run of blanks. -/
theorem isRun_spaces (n : Nat) : IsRun isBlank (List.replicate (n + 1) ' ') := by
  refine ⟨by simp, fun c hc => ?_⟩
  rw [List.eq_of_mem_replicate hc]
  decide

/-- The gaps of a listing are written with some spaces before the colon and one behind it. -/
theorem isColon_spaces (n : Nat) : IsColon (List.replicate (n + 1) ' ' ++ ':' :: List.replicate 1 ' ') :=
  ⟨_, _, rfl, isRun_spaces n, isRun_spaces 0⟩

/-- The ten digits of a listing are among the digits of all scripts. -/
theorem isDecimalDigit_of_isDigit {c : Char} (h : c.isDigit = true) : isDecimalDigit c = true := by
  simp only [Char.isDigit, Bool.and_eq_true, decide_eq_true_eq, ge_iff_le, UInt32.le_iff_toNat_le] at h
  simp only [isDecimalDigit, List.any_eq_true, Bool.and_eq_true, decide_eq_true_eq]
  exact ⟨0x30, by simp [digitZeros], h⟩

/-- No name is read where the word `Name` does not begin. -/
theorem nameHere?_eq_none {text : List Char} (h : ¬ "Name".toList <+: text) : nameHere? text = none := by
  rw [nameHere?_eq_none_iff]
  rintro ⟨gap, c, rest, rfl, -⟩
  exact h ⟨gap ++ c :: rest, by simp⟩

/-- No variant is read where the word `Umask-` does not begin. -/
theorem umaskHere?_eq_none {text : List Char} (h : ¬ "Umask-".toList <+: text) : umaskHere? text = none := by
  rw [umaskHere?_eq_none_iff]
  rintro description rest ⟨⟨number, gap₁, mask, gap₂, gap₃, rfl, -⟩, -⟩
  exact h ⟨_, by simp only [List.append_assoc]; rfl⟩

/-- Text without the word `Umask-` adds no variants to those that follow it. -/
theorem umasks_append {piece next : List Char} (hpiece : ¬ "Umask-".toList <:+: piece)
    (hnext : ∀ d ∈ next.head?, d ∉ "mask-".toList) : umasks (piece ++ next) = umasks next := by
  rw [umasks_eq_firstSite, umasks_eq_firstSite next,
    firstSite_append 'U' "mask-".toList (fun _ => umaskHere?_eq_none) hpiece hnext]

/-- The name of an event is read as it was written, whatever variants follow. -/
theorem name?_head_append (event : EventEntry) (variants : List Char) :
    name? (event.head ++ variants) = some event.name := by
  have hbefore : ¬ "Name".toList <:+: '\n' :: freeLines event.before :=
    not_infix_cons (by simp) (by simp) (not_name_freeLines event.before)
  have hsite : NameSpelled ("Name".toList ++ "     : ".toList ++ event.name ++
      '\n' :: (freeLines event.after ++ variants)) event.name :=
    ⟨"     : ".toList, '\n' :: (freeLines event.after ++ variants), rfl, isColon_spaces 4, event.name_chars,
      stops_cons.2 (by decide)⟩
  rw [event.head_append, name?, firstSite_append 'N' "ame".toList (fun _ => nameHere?_eq_none) hbefore
    (by simp)]
  exact firstSite_eq_some_iff.2
    ⟨0, nameHere?_eq_some_iff.2 hsite, fun j hj => absurd hj (Nat.not_lt_zero j)⟩

/-- The lines of variants do not begin inside the word `Umask-`. -/
theorem head?_lines (variants : List VariantEntry) :
    ∀ d ∈ (variants.flatMap VariantEntry.line).head?, d ∉ "mask-".toList := by
  cases variants with
  | nil => simp
  | cons variant variants =>
    rw [List.flatMap_cons, variant.line_append]
    simp

/-- The variant of a line is read as it was written, and then those of the lines after it. -/
theorem umasks_line_append (variant : VariantEntry) {rest : List Char}
    (hrest : ∀ d ∈ rest.head?, d ∉ "mask-".toList) :
    umasks (variant.line ++ rest) = variant.description :: umasks rest := by
  have hgap : IsColon " : ".toList := isColon_spaces 0
  have hnumber : IsRun isDecimalDigit variant.number :=
    ⟨variant.number_digits.1, fun c hc => isDecimalDigit_of_isDigit (variant.number_digits.2 c hc)⟩
  have hsite : UmaskSite (variant.line ++ rest) variant.description
      (variant.remark.val ++ '\n' :: rest) :=
    ⟨⟨variant.number, " : ".toList, variant.mask, " : ".toList, " : ".toList, variant.line_append rest,
      hnumber, hgap, variant.mask_digits, hgap, hgap⟩, variant.description_chars⟩
  have hremark : ¬ "Umask-".toList <:+: variant.remark.val ++ '\n' :: [] :=
    not_infix_append_cons (by simp) variant.remark.property.2.1 (by simp)
  have hfound := firstSite_eq_some_iff.2
    ⟨0, umaskHere?_eq_some_iff.2 hsite, fun j hj => absurd hj (Nat.not_lt_zero j)⟩
  rw [umasks_of_some hfound]
  have hskip := umasks_append hremark hrest
  rw [List.append_assoc, List.singleton_append] at hskip
  rw [hskip]

/-- The descriptions in the lines of variants are read in the order of the lines. -/
theorem umasks_lines (variants : List VariantEntry) :
    umasks (variants.flatMap VariantEntry.line) = variants.map VariantEntry.description := by
  induction variants with
  | nil => rw [List.flatMap_nil, umasks]; rfl
  | cons variant variants ih =>
    rw [List.flatMap_cons, umasks_line_append variant (head?_lines variants), ih, List.map_cons]

/-- The word `Umask-` is not in what an event has in front of its variants. -/
theorem not_umask_head (event : EventEntry) : ¬ "Umask-".toList <:+: event.head := by
  have hname := not_infix_append_cons (d := '\n') (by simp) event.name_plain
    (not_umask_freeLines event.after)
  have hplain : ¬ "Umask-".toList <:+: "Name     :".toList := not_infix_of_not_mem (d := 'U') (by simp) (by simp)
  have hword := not_infix_append_cons (d := ' ') (by simp) hplain hname
  have hbefore := not_infix_freeLines_append (by simp) (fun line (_ : line ∈ event.before) =>
    line.property.2.1) hword
  have hhead := not_infix_cons (d := '\n') (by simp) (by simp) hbefore
  rw [← List.append_nil event.head, event.head_append]
  simpa using hhead

/-- The labels of an event are read as it was written for them. -/
theorem blockLabels_body (event : EventEntry) : blockLabels event.body = event.labels := by
  have humasks : umasks event.body = event.variants.map VariantEntry.description := by
    rw [EventEntry.body, umasks_append (not_umask_head event) (head?_lines event.variants),
      umasks_lines event.variants]
  rw [blockLabels, EventEntry.body, name?_head_append, ← EventEntry.body, humasks, EventEntry.labels]
  cases event.variants with
  | nil => rfl
  | cons variant variants =>
    simp only [List.map_cons, reduceCtorEq, if_false, List.map_map]
    rfl

/-- Free lines give no labels. -/
theorem blockLabels_freeLines (lines : List FreeText) : blockLabels (freeLines lines) = [] := by
  have hname : name? (freeLines lines) = none :=
    firstSite_eq_none (fun _ => nameHere?_eq_none) (not_name_freeLines lines)
  rw [blockLabels, hname]

/-- **Reading undoes writing.** The labels of a listing are those that its events were written for, in
order. -/
theorem labels_listing (preamble : List FreeText) (events : List EventEntry) :
    labels (String.ofList (listing preamble events)) =
      (events.flatMap EventEntry.labels).map String.ofList := by
  have hpreamble : ¬ separator <:+: freeLines preamble :=
    not_infix_freeLines (by simp [separator]) (not_mem_separator (by decide) (by decide))
      fun line _ => line.property.2.2
  have hblocks : blockChars (listing preamble events) =
      freeLines preamble :: events.map EventEntry.body := by
    have hbodies : ∀ body ∈ events.map EventEntry.body, ¬ separator <:+: body :=
      List.forall_mem_map.2 fun event _ => not_separator_body event
    have hsplit := splitOnWord_flatMap separatorHead_not_mem hpreamble hbodies
    rwa [List.flatMap_map] at hsplit
  rw [labels, String.toList_ofList, listingLabels, hblocks, List.flatMap_cons, blockLabels_freeLines,
    List.nil_append, List.flatMap_map]
  simp only [blockLabels_body]

/-! ## A listing that is awkward to read -/

/-- Free lines over which a word of the format is spread, and one that is a dash short of the separator. -/
def awkwardPreamble : List FreeText :=
  [⟨"Na".toList, by decide +kernel⟩, ⟨"me : X".toList, by decide +kernel⟩, ⟨[], by decide +kernel⟩,
    ⟨'#' :: List.replicate 28 '-', by decide +kernel⟩]

/-- Descriptions that read like a name, like the beginning of another variant, and that are empty. -/
def awkwardVariants : List VariantEntry :=
  [⟨"00".toList, "0f".toList, "Name : X".toList, ⟨" : None".toList, by decide +kernel⟩,
      by decide, by decide, by simp, by decide +kernel⟩,
    ⟨"1".toList, "AB".toList, "Umask-1 : 0x1 : PMU : [a, b".toList, ⟨"]".toList, by decide +kernel⟩,
      by decide, by decide, by simp, by decide +kernel⟩,
    ⟨"2".toList, "0".toList, [], ⟨[], by decide +kernel⟩, by decide, by decide, by simp, by decide +kernel⟩]

/-- An event with those variants, and one without variants whose name begins like the line that it stands in. -/
def awkwardEvents : List EventEntry :=
  [⟨[⟨"IDX : 1".toList, by decide +kernel⟩], "A-B_2".toList, [⟨"Umask".toList, by decide +kernel⟩],
      awkwardVariants, by decide, by decide +kernel⟩,
    ⟨[], "Name-Name".toList, [], [], by decide, by decide +kernel⟩]

/-- What those events are written as, and what is read from it. -/
theorem labels_listing_awkward :
    String.ofList (listing awkwardPreamble awkwardEvents) =
        "Na\nme : X\n\n#----------------------------\n#-----------------------------\nIDX : 1\n" ++
          "Name     : A-B_2\nUmask\nUmask-00 : 0x0f : PMU : [Name : X] : None\n" ++
          "Umask-1 : 0xAB : PMU : [Umask-1 : 0x1 : PMU : [a, b]]\nUmask-2 : 0x0 : PMU : []\n" ++
          "#-----------------------------\nName     : Name-Name\n" ∧
      labels (String.ofList (listing awkwardPreamble awkwardEvents)) =
        ["A-B_2.Name_:_X", "A-B_2.Umask-1_:_0x1_:_PMU_:_[a,_b", "A-B_2.", "Name-Name"] := by
  refine ⟨?text, ?labels⟩
  case text => decide +kernel
  case labels =>
    rw [labels_listing]
    decide +kernel

end CounterCatalog.Event
