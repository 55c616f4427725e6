import CounterCatalog.Event.Label
import CounterCatalog.Proofs.Text.Scan

/-!
# The format of an event block

A block is read at sites, the positions at which a name line or a variant's line is spelled out. This file
says what a site is without a scanner, as a text put together from words and runs, and that the scanners
find exactly the sites. No run of a pattern is followed by a character of its own class, so reading the
longest run never passes a site by.

`BlockLabels` is the format as a relation between a block and its labels: the name at the leftmost name
site, and the descriptions of the variants, each at the leftmost site that begins no earlier than the
variant before it ends. `labelsOfBlock_eq_iff` says that the program's labels are the ones so related.
-/

set_option autoImplicit false

namespace CounterCatalog.Event

open Text

/-! ## Sites -/

/-- A colon with one or more blanks on both sides. -/
def IsColon (gap : List Char) : Prop :=
  ∃ before after, gap = before ++ ':' :: after ∧ IsRun isBlank before ∧ IsRun isBlank after

/-- The text goes on with `Name`, a colon between blanks, and a character of an event name. -/
def NameSite (text : List Char) : Prop :=
  ∃ gap c rest, text = "Name".toList ++ gap ++ c :: rest ∧ IsColon gap ∧ isNameChar c = true

/-- The text goes on with `Name`, a colon between blanks, and a run of characters of an event name that is
followed by no other such character. -/
def NameSpelled (text name : List Char) : Prop :=
  ∃ gap rest, text = "Name".toList ++ gap ++ name ++ rest ∧ IsColon gap ∧ IsRun isNameChar name ∧
    Stops isNameChar rest

/-- The text goes on with the head of a variant, up to and with its opening bracket: `Umask-` and its
number, its mask and its unit, with a colon between blanks after each of them. -/
def HeadSite (text rest : List Char) : Prop :=
  ∃ number gap₁ mask gap₂ gap₃,
    text = "Umask-".toList ++ number ++ gap₁ ++ "0x".toList ++ mask ++ gap₂ ++ "PMU".toList ++ gap₃ ++
      '[' :: rest ∧
    IsRun isDecimalDigit number ∧ IsColon gap₁ ∧ IsRun isHexDigit mask ∧ IsColon gap₂ ∧ IsColon gap₃

/-- The text goes on with a variant: its head, its description, which holds neither a closing bracket nor a
line feed, and the closing bracket; `rest` is what follows that. -/
def UmaskSite (text description rest : List Char) : Prop :=
  HeadSite text (description ++ ']' :: rest) ∧ ∀ c ∈ description, c ≠ ']' ∧ c ≠ '\n'

/-- A run of characters none of which is blank ends before a colon between blanks. -/
theorem IsColon.stops {p : Char → Bool} {gap rest : List Char} (h : IsColon gap)
    (hp : ∀ c, isBlank c = true → p c = false) : Stops p (gap ++ rest) := by
  obtain ⟨before, after, rfl, ⟨hne, hbefore⟩, -⟩ := h
  obtain ⟨c, before, rfl⟩ := List.exists_cons_of_ne_nil hne
  simpa using hp c (hbefore c (by simp))

/-- A run of one class ends before a run of a class that has no character in common with it. -/
theorem stops_run_append {p q : Char → Bool} {run rest : List Char} (h : IsRun p run)
    (hq : ∀ c, p c = true → q c = false) : Stops q (run ++ rest) := by
  obtain ⟨c, run, rfl⟩ := List.exists_cons_of_ne_nil h.1
  simpa using hq c (h.2 c (by simp))

/-! ## The scanners find exactly the sites -/

/-- A gap is dropped exactly where one stands that is followed by no further blank. -/
theorem dropColon?_eq_some_iff {text rest : List Char} :
    dropColon? text = some rest ↔ ∃ gap, text = gap ++ rest ∧ IsColon gap ∧ Stops isBlank rest := by
  simp only [dropColon?, Option.bind_eq_bind, Option.bind_eq_some_iff, dropRun?_eq_some_iff,
    dropWord?_eq_some_iff]
  constructor
  · rintro ⟨_, ⟨before, rfl, hbefore, -⟩, _, rfl, after, rfl, hafter, hrest⟩
    exact ⟨before ++ ':' :: after, by simp, ⟨before, after, rfl, hbefore, hafter⟩, hrest⟩
  · rintro ⟨_, rfl, ⟨before, after, rfl, hbefore, hafter⟩, hrest⟩
    refine ⟨':' :: (after ++ rest), ⟨before, by simp, hbefore, ?_⟩, after ++ rest, by simp, after, rfl,
      hafter, hrest⟩
    rw [stops_cons]
    decide

/-- A name is read at the front of a text exactly if it is spelled out there. -/
theorem nameHere?_eq_some_iff {text name : List Char} :
    nameHere? text = some name ↔ NameSpelled text name := by
  simp only [nameHere?, Option.bind_eq_bind, Option.bind_eq_some_iff, dropWord?_eq_some_iff,
    dropColon?_eq_some_iff, Prod.exists, takeRun?_eq_some_iff, Option.pure_def, Option.some.injEq]
  constructor
  · rintro ⟨_, rfl, _, ⟨gap, rfl, hgap, -⟩, _, rest, ⟨rfl, hname, hrest⟩, rfl⟩
    exact ⟨gap, rest, by simp, hgap, hname, hrest⟩
  · rintro ⟨gap, rest, rfl, hgap, hname, hrest⟩
    refine ⟨gap ++ (name ++ rest), by simp, name ++ rest, ⟨gap, rfl, hgap, ?_⟩, name, rest,
      ⟨rfl, hname, hrest⟩, rfl⟩
    exact stops_run_append hname fun c hc => isBlank_of_isNameChar hc

/-- Every name site spells a name, as far as it goes. -/
theorem nameSite_iff {text : List Char} : NameSite text ↔ ∃ name, NameSpelled text name := by
  constructor
  · rintro ⟨gap, c, rest, rfl, hgap, hc⟩
    refine ⟨(c :: rest).takeWhile isNameChar, gap, (c :: rest).dropWhile isNameChar, ?_, hgap, ⟨?_, ?_⟩,
      stops_dropWhile _ _⟩
    · rw [List.append_assoc _ _ ((c :: rest).dropWhile isNameChar), List.takeWhile_append_dropWhile]
    · simp [hc]
    · exact List.all_eq_true.1 List.all_takeWhile
  · rintro ⟨_, gap, rest, rfl, hgap, ⟨hne, hname⟩, -⟩
    obtain ⟨c, name, rfl⟩ := List.exists_cons_of_ne_nil hne
    exact ⟨gap, c, name ++ rest, by simp, hgap, hname c (by simp)⟩

/-- No name is read at the front of a text exactly if that is no name site. -/
theorem nameHere?_eq_none_iff {text : List Char} : nameHere? text = none ↔ ¬ NameSite text := by
  simp only [nameSite_iff, ← nameHere?_eq_some_iff, Option.eq_none_iff_forall_ne_some, not_exists, ne_eq]

/-- The head of a variant is read exactly if it is there. -/
theorem dropUmaskHead?_eq_some_iff {text rest : List Char} :
    dropUmaskHead? text = some rest ↔ HeadSite text rest := by
  simp only [dropUmaskHead?, Option.bind_eq_bind, Option.bind_eq_some_iff, dropWord?_eq_some_iff,
    dropRun?_eq_some_iff, dropColon?_eq_some_iff]
  constructor
  · rintro ⟨_, rfl, _, ⟨number, rfl, hnumber, -⟩, _, ⟨gap₁, rfl, hgap₁, -⟩, _, rfl, _,
      ⟨mask, rfl, hmask, -⟩, _, ⟨gap₂, rfl, hgap₂, -⟩, _, rfl, _, ⟨gap₃, rfl, hgap₃, -⟩, rfl⟩
    exact ⟨number, gap₁, mask, gap₂, gap₃, by simp, hnumber, hgap₁, hmask, hgap₂, hgap₃⟩
  · rintro ⟨number, gap₁, mask, gap₂, gap₃, rfl, hnumber, hgap₁, hmask, hgap₂, hgap₃⟩
    -- each run is followed by a gap, and each gap by the first letter of a word
    refine ⟨_, by simp only [List.append_assoc]; rfl, _,
      ⟨number, rfl, hnumber, hgap₁.stops fun c => isDecimalDigit_of_isBlank⟩, _,
      ⟨gap₁, rfl, hgap₁, ?_⟩, _, rfl, _, ⟨mask, rfl, hmask, hgap₂.stops fun c => isHexDigit_of_isBlank⟩, _,
      ⟨gap₂, rfl, hgap₂, ?_⟩, _, rfl, _, ⟨gap₃, rfl, hgap₃, ?_⟩, rfl⟩
    · exact stops_cons.2 (by decide)
    · exact stops_cons.2 (by decide)
    · exact stops_cons.2 (by decide)

/-- A variant is read at the front of a text exactly if one is there, with its description. -/
theorem umaskHere?_eq_some_iff {text description rest : List Char} :
    umaskHere? text = some (description, rest) ↔ UmaskSite text description rest := by
  simp only [umaskHere?, Option.bind_eq_bind, Option.bind_eq_some_iff, dropUmaskHead?_eq_some_iff,
    dropWord?_eq_some_iff, Option.pure_def, Option.some.injEq, Prod.mk.injEq]
  constructor
  · rintro ⟨tail, hhead, _, hrest, rfl, rfl⟩
    refine ⟨?_, fun c hc => ?_⟩
    · rwa [← List.singleton_append, ← hrest, List.takeWhile_append_dropWhile]
    · have := List.all_eq_true.1 List.all_takeWhile c hc
      simpa [isDescriptionChar] using this
  · rintro ⟨hhead, hdescription⟩
    have hchars : ∀ c ∈ description, isDescriptionChar c = true := fun c hc => by
      simpa [isDescriptionChar] using hdescription c hc
    have hstop : Stops isDescriptionChar (']' :: rest) := stops_cons.2 (by decide)
    refine ⟨_, hhead, rest, ?_, ?_, rfl⟩
    · rw [dropWhile_append_of_stops hchars hstop]
      rfl
    · exact takeWhile_append_of_stops hchars hstop

/-- No variant is read at the front of a text exactly if none is there. -/
theorem umaskHere?_eq_none_iff {text : List Char} :
    umaskHere? text = none ↔ ∀ description rest, ¬ UmaskSite text description rest := by
  simp only [← umaskHere?_eq_some_iff, Option.eq_none_iff_forall_ne_some, Prod.forall, ne_eq]

/-! ## The format of a block -/

/-- The block's name: the run at the leftmost name site. -/
def LeftmostName (block name : List Char) : Prop :=
  ∃ i, NameSpelled (block.drop i) name ∧ ∀ j < i, ¬ NameSite (block.drop j)

/-- The descriptions of the variants from a position on: each variant stands at the leftmost site there is,
and the next one is looked for behind its closing bracket. -/
inductive Variants : List Char → List (List Char) → Prop
  /-- There is no site left. -/
  | done {text : List Char} :
      (∀ i description rest, ¬ UmaskSite (text.drop i) description rest) → Variants text []
  /-- There is a leftmost site, and more variants may follow. -/
  | next {text description rest : List Char} {descriptions : List (List Char)} (i : Nat) :
      UmaskSite (text.drop i) description rest →
      (∀ j < i, ∀ description rest, ¬ UmaskSite (text.drop j) description rest) →
      Variants rest descriptions → Variants text (description :: descriptions)

/-- The labels of a block, as the format has them. -/
inductive BlockLabels : List Char → List (List Char) → Prop
  /-- A block without a name site has no labels. -/
  | unnamed {block : List Char} : (∀ i, ¬ NameSite (block.drop i)) → BlockLabels block []
  /-- A block with a name and no variant has its name for its label. -/
  | bare {block name : List Char} : LeftmostName block name → Variants block [] → BlockLabels block [name]
  /-- A block with a name and variants has one label for each variant, in order. -/
  | varied {block name : List Char} {descriptions : List (List Char)} :
      LeftmostName block name → Variants block descriptions → descriptions ≠ [] →
      BlockLabels block (descriptions.map fun description =>
        name ++ '.' :: description.map fun c => if c = ' ' then '_' else c)

/-- The name that is read from a block is the run at the leftmost name site. -/
theorem name?_eq_some_iff {block name : List Char} : name? block = some name ↔ LeftmostName block name := by
  simp only [name?, firstSite_eq_some_iff, nameHere?_eq_some_iff, nameHere?_eq_none_iff, LeftmostName]

/-- No name is read from a block exactly if there is no name site in it. -/
theorem name?_eq_none_iff {block : List Char} : name? block = none ↔ ∀ i, ¬ NameSite (block.drop i) := by
  simp only [name?, firstSite_eq_none_iff, nameHere?_eq_none_iff]

/-- The variants are those from the leftmost one on. -/
theorem umasks_eq_firstSite (text : List Char) :
    umasks text =
      match firstSite umaskHere? text with
      | some (description, rest) => description :: umasks rest
      | none => [] := by
  induction text with
  | nil => rw [umasks]; rfl
  | cons c text ih =>
    rw [umasks]
    split
    · next description rest h => simp [firstSite, h]
    · next h => simpa [firstSite, h] using ih

/-- A text without a variant gives no descriptions. -/
theorem umasks_of_none {text : List Char} (h : firstSite umaskHere? text = none) : umasks text = [] := by
  rw [umasks_eq_firstSite, h]

/-- The first variant of a text gives its description, and what follows it gives the others. -/
theorem umasks_of_some {text description rest : List Char}
    (h : firstSite umaskHere? text = some (description, rest)) :
    umasks text = description :: umasks rest := by
  rw [umasks_eq_firstSite, h]

/-- Less text is left behind a variant than there was. -/
theorem length_lt_of_firstSite_umask {text description rest : List Char}
    (h : firstSite umaskHere? text = some (description, rest)) : rest.length < text.length := by
  obtain ⟨i, hi, -⟩ := firstSite_eq_some_iff.1 h
  have hlt := length_lt_of_umaskHere? hi
  rw [List.length_drop] at hlt
  omega

/-- The variants that are found are the block's variants. -/
theorem variants_umasks (text : List Char) : Variants text (umasks text) := by
  -- By the length of what is left, since the next variant is looked for behind the one before it.
  induction hn : text.length using Nat.strongRecOn generalizing text with
  | ind n ih =>
    cases h : firstSite umaskHere? text with
    | none =>
      rw [umasks_of_none h]
      rw [firstSite_eq_none_iff] at h
      exact .done fun i => umaskHere?_eq_none_iff.1 (h i)
    | some found =>
      obtain ⟨description, rest⟩ := found
      rw [umasks_of_some h]
      have hlt := length_lt_of_firstSite_umask h
      obtain ⟨i, hi, hbefore⟩ := firstSite_eq_some_iff.1 h
      refine .next i (umaskHere?_eq_some_iff.1 hi) (fun j hj => umaskHere?_eq_none_iff.1 (hbefore j hj)) ?_
      exact ih rest.length (by omega) rest rfl

/-- A block has only one list of variants. -/
theorem umasks_of_variants {text : List Char} {descriptions : List (List Char)}
    (h : Variants text descriptions) : umasks text = descriptions := by
  induction h with
  | done hnone =>
    apply umasks_of_none
    rw [firstSite_eq_none_iff]
    exact fun i => umaskHere?_eq_none_iff.2 (hnone i)
  | next i hsite hbefore _ ih =>
    rw [← ih]
    apply umasks_of_some
    rw [firstSite_eq_some_iff]
    exact ⟨i, umaskHere?_eq_some_iff.2 hsite, fun j hj => umaskHere?_eq_none_iff.2 (hbefore j hj)⟩

/-- What is found in a block is what the format says. -/
theorem blockLabels_eq_iff {block : List Char} {labels : List (List Char)} :
    blockLabels block = labels ↔ BlockLabels block labels := by
  constructor
  · rintro rfl
    have hvariants := variants_umasks block
    unfold blockLabels
    split
    · next hname => exact .unnamed (name?_eq_none_iff.1 hname)
    · next name hname =>
      have hname := name?_eq_some_iff.1 hname
      split
      · next hnone => exact .bare hname (hnone ▸ hvariants)
      · next hsome => exact .varied hname hvariants hsome
  · intro h
    unfold blockLabels
    cases h with
    | unnamed hname => rw [name?_eq_none_iff.2 hname]
    | bare hname hvariants => rw [name?_eq_some_iff.2 hname, umasks_of_variants hvariants]
    | varied hname hvariants hne =>
      obtain ⟨description, descriptions, rfl⟩ := List.exists_cons_of_ne_nil hne
      rw [name?_eq_some_iff.2 hname, umasks_of_variants hvariants]
      rfl

/-- **The format of a block.** The labels of a block are exactly those that the format gives it: there is
always one such list, and no other. -/
theorem labelsOfBlock_eq_iff (block : String) (labels : List String) :
    labelsOfBlock block = labels ↔ BlockLabels block.toList (labels.map String.toList) := by
  rw [← blockLabels_eq_iff, labelsOfBlock]
  constructor
  · rintro rfl
    simp [Function.comp_def]
  · intro h
    simp [h, Function.comp_def]

end CounterCatalog.Event
