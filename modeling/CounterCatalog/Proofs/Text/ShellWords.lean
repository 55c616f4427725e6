import CounterCatalog.Text.CommandWord

/-!
# A command line is read back

A shell splits a line into words at spaces, tabs and newlines. Between single quotes every character stands for itself,
and so does the one behind a backslash outside quotes; nothing else has a meaning here. `split` reads a line in this
way, one character at a time, and `split_join` says that it reads the words that a line was joined from, whatever
characters are in them.

Of a line that was joined from words, every double quote stands between single quotes (`Reads`). So where a message
shows such a line between double quotes, the end of the line cannot be missed (`eq_of_marked`).
-/

set_option autoImplicit false

namespace CounterCatalog.Text.ShellWords

open CommandWord

/-! ## Splitting a line -/

/-- How the next character of a line is read: outside quotes, between single quotes, or behind a backslash that stands
outside quotes. -/
inductive Mode where
  | bare
  | quoted
  | escaped
deriving DecidableEq

/-- How far a line has been read: the words that have ended, the one that has begun and has not ended, and how the
next character is read. -/
structure Reading where
  ended : List (List Char)
  open? : Option (List Char)
  mode : Mode
deriving DecidableEq

/-- A character that stands between words. -/
def isSeparator (c : Char) : Bool :=
  c = ' ' || c = '\t' || c = '\n'

namespace Reading

/-- The reading that has read nothing yet. -/
def start : Reading := ⟨[], none, .bare⟩

/-- All words, if the line goes no further. -/
def words (reading : Reading) : List (List Char) :=
  reading.ended ++ reading.open?.toList

/-- The open word goes on with some characters; if there is none, it begins with them. -/
def extend (reading : Reading) (chars : List Char) (mode : Mode) : Reading :=
  ⟨reading.ended, some (reading.open?.getD [] ++ chars), mode⟩

/-- The reading one character further. Quotes begin a word even if nothing stands between them. -/
def step (reading : Reading) (c : Char) : Reading :=
  match reading.mode with
  | .bare =>
    if isSeparator c then ⟨reading.words, none, .bare⟩
    else if c = quoteMark then reading.extend [] .quoted
    else if c = '\\' then reading.extend [] .escaped
    else reading.extend [c] .bare
  | .quoted => if c = quoteMark then reading.extend [] .bare else reading.extend [c] .quoted
  | .escaped => reading.extend [c] .bare

end Reading

/-- The words of a line, unless it ends between quotes or behind a backslash. -/
def split (line : String) : Option (List String) :=
  let reading := line.toList.foldl Reading.step .start
  match reading.mode with
  | .bare => some (reading.words.map String.ofList)
  | _ => none

/-! ## Readings of a text -/

/-- The double quote. -/
def doubleQuote : Char := '\x22'

/-- A text takes a reading to another one, and no double quote of the text stands outside quotes. -/
inductive Reads : Reading → List Char → Reading → Prop
  | nil (reading : Reading) : Reads reading [] reading
  | cons {reading after : Reading} {c : Char} {text : List Char} (guarded : c = doubleQuote → reading.mode ≠ .bare)
      (rest : Reads (reading.step c) text after) : Reads reading (c :: text) after

namespace Reads

variable {reading between after : Reading} {first second text : List Char}

/-- Reading a text step by step comes to where the text takes the reading. -/
theorem foldl_step (h : Reads reading text after) : text.foldl Reading.step reading = after := by
  induction h with
  | nil reading => rfl
  | cons _ _ ih => exact ih

/-- One text and then another take a reading where both of them do. -/
theorem append (hfirst : Reads reading first between) (hsecond : Reads between second after) :
    Reads reading (first ++ second) after := by
  induction hfirst with
  | nil reading => exact hsecond
  | cons hguarded _ ih => exact .cons hguarded (ih hsecond)

/-- A character takes a reading one step further, if it is no double quote outside quotes. -/
theorem singleton {c : Char} (hguarded : c = doubleQuote → reading.mode ≠ .bare) :
    Reads reading [c] (reading.step c) :=
  .cons hguarded (.nil _)

/-- A text without a double quote takes every reading on. -/
theorem of_not_mem (h : doubleQuote ∉ text) : Reads reading text (text.foldl Reading.step reading) := by
  induction text generalizing reading with
  | nil => exact .nil _
  | cons c text ih =>
    have hc : c ≠ doubleQuote := by
      rintro rfl
      exact h List.mem_cons_self
    have hrest : doubleQuote ∉ text := fun hmem => h (List.mem_cons_of_mem _ hmem)
    exact .cons (fun hdouble => absurd hdouble hc) (ih hrest)

/-- Where a text with guarded double quotes goes on with one, the reading is not outside quotes. -/
theorem mode_ne_bare (h : Reads reading text after) (htext : text = first ++ doubleQuote :: second) :
    (first.foldl Reading.step reading).mode ≠ .bare := by
  induction h generalizing first with
  | nil reading =>
    have hlength := congrArg List.length htext
    simp at hlength
  | @cons reading after c text hguarded _ ih =>
    cases first with
    | nil =>
      obtain ⟨hc, -⟩ := List.cons.inj htext
      exact hguarded hc
    | cons c' first =>
      obtain ⟨rfl, hrest⟩ := List.cons.inj htext
      exact ih hrest

end Reads

/-! ## Reading one word -/

variable {ended : List (List Char)} {sofar word : List Char}

/-- A word is read that is written character by character, if what each one is written as is read as the character. -/
theorem reads_flatMap {mode : Mode} {write : Char → List Char}
    (h : ∀ c ∈ word, ∀ sofar, Reads ⟨ended, some sofar, mode⟩ (write c) ⟨ended, some (sofar ++ [c]), mode⟩) :
    Reads ⟨ended, some sofar, mode⟩ (word.flatMap write) ⟨ended, some (sofar ++ word), mode⟩ := by
  induction word generalizing sofar with
  | nil =>
    rw [List.append_nil]
    exact .nil _
  | cons c word ih =>
    have hfirst := h c List.mem_cons_self sofar
    have hrest : Reads ⟨ended, some (sofar ++ [c]), mode⟩ (word.flatMap write)
        ⟨ended, some (sofar ++ [c] ++ word), mode⟩ := ih fun d hd => h d (List.mem_cons_of_mem _ hd)
    rw [List.append_assoc] at hrest
    rw [List.flatMap_cons]
    exact hfirst.append hrest

/-- A character without a meaning to the shell is read as itself. -/
theorem reads_plain {open? : Option (List Char)} {c : Char} (hplain : special.contains c = false) :
    Reads ⟨ended, open?, .bare⟩ [c] ⟨ended, some (open?.getD [] ++ [c]), .bare⟩ := by
  have hne : ∀ d ∈ special, c ≠ d := by
    rintro d hd rfl
    rw [List.contains_iff_mem.2 hd] at hplain
    cases hplain
  have hseparator : isSeparator c = false := by
    simp only [isSeparator, hne ' ' (by decide), hne '\t' (by decide), hne '\n' (by decide), decide_false, Bool.or_self]
  have hquote : c ≠ quoteMark := hne quoteMark (by decide)
  have hbackslash : c ≠ '\\' := hne '\\' (by decide)
  have hstep : Reading.step ⟨ended, open?, .bare⟩ c = ⟨ended, some (open?.getD [] ++ [c]), .bare⟩ := by
    simp only [Reading.step, hseparator, hquote, hbackslash, if_false, Bool.false_eq_true, Reading.extend]
  rw [← hstep]
  refine .singleton fun hdouble => ?_
  exact absurd hdouble (hne doubleQuote (by decide))

/-- A bare word is read as itself. -/
theorem reads_of_isBare (hbare : isBare word = true) :
    Reads ⟨ended, none, .bare⟩ word ⟨ended, some word, .bare⟩ := by
  cases word with
  | nil => cases hbare
  | cons c word =>
    have hplain : ∀ d ∈ c :: word, special.contains d = false := by
      intro d hd
      have hall : ((c :: word).all fun d => !special.contains d) = true := hbare
      simpa using List.all_eq_true.1 hall d hd
    have hfirst : Reads ⟨ended, none, .bare⟩ [c] ⟨ended, some [c], .bare⟩ :=
      reads_plain (hplain c List.mem_cons_self)
    have hrest : Reads ⟨ended, some [c], .bare⟩ (word.flatMap fun d => [d]) ⟨ended, some ([c] ++ word), .bare⟩ :=
      reads_flatMap fun d hd sofar => reads_plain (hplain d (List.mem_cons_of_mem _ hd))
    rw [List.flatMap_singleton'] at hrest
    exact hfirst.append hrest

/-- Between quotes, what a character is written as is read as the character. A quote leaves the quotes for that. -/
theorem reads_quoteChar (sofar : List Char) (c : Char) :
    Reads ⟨ended, some sofar, .quoted⟩ (quoteChar c) ⟨ended, some (sofar ++ [c]), .quoted⟩ := by
  unfold quoteChar
  by_cases hquote : c = quoteMark
  · subst hquote
    rw [if_pos rfl]
    -- The first quote closes, the second one stands behind a backslash, and the third one opens again.
    have hread : [quoteMark, '\\', quoteMark, quoteMark].foldl Reading.step ⟨ended, some sofar, .quoted⟩ =
        ⟨ended, some (sofar ++ [quoteMark]), .quoted⟩ := by
      simp [Reading.step, Reading.extend, isSeparator, quoteMark]
    rw [← hread]
    exact .of_not_mem (by decide)
  · rw [if_neg hquote]
    have hstep : Reading.step ⟨ended, some sofar, .quoted⟩ c = ⟨ended, some (sofar ++ [c]), .quoted⟩ := by
      simp only [Reading.step, hquote, if_false, Reading.extend, Option.getD_some]
    rw [← hstep]
    refine .singleton fun _ hmode => ?_
    cases hmode

/-- A word is read again from how it is quoted. -/
theorem reads_quoteChars (ended : List (List Char)) (word : List Char) :
    Reads ⟨ended, none, .bare⟩ (quoteChars word) ⟨ended, some word, .bare⟩ := by
  unfold quoteChars
  by_cases hbare : isBare word = true
  · rw [if_pos hbare]
    exact reads_of_isBare hbare
  · rw [if_neg hbare]
    have hopen : Reads ⟨ended, none, .bare⟩ [quoteMark] ⟨ended, some [], .quoted⟩ :=
      .of_not_mem (by decide)
    have hbody : Reads ⟨ended, some [], .quoted⟩ (word.flatMap quoteChar) ⟨ended, some word, .quoted⟩ :=
      reads_flatMap fun c _ sofar => reads_quoteChar sofar c
    have hclose : Reads ⟨ended, some word, .quoted⟩ [quoteMark] ⟨ended, some (word ++ []), .bare⟩ :=
      .of_not_mem (by decide)
    rw [List.append_nil] at hclose
    exact (hopen.append hbody).append hclose

/-! ## Reading a line -/

/-- A line of words is read as the words, and the reading ends outside quotes. -/
theorem exists_reads (ended words : List (List Char)) :
    ∃ after, Reads ⟨ended, none, .bare⟩ ([' '].intercalate (words.map quoteChars)) after ∧
      after.words = ended ++ words ∧ after.mode = .bare := by
  induction words generalizing ended with
  | nil => exact ⟨⟨ended, none, .bare⟩, .nil _, rfl, rfl⟩
  | cons word words ih =>
    have hword := reads_quoteChars ended word
    cases words with
    | nil =>
      refine ⟨⟨ended, some word, .bare⟩, ?_, rfl, rfl⟩
      simpa using hword
    | cons next words =>
      -- The space ends the word, so what follows is read as a line of its own.
      have hspace : Reads ⟨ended, some word, .bare⟩ [' '] ⟨ended ++ [word], none, .bare⟩ :=
        .of_not_mem (by decide)
      obtain ⟨after, hrest, hwords, hmode⟩ := ih (ended ++ [word])
      refine ⟨after, ?_, ?_, hmode⟩
      · have hcut : [' '].intercalate ((word :: next :: words).map quoteChars) =
            quoteChars word ++ [' '] ++ [' '].intercalate ((next :: words).map quoteChars) := by
          rw [List.map_cons, List.intercalate_cons_of_ne_nil (by simp)]
        rw [hcut]
        exact (hword.append hspace).append hrest
      · rw [hwords, List.append_assoc, List.singleton_append]

/-- Joined words are the quoted words with spaces between them. -/
theorem toList_join (words : List String) :
    (join words).toList = [' '].intercalate ((words.map String.toList).map quoteChars) := by
  have hquote : (words.map quote).map String.toList = (words.map String.toList).map quoteChars := by
    rw [List.map_map, List.map_map]
    apply List.map_congr_left
    intro word _
    exact String.toList_ofList
  rw [join, String.toList_intercalate, hquote]
  rfl

/-- The words that are read from joined words are those words. -/
theorem exists_reads_join (words : List String) :
    ∃ after, Reads .start (join words).toList after ∧ after.words = words.map String.toList ∧ after.mode = .bare := by
  rw [toList_join]
  exact exists_reads [] (words.map String.toList)

/-- A line joined from words is split into the words. -/
theorem split_join (words : List String) : split (join words) = some words := by
  obtain ⟨after, hreads, hwords, hmode⟩ := exists_reads_join words
  have hback : (words.map String.toList).map String.ofList = words := by
    rw [List.map_map]
    exact List.map_id'' (fun word => String.ofList_toList) words
  unfold split
  rw [hreads.foldl_step]
  simp only [hmode, hwords, hback]

-- Quotes and a backslash go on with a word, separators in a row stand for one, and what is not closed is no line.
example : split "a\\ b'c' \t ''" = some ["a bc", ""] ∧ split "a 'b" = none := by decide

/-- Different words are joined differently. -/
theorem join_injective {first second : List String} (h : join first = join second) : first = second := by
  have hsplit : some first = some second := by rw [← split_join first, ← split_join second, h]
  exact Option.some.inj hsplit

/-- A line joined from words does not go on with a double quote behind another such line. -/
theorem join_ne_append (first second : List String) (rest : List Char) :
    (join first).toList ≠ (join second).toList ++ doubleQuote :: rest := by
  intro h
  obtain ⟨afterFirst, hfirst, -, -⟩ := exists_reads_join first
  obtain ⟨afterSecond, hsecond, -, hmode⟩ := exists_reads_join second
  apply hfirst.mode_ne_bare h
  rw [hsecond.foldl_step]
  exact hmode

/-- **Words are told from a text that shows their line in front of a double quote,** whatever follows: the quote that
ends the line is the first one outside single quotes. -/
theorem eq_of_marked {first second : List String} {rest rest' : List Char}
    (h : (join first).toList ++ doubleQuote :: rest = (join second).toList ++ doubleQuote :: rest') :
    first = second ∧ rest = rest' := by
  -- If one line were longer than the other, the mark behind the shorter one would stand in it, outside quotes.
  have hline : (join first).toList = (join second).toList := by
    rcases List.append_eq_append_iff.1 h with ⟨more, hmore, hrest⟩ | ⟨more, hmore, hrest⟩
    · cases more with
      | nil => rw [hmore, List.append_nil]
      | cons c more =>
        obtain ⟨rfl, -⟩ := List.cons.inj hrest
        exact absurd hmore (join_ne_append second first more)
    · cases more with
      | nil => rw [hmore, List.append_nil]
      | cons c more =>
        obtain ⟨rfl, -⟩ := List.cons.inj hrest
        exact absurd hmore (join_ne_append first second more)
  refine ⟨join_injective (String.toList_inj.1 hline), ?_⟩
  rw [hline] at h
  exact (List.cons.inj (List.append_cancel_left h)).2

end CounterCatalog.Text.ShellWords
