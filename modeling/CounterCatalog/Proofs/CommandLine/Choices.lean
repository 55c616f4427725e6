import CounterCatalog.CommandLine.Request
import CounterCatalog.Proofs.Text.Scan
import Mathlib.Data.List.Nodup

/-!
# Reading the options that were typed

Each of the options to generate by can be typed in several ways, before the subcommand and behind it. Whichever way was
taken, and whatever stands before and behind it, reading it adds this one option to what has been typed
(`exists_words_choice`). So options of which none is typed twice are read as those options (`exists_words_choices`).
-/

set_option autoImplicit false

namespace CounterCatalog.CommandLine

/-! ## Options and their words -/

/-- An option to generate by, with its value if it takes one. -/
inductive Choice where
  | value (option : Valued) (text : String)
  | switch (option : Switch)
deriving DecidableEq

namespace Choice

/-- The flag that a choice is for. -/
def flag : Choice → Flag
  | value option _ => .valued option
  | switch option => .switch option

/-- The option and the value of a choice, if it is one of a value. -/
def pair? : Choice → Option (Valued × String)
  | value option text => some (option, text)
  | switch _ => none

/-- The switch of a choice, if it is one of a switch. -/
def switch? : Choice → Option Switch
  | value _ _ => none
  | switch option => some option

/-- The words that type an option. A value stands behind an equals sign, right behind the letter of its option, or in
the next word, where it must not look like an option. -/
inductive TypedAs (spelling : Spelling) : Choice → List String → Prop where
  | long {option : Valued} (hflag : spelling.flag = .valued option) (text : String) :
      TypedAs spelling (value option text) ["--" ++ spelling.name ++ "=" ++ text]
  | longApart {option : Valued} {text : String} (hflag : spelling.flag = .valued option)
      (hplain : Shape.ofWord text = .plain) : TypedAs spelling (value option text) ["--" ++ spelling.name, text]
  | letter {option : Valued} {letter : Char} (hflag : spelling.flag = .valued option)
      (hletter : spelling.letter? = some letter) (text : List Char) :
      TypedAs spelling (value option (String.ofList text)) [String.ofList ('-' :: letter :: '=' :: text)]
  | letterClose {option : Valued} {letter c : Char} {text : List Char} (hflag : spelling.flag = .valued option)
      (hletter : spelling.letter? = some letter) (hc : c ≠ '=') :
      TypedAs spelling (value option (String.ofList (c :: text))) [String.ofList ('-' :: letter :: c :: text)]
  | letterApart {option : Valued} {letter : Char} {text : String} (hflag : spelling.flag = .valued option)
      (hletter : spelling.letter? = some letter) (hplain : Shape.ofWord text = .plain) :
      TypedAs spelling (value option text) [String.ofList ['-', letter], text]
  | switch {option : Switch} (hflag : spelling.flag = .switch option) :
      TypedAs spelling (switch option) ["--" ++ spelling.name]

/-- The words of options that are typed one after the other. -/
inductive AllTypedAs : List Choice → List String → Prop where
  | nil : AllTypedAs [] []
  | cons {spelling : Spelling} {choice : Choice} {choices : List Choice} {piece words : List String}
      (hmem : spelling ∈ Scope.generateOptions) (htyped : choice.TypedAs spelling piece)
      (hrest : AllTypedAs choices words) : AllTypedAs (choice :: choices) (piece ++ words)

/-- A choice is typed with a spelling of its own flag. -/
theorem TypedAs.flag_eq {spelling : Spelling} {choice : Choice} {piece : List String}
    (h : choice.TypedAs spelling piece) : spelling.flag = choice.flag := by
  cases h <;> assumption

/-- Each of the choices that are typed has a spelling among the options for generating. -/
theorem AllTypedAs.exists_flag {choices : List Choice} {words : List String} (h : AllTypedAs choices words) :
    ∀ choice ∈ choices, ∃ spelling ∈ Scope.generateOptions, spelling.flag = choice.flag := by
  induction h with
  | nil => simp
  | cons hmem htyped _ ih =>
    rw [List.forall_mem_cons]
    exact ⟨⟨_, hmem, htyped.flag_eq⟩, ih⟩

end Choice

/-- What has been typed once options have been. -/
def Typed.ofChoices (choices : List Choice) : Typed :=
  ⟨choices.filterMap Choice.pair?, choices.filterMap Choice.switch?, 0, []⟩

namespace Typed

variable {choices : List Choice} {option : Valued} {text : String}

/-- A value that is chosen last comes behind the other values. -/
theorem ofChoices_value (choices : List Choice) (option : Valued) (text : String) :
    ofChoices (choices ++ [.value option text]) =
      { ofChoices choices with values := (ofChoices choices).values ++ [(option, text)] } := by
  simp [ofChoices, Choice.pair?, Choice.switch?]

/-- A switch that is chosen last comes behind the other switches. -/
theorem ofChoices_switch (choices : List Choice) (option : Switch) :
    ofChoices (choices ++ [.switch option]) =
      { ofChoices choices with switches := (ofChoices choices).switches ++ [option] } := by
  simp [ofChoices, Choice.pair?, Choice.switch?]

/-- The values that have been typed are those that were chosen. -/
theorem mem_values_iff : (option, text) ∈ (ofChoices choices).values ↔ .value option text ∈ choices := by
  unfold ofChoices
  rw [List.mem_filterMap]
  constructor
  · rintro ⟨choice, hmem, hpair⟩
    cases choice with
    | value option' text' =>
      cases hpair
      exact hmem
    | switch option' => cases hpair
  · intro hmem
    exact ⟨_, hmem, rfl⟩

/-- A switch is on exactly if it was chosen. -/
theorem isOn_iff {option : Switch} : (ofChoices choices).isOn option = true ↔ .switch option ∈ choices := by
  unfold isOn ofChoices
  rw [List.contains_iff_mem, List.mem_filterMap]
  constructor
  · rintro ⟨choice, hmem, hswitch⟩
    cases choice with
    | value option' text' => cases hswitch
    | switch option' =>
      cases hswitch
      exact hmem
  · intro hmem
    exact ⟨_, hmem, rfl⟩

/-- The value of an option is one that was chosen for it. -/
theorem mem_of_value? (h : (ofChoices choices).value? option = some text) : .value option text ∈ choices := by
  obtain ⟨⟨option', text'⟩, hfind, htext⟩ := Option.map_eq_some_iff.1 h
  have hoption : option' = option := by simpa using List.find?_some hfind
  have hmem := mem_values_iff.1 (List.mem_of_find?_eq_some hfind)
  rw [hoption] at hmem
  cases htext
  exact hmem

/-- An option has no value exactly if none of the choices is for its flag. -/
theorem value?_eq_none_iff : (ofChoices choices).value? option = none ↔ .valued option ∉ choices.map Choice.flag := by
  constructor
  · intro hnone hmem
    obtain ⟨choice, hchoice, hflag⟩ := List.mem_map.1 hmem
    rw [value?, Option.map_eq_none_iff, List.find?_eq_none] at hnone
    cases choice with
    | value option' text =>
      cases hflag
      exact hnone (option, text) (mem_values_iff.2 hchoice) (decide_eq_true rfl)
    | switch option' => cases hflag
  · intro hfree
    rw [Option.eq_none_iff_forall_ne_some]
    intro text hvalue
    exact hfree (List.mem_map_of_mem (mem_of_value? hvalue))

/-- Of options that are typed at most once each, the value of one is the one that was typed. -/
theorem value?_eq_some_iff (hdistinct : (choices.map Choice.flag).Nodup) :
    (ofChoices choices).value? option = some text ↔ .value option text ∈ choices := by
  refine ⟨mem_of_value?, fun hmem => ?_⟩
  cases hvalue : (ofChoices choices).value? option with
  | none => exact absurd (List.mem_map_of_mem hmem) (value?_eq_none_iff.1 hvalue)
  | some text' =>
    have hsame : Choice.value option text' = Choice.value option text :=
      List.inj_on_of_nodup_map hdistinct (mem_of_value? hvalue) hmem rfl
    cases hsame
    rfl

/-- A switch is on exactly if one of the choices is for its flag. -/
theorem isOn_iff_flag {option : Switch} :
    (ofChoices choices).isOn option = true ↔ .switch option ∈ choices.map Choice.flag := by
  rw [isOn_iff]
  constructor
  · intro hmem
    exact List.mem_map_of_mem hmem
  · intro hmem
    obtain ⟨choice, hchoice, hflag⟩ := List.mem_map.1 hmem
    cases choice with
    | value option' text => cases hflag
    | switch option' =>
      cases hflag
      exact hchoice

end Typed

/-- The levels at which the options to generate by can be typed. -/
def Scope.Generates (scope : Scope) : Prop :=
  scope = .top ∨ scope = .inside .generate

/-! ## What a word looks like -/

variable {scope : Scope} {spelling : Spelling}

/-- Where options for generating can be typed, the name of each leads to its flag. -/
theorem named?_of_mem (hscope : scope.Generates) (hmem : spelling ∈ Scope.generateOptions) :
    scope.named? spelling.name = some spelling.flag := by
  have hall : ∀ scope ∈ [Scope.top, .inside .generate], ∀ spelling ∈ Scope.generateOptions,
      scope.named? spelling.name = some spelling.flag := by
    decide
  exact hall scope (by simpa [Scope.Generates] using hscope) spelling hmem

/-- Where options for generating can be typed, the letter of each leads to its flag, and it is no dash. -/
theorem lettered?_of_mem (hscope : scope.Generates) (hmem : spelling ∈ Scope.generateOptions) {letter : Char}
    (hletter : spelling.letter? = some letter) : scope.lettered? letter = some spelling.flag ∧ letter ≠ '-' := by
  have hall : ∀ scope ∈ [Scope.top, .inside .generate], ∀ spelling ∈ Scope.generateOptions,
      spelling.letter?.all (fun letter => scope.lettered? letter = some spelling.flag ∧ letter ≠ '-') = true := by
    decide
  have hone := hall scope (by simpa [Scope.Generates] using hscope) spelling hmem
  rw [hletter, Option.all_some, decide_eq_true_iff] at hone
  exact hone

/-- No name of an option for generating is empty or has an equals sign in it, and none of them takes a shell. -/
theorem name_of_mem (hmem : spelling ∈ Scope.generateOptions) :
    spelling.name.toList ≠ [] ∧ '=' ∉ spelling.name.toList ∧ spelling.flag ≠ .valued .shell := by
  have hall : ∀ spelling ∈ Scope.generateOptions,
      spelling.name.toList ≠ [] ∧ '=' ∉ spelling.name.toList ∧ spelling.flag ≠ .valued .shell := by
    decide
  exact hall spelling hmem

/-- A word is cut at its first equals sign. -/
theorem splitAtEquals_append {name : List Char} (h : '=' ∉ name) (value : List Char) :
    splitAtEquals name = (name, none) ∧ splitAtEquals (name ++ '=' :: value) = (name, some value) := by
  have hname : ∀ c ∈ name, decide (c ≠ '=') = true := by
    intro c hc
    rw [decide_eq_true_iff]
    rintro rfl
    exact h hc
  have hend := Text.dropWhile_append_of_stops hname Text.stops_nil
  have hcut : Text.Stops (fun c => decide (c ≠ '=')) ('=' :: value) := Text.stops_cons.2 (by simp)
  rw [List.append_nil] at hend
  constructor
  · rw [splitAtEquals, hend]
  · rw [splitAtEquals, Text.dropWhile_append_of_stops hname hcut, Text.takeWhile_append_of_stops hname hcut]

/-- Two dashes and a name make a word for a long option without a value. -/
theorem ofWord_long {name : String} (hname : name.toList ≠ []) (hequals : '=' ∉ name.toList) :
    Shape.ofWord ("--" ++ name) = .long name none := by
  have hword : ("--" ++ name).toList = '-' :: '-' :: name.toList := by simp
  unfold Shape.ofWord
  rw [hword]
  cases hchars : name.toList with
  | nil => exact absurd hchars hname
  | cons c chars =>
    simp only
    rw [← hchars, (splitAtEquals_append hequals []).1]
    simp

/-- Two dashes, a name, an equals sign and a text make a word for a long option with a value. -/
theorem ofWord_longValue {name : String} (hname : name.toList ≠ []) (hequals : '=' ∉ name.toList) (text : String) :
    Shape.ofWord ("--" ++ name ++ "=" ++ text) = .long name (some text) := by
  have hword : ("--" ++ name ++ "=" ++ text).toList = '-' :: '-' :: (name.toList ++ '=' :: text.toList) := by simp
  unfold Shape.ofWord
  rw [hword]
  cases hchars : name.toList with
  | nil => exact absurd hchars hname
  | cons c chars =>
    simp only [List.cons_append]
    rw [← List.cons_append, ← hchars, (splitAtEquals_append hequals text.toList).2]
    simp

/-- A dash and letters make a cluster of short options. -/
theorem ofWord_cluster {letter : Char} (hletter : letter ≠ '-') (letters : List Char) :
    Shape.ofWord (String.ofList ('-' :: letter :: letters)) = .cluster (letter :: letters) := by
  unfold Shape.ofWord
  rw [String.toList_ofList]
  split
  · next heq => simp_all
  · next heq => simp_all
  · next heq =>
    simp only [List.cons.injEq, true_and] at heq
    rw [heq.1, heq.2]
  · next hcluster => exact absurd rfl (hcluster letter letters)

/-- A word that begins with a dash opens no subcommand. -/
theorem opening?_dash {word : String} (h : word.toList.head? = some '-') (reading : Reading) :
    reading.opening? scope word = none := by
  obtain ⟨rest, hword⟩ := List.head?_eq_some_iff.1 h
  have hnone : Opening.all.filter (fun item => word.toList.isPrefixOf item.1.toList) = [] := by
    rw [hword]
    rfl
  rw [Reading.opening?, Opening.ofWord?, hnone]
  simp

/-! ## Reading options -/

namespace Reading

variable {reading : Reading} {typed : Typed} {done choices : List Choice}

/-- The reading stands between two words that belong to different options, and this is what has been typed so far. -/
def Holds (reading : Reading) (typed : Typed) : Prop :=
  reading.settle = .ok ⟨typed, none, false⟩

/-- A reading that holds what was typed neither waits for a value nor is past the last option. -/
theorem Holds.open (h : reading.Holds typed) : reading.trailing = false ∧ reading.isWaiting = false := by
  obtain ⟨typed', pending?, trailing⟩ := reading
  unfold Holds settle at h
  cases pending? with
  | none =>
    simp only [Except.ok.injEq, Reading.mk.injEq] at h
    exact ⟨h.2.2, rfl⟩
  | some pending =>
    obtain ⟨option, value?⟩ := pending
    cases value? with
    | none => cases h
    | some value =>
      simp only [setValue] at h
      split_ifs at h
      simp only [Except.ok.injEq, Reading.mk.injEq] at h
      exact ⟨h.2.2, rfl⟩

/-- A word that opens nothing is read before the words behind it. -/
theorem words_cons_of_word {word : String} {after : Reading} (hopening : reading.opening? scope word = none)
    (hword : reading.word scope word = .ok after) (rest : List String) :
    reading.words scope (word :: rest) = after.words scope rest := by
  rw [words, hopening, hword]
  rfl

/-- The word for a long option without a value gives its flag. -/
theorem word_long (hscope : scope.Generates) (hmem : spelling ∈ Scope.generateOptions) (h : reading.Holds typed) :
    reading.word scope ("--" ++ spelling.name) = reading.plainFlag scope spelling.flag := by
  obtain ⟨hname, hequals, -⟩ := name_of_mem hmem
  rw [Reading.word, h.open.1, ofWord_long hname hequals]
  simp only [Bool.false_eq_true, if_false]
  unfold long
  rw [named?_of_mem hscope hmem]
  cases spelling.flag <;> rfl

/-- The word for a long option with a value gives the option that value. -/
theorem word_longValue (hscope : scope.Generates) (hmem : spelling ∈ Scope.generateOptions) {option : Valued}
    (hflag : spelling.flag = .valued option) (text : String) (h : reading.Holds typed) :
    reading.word scope ("--" ++ spelling.name ++ "=" ++ text) = reading.giveValue option text := by
  obtain ⟨hname, hequals, -⟩ := name_of_mem hmem
  rw [Reading.word, h.open.1, ofWord_longValue hname hequals]
  simp only [Bool.false_eq_true, if_false]
  unfold long
  rw [named?_of_mem hscope hmem, hflag]

/-- A word of a dash and letters is read letter by letter. -/
theorem word_letter (hscope : scope.Generates) (hmem : spelling ∈ Scope.generateOptions) {option : Valued}
    (hflag : spelling.flag = .valued option) {letter : Char} (hletter : spelling.letter? = some letter)
    (h : reading.Holds typed) (letters : List Char) :
    reading.word scope (String.ofList ('-' :: letter :: letters)) = reading.cluster scope (letter :: letters) ∧
      scope.lettered? letter = some (.valued option) := by
  obtain ⟨hlettered, hdash⟩ := lettered?_of_mem hscope hmem hletter
  rw [Reading.word, h.open.1, ofWord_cluster hdash, hlettered, hflag]
  exact ⟨rfl, rfl⟩

/-- An option that has no value yet takes one. -/
theorem setValue_ofChoices {option : Valued} (hfree : Flag.valued option ∉ done.map Choice.flag)
    (hshell : option ≠ .shell) (text : String) :
    setValue ⟨.ofChoices done, none, false⟩ option text =
      .ok ⟨.ofChoices (done ++ [.value option text]), none, false⟩ := by
  have hnone : (Typed.ofChoices done).value? option = none := Typed.value?_eq_none_iff.2 hfree
  rw [setValue, if_neg (by simp [hnone]), if_neg (by simp [hshell]), Typed.ofChoices_value]

/-- A switch that is not on yet is turned on. -/
theorem turnOn_ofChoices {option : Switch} (hfree : Flag.switch option ∉ done.map Choice.flag)
    (h : reading.Holds (.ofChoices done)) :
    reading.turnOn option = .ok ⟨.ofChoices (done ++ [.switch option]), none, false⟩ := by
  have hoff : ¬ (Typed.ofChoices done).isOn option = true := fun hon => hfree (Typed.isOn_iff_flag.1 hon)
  have hsettle : reading.settle = .ok ⟨.ofChoices done, none, false⟩ := h
  rw [turnOn, hsettle, Typed.ofChoices_switch]
  exact if_neg hoff

/-- An option that has no value yet takes the one that is typed with it. -/
theorem giveValue_ofChoices {option : Valued} (hfree : Flag.valued option ∉ done.map Choice.flag)
    (hshell : option ≠ .shell) (text : String) (h : reading.Holds (.ofChoices done)) :
    reading.giveValue option text = .ok ⟨.ofChoices (done ++ [.value option text]), none, false⟩ := by
  have hsettle : reading.settle = .ok ⟨.ofChoices done, none, false⟩ := h
  rw [giveValue, hsettle]
  exact setValue_ofChoices hfree hshell text

/-- A word that gives an option the next word for its value, with that word. -/
theorem words_await {option : Valued} {name text : String} (hfree : Flag.valued option ∉ done.map Choice.flag)
    (hshell : option ≠ .shell) (h : reading.Holds (.ofChoices done)) (hopening : reading.opening? scope name = none)
    (hname : reading.word scope name = reading.await option) (hplain : Shape.ofWord text = .plain)
    (rest : List String) :
    reading.words scope (name :: text :: rest) =
        words scope ⟨.ofChoices done, some ⟨option, some text⟩, false⟩ rest ∧
      Holds ⟨.ofChoices done, some ⟨option, some text⟩, false⟩ (.ofChoices (done ++ [.value option text])) := by
  have hsettle : reading.settle = .ok ⟨.ofChoices done, none, false⟩ := h
  have hawait : reading.await option = .ok ⟨.ofChoices done, some ⟨option, none⟩, false⟩ := by
    rw [await, hsettle]
    rfl
  have htext : word scope ⟨.ofChoices done, some ⟨option, none⟩, false⟩ text =
      .ok ⟨.ofChoices done, some ⟨option, some text⟩, false⟩ := by
    rw [Reading.word, hplain]
    rfl
  constructor
  · rw [words_cons_of_word hopening (hname.trans hawait), words_cons_of_word (by simp [opening?, isWaiting]) htext]
  · exact setValue_ofChoices hfree hshell text

/-- **An option is read,** however it is spelled, and nothing of what stands behind it. -/
theorem exists_words_choice (hscope : scope.Generates) (hmem : spelling ∈ Scope.generateOptions) {choice : Choice}
    {piece : List String} (htyped : choice.TypedAs spelling piece) (hfree : choice.flag ∉ done.map Choice.flag)
    (h : reading.Holds (.ofChoices done)) (rest : List String) :
    ∃ after : Reading, reading.words scope (piece ++ rest) = after.words scope rest ∧
      after.Holds (.ofChoices (done ++ [choice])) := by
  have hshell : ∀ {option}, spelling.flag = .valued option → option ≠ .shell := by
    rintro option hflag rfl
    exact (name_of_mem hmem).2.2 hflag
  have hdone : ∀ choices, Holds ⟨.ofChoices choices, none, false⟩ (.ofChoices choices) := fun _ => rfl
  cases htyped with
  | long hflag text =>
    refine ⟨_, words_cons_of_word (opening?_dash (by simp) reading) ?_ rest, hdone _⟩
    rw [word_longValue hscope hmem hflag text h]
    exact giveValue_ofChoices hfree (hshell hflag) text h
  | longApart hflag hplain =>
    refine ⟨_, words_await hfree (hshell hflag) h (opening?_dash (by simp) reading) ?_ hplain rest⟩
    rw [word_long hscope hmem h, hflag]
    rfl
  | letter hflag hletter text =>
    obtain ⟨hword, hlettered⟩ := word_letter hscope hmem hflag hletter h ('=' :: text)
    refine ⟨_, words_cons_of_word (opening?_dash (by simp) reading) ?_ rest, hdone _⟩
    rw [hword, cluster, hlettered]
    exact giveValue_ofChoices hfree (hshell hflag) _ h
  | letterClose hflag hletter hc =>
    obtain ⟨hword, hlettered⟩ := word_letter hscope hmem hflag hletter h (_ :: _)
    refine ⟨_, words_cons_of_word (opening?_dash (by simp) reading) ?_ rest, hdone _⟩
    rw [hword, cluster, hlettered]
    simp only
    split
    · next heq => cases heq
    · next heq => exact absurd (List.cons.inj heq).1 hc
    · exact giveValue_ofChoices hfree (hshell hflag) _ h
  | letterApart hflag hletter hplain =>
    obtain ⟨hword, hlettered⟩ := word_letter hscope hmem hflag hletter h []
    refine ⟨_, words_await hfree (hshell hflag) h (opening?_dash (by simp) reading) ?_ hplain rest⟩
    rw [hword, cluster, hlettered]
  | switch hflag =>
    refine ⟨_, words_cons_of_word (opening?_dash (by simp) reading) ?_ rest, hdone _⟩
    rw [word_long hscope hmem h, hflag]
    exact turnOn_ofChoices hfree h

/-- Options of which none is typed twice are read one after the other. -/
theorem exists_words_choices (hscope : scope.Generates) {words : List String} (htyped : Choice.AllTypedAs choices words)
    (hdistinct : ((done ++ choices).map Choice.flag).Nodup) (h : reading.Holds (.ofChoices done)) (rest : List String) :
    ∃ after : Reading, reading.words scope (words ++ rest) = after.words scope rest ∧
      after.Holds (.ofChoices (done ++ choices)) := by
  induction htyped generalizing reading done with
  | nil =>
    rw [List.append_nil]
    exact ⟨reading, rfl, h⟩
  | @cons spelling choice choices piece words hmem hone _ ih =>
    have hfree : choice.flag ∉ done.map Choice.flag := by
      rw [List.map_append, List.nodup_append] at hdistinct
      intro hflag
      exact hdistinct.2.2 _ hflag _ (by simp) rfl
    rw [List.append_cons] at hdistinct
    obtain ⟨between, hpiece, hbetween⟩ := exists_words_choice hscope hmem hone hfree h (words ++ rest)
    obtain ⟨after, hwords, hafter⟩ := ih hdistinct hbetween
    rw [List.append_assoc, hpiece, hwords, List.append_cons]
    exact ⟨after, rfl, hafter⟩

end Reading

end CounterCatalog.CommandLine
