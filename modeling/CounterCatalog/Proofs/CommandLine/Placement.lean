import CounterCatalog.Program
import CounterCatalog.Proofs.CommandLine.Choices

/-!
# Where options are typed

The options to generate by can be typed before `generate`, behind it, or without it. Each setting is decided by what was
typed for its own option and by its own variable: the value typed behind `generate` counts, then the value typed before
it, then that of the environment, then the default (`decided`). So it makes no difference where an option was typed, as
long as it is not repeated in the other place (`placement_irrelevant`).

A level at which `--strict` is not typed refuses a `PERFLIST_STRICT` that is no truth value (`understands`). With such an
environment a command line of two levels can be refused where one of a single level is not.
-/

set_option autoImplicit false

namespace CounterCatalog

namespace CommandLine

variable {environment : Environment} {inside before typed : Typed}

/-! ## What is decided -/

/-- The settings, each from what was typed for its option inside the subcommand and before it, and from its variable. -/
def decided (environment : Environment) (inside before : Typed) : Settings :=
  let value? := fun option : Valued =>
    ((inside.value? option).or (before.value? option)).or (option.envName?.bind environment.value?)
  let isOn := fun option : Switch =>
    inside.isOn option || before.isOn option || decide (option.envName?.bind environment.value? = some "true")
  { checkout := (value? .checkout).getD "libpfm4"
    output? := value? .output
    url := (value? .url).getD "https://github.com/wcohen/libpfm4.git"
    branch := (value? .branch).getD "master"
    git := (value? .git).getD "git"
    make := (value? .make).getD "make"
    skipSync := isOn .noSync
    skipBuild := isOn .noBuild
    strictness := if isOn .strict then .strict else .lenient }

/-- The value of an option is the one typed behind the subcommand, else the one typed before it, else the one in the
environment. -/
theorem value_choose_given (option : Valued) :
    ((inside.given environment option).choose (some (before.given environment option))).value =
      ((inside.value? option).or (before.value? option)).or (option.envName?.bind environment.value?) := by
  unfold Given.choose Typed.given
  cases inside.value? option with
  | some value => simp
  | none =>
    cases before.value? option with
    | some value => cases option.envName?.bind environment.value? <;> simp
    | none => cases option.envName?.bind environment.value? <;> simp

/-- A switch is on if it was typed behind the subcommand or before it, or if the environment says `true`. -/
theorem value_choose_givenSwitch (option : Switch) :
    ((inside.givenSwitch environment option).choose (some (before.givenSwitch environment option))).value =
      (inside.isOn option || before.isOn option ||
        decide (option.envName?.bind environment.value? = some "true")) := by
  unfold Given.choose Typed.givenSwitch
  cases inside.isOn option with
  | true => simp
  | false =>
    cases before.isOn option with
    | true => cases option.envName?.bind environment.value? <;> simp
    | false => cases option.envName?.bind environment.value? <;> simp

/-- The settings of a run with the subcommand are decided by both levels. -/
theorem settings_some (environment : Environment) (inside before : Typed) :
    settings environment inside (some before) = decided environment inside before := by
  unfold settings decided
  simp only [Option.map_some, value_choose_given, value_choose_givenSwitch]
  rfl

/-- Without a subcommand the settings are those of a subcommand before which nothing was typed. -/
theorem settings_none (environment : Environment) (typed : Typed) :
    settings environment typed none = decided environment typed .nothing := by
  have hvalue : ∀ option, (typed.given environment option).choose none =
      (typed.given environment option).choose (some (Typed.nothing.given environment option)) := by
    intro option
    have hsource : (Typed.nothing.given environment option).source ≠ .typed := by
      unfold Typed.given
      cases option.envName?.bind environment.value? <;> simp [Typed.value?, Typed.nothing]
    simp [Given.choose, hsource]
  have hswitch : ∀ option, (typed.givenSwitch environment option).choose none =
      (typed.givenSwitch environment option).choose (some (Typed.nothing.givenSwitch environment option)) := by
    intro option
    have hsource : (Typed.nothing.givenSwitch environment option).source ≠ .typed := by
      unfold Typed.givenSwitch
      cases option.envName?.bind environment.value? <;> simp [Typed.isOn, Typed.nothing]
    simp [Given.choose, hsource]
  rw [← settings_some]
  unfold settings
  simp only [Option.map_none, Option.map_some, hvalue, hswitch]

/-! ## What is accepted -/

/-- A level understands the environment: what it says about `--strict` is a truth value, or `--strict` was typed. -/
def understands (environment : Environment) (typed : Typed) : Bool :=
  typed.isOn .strict || (environment.value? "PERFLIST_STRICT").all fun value => value == "true" || value == "false"

/-- An environment that is understood where nothing was typed is understood whatever was typed. -/
theorem understands_of_nothing (h : understands environment .nothing = true) : understands environment typed = true := by
  have hvalue : (environment.value? "PERFLIST_STRICT").all (fun value => value == "true" || value == "false") = true := h
  rw [understands, hvalue, Bool.or_true]

/-- On a level for generating, the environment is refused exactly if it is not understood. -/
theorem checkEnvironment_eq {scope : Scope} (hscope : scope.Generates) (environment : Environment) (typed : Typed) :
    checkEnvironment environment scope typed =
      if understands environment typed then .ok () else .error .invalidValue := by
  -- of the switches of these levels only one has a variable
  have hfaulty : checkEnvironment environment scope typed =
      if !understands environment typed then .error .invalidValue else .ok () := by
    unfold checkEnvironment understands
    rcases hscope with rfl | rfl
    · cases hvalue : environment.value? "PERFLIST_STRICT" <;>
        simp [Scope.options, Scope.generateOptions, Scope.commonOptions, Switch.envName?, hvalue]
    · cases hvalue : environment.value? "PERFLIST_STRICT" <;>
        simp [Scope.options, Scope.generateOptions, Scope.commonOptions, Switch.envName?, hvalue]
  rw [hfaulty]
  cases understands environment typed <;> rfl

/-- A level that has been read to its end gives what was typed, unless the environment is refused. -/
theorem finish_eq {scope : Scope} (hscope : scope.Generates) {reading : Reading} (h : reading.Holds typed) :
    finish environment scope reading =
      if understands environment typed then .ok typed else .error .invalidValue := by
  have hsettle : reading.settle = .ok ⟨typed, none, false⟩ := h
  have hoperands : ¬ typed.operands.length < scope.operands.length := by
    rcases hscope with rfl | rfl <;> simp [Scope.operands]
  unfold finish
  rw [hsettle]
  show (checkEnvironment environment scope typed >>= _) = _
  rw [checkEnvironment_eq hscope]
  cases understands environment typed with
  | true => exact if_neg hoperands
  | false => rfl

/-! ## The command lines -/

/-- What a command line asks for that has nothing on it but options to generate by, if its levels understand the
environment. -/
def generating (understood : Bool) (task : Task) : Except Stop Request :=
  if understood then .ok ⟨none, 0, false, task⟩ else .error .invalidValue

/-- Options of which none is typed twice, with the words that they are typed with. -/
structure Types (choices : List Choice) (words : List String) : Prop where
  once : (choices.map Choice.flag).Nodup
  spelled : Choice.AllTypedAs choices words

variable {choices beforeChoices insideChoices : List Choice} {words beforeWords insideWords : List String}

/-- Reading the words of the choices gives those choices, whatever words come after them. -/
theorem exists_words_typed {scope : Scope} (hscope : scope.Generates) (h : Types choices words) (rest : List String) :
    ∃ after : Reading, Reading.start.words scope (words ++ rest) = after.words scope rest ∧
      after.Holds (.ofChoices choices) := by
  have hstart : Reading.start.Holds (.ofChoices []) := rfl
  have honce : (([] ++ choices).map Choice.flag).Nodup := h.once
  exact Reading.exists_words_choices hscope h.spelled honce hstart rest

/-- Options to generate by neither change the directory nor say what is logged. -/
theorem Types.common (h : Types choices words) :
    (Typed.ofChoices choices).value? .chdir = none ∧ (Typed.ofChoices choices).isOn .quiet = false := by
  have hall : ∀ spelling ∈ Scope.generateOptions, spelling.flag ≠ .valued .chdir ∧ spelling.flag ≠ .switch .quiet := by
    decide
  have hflags : ∀ flag ∈ choices.map Choice.flag, flag ≠ .valued .chdir ∧ flag ≠ .switch .quiet := by
    rw [List.forall_mem_map]
    intro choice hchoice
    obtain ⟨spelling, hmem, hflag⟩ := h.spelled.exists_flag choice hchoice
    rw [← hflag]
    exact hall spelling hmem
  constructor
  · rw [Typed.value?_eq_none_iff]
    exact fun hmem => (hflags _ hmem).1 rfl
  · rw [← Bool.not_eq_true, Typed.isOn_iff_flag]
    exact fun hmem => (hflags _ hmem).2 rfl

/-- A line without the subcommand asks for a run with its own settings. -/
theorem ofWords_alone (environment : Environment) (h : Types choices words) :
    Request.ofWords environment words =
      generating (understands environment (.ofChoices choices))
        (.generate false (settings environment (.ofChoices choices) none)) := by
  have hscope : Scope.top.Generates := .inl rfl
  obtain ⟨after, hwords, hafter⟩ := exists_words_typed hscope h []
  rw [List.append_nil] at hwords
  unfold Request.ofWords
  rw [hwords]
  show (finish environment .top after >>= _) = _
  rw [finish_eq hscope hafter]
  cases understands environment (.ofChoices choices) with
  | false => rfl
  | true =>
    show Except.ok (Request.mk _ _ _ _) = _
    rw [h.common.1, h.common.2]
    rfl

/-- A line with the subcommand asks for a run with the settings that both levels decide. -/
theorem ofWords_generate (environment : Environment) (hbefore : Types beforeChoices beforeWords)
    (hinside : Types insideChoices insideWords) :
    Request.ofWords environment (beforeWords ++ "generate" :: insideWords) =
      generating (understands environment (.ofChoices insideChoices) && understands environment (.ofChoices beforeChoices))
        (.generate true (settings environment (.ofChoices insideChoices) (some (.ofChoices beforeChoices)))) := by
  have htop : Scope.top.Generates := .inl rfl
  have hscope : (Scope.inside .generate).Generates := .inr rfl
  obtain ⟨outer, houter, houterHolds⟩ := exists_words_typed htop hbefore ("generate" :: insideWords)
  obtain ⟨inner, hinner, hinnerHolds⟩ := exists_words_typed hscope hinside []
  rw [List.append_nil] at hinner
  have hopening : outer.opening? .top "generate" = some (.task .generate) := by
    obtain ⟨htrailing, hwaiting⟩ := houterHolds.open
    rw [Reading.opening?, if_pos ⟨rfl, htrailing, hwaiting⟩]
    rfl
  have hgenerate : outer.words .top ("generate" :: insideWords) = .ok (outer, some (.generate, insideWords)) := by
    rw [Reading.words, hopening]
  unfold Request.ofWords
  rw [houter, hgenerate]
  show (Reading.start.words (.inside .generate) insideWords >>= _) = _
  rw [hinner]
  show (finish environment (.inside .generate) inner >>= _) = _
  rw [finish_eq hscope hinnerHolds]
  cases understands environment (.ofChoices insideChoices) with
  | false => rfl
  | true =>
    show (finish environment .top outer >>= _) = _
    rw [finish_eq htop houterHolds]
    cases understands environment (.ofChoices beforeChoices) with
    | false => rfl
    | true =>
      show Except.ok (Request.mk _ _ _ _) = _
      rw [hbefore.common.1, hbefore.common.2, hinside.common.1, hinside.common.2]
      rfl

/-! ## Options in other places -/

/-- What is decided depends on the options that count, not on the level that they were typed at. -/
theorem decided_joined {together : List Choice} (hbefore : Types beforeChoices beforeWords)
    (hinside : Types insideChoices insideWords) (htogether : (together.map Choice.flag).Nodup)
    (hjoined : ∀ choice, choice ∈ together ↔
      choice ∈ insideChoices ∨ choice ∈ beforeChoices ∧ choice.flag ∉ insideChoices.map Choice.flag)
    (environment : Environment) :
    decided environment (.ofChoices together) .nothing =
      decided environment (.ofChoices insideChoices) (.ofChoices beforeChoices) := by
  have hvalue : ∀ option, ((Typed.ofChoices together).value? option).or (Typed.nothing.value? option) =
      ((Typed.ofChoices insideChoices).value? option).or ((Typed.ofChoices beforeChoices).value? option) := by
    intro option
    have hnothing : Typed.nothing.value? option = none := rfl
    rw [hnothing, Option.or_none]
    apply Option.ext
    intro text
    rw [Typed.value?_eq_some_iff htogether, hjoined, Option.or_eq_some_iff, Typed.value?_eq_none_iff,
      Typed.value?_eq_some_iff hinside.once, Typed.value?_eq_some_iff hbefore.once, Choice.flag, and_comm]
  have hswitch : ∀ option, ((Typed.ofChoices together).isOn option || Typed.nothing.isOn option) =
      ((Typed.ofChoices insideChoices).isOn option || (Typed.ofChoices beforeChoices).isOn option) := by
    intro option
    have hnothing : Typed.nothing.isOn option = false := rfl
    have hrepeated : .switch option ∈ insideChoices.map Choice.flag ↔ .switch option ∈ insideChoices :=
      Typed.isOn_iff_flag.symm.trans Typed.isOn_iff
    rw [hnothing, Bool.or_false, Bool.eq_iff_iff, Bool.or_eq_true, Typed.isOn_iff, Typed.isOn_iff, Typed.isOn_iff,
      hjoined, Choice.flag, hrepeated]
    by_cases hmem : .switch option ∈ insideChoices
    · simp [hmem]
    · simp [hmem]
  unfold decided
  simp only [hvalue, hswitch]

/-- **Where an option is typed does not matter,** and what is typed inside the subcommand wins. Options before `generate`
and behind it ask for the same settings as those of them that count, typed behind `generate` or without it, in whatever
order and spelling. They are refused only where a level does not understand the environment, so in an environment that
every level understands the three command lines make the program do the same. -/
theorem placement_irrelevant {together : List Choice} {togetherWords : List String}
    (hbefore : Types beforeChoices beforeWords) (hinside : Types insideChoices insideWords)
    (htogether : Types together togetherWords)
    (hjoined : ∀ choice, choice ∈ together ↔
      choice ∈ insideChoices ∨ choice ∈ beforeChoices ∧ choice.flag ∉ insideChoices.map Choice.flag)
    (environment : Environment) :
    let chosen := decided environment (.ofChoices insideChoices) (.ofChoices beforeChoices)
    Request.ofWords environment (beforeWords ++ "generate" :: insideWords) =
        generating (understands environment (.ofChoices insideChoices) && understands environment (.ofChoices beforeChoices))
          (.generate true chosen) ∧
      Request.ofWords environment ("generate" :: togetherWords) =
        generating (understands environment .nothing) (.generate true chosen) ∧
      Request.ofWords environment togetherWords =
        generating (understands environment (.ofChoices together)) (.generate false chosen) ∧
      (understands environment .nothing = true → ∀ launcher tree cwd,
        Program.run launcher environment tree cwd (beforeWords ++ "generate" :: insideWords) =
            Program.run launcher environment tree cwd ("generate" :: togetherWords) ∧
          Program.run launcher environment tree cwd (beforeWords ++ "generate" :: insideWords) =
            Program.run launcher environment tree cwd togetherWords) := by
  intro chosen
  have hdecided : decided environment (.ofChoices together) .nothing = chosen :=
    decided_joined hbefore hinside htogether.once hjoined environment
  have hnone : Types [] [] := ⟨List.nodup_nil, .nil⟩
  have hboth := ofWords_generate environment hbefore hinside
  have hgenerate := ofWords_generate environment hnone htogether
  have halone := ofWords_alone environment htogether
  rw [settings_some] at hboth
  rw [settings_some] at hgenerate
  rw [settings_none, hdecided] at halone
  have hgenerate : Request.ofWords environment ("generate" :: togetherWords) =
      generating (understands environment .nothing) (.generate true chosen) := by
    have hunderstands : (understands environment (.ofChoices together) && understands environment .nothing) =
        understands environment .nothing := by
      cases hnothing : understands environment .nothing with
      | false => rw [Bool.and_false]
      | true => rw [understands_of_nothing hnothing, Bool.and_true]
    rw [← hdecided, ← hunderstands]
    exact hgenerate
  refine ⟨hboth, hgenerate, halone, ?_⟩
  intro hunderstands launcher tree cwd
  rw [understands_of_nothing hunderstands, understands_of_nothing hunderstands, Bool.and_true] at hboth
  rw [hunderstands] at hgenerate
  rw [understands_of_nothing hunderstands] at halone
  unfold Program.run
  rw [hboth, hgenerate, halone]
  exact ⟨rfl, rfl⟩

/-- An environment that has its own word on what is typed, and on the branch. -/
def opinionated : Environment :=
  ⟨[("PERFLIST_CHECKOUT", "c"), ("PERFLIST_BRANCH", "v4.13"), ("PERFLIST_STRICT", "false")]⟩

/-- Three lines that choose alike, one of them against what was typed before the subcommand, ask for the same
settings, with the branch that the environment names. -/
theorem placement_irrelevant_sample :
    ∃ chosen : Settings,
      chosen = { Settings.standard with checkout := "b=b", url := "-u", branch := "v4.13", strictness := .strict } ∧
      Request.ofWords opinionated ["-da", "--strict", "generate", "--checkout", "b=b", "--url=-u"] =
        .ok ⟨none, 0, false, .generate true chosen⟩ ∧
      Request.ofWords opinionated ["generate", "--url=-u", "--strict", "-d=b=b"] =
        .ok ⟨none, 0, false, .generate true chosen⟩ ∧
      Request.ofWords opinionated ["--url=-u", "--strict", "-d=b=b"] =
        .ok ⟨none, 0, false, .generate false chosen⟩ := by
  have hmem : ∀ n, (h : n < Scope.generateOptions.length) → Scope.generateOptions[n] ∈ Scope.generateOptions :=
    fun n h => List.getElem_mem h
  have hclose : Choice.TypedAs Scope.generateOptions[0] (.value .checkout (String.ofList ['a']))
      [String.ofList ['-', 'd', 'a']] := .letterClose rfl rfl (by decide)
  have hapart : Choice.TypedAs Scope.generateOptions[0] (.value .checkout "b=b") ["--checkout", "b=b"] :=
    .longApart rfl rfl
  have hletter : Choice.TypedAs Scope.generateOptions[0] (.value .checkout "b=b") ["-d=b=b"] :=
    .letter rfl rfl ['b', '=', 'b']
  have hurl : Choice.TypedAs Scope.generateOptions[2] (.value .url "-u") ["--url=-u"] := .long rfl "-u"
  have hstrict : Choice.TypedAs Scope.generateOptions[8] (.switch .strict) ["--strict"] := .switch rfl
  have hbefore : Types [.value .checkout "a", .switch .strict] ["-da", "--strict"] :=
    ⟨by decide, .cons (hmem 0 (by decide)) hclose (.cons (hmem 8 (by decide)) hstrict .nil)⟩
  have hinside : Types [.value .checkout "b=b", .value .url "-u"] ["--checkout", "b=b", "--url=-u"] :=
    ⟨by decide, .cons (hmem 0 (by decide)) hapart (.cons (hmem 2 (by decide)) hurl .nil)⟩
  have htogether : Types [.value .url "-u", .switch .strict, .value .checkout "b=b"]
      ["--url=-u", "--strict", "-d=b=b"] :=
    ⟨by decide, .cons (hmem 2 (by decide)) hurl
      (.cons (hmem 8 (by decide)) hstrict (.cons (hmem 0 (by decide)) hletter .nil))⟩
  have hjoined : ∀ choice : Choice,
      choice ∈ [.value .url "-u", .switch .strict, .value .checkout "b=b"] ↔
        choice ∈ [.value .checkout "b=b", .value .url "-u"] ∨ choice ∈ [.value .checkout "a", .switch .strict] ∧
          choice.flag ∉ [Choice.value .checkout "b=b", .value .url "-u"].map Choice.flag := by
    intro choice
    simp only [List.mem_cons, List.not_mem_nil, or_false]
    constructor
    · rintro (rfl | rfl | rfl)
      · exact .inl (.inr rfl)
      · exact .inr ⟨.inr rfl, by decide⟩
      · exact .inl (.inl rfl)
    · rintro ((rfl | rfl) | ⟨rfl | rfl, hflag⟩)
      · exact .inr (.inr rfl)
      · exact .inl rfl
      · exact absurd (by decide) hflag
      · exact .inr (.inl rfl)
  obtain ⟨hboth, hgenerate, halone, -⟩ := placement_irrelevant hbefore hinside htogether hjoined opinionated
  exact ⟨_, by decide, hboth, hgenerate, halone⟩

end CommandLine

end CounterCatalog
