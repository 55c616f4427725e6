import CounterCatalog.Shell.Floating
import CounterCatalog.Shell.Tool.Process.Environment

/-!
# Tools for time

`sleep` lets time pass, and `timeout` ends a program when a time is over: by one signal, and if that does not end it
by another one some time later. The signals go to the program and to what it has started.
-/

set_option autoImplicit false

namespace CounterCatalog.Shell.Tool

open Step

/-- A time in thousandths of a second, if a text is one. -/
def duration? (text : Chars) : Option Nat := do
  let reading ← Floating.read? .double text
  let unit ←
    match reading.rest with
    | [] | ['s'] => some 1
    | ['m'] => some 60
    | ['h'] => some 3600
    | ['d'] => some 86400
    | _ => none
  match reading.value with
  | .finite negative size power =>
    if negative ∧ size ≠ 0 then none else some ((Floating.decimal false size power).inUnits (-3) * unit)
  | .infinite false => some (greatestSize * unit)
  | _ => none

/-- The complaint about a text that is no time. -/
def noDuration (text : Chars) : Chars :=
  "invalid time interval ".toList ++ quoted text

/-- Lets time pass. -/
def sleep : Tool := fun arguments =>
  withOptions [] arguments fun options => do
    if options.operands.isEmpty then return ← misused "missing operand"
    let faulty := options.operands.filter fun text => (duration? text).isNone
    for text in faulty do report (noDuration text)
    if !faulty.isEmpty then
      hint
      return 1
    Step.sleep (Number.total (options.operands.filterMap duration?))
    return 0

/-- How a program is ended when a time is over. -/
structure Limit where
  /-- The time after which that happens; none if it does not happen. -/
  duration : Nat
  /-- The signal. -/
  signal : Nat
  /-- The time after that at which the program is ended in any case; none if it is not. -/
  grace : Nat
  /-- The signals do not go to what the program has started. -/
  foreground : Bool
  /-- The status is that of the program. -/
  preserve : Bool
  /-- It is told when signals are sent. -/
  verbose : Bool

/-- The signals that a limit sends, with their times, from a time on. -/
def Limit.alarms (limit : Limit) (now : Nat) : List Alarm :=
  if limit.duration = 0 then []
  else
    let deadline := now + limit.duration
    ⟨deadline, limit.signal, !limit.foreground⟩ ::
      if limit.grace = 0 then [] else [⟨deadline + limit.grace, Signal.kill, !limit.foreground⟩]

/-- Runs a program within a limit. -/
def Limit.run (limit : Limit) (go : Become) (words : List Chars) : Step Nat := do
  let start := (← get).clock
  let alarms := limit.alarms start
  let status ← spawn do
    modify fun machine => { machine with alarms := machine.alarms ++ alarms }
    let status ← become go "failed to run command " words
    setStatus status
  let machine ← get
  if machine.starved then
    if limit.duration = 0 ∨ (machine.goesOn 0 && decide (machine.supply < lastSupply)) then starve
    set { machine with starved := false, clock := max machine.clock (start + limit.duration) }
  let now := (← get).clock
  let sent := alarms.filter fun alarm => alarm.time ≤ now
  if limit.verbose then
    for alarm in sent do
      let name := ((Signal.name? alarm.signal).getD (toString alarm.signal)).toList
      report ("sending signal ".toList ++ name ++ " to command ".toList ++ quoted (words.headD []))
  if !limit.foreground && sent.any fun alarm => alarm.signal = Signal.kill then throw (.killed Signal.kill)
  match status with
  | .exited code => return if sent.isEmpty || limit.preserve then code else 124
  | .signalled signal =>
    if sent.isEmpty then throw (.killed signal)
    return if limit.preserve || signal = Signal.kill then 128 + signal else 124

/-- The number of the signal that a text names or gives by number. -/
def signalOf? (text : Chars) : Option Nat :=
  let upper := text.map Char.toUpper
  let name := if ['S', 'I', 'G'].isPrefixOf upper then upper.drop 3 else upper
  Signal.number? name

/-- Runs a program and ends it when a time is over. -/
def timeout (go : Become) : Tool := fun arguments =>
  let known := taking [('s', "signal"), ('k', "kill-after")] ++
    flags [('v', "verbose"), ('ḟ', "foreground"), ('ṗ', "preserve-status")]
  match Options.read known true arguments with
  | .error stop => stop.answer (misusedWith 125)
  | .ok options => do
    for (letter, word) in options.found do
      if letter = 'k' && (duration? word).isNone then return ← misusedWith 125 (noDuration word)
      if letter = 's' && (signalOf? word).isNone then
        return ← misusedWith 125 (quoted word ++ ": invalid signal".toList)
    match options.operands with
    | [] | [_] =>
      hint
      return 125
    | time :: words =>
      match duration? time with
      | none => misusedWith 125 (noDuration time)
      | some duration =>
        Limit.run
          { duration := duration
            signal := ((options.value? 's').bind signalOf?).getD 15
            grace := ((options.value? 'k').bind duration?).getD 0
            foreground := options.has 'ḟ'
            preserve := options.has 'ṗ'
            verbose := options.has 'v' } go words

end CounterCatalog.Shell.Tool
