import CounterCatalog.Counter.Numeral
import CounterCatalog.Text.Split

/-!
# Counters

A counter is what a reader of a counter list gets from a line `name,config[,extended[,kind]]`. A line
without a name or without a configuration describes no counter; an extended configuration that cannot be
read counts as zero, and a kind that cannot be read, or does not fit into thirty-two bits, as absent.
-/

set_option autoImplicit false

namespace CounterCatalog

/-- A counter as a counter list defines it. -/
structure Counter where
  /-- The name that the counter is looked up by. -/
  name : String
  /-- The raw configuration. -/
  config : UInt64
  /-- The extended configuration, zero unless the list gives one. -/
  extended : UInt64
  /-- The kind of event source, where the list gives one. -/
  kind : Option UInt32
deriving DecidableEq

namespace Counter

/-- The kind that a field holds, if it holds a number of at most thirty-two bits. -/
def kind? (field : List Char) : Option UInt32 :=
  match Numeral.parse? field with
  | some n => if h : n.toNat < UInt32.size then some (UInt32.ofNatLT n.toNat h) else none
  | none => none

/-- The counter that the fields of a line describe; fields past the fourth say nothing. -/
def ofFields? : List (List Char) → Option Counter
  | name :: config :: fields =>
    match Numeral.parse? config with
    | none => none
    | some config =>
      if name = [] then none
      else some
        { name := String.ofList name
          config := config
          extended := (fields.head?.bind Numeral.parse?).getD 0
          kind := fields.tail.head?.bind kind? }
  | _ => none

/-- The counter that a line describes, if it describes one. -/
def ofLine? (line : String) : Option Counter :=
  ofFields? (Text.splitOn ',' line.toList)

/-- The line that describes a counter: the extended configuration is left out where it is zero and no kind
follows. -/
def renderChars (counter : Counter) : List Char :=
  counter.name.toList ++ ',' :: Numeral.hexChars counter.config.toNat ++
    match counter.kind with
    | some kind =>
      ',' :: Numeral.hexChars counter.extended.toNat ++ ',' :: Numeral.decimalChars kind.toNat
    | none => if counter.extended = 0 then [] else ',' :: Numeral.hexChars counter.extended.toNat

/-- The line that describes a counter. -/
def render (counter : Counter) : String :=
  String.ofList counter.renderChars

end Counter

end CounterCatalog
