import CounterCatalog.Counter.Listing
import CounterCatalog.Event.Code
import CounterCatalog.Event.Label
import CounterCatalog.Event.Source

/-!
# From an event source to a counter list

The labels come from the source's listing, and the source is then asked about each of them, in order. A label
for which it gives no code is left out. The counter list is written only after the source has answered for
every label, so a failure on the way leaves the output as it was.
-/

set_option autoImplicit false

namespace CounterCatalog.Catalog

variable {τ : Type}

/-- The labels of all events that a source lists. -/
def findLabels (source : EventSource τ) : Action τ (List String) := do
  let labels := Event.labels (← source.listing)
  Action.log .info ("found " ++ Counter.Numeral.decimal labels.length ++ " event labels")
  pure labels

/-- The record for a label, if the source has a code for it. -/
def resolveLabel (source : EventSource τ) (label : String) : Action τ (Option Record) := do
  match Event.code? (← source.answer label) with
  | some code =>
    Action.log .trace (label ++ " -> " ++ code)
    pure (some ⟨label, code⟩)
  | none =>
    Action.log .debug ("no code for " ++ label)
    pure none

/-- The records for labels, in order, without those that have no code. -/
def resolveLabels (source : EventSource τ) : List String → Action τ (List Record)
  | [] => pure []
  | label :: labels => do
    let record ← resolveLabel source label
    let records ← resolveLabels source labels
    pure (record.toList ++ records)

/-- Writes the counter list of a source to the file at a path and gives the number of its records. -/
def writeList (source : EventSource τ) (output : String) : Action τ Nat := do
  let labels ← findLabels source
  let records ← resolveLabels source labels
  Listing.save output records

end CounterCatalog.Catalog
