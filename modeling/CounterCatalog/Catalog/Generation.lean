import CounterCatalog.Catalog.Records
import CounterCatalog.Checkout.Source
import CounterCatalog.Checkout.Update

/-!
# Generating a catalog

A run brings the checkout up to date, builds it, asks its programs and writes the counter list, in this
order. Every step has to succeed for the next one to be taken.
-/

set_option autoImplicit false

namespace CounterCatalog.Catalog

variable {τ : Type}

/-- Brings the checkout up to date, unless that is to be skipped. -/
def syncStep (launcher : Launcher) (settings : Settings) : Action τ Unit :=
  if settings.skipSync then Action.log .info ("not syncing " ++ settings.checkout)
  else Checkout.sync launcher settings

/-- Builds the checkout, unless that is to be skipped. -/
def buildStep (launcher : Launcher) (settings : Settings) : Action τ Unit :=
  if settings.skipBuild then Action.log .info ("not building " ++ settings.checkout)
  else Checkout.build launcher settings

/-- The last line of a run. -/
def summary (count : Nat) (output : String) : String :=
  "perflist: wrote " ++ Counter.Numeral.decimal count ++ " counter definitions to \"" ++ output ++ "\""

/-- Makes the counter list from the checkout and gives the number of its records. -/
def generate (launcher : Launcher) (settings : Settings) : Action τ Nat := do
  syncStep launcher settings
  buildStep launcher settings
  let checkout ← Checkout.resolve settings.checkout
  let host ← get
  let output := settings.output host.tree host.cwd
  let count ← writeList (Checkout.source launcher checkout) output
  Action.say (summary count output)
  pure count

end CounterCatalog.Catalog
