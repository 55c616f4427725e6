import CounterCatalog.Text.Split

/-!
# Event blocks

The event listing describes one event after the other. A fixed line separates the descriptions, so the
listing is cut at that separator into blocks; what stands before the first separator is a block too.
-/

set_option autoImplicit false

namespace CounterCatalog.Event

/-- The first character of the separator between two event descriptions. -/
def separatorHead : Char := '#'

/-- The other characters of the separator, twenty-nine dashes. -/
def separatorTail : List Char := List.replicate 29 '-'

/-- The separator between two event descriptions. -/
def separator : List Char := separatorHead :: separatorTail

/-- The blocks of an event listing, in order; there is always at least one. -/
def blockChars (listing : List Char) : List (List Char) :=
  Text.splitOnWord separatorHead separatorTail listing

/-- The blocks of an event listing, in order; there is always at least one. -/
def blocks (listing : String) : List String :=
  (blockChars listing.toList).map String.ofList

end CounterCatalog.Event
