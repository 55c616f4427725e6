import CounterCatalog.Text.Utf8

/-!
# Records

A record pairs a label with the code that the encoding tool gave for it. A counter list holds one line
`label,code` per record, without a heading and without escapes.
-/

set_option autoImplicit false

namespace CounterCatalog

/-- A label and its code, verbatim as the tools printed them. -/
structure Record where
  /-- The label of an event or of one of its variants. -/
  label : String
  /-- The code, beginning with `0x`. -/
  code : String
deriving DecidableEq

namespace Record

/-- The line that a record makes, with its line feed. -/
def line (record : Record) : String :=
  record.label ++ "," ++ record.code ++ "\n"

/-- The bytes of a record's line. -/
def bytes (record : Record) : List UInt8 :=
  Text.Utf8.encode record.line

/-- The bytes of the lines of records, one after the other. -/
def listBytes (records : List Record) : List UInt8 :=
  records.flatMap bytes

end Record

end CounterCatalog
