import CounterCatalog.Counter.Listing
import CounterCatalog.Proofs.Text.Decoding
import CounterCatalog.Proofs.Text.Lines
import Mathlib.Data.List.Basic

/-!
# Counter lists line by line

A counter list is read as its lines are, one after the other (`counters?_append`), and a line gives the same counter
with and without a line feed behind it (`counters?_line`). For the second it matters that the blanks around the fields
behind a name do not count (`ofFields?_congr`): a carriage return that is taken for a part of the line stands at
the end of its last field, and a line whose last field is its name describes no counter.
-/

set_option autoImplicit false

namespace CounterCatalog

open Text

namespace Counter

/-! ## Blanks around fields -/

/-- A blank more at the end of a field is trimmed with the others. -/
theorem trimBlank_concat {c : Char} (hc : isBlank c = true) (field : List Char) :
    trimBlank (field ++ [c]) = trimBlank field := by
  have hback : ∀ text, trimBack (text ++ [c]) = trimBack text := by
    intro text
    simp [trimBack, hc]
  unfold trimBlank trimFront
  rw [List.dropWhile_append]
  split
  · next hblank =>
    rw [List.isEmpty_iff] at hblank
    simp [hblank, hc]
  · exact hback _

/-- A number is read from what is left of a field when it is trimmed. -/
theorem parse?_congr {field field' : List Char} (h : trimBlank field = trimBlank field') :
    Numeral.parse? field = Numeral.parse? field' := by
  unfold Numeral.parse?
  rw [h]

/-- A kind is read from what is left of a field when it is trimmed. -/
theorem kind?_congr {field field' : List Char} (h : trimBlank field = trimBlank field') :
    kind? field = kind? field' := by
  unfold kind?
  rw [parse?_congr h]

/-- What is read of the first field, if there is one, is read without the blanks around it. -/
theorem head?_bind_congr {α : Type} {read : List Char → Option α}
    (hread : ∀ {field field'}, trimBlank field = trimBlank field' → read field = read field')
    {fields fields' : List (List Char)} (h : fields.map trimBlank = fields'.map trimBlank) :
    fields.head?.bind read = fields'.head?.bind read := by
  cases fields with
  | nil =>
    have hnil : fields' = [] := List.map_eq_nil_iff.1 h.symm
    rw [hnil]
  | cons field fields =>
    obtain ⟨field', fields', rfl, hfield, -⟩ := List.map_eq_cons_iff.1 h.symm
    exact hread hfield.symm

/-- Blanks around the fields behind the name do not count. -/
theorem ofFields?_congr {name : List Char} {fields fields' : List (List Char)}
    (h : fields.map trimBlank = fields'.map trimBlank) : ofFields? (name :: fields) = ofFields? (name :: fields') := by
  cases fields with
  | nil =>
    have hnil : fields' = [] := List.map_eq_nil_iff.1 h.symm
    rw [hnil]
  | cons config fields =>
    obtain ⟨config', fields', rfl, hconfig, hfields⟩ := List.map_eq_cons_iff.1 h.symm
    have htail : fields.tail.map trimBlank = fields'.tail.map trimBlank := by
      rw [List.map_tail, List.map_tail, hfields]
    rw [ofFields?, ofFields?, parse?_congr hconfig, head?_bind_congr parse?_congr hfields,
      head?_bind_congr kind?_congr htail]

/-- A blank at the end of a line changes no field but for its blanks. -/
theorem map_trimBlank_splitOn_concat {c : Char} (hc : isBlank c = true) (hcomma : c ≠ ',') (text : List Char) :
    (splitOn ',' (text ++ [c])).map trimBlank = (splitOn ',' text).map trimBlank := by
  induction text using piece_induction ',' with
  | last piece hpiece =>
    have hpiece' : ',' ∉ piece ++ [c] := by simp [hpiece, Ne.symm hcomma]
    rw [splitOn_of_not_mem hpiece, splitOn_of_not_mem hpiece', List.map_singleton, List.map_singleton,
      trimBlank_concat hc]
  | next piece rest hpiece ih =>
    rw [List.append_assoc, List.cons_append, splitOn_append_cons hpiece, splitOn_append_cons hpiece, List.map_cons,
      List.map_cons, ih]

/-- A blank at the end of a line does not count: it is one behind a number, behind a field that says nothing, or behind
the name of a line that has nothing else and describes no counter. -/
theorem ofLine?_concat {c : Char} (hc : isBlank c = true) (hcomma : c ≠ ',') (text : List Char) :
    ofLine? (String.ofList (text ++ [c])) = ofLine? (String.ofList text) := by
  unfold ofLine?
  rw [String.toList_ofList, String.toList_ofList]
  by_cases hmem : ',' ∈ text
  · obtain ⟨name, rest, rfl, hname⟩ := List.eq_append_cons_of_mem hmem
    rw [List.append_assoc, List.cons_append, splitOn_append_cons hname, splitOn_append_cons hname]
    exact ofFields?_congr (map_trimBlank_splitOn_concat hc hcomma rest)
  · have hmem' : ',' ∉ text ++ [c] := by simp [hmem, Ne.symm hcomma]
    rw [splitOn_of_not_mem hmem, splitOn_of_not_mem hmem']
    rfl

end Counter

namespace Listing

/-! ## Lines -/

/-- What a line gives a counter list: one counter or none, if the line is UTF-8. -/
def fromLine? (line : List UInt8) : Option (List Counter) :=
  (Utf8.decode? line).map fun text => (Counter.ofLine? text).toList

/-- A carriage return at the end of a line does not count. -/
theorem fromLine?_return (line : List UInt8) : fromLine? (line ++ [0x0D]) = fromLine? line := by
  have hdecode : Utf8.decodeChars? (line ++ [0x0D]) = (Utf8.decodeChars? line).map fun text => text ++ ['\r'] := by
    rw [Utf8.decodeChars?_append_cons (by decide) line []]
    cases Utf8.decodeChars? line <;> rfl
  unfold fromLine? Utf8.decode?
  rw [hdecode]
  cases Utf8.decodeChars? line with
  | none => rfl
  | some text =>
    simp only [Option.map_some]
    rw [Counter.ofLine?_concat (by decide) (by decide)]

/-- Whether the carriage return at the end of a line is dropped makes no difference. -/
theorem fromLine?_dropReturn (line : List UInt8) : fromLine? (dropReturn line) = fromLine? line := by
  unfold dropReturn
  split
  · next hlast =>
    obtain ⟨front, rfl⟩ := List.getLast?_eq_some_iff.1 hlast
    rw [List.dropLast_concat, fromLine?_return]
  · rfl

/-- The counters of a single line are those that are read from it. -/
theorem counters?_eq {bytes line : List UInt8} (h : terminatedLines bytes = [line]) :
    counters? bytes = fromLine? line := by
  unfold counters? lines fromLine?
  rw [h]
  cases hdecode : Utf8.decode? line with
  | none => simp [hdecode]
  | some text => cases hread : Counter.ofLine? text <;> simp [hdecode, hread]

/-- A line that nothing ends gives what it gives, and no bytes at all are as good as an empty line. -/
theorem counters?_last {line : List UInt8} (h : 0x0A ∉ line) : counters? line = fromLine? line := by
  have hlines := terminatedLines_of_not_mem h
  by_cases hempty : line = []
  · rw [hempty]
    rfl
  · rw [if_neg hempty] at hlines
    exact counters?_eq hlines

/-- A line with a line feed behind it gives what it gives. -/
theorem counters?_line {line : List UInt8} (h : 0x0A ∉ line) : counters? (line ++ [0x0A]) = fromLine? line := by
  have hlines : terminatedLines (line ++ [0x0A]) = [dropReturn line] := by
    rw [terminatedLines_append_feed, splitOn_of_not_mem h]
    rfl
  rw [counters?_eq hlines, fromLine?_dropReturn]

/-- Bytes of which the first end with a line feed give what both parts give, in order. -/
theorem counters?_append {front : List UInt8} (h : front = [] ∨ front.getLast? = some 0x0A) (back : List UInt8) :
    counters? (front ++ back) =
      (counters? front).bind fun first => (counters? back).map fun second => first ++ second := by
  unfold counters? lines
  rw [terminatedLines_append h, List.map_append, List.mapM_append]
  cases ((terminatedLines front).map Utf8.decode?).mapM id with
  | none => rfl
  | some first =>
    cases ((terminatedLines back).map Utf8.decode?).mapM id with
    | none => rfl
    | some second => simp

/-- The first line of a counter list is read by itself. -/
theorem counters?_line_append {line : List UInt8} (h : 0x0A ∉ line) (rest : List UInt8) :
    counters? (line ++ 0x0A :: rest) =
      (fromLine? line).bind fun first => (counters? rest).map fun second => first ++ second := by
  have hends : line ++ [0x0A] = [] ∨ (line ++ [0x0A]).getLast? = some 0x0A := .inr List.getLast?_concat
  have hbytes : line ++ 0x0A :: rest = (line ++ [0x0A]) ++ rest := by simp
  rw [hbytes, counters?_append hends, counters?_line h]

end Listing

end CounterCatalog
