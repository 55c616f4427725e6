import CounterCatalog.Proofs.Counter.LineByLine
import CounterCatalog.Proofs.Counter.ReadBack

/-!
# How the lines of a counter list end

A counter list gives the same counters, or cannot be read, whatever its lines end with: a carriage return more before
each line feed changes nothing, however many there are already, and neither does a line feed more at the end
(`load_line_ends`). The first carriage return before a line feed is dropped and one that is left stands behind the last
field of its line, where it is a blank (`fromLine?_return`).
-/

set_option autoImplicit false

namespace CounterCatalog

open Text

namespace Listing

/-- The bytes with a carriage return more before every line feed. -/
def withReturns (content : List UInt8) : List UInt8 :=
  content.flatMap fun byte => if byte = 0x0A then [0x0D, 0x0A] else [byte]

/-- Bytes without a line feed get no carriage returns. -/
theorem withReturns_of_not_mem {line : List UInt8} (h : 0x0A ∉ line) : withReturns line = line := by
  unfold withReturns
  induction line with
  | nil => rfl
  | cons byte line ih =>
    rw [List.mem_cons, not_or] at h
    rw [List.flatMap_cons, if_neg (Ne.symm h.1), ih h.2, List.singleton_append]

/-- A line gets a carriage return before its line feed, and then the lines after it get theirs. -/
theorem withReturns_line_append {line : List UInt8} (h : 0x0A ∉ line) (rest : List UInt8) :
    withReturns (line ++ 0x0A :: rest) = (line ++ [0x0D]) ++ 0x0A :: withReturns rest := by
  have hline : withReturns line = line := withReturns_of_not_mem h
  unfold withReturns at hline ⊢
  rw [List.flatMap_append, hline, List.flatMap_cons, if_pos rfl, List.append_assoc]
  rfl

/-- Carriage returns before the line feeds change no counter. -/
theorem counters?_withReturns (content : List UInt8) : counters? (withReturns content) = counters? content := by
  induction content using piece_induction (0x0A : UInt8) with
  | last line hline => rw [withReturns_of_not_mem hline]
  | next line rest hline ih =>
    have hreturn : 0x0A ∉ line ++ [0x0D] := by simp [hline]
    rw [withReturns_line_append hline, counters?_line_append hreturn, counters?_line_append hline,
      fromLine?_return, ih]

/-- A line feed at the end adds an empty line, or ends one that nothing ended. -/
theorem counters?_feed (content : List UInt8) : counters? (content ++ [0x0A]) = counters? content := by
  induction content using piece_induction (0x0A : UInt8) with
  | last line hline => rw [counters?_line hline, counters?_last hline]
  | next line rest hline ih =>
    rw [List.append_assoc, List.cons_append, counters?_line_append hline, counters?_line_append hline, ih]

/-- **What the lines of a counter list end with does not matter.** With a carriage return more before every line feed,
and with a line feed more at the end, a file is loaded as the same counters in the same order, or it cannot be read
either way. -/
theorem load_line_ends {τ τ' : Type} {content changed : List UInt8}
    (hchanged : changed = withReturns content ∨ changed = content ++ [0x0A]) {path : String} {host : Host τ}
    {host' : Host τ'} {handle handle' : Handle} {mode mode' : Nat}
    (hfile : host.tree.locate host.cwd (Utf8.encode path) = .ok (handle, .file content mode))
    (hfile' : host'.tree.locate host'.cwd (Utf8.encode path) = .ok (handle', .file changed mode')) :
    counters? changed = counters? content ∧
      ((load path).perform host').1 = ((load path).perform host).1 := by
  have hsame : counters? changed = counters? content := by
    rcases hchanged with rfl | rfl
    · exact counters?_withReturns content
    · exact counters?_feed content
  obtain ⟨errors, hload⟩ := perform_load_file hfile
  obtain ⟨errors', hload'⟩ := perform_load_file hfile'
  refine ⟨hsame, ?_⟩
  rw [hload, hload', loaded, loaded, hsame]

/-- A list whose lines end with carriage returns, of which one more leaves one behind a name, behind each of the
numbers, and behind a field that says nothing. -/
def returningList : String := "a\r\nb,1\r\nc,2,3\r\nd,4,5,6\r\r\ne,7,8,9,more\r\nf,0xA\r"

/-- The counters of that list. -/
def returningCounters : List Counter :=
  [⟨"b", 1, 0, none⟩, ⟨"c", 2, 3, none⟩, ⟨"d", 4, 5, some 6⟩, ⟨"e", 7, 8, some 9⟩, ⟨"f", 10, 0, none⟩]

/-- A list with carriage returns in odd places is read alike with more of them, and with a line feed more. -/
theorem load_line_ends_sample :
    ((load "f").perform (fileHost (Utf8.encode returningList))).1 = .ok returningCounters ∧
      ((load "f").perform (fileHost (withReturns (Utf8.encode returningList)))).1 =
        ((load "f").perform (fileHost (Utf8.encode returningList))).1 ∧
      ((load "f").perform (fileHost (Utf8.encode returningList ++ [0x0A]))).1 =
        ((load "f").perform (fileHost (Utf8.encode returningList))).1 := by
  have hcounters : counters? (Utf8.encode returningList) = some returningCounters := by decide +kernel
  obtain ⟨errors, hload⟩ := perform_load (locate_fileHost _) hcounters
  obtain ⟨-, hreturns⟩ := load_line_ends (.inl rfl) (locate_fileHost (Utf8.encode returningList)) (locate_fileHost _)
  obtain ⟨-, hfeed⟩ := load_line_ends (.inr rfl) (locate_fileHost (Utf8.encode returningList)) (locate_fileHost _)
  exact ⟨by rw [hload], hreturns, hfeed⟩

end Listing

end CounterCatalog
