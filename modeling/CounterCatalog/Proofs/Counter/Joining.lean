import CounterCatalog.Proofs.Counter.LineByLine
import CounterCatalog.Proofs.Counter.ReadBack
import CounterCatalog.Proofs.Text.WellFormed

/-!
# Counter lists behind one another

Bytes can be written behind a counter list that is empty or ends with a line feed. They are read as they are by
themselves, so what could be looked up before gives the same afterwards (`load_append`). Whether a list can be read
at all is decided line by line, and yet it comes to whether the list as a whole is UTF-8 (`counters?_eq_none_iff`), for
a character that has been started never goes on behind a line feed.
-/

set_option autoImplicit false

namespace CounterCatalog

open Text

namespace Text.Utf8

/-- Bytes around an ASCII character are refused as soon as either side of it is. -/
theorem decode?_append_cons_eq_none_iff {byte : UInt8} (hbyte : byte.toNat < 0x80) {before after : List UInt8} :
    decode? (before ++ byte :: after) = none ↔ decode? before = none ∨ decode? after = none := by
  unfold decode?
  rw [decodeChars?_append_cons hbyte]
  cases decodeChars? before <;> cases decodeChars? after <;> simp

end Text.Utf8

namespace Listing

/-- A line is refused exactly if its bytes are no text. -/
theorem fromLine?_eq_none_iff {line : List UInt8} : fromLine? line = none ↔ Utf8.decode? line = none :=
  Option.map_eq_none_iff

/-- Reading fails exactly where strict decoding of all the bytes does. -/
theorem counters?_eq_none_iff {content : List UInt8} : counters? content = none ↔ Utf8.decode? content = none := by
  induction content using piece_induction (0x0A : UInt8) with
  | last line hline => rw [counters?_last hline, fromLine?_eq_none_iff]
  | next line rest hline ih =>
    rw [Utf8.decode?_append_cons_eq_none_iff (by decide), ← fromLine?_eq_none_iff, ← ih,
      counters?_line_append hline]
    cases fromLine? line <;> cases counters? rest <;> simp

/-- Reading fails exactly on bytes that are no text's. -/
theorem counters?_eq_none_iff_encode {content : List UInt8} :
    counters? content = none ↔ ¬ ∃ text : String, content = Utf8.encode text := by
  rw [counters?_eq_none_iff, Option.eq_none_iff_forall_ne_some]
  simp only [ne_eq, Utf8.decode?_eq_some_iff, not_exists]

/-- A name is looked up among the first counters, and among the second only if it is not defined there. -/
theorem pick_append (first second : List Counter) (name path : String) :
    pick (first ++ second) name path =
      match pick first name path with
      | .ok counter => .ok counter
      | .error _ => pick second name path := by
  unfold pick
  rw [List.find?_append]
  cases first.find? fun counter => counter.name = name <;> rfl

/-- **What is written behind a counter list is read behind it.** A list that is empty or ends with a line feed and any
bytes behind it can be read if and only if both can, and then as the counters of both, in order. A list cannot be
read exactly if it is not UTF-8 as a whole. So where both parts can be read, a lookup gives what the first part gives,
and what the second gives only for names that the first does not define. All of this is what loading a file gives that
holds the bytes. -/
theorem load_append {front : List UInt8} (hfront : front = [] ∨ front.getLast? = some 0x0A) (back : List UInt8) :
    (∀ counters, counters? (front ++ back) = some counters ↔
      ∃ first second, counters? front = some first ∧ counters? back = some second ∧ counters = first ++ second) ∧
    (∀ content, counters? content = none ↔ ¬ ∃ text : String, content = Utf8.encode text) ∧
    (∀ counters first second, counters? (front ++ back) = some counters → counters? front = some first →
      counters? back = some second → ∀ name path,
        pick counters name path =
          match pick first name path with
          | .ok counter => .ok counter
          | .error _ => pick second name path) ∧
    (∀ (τ : Type) (host : Host τ) path handle content mode,
      host.tree.locate host.cwd (Utf8.encode path) = .ok (handle, .file content mode) →
        ∃ errors, (load path).perform host = (loaded path content, host.withErrors errors)) := by
  have hjoined : ∀ counters, counters? (front ++ back) = some counters ↔
      ∃ first second, counters? front = some first ∧ counters? back = some second ∧ counters = first ++ second := by
    intro counters
    simp only [counters?_append hfront, Option.bind_eq_some_iff, Option.map_eq_some_iff]
    constructor
    · rintro ⟨first, hfirst, second, hsecond, rfl⟩
      exact ⟨first, second, hfirst, hsecond, rfl⟩
    · rintro ⟨first, second, hfirst, hsecond, rfl⟩
      exact ⟨first, hfirst, second, hsecond, rfl⟩
  refine ⟨hjoined, fun content => counters?_eq_none_iff_encode, ?_, ?_⟩
  · intro counters first second hcounters hfirst hsecond name path
    obtain ⟨first', second', hfirst', hsecond', rfl⟩ := (hjoined counters).1 hcounters
    obtain rfl := Option.some.inj (hfirst.symm.trans hfirst')
    obtain rfl := Option.some.inj (hsecond.symm.trans hsecond')
    exact pick_append first second name path
  · intro τ host path handle content mode hfile
    exact perform_load_file hfile

/-- A list that ends with a line feed, and one behind which nothing stands. -/
def sampleFront : String := "a,1\r\nskipped\na,2\n"

/-- What is written behind it: a name that is defined there too, and one that is not. -/
def sampleBack : String := "a,3\nb,0x4"

/-- The counters of both lists are there, and a name that is in both is that of the first one. -/
theorem load_append_sample :
    ∃ counters errors,
      (load "f").perform (fileHost (Utf8.encode sampleFront ++ Utf8.encode sampleBack)) =
        (.ok counters, (fileHost (Utf8.encode sampleFront ++ Utf8.encode sampleBack)).withErrors errors) ∧
      counters = [⟨"a", 1, 0, none⟩, ⟨"a", 2, 0, none⟩, ⟨"a", 3, 0, none⟩, ⟨"b", 4, 0, none⟩] ∧
      pick counters "a" "f" = .ok ⟨"a", 1, 0, none⟩ ∧ pick counters "b" "f" = .ok ⟨"b", 4, 0, none⟩ := by
  have hfirst : counters? (Utf8.encode sampleFront) = some [⟨"a", 1, 0, none⟩, ⟨"a", 2, 0, none⟩] := by decide +kernel
  have hsecond : counters? (Utf8.encode sampleBack) = some [⟨"a", 3, 0, none⟩, ⟨"b", 4, 0, none⟩] := by decide +kernel
  have hends : Utf8.encode sampleFront = [] ∨ (Utf8.encode sampleFront).getLast? = some 0x0A := by decide +kernel
  obtain ⟨hjoined, -, hpick, hload⟩ := load_append hends (Utf8.encode sampleBack)
  have hcounters := (hjoined _).2 ⟨_, _, hfirst, hsecond, rfl⟩
  obtain ⟨errors, hperform⟩ := hload Unit (fileHost (Utf8.encode sampleFront ++ Utf8.encode sampleBack)) "f" 1 _ _
    (locate_fileHost _)
  refine ⟨_, errors, hperform.trans ?_, rfl, ?_, ?_⟩
  · rw [loaded, hcounters]
    rfl
  · exact hpick _ _ _ hcounters hfirst hsecond "a" "f"
  · exact hpick _ _ _ hcounters hfirst hsecond "b" "f"

end Listing

end CounterCatalog
