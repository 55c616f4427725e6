import CounterCatalog.Counter.Listing
import CounterCatalog.Proofs.Counter.Numeral
import CounterCatalog.Proofs.Text.Lines
import Mathlib.Data.List.Basic

/-!
# Counters as lines

The line that describes a counter is read as that counter (`ofLine?_render`), provided that its name could stand in a
line at all: it is not empty and has no comma in it. Every counter that was read from a line has such a name
(`named_of_ofLine?`), so every line that describes a counter has a normal form, which is its own normal form
(`render_inverse`). The lines of counters that were read from a text are a counter list again, with the same counters
(`counters?_printed`, `exists_counters?_encode`).
-/

set_option autoImplicit false

namespace CounterCatalog

open Text

namespace Counter

open Numeral

/-- A counter has a name that a line can give it. -/
def Named (counter : Counter) : Prop :=
  counter.name ≠ "" ∧ ',' ∉ counter.name.toList

instance (counter : Counter) : Decidable counter.Named :=
  inferInstanceAs (Decidable (counter.name ≠ "" ∧ ',' ∉ counter.name.toList))

/-! ## The fields of a line -/

/-- The fields behind the name in the line of a counter. -/
def numerals (counter : Counter) : List (List Char) :=
  hexChars counter.config.toNat ::
    match counter.kind with
    | some kind => [hexChars counter.extended.toNat, decimalChars kind.toNat]
    | none => if counter.extended = 0 then [] else [hexChars counter.extended.toNat]

/-- A counter is rendered as its name and its numerals, each behind a comma. -/
theorem renderChars_eq (counter : Counter) :
    counter.renderChars = counter.name.toList ++ counter.numerals.flatMap fun field => ',' :: field := by
  unfold renderChars numerals
  cases counter.kind with
  | some kind => simp
  | none =>
    by_cases hzero : counter.extended = 0
    · simp [hzero]
    · simp [hzero]

/-- Numerals have hexadecimal digits and the letter `x` in them, and no other character. -/
theorem not_mem_numerals {c : Char} (hc : isHexDigit c = false) (hx : c ≠ 'x') (counter : Counter) :
    ∀ field ∈ counter.numerals, c ∉ field := by
  have hdigits : ∀ base n, 1 < base → base ≤ 16 → c ∉ Nat.toDigits base n := by
    intro base n hone hbase hmem
    rw [isHexDigit_of_mem_toDigits hone hbase hmem] at hc
    cases hc
  have hdecimal : ∀ n, c ∉ decimalChars n := fun n => hdigits 10 n (by decide) (by decide)
  have hhex : ∀ n, c ∉ hexChars n := by
    intro n
    have hzero : c ≠ '0' := by
      rintro rfl
      cases hc
    simp only [hexChars, List.mem_cons, not_or]
    exact ⟨hzero, hx, hdigits 16 n (by decide) (by decide)⟩
  unfold numerals
  cases counter.kind with
  | some kind => simp [hhex, hdecimal]
  | none =>
    by_cases hzero : counter.extended = 0
    · simp [hhex, hzero]
    · simp [hhex, hzero]

/-- The line of a named counter has no line feed in it, nor a carriage return at its end. -/
theorem isLine_render {counter : Counter} (hname : '\n' ∉ counter.name.toList) :
    (0x0A : UInt8) ∉ Utf8.encode counter.render ∧ (Utf8.encode counter.render).getLast? ≠ some 0x0D := by
  have hnone : ∀ c, isHexDigit c = false → c ≠ 'x' → c ≠ ',' →
      c ∉ counter.numerals.flatMap fun field => ',' :: field := by
    intro c hc hx hcomma hmem
    obtain ⟨field, hfield, hmem⟩ := List.mem_flatMap.1 hmem
    rcases List.mem_cons.1 hmem with heq | hmem
    · exact hcomma heq
    · exact not_mem_numerals hc hx counter field hfield hmem
  unfold Utf8.encode render
  rw [String.toList_ofList, renderChars_eq]
  constructor
  · show UInt8.ofNat '\n'.toNat ∉ _
    rw [Utf8.mem_encodeChars_iff (by decide), List.mem_append, not_or]
    exact ⟨hname, hnone '\n' (by decide) (by decide) (by decide)⟩
  · apply Utf8.getLast?_encodeChars_append
    · simp [numerals]
    · exact hnone '\r' (by decide) (by decide) (by decide)

/-! ## Reading a line again -/

/-- A kind is read again, since it fits into thirty-two bits. -/
theorem kind?_decimalChars (kind : UInt32) : kind? (decimalChars kind.toNat) = some kind := by
  have hlt : kind.toNat < UInt32.size := kind.toNat_lt
  have hfits : kind.toNat < 2 ^ 64 := by
    unfold UInt32.size at hlt
    omega
  have hnat : (UInt64.ofNat kind.toNat).toNat = kind.toNat := UInt64.toNat_ofNat_of_lt' hfits
  unfold kind?
  rw [parse?_decimalChars hfits]
  simp only [hnat, dif_pos hlt, UInt32.ofNatLT_toNat]

/-- **The line of a counter is read as that counter.** -/
theorem ofLine?_render {counter : Counter} (h : counter.Named) : ofLine? counter.render = some counter := by
  obtain ⟨hempty, hcomma⟩ := h
  have hname : counter.name.toList ≠ [] := fun hnil => hempty (String.toList_eq_nil_iff.1 hnil)
  have hfields : splitOn ',' counter.renderChars = counter.name.toList :: counter.numerals := by
    rw [renderChars_eq]
    exact splitOn_append_flatMap hcomma (not_mem_numerals (by decide) (by decide) counter)
  rw [ofLine?, render, String.toList_ofList, hfields, numerals]
  -- what is left out is what a reader takes for granted: no kind, and zero where no kind follows
  obtain ⟨name, config, extended, kind⟩ := counter
  cases kind with
  | some kind => simp [ofFields?, parse?_hexChars, kind?_decimalChars, hname]
  | none =>
    by_cases hzero : extended = 0
    · simp [ofFields?, parse?_hexChars, hname, hzero]
    · simp [ofFields?, parse?_hexChars, hname, hzero]

/-- A counter that was read from a line is named in it. -/
theorem named_of_ofLine? {line : String} {counter : Counter} (h : ofLine? line = some counter) :
    counter.Named ∧ ∀ c ∈ counter.name.toList, c ∈ line.toList := by
  unfold ofLine? at h
  cases hfields : splitOn ',' line.toList with
  | nil => exact absurd hfields (splitOn_ne_nil _)
  | cons name fields =>
    have hmem : name ∈ splitOn ',' line.toList := by simp [hfields]
    obtain ⟨hcomma, hchars⟩ := of_mem_splitOn hmem
    cases fields with
    | nil => simp [hfields, ofFields?] at h
    | cons config fields =>
      rw [hfields, ofFields?] at h
      split at h
      · cases h
      split at h
      · cases h
      next hname =>
        have hcounter := Option.some.inj h
        have htext : counter.name.toList = name := by rw [← hcounter, String.toList_ofList]
        refine ⟨⟨?_, ?_⟩, ?_⟩
        · intro hempty
          rw [hempty] at htext
          exact hname htext.symm
        · rw [htext]
          exact hcomma
        · rw [htext]
          exact hchars

/-! ## The normal form of a line -/

/-- The normal form of a line that describes a counter: the line that the counter is written as. -/
def normalize? (line : String) : Option String :=
  (ofLine? line).map render

/-- **Reading and writing a counter undo each other.** Exactly the named counters are read from their lines as they
were. What is read from any line is such a counter, so the normal form of a line describes what the line does, and is
not changed by being normalized again. -/
theorem render_inverse (counter : Counter) (line : String) :
    (ofLine? counter.render = some counter ↔ counter.Named) ∧
      (∀ read, ofLine? line = some read → read.Named ∧ ofLine? read.render = some read) ∧
      (normalize? line).bind ofLine? = ofLine? line ∧
      (normalize? line).bind normalize? = normalize? line := by
  have hread : ∀ read, ofLine? line = some read → read.Named ∧ ofLine? read.render = some read := by
    intro read h
    obtain ⟨hnamed, -⟩ := named_of_ofLine? h
    exact ⟨hnamed, ofLine?_render hnamed⟩
  have hsame : (normalize? line).bind ofLine? = ofLine? line := by
    cases hline : ofLine? line with
    | none => simp [normalize?, hline]
    | some read => simp [normalize?, hline, (hread read hline).2]
  refine ⟨?_, hread, hsame, ?_⟩
  · constructor
    · intro h
      exact (named_of_ofLine? h).1
    · exact ofLine?_render
  · calc (normalize? line).bind normalize?
      _ = ((normalize? line).bind ofLine?).map render := Option.map_bind.symm
      _ = normalize? line := by rw [hsame, normalize?]

/-- A counter with the greatest numbers that there are, and a name with blanks and quotes in it. -/
def greatest : Counter :=
  ⟨" \"a\" \r", 0xffffffffffffffff, 0xffffffffffffffff, some 4294967295⟩

/-- A line whose extended configuration cannot be read and whose kind can. -/
def untidyLine : String := "mem loads,\t+461 ,zz,004,more"

/-- The greatest counter survives being rendered, and an untidy line becomes a tidy one that stays so. -/
theorem render_inverse_sample :
    ofLine? greatest.render = some greatest ∧
      ofLine? untidyLine = some ⟨"mem loads", 0x1cd, 0, some 4⟩ ∧
      ofLine? "mem loads,0x1cd,0x0,4" = some ⟨"mem loads", 0x1cd, 0, some 4⟩ ∧
      normalize? "mem loads,0x1cd,0x0,4" = some "mem loads,0x1cd,0x0,4" := by
  have hnamed : greatest.Named := by decide
  have hline : ofLine? untidyLine = some ⟨"mem loads", 0x1cd, 0, some 4⟩ := by decide +kernel
  have hnormal : normalize? untidyLine = some "mem loads,0x1cd,0x0,4" := by decide +kernel
  obtain ⟨hgreatest, hread, -, hagain⟩ := render_inverse greatest untidyLine
  obtain ⟨-, hrender⟩ := hread _ hline
  have htext : (⟨"mem loads", 0x1cd, 0, some 4⟩ : Counter).render = "mem loads,0x1cd,0x0,4" := by decide +kernel
  rw [htext] at hrender
  rw [hnormal, Option.bind_some] at hagain
  exact ⟨hgreatest.2 hnamed, hline, hrender, hagain⟩

end Counter

/-! ## Lists of lines -/

namespace Listing

variable {counters : List Counter}

/-- The lines of counters, each with a line feed behind it. -/
def printed (counters : List Counter) : String :=
  String.ofList (counters.flatMap fun counter => counter.renderChars ++ ['\n'])

/-- The counters have names that lines can give them. -/
def AllNamed (counters : List Counter) : Prop :=
  ∀ counter ∈ counters, counter.Named ∧ '\n' ∉ counter.name.toList

/-- Printed counters are lines that each end in a line feed. -/
theorem encode_printed (counters : List Counter) :
    Utf8.encode (printed counters) =
      (counters.map fun counter => Utf8.encode counter.render).flatMap fun line => line ++ [0x0A] := by
  unfold printed Utf8.encode
  rw [String.toList_ofList]
  induction counters with
  | nil => rfl
  | cons counter counters ih =>
    rw [List.flatMap_cons, Utf8.encodeChars_append, ih, Utf8.encodeChars_append, List.map_cons, List.flatMap_cons,
      Counter.render, String.toList_ofList]
    rfl

/-- The lines of printed counters with names are the renderings of those counters. -/
theorem lines_printed (h : AllNamed counters) :
    lines (Utf8.encode (printed counters)) = (counters.map Counter.render).map some := by
  have hline : ∀ line ∈ counters.map (fun counter => Utf8.encode counter.render),
      (0x0A : UInt8) ∉ line ∧ line.getLast? ≠ some 0x0D :=
    List.forall_mem_map.2 fun counter hcounter => Counter.isLine_render (h counter hcounter).2
  have hone : ∀ counter ∈ counters,
      (Utf8.decode? ∘ fun counter : Counter => Utf8.encode counter.render) counter = (some ∘ Counter.render) counter := by
    intro counter _
    rw [Function.comp_apply, Function.comp_apply, Utf8.decode?_encode]
  rw [lines, encode_printed, terminatedLines_flatMap (fun line hmem => (hline line hmem).1)
    (fun line hmem => (hline line hmem).2), List.map_map, List.map_map, List.map_congr_left hone]

/-- **What is printed of counters is a counter list, and those are its counters.** -/
theorem counters?_printed (h : AllNamed counters) : counters? (Utf8.encode (printed counters)) = some counters := by
  have hread : (counters.map Counter.render).filterMap Counter.ofLine? = counters := by
    have hone : ∀ counter ∈ counters, (Counter.ofLine? ∘ Counter.render) counter = some counter := by
      intro counter hcounter
      rw [Function.comp_apply, Counter.ofLine?_render (h counter hcounter).1]
    rw [List.filterMap_map, List.filterMap_congr hone]
    exact List.filterMap_some
  rw [counters?, lines_printed h, Utf8.mapM_id_map_some, Option.map_some, hread]

/-- The counters of a text have names that lines can give them. -/
theorem exists_counters?_encode (text : String) :
    ∃ counters, counters? (Utf8.encode text) = some counters ∧ AllNamed counters := by
  obtain ⟨texts, hlines, hfeed⟩ := Utf8.exists_terminatedLines_encode text
  have hread : lines (Utf8.encode text) = texts.map some := by
    have hone : ∀ line ∈ texts, (Utf8.decode? ∘ Utf8.encode) line = some line := by
      intro line _
      rw [Function.comp_apply, Utf8.decode?_encode]
    rw [lines, hlines, List.map_map, List.map_congr_left hone]
  have hcounters : counters? (Utf8.encode text) = some (texts.filterMap Counter.ofLine?) := by
    rw [counters?, hread, Utf8.mapM_id_map_some, Option.map_some]
  refine ⟨_, hcounters, ?_⟩
  intro counter hcounter
  obtain ⟨line, hline, hcounter⟩ := List.mem_filterMap.1 hcounter
  obtain ⟨hnamed, hchars⟩ := Counter.named_of_ofLine? hcounter
  exact ⟨hnamed, fun hmem => hfeed line hline (hchars _ hmem)⟩

end Listing

end CounterCatalog
