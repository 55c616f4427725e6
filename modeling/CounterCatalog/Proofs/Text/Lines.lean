import CounterCatalog.Proofs.Text.Split
import CounterCatalog.Proofs.Text.Utf8

/-!
# The lines of a text

Cutting the bytes of a text into lines cuts the text: every line is the bytes of a text that has no line feed in it
(`exists_of_mem_terminatedLines`). Lines that are each written with a line feed behind them are cut apart again
(`terminatedLines_flatMap`). Behind a line feed the lines begin afresh, so the lines of bytes that end with one and of
any bytes behind them are the lines of both (`terminatedLines_append`).
-/

set_option autoImplicit false

namespace CounterCatalog.Text

/-! ## Pieces -/

section Pieces

variable {α : Type} [DecidableEq α] {sep : α}

/-- There is always a piece. -/
theorem splitOn_ne_nil (text : List α) : splitOn sep text ≠ [] := by
  induction text with
  | nil => simp [splitOn]
  | cons a text ih =>
    unfold splitOn
    split
    · simp
    · cases hsplit : splitOn sep text with
      | nil => exact absurd hsplit ih
      | cons piece pieces => simp [consFirst]

/-- The pieces of a text have no separator in them, and nothing but what is in the text. -/
theorem of_mem_splitOn {text piece : List α} (h : piece ∈ splitOn sep text) :
    sep ∉ piece ∧ ∀ a ∈ piece, a ∈ text := by
  induction text generalizing piece with
  | nil =>
    have hempty : piece = [] := by simpa [splitOn] using h
    simp [hempty]
  | cons a text ih =>
    have hrest : ∀ other ∈ splitOn sep text, sep ∉ other ∧ ∀ b ∈ other, b ∈ a :: text := by
      intro other hother
      obtain ⟨hsep, hmem⟩ := ih hother
      exact ⟨hsep, fun b hb => List.mem_cons_of_mem a (hmem b hb)⟩
    unfold splitOn at h
    split at h
    · rcases List.mem_cons.1 h with rfl | h
      · simp
      · exact hrest piece h
    · next hne =>
      cases hsplit : splitOn sep text with
      | nil => exact absurd hsplit (splitOn_ne_nil text)
      | cons first pieces =>
        rw [hsplit] at h hrest
        rcases List.mem_cons.1 h with rfl | h
        · obtain ⟨hsep, hmem⟩ := hrest first (by simp)
          constructor
          · simp [hsep, Ne.symm hne]
          · intro b hb
            rcases List.mem_cons.1 hb with rfl | hb
            · simp
            · exact hmem b hb
        · exact hrest piece (by simp [h])

/-- Elements that are no separators come to stand in front of the first piece. -/
theorem splitOn_append_of_not_mem {front : List α} (h : sep ∉ front) (text : List α) :
    splitOn sep (front ++ text) = front.foldr consFirst (splitOn sep text) := by
  induction front with
  | nil => rfl
  | cons a front ih =>
    rw [List.mem_cons, not_or] at h
    rw [List.cons_append, splitOn, if_neg (Ne.symm h.1), ih h.2]
    rfl

/-- Cutting at a separator cuts nothing else, whatever stands on either side of it. -/
theorem splitOn_append_sep (left right : List α) :
    splitOn sep (left ++ sep :: right) = splitOn sep left ++ splitOn sep right := by
  induction left with
  | nil => simp [splitOn]
  | cons a left ih =>
    rw [List.cons_append, splitOn, splitOn]
    by_cases ha : a = sep
    · rw [if_pos ha, if_pos ha, ih, List.cons_append]
    · rw [if_neg ha, if_neg ha, ih, consFirst_append a (splitOn_ne_nil left)]

/-- Pieces with a separator between any two of them are cut apart again. -/
theorem splitOn_intercalate {pieces : List (List α)} (hne : pieces ≠ []) (h : ∀ piece ∈ pieces, sep ∉ piece) :
    splitOn sep ([sep].intercalate pieces) = pieces := by
  induction pieces with
  | nil => exact absurd rfl hne
  | cons piece pieces ih =>
    rw [List.forall_mem_cons] at h
    by_cases hpieces : pieces = []
    · rw [hpieces, List.intercalate_singleton, splitOn_of_not_mem h.1]
    · rw [List.intercalate_cons_of_ne_nil hpieces, List.append_assoc, List.singleton_append, splitOn_append_sep,
        splitOn_of_not_mem h.1, ih hpieces h.2, List.singleton_append]

/-- A text is one piece, or a piece, a separator and a text. -/
theorem piece_induction (sep : α) {motive : List α → Prop} (last : ∀ piece, sep ∉ piece → motive piece)
    (next : ∀ piece rest, sep ∉ piece → motive rest → motive (piece ++ sep :: rest)) (text : List α) :
    motive text := by
  induction hn : text.length using Nat.strongRecOn generalizing text with
  | ind n ih =>
    by_cases hsep : sep ∈ text
    · obtain ⟨piece, rest, rfl, hpiece⟩ := List.eq_append_cons_of_mem hsep
      apply next piece rest hpiece
      apply ih rest.length _ rest rfl
      rw [List.length_append, List.length_cons] at hn
      omega
    · exact last text hsep

end Pieces

/-! ## Lines -/

/-- A line without the carriage return at its end, if it has one. -/
def dropReturn (line : List UInt8) : List UInt8 :=
  if line.getLast? = some 0x0D then line.dropLast else line

/-- Up to a line feed, lines are what stands between line feeds, without a carriage return; behind it they begin
afresh. -/
theorem terminatedLines_append_feed (left right : List UInt8) :
    terminatedLines (left ++ 0x0A :: right) = (splitOn 0x0A left).map dropReturn ++ terminatedLines right := by
  have hne : splitOn 0x0A right ≠ [] := splitOn_ne_nil right
  have hlast : (splitOn 0x0A left ++ splitOn 0x0A right).getLast? = (splitOn 0x0A right).getLast? := by
    rw [List.getLast?_append, List.getLast?_eq_some_getLast hne, Option.some_or]
  unfold terminatedLines
  simp only [splitOn_append_sep, List.dropLast_append_of_ne_nil hne, hlast, List.map_append]
  split
  · rw [List.append_assoc]
    rfl
  · rfl

/-- The lines of bytes of which the first end with a line feed are the lines of both parts. -/
theorem terminatedLines_append {front : List UInt8} (h : front = [] ∨ front.getLast? = some 0x0A)
    (back : List UInt8) : terminatedLines (front ++ back) = terminatedLines front ++ terminatedLines back := by
  rcases h with rfl | h
  · rfl
  · obtain ⟨left, rfl⟩ := List.getLast?_eq_some_iff.1 h
    have hempty : terminatedLines [] = [] := rfl
    rw [List.append_assoc, List.singleton_append, terminatedLines_append_feed, terminatedLines_append_feed, hempty,
      List.append_nil]

/-- Bytes without a line feed are one line, or none if there are no bytes. -/
theorem terminatedLines_of_not_mem {line : List UInt8} (h : 0x0A ∉ line) :
    terminatedLines line = if line = [] then [] else [line] := by
  unfold terminatedLines
  rw [splitOn_of_not_mem h]
  cases line <;> rfl

/-- Lines that were written one after the other are read again. -/
theorem terminatedLines_flatMap {lines : List (List UInt8)} (hfeed : ∀ line ∈ lines, (0x0A : UInt8) ∉ line)
    (hreturn : ∀ line ∈ lines, line.getLast? ≠ some 0x0D) :
    terminatedLines (lines.flatMap fun line => line ++ [0x0A]) = lines := by
  unfold terminatedLines
  simp only [splitOn_flatMap hfeed, List.dropLast_concat, List.getLast?_concat]
  have hkept : ∀ line ∈ lines, (if line.getLast? = some 0x0D then line.dropLast else line) = line := by
    intro line hline
    exact if_neg (hreturn line hline)
  rw [List.map_congr_left hkept, List.map_id']

/-- A line is one of the pieces between line feeds, or it is one without the carriage return at its end. -/
theorem mem_splitOn_of_mem_terminatedLines {bytes line : List UInt8} (h : line ∈ terminatedLines bytes) :
    line ∈ splitOn 0x0A bytes ∨ line ++ [0x0D] ∈ splitOn 0x0A bytes := by
  have hwhole : line ∈ (splitOn 0x0A bytes).dropLast.map
      (fun piece => if piece.getLast? = some 0x0D then piece.dropLast else piece) →
      line ∈ splitOn 0x0A bytes ∨ line ++ [0x0D] ∈ splitOn 0x0A bytes := by
    intro hmem
    obtain ⟨piece, hpiece, hline⟩ := List.mem_map.1 hmem
    have hpiece := List.dropLast_subset _ hpiece
    split at hline
    · next hlast =>
      obtain ⟨front, rfl⟩ := List.getLast?_eq_some_iff.1 hlast
      rw [List.dropLast_concat] at hline
      right
      rw [← hline]
      exact hpiece
    · left
      rw [← hline]
      exact hpiece
  simp only [terminatedLines] at h
  split at h
  · next hlast =>
    rcases List.mem_append.1 h with h | h
    · exact hwhole h
    · left
      rw [List.mem_singleton.1 h]
      exact List.mem_of_getLast? hlast
  · exact hwhole h

namespace Utf8

/-- Every character has bytes. -/
theorem encodeChar_ne_nil (c : Char) : encodeChar c ≠ [] := by
  unfold encodeChar
  simp only
  split
  · simp
  split
  · simp
  split <;> simp

/-- A text that goes on without a carriage return has none at its end. -/
theorem getLast?_encodeChars_append {front back : List Char} (hback : back ≠ []) (hreturn : '\r' ∉ back) :
    (encodeChars (front ++ back)).getLast? ≠ some 0x0D := by
  have hne : encodeChars back ≠ [] := by
    cases back with
    | nil => exact absurd rfl hback
    | cons c back => simp [encodeChar_ne_nil]
  rw [encodeChars_append, List.getLast?_append, List.getLast?_eq_some_getLast hne, Option.some_or]
  intro hlast
  rw [Option.some.injEq] at hlast
  have hmem := List.getLast_mem hne
  rw [hlast] at hmem
  exact hreturn ((mem_encodeChars_iff (show '\r'.toNat < 0x80 by decide)).1 hmem)

/-- The bytes of a text are cut at an ASCII character where the text is. -/
theorem splitOn_encodeChars {sep : Char} (hsep : sep.toNat < 0x80) (text : List Char) :
    splitOn (UInt8.ofNat sep.toNat) (encodeChars text) = (splitOn sep text).map encodeChars := by
  have hbyte : (UInt8.ofNat sep.toNat).toNat = sep.toNat := toNat_byte (by omega)
  induction text with
  | nil => rfl
  | cons c text ih =>
    rw [encodeChars_cons, splitOn]
    by_cases hc : c = sep
    · rw [if_pos hc, hc, encodeChar_one hsep, List.singleton_append, splitOn, if_pos rfl, ih]
      rfl
    · have hnone : UInt8.ofNat sep.toNat ∉ encodeChar c := by
        rw [mem_encodeChar_iff (by omega), hbyte, Char.toNat_inj]
        exact hc
      rw [if_neg hc, splitOn_append_of_not_mem hnone, ih]
      cases hsplit : splitOn sep text with
      | nil => exact absurd hsplit (splitOn_ne_nil text)
      | cons piece pieces => rw [List.map_cons, foldr_consFirst, consFirst, List.map_cons, encodeChars_cons]

/-- **Every line of a text's bytes is the bytes of a text** that has no line feed in it. -/
theorem exists_of_mem_terminatedLines {text : List Char} {line : List UInt8}
    (h : line ∈ terminatedLines (encodeChars text)) : ∃ chars, line = encodeChars chars ∧ '\n' ∉ chars := by
  have hpieces : ∀ piece ∈ splitOn 0x0A (encodeChars text), ∃ chars, piece = encodeChars chars ∧ '\n' ∉ chars := by
    intro piece hpiece
    have hsplit : splitOn 0x0A (encodeChars text) = (splitOn '\n' text).map encodeChars :=
      splitOn_encodeChars (show '\n'.toNat < 0x80 by decide) text
    rw [hsplit] at hpiece
    obtain ⟨chars, hchars, rfl⟩ := List.mem_map.1 hpiece
    exact ⟨chars, rfl, (of_mem_splitOn hchars).1⟩
  rcases mem_splitOn_of_mem_terminatedLines h with hwhole | hreturn
  · exact hpieces line hwhole
  · -- the carriage return that was dropped is the last character of its piece
    obtain ⟨chars, hchars, hfeed⟩ := hpieces _ hreturn
    rcases List.eq_nil_or_concat chars with rfl | ⟨front, c, rfl⟩
    · simp at hchars
    · have hc : c = '\r' := by
        have hlast : (0x0D : UInt8) ∈ encodeChar c := by
          have hget := congrArg List.getLast? hchars
          rw [List.getLast?_concat, List.concat_eq_append, encodeChars_append, encodeChars_cons, encodeChars_nil,
            List.append_nil, List.getLast?_append, List.getLast?_eq_some_getLast (encodeChar_ne_nil c),
            Option.some_or, Option.some.injEq] at hget
          rw [hget]
          exact List.getLast_mem _
        exact Char.toNat_inj.1 ((mem_encodeChar_iff (by decide)).1 hlast)
      have hone : encodeChar c = [0x0D] := by
        rw [hc]
        rfl
      rw [List.concat_eq_append, encodeChars_append, encodeChars_cons, encodeChars_nil, List.append_nil, hone] at hchars
      refine ⟨front, List.append_cancel_right hchars, ?_⟩
      intro hmem
      exact hfeed (by simp [hmem])

/-- The lines of a text in bytes are the bytes of texts without a line feed. -/
theorem exists_terminatedLines_encode (text : String) :
    ∃ lines : List String, terminatedLines (encode text) = lines.map encode ∧ ∀ line ∈ lines, '\n' ∉ line.toList := by
  have hlines : ∀ line ∈ terminatedLines (encode text), ∃ chars, line = encodeChars chars ∧ '\n' ∉ chars :=
    fun line hline => exists_of_mem_terminatedLines hline
  generalize terminatedLines (encode text) = pieces at hlines ⊢
  induction pieces with
  | nil => exact ⟨[], rfl, by simp⟩
  | cons line rest ih =>
    rw [List.forall_mem_cons] at hlines
    obtain ⟨⟨chars, hline, hfeed⟩, hrest⟩ := hlines
    obtain ⟨lines, hmap, hfeeds⟩ := ih hrest
    refine ⟨String.ofList chars :: lines, ?_, ?_⟩
    · rw [List.map_cons, ← hmap, encode, String.toList_ofList, ← hline]
    · rw [List.forall_mem_cons, String.toList_ofList]
      exact ⟨hfeed, hfeeds⟩

end Utf8

end CounterCatalog.Text
