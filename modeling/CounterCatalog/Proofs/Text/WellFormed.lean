import CounterCatalog.Proofs.Text.Decoding

/-!
# Well-formed bytes

Strict decoding accepts the bytes of texts and no others (`decode?_eq_some_iff`): where no piece is ill formed, the
bytes are those that the characters read from them are written with. The bounds that the first byte of a character sets
on the second are what this rests on. They leave out exactly the forms that are longer than they need to be, the
surrogates, and what lies past the last code point.
-/

set_option autoImplicit false

namespace CounterCatalog.Text.Utf8

/-- A number that is no surrogate and not past the last code point is that of a character. -/
theorem toNat_ofNat {n : Nat} (h : n < 0xD800 ∨ 0xDFFF < n ∧ n < 0x110000) : (Char.ofNat n).toNat = n := by
  have hvalid : n.isValidChar := h
  rw [Char.ofNat, dif_pos hvalid]
  rfl

/-- The byte with the number of a byte is that byte. -/
theorem ofNat_eq (byte : UInt8) {n : Nat} (h : n = byte.toNat) : UInt8.ofNat n = byte := by
  rw [h, UInt8.ofNat_toNat]

/-! ## What has been started -/

/-- However the bytes read so far are gone on with inside the bounds, they and the bytes that are due are the bytes of
the character that is read. -/
def Finishes (front : List UInt8) (bits least greatest : Nat) : Nat → Prop
  | 0 => ∀ byte : UInt8, least ≤ byte.toNat → byte.toNat ≤ greatest →
      encodeChar (Char.ofNat (bits * 64 + (byte.toNat - 0x80))) = front ++ [byte]
  | after + 1 => ∀ byte : UInt8, least ≤ byte.toNat → byte.toNat ≤ greatest →
      Finishes (front ++ [byte]) (bits * 64 + (byte.toNat - 0x80)) 0x80 0xBF after

/-- One byte that begins a character of two finishes with the byte that is due. -/
theorem finishes_two {first : UInt8} (hfirst : 0xC2 ≤ first.toNat ∧ first.toNat < 0xE0) :
    Finishes [first] (first.toNat - 0xC0) 0x80 0xBF 0 := by
  intro second hleast hgreatest
  generalize hn : (first.toNat - 0xC0) * 64 + (second.toNat - 0x80) = n
  have hchar : (Char.ofNat n).toNat = n := toNat_ofNat (by omega)
  rw [encodeChar_two (by omega) (by omega), hchar, ofNat_eq first (by omega),
    ofNat_eq second (by omega)]
  rfl

/-- The bounds on the second of three bytes leave out shorter forms and surrogates. -/
theorem finishes_three {first : UInt8} {least greatest : Nat} (hfirst : 0xE0 ≤ first.toNat ∧ first.toNat < 0xF0)
    (hleast : 0x80 ≤ least) (hgreatest : greatest ≤ 0xBF) (hlong : first.toNat = 0xE0 → 0xA0 ≤ least)
    (hsurrogate : first.toNat = 0xED → greatest ≤ 0x9F) :
    Finishes [first] (first.toNat - 0xE0) least greatest 1 := by
  intro second _ _ third _ _
  generalize hn : ((first.toNat - 0xE0) * 64 + (second.toNat - 0x80)) * 64 + (third.toNat - 0x80) = n
  have hchar : (Char.ofNat n).toNat = n := toNat_ofNat (by omega)
  rw [encodeChar_three (by omega) (by omega), hchar, ofNat_eq first (by omega),
    ofNat_eq second (by omega), ofNat_eq third (by omega)]
  rfl

/-- The bounds on the second of four bytes leave out shorter forms and what lies past the last code point. -/
theorem finishes_four {first : UInt8} {least greatest : Nat} (hfirst : 0xF0 ≤ first.toNat ∧ first.toNat < 0xF5)
    (hleast : 0x80 ≤ least) (hgreatest : greatest ≤ 0xBF) (hlong : first.toNat = 0xF0 → 0x90 ≤ least)
    (hlast : first.toNat = 0xF4 → greatest ≤ 0x8F) : Finishes [first] (first.toNat - 0xF0) least greatest 2 := by
  intro second _ _ third _ _ fourth _ _
  generalize hn : (((first.toNat - 0xF0) * 64 + (second.toNat - 0x80)) * 64 + (third.toNat - 0x80)) * 64 +
    (fourth.toNat - 0x80) = n
  have hchar : (Char.ofNat n).toNat = n := toNat_ofNat (by omega)
  rw [encodeChar_four (by omega), hchar, ofNat_eq first (by omega), ofNat_eq second (by omega),
    ofNat_eq third (by omega), ofNat_eq fourth (by omega)]
  rfl

/-- Whatever begins a character finishes with the bytes that are due. -/
theorem finishes_of_lead {byte : UInt8} {state : Started} (h : lead byte = .begins state) :
    Finishes [byte] state.bits state.least state.greatest state.after := by
  obtain ⟨hlow, hhigh, rfl⟩ | ⟨least, greatest, hlow, hhigh, hleast, hgreatest, hlong, hsurrogate, rfl⟩ |
    ⟨least, greatest, hlow, hhigh, hleast, hgreatest, hlong, hlast, rfl⟩ := begins_of_lead h
  · exact finishes_two ⟨hlow, hhigh⟩
  · exact finishes_three ⟨hlow, hhigh⟩ hleast hgreatest hlong hsurrogate
  · exact finishes_four ⟨hlow, hhigh⟩ hleast hgreatest hlong hlast

/-- A byte that is read as a character is the encoding of that character. -/
theorem encodeChar_of_lead {byte : UInt8} {c : Char} (h : lead byte = .whole c) : encodeChar c = [byte] := by
  have hcases := lead_cases byte
  rw [h] at hcases
  obtain ⟨hascii, rfl⟩ := hcases
  have hchar : (Char.ofNat byte.toNat).toNat = byte.toNat := toNat_ofNat (by omega)
  rw [encodeChar_one (by omega), hchar, UInt8.ofNat_toNat]

/-! ## Reading only what was written -/

/-- What the bytes read so far promise: nothing has been started, or what has been started can be finished. -/
def Pending (front : List UInt8) : Option Started → Prop
  | none => front = []
  | some state => Finishes front state.bits state.least state.greatest state.after

/-- Bytes in which no piece is ill formed are the bytes of what is read, those of a character that has been started
before them included. -/
theorem encodeChars_of_marksFrom {bytes front : List UInt8} {started : Option Started} {text : List Char}
    (hpending : Pending front started) (h : text.map some = marksFrom started bytes) :
    encodeChars text = front ++ bytes := by
  induction bytes generalizing started front text with
  | nil =>
    cases started with
    | none =>
      have hfront : front = [] := hpending
      have htext : text = [] := List.map_eq_nil_iff.1 h
      rw [hfront, htext]
      rfl
    | some state => simp [marksFrom, List.map_eq_cons_iff] at h
  | cons byte bytes ih =>
    have hnothing : Pending [] none := rfl
    have hwhole : ∀ c, text.map some = some c :: marksFrom none bytes →
        ∃ rest, text = c :: rest ∧ encodeChars rest = bytes := by
      intro c hmarks
      obtain ⟨d, rest, rfl, hd, hrest⟩ := List.map_eq_cons_iff.1 hmarks
      obtain rfl := Option.some.inj hd
      exact ⟨rest, rfl, ih hnothing hrest⟩
    cases started with
    | none =>
      obtain rfl : front = [] := hpending
      rw [marksFrom] at h
      split at h
      · next c hlead =>
        obtain ⟨rest, rfl, hrest⟩ := hwhole c h
        rw [encodeChars_cons, encodeChar_of_lead hlead, hrest]
        rfl
      · next state hlead =>
        have hstarted : Pending [byte] (some state) := finishes_of_lead hlead
        exact ih hstarted h
      · simp [List.map_eq_cons_iff] at h
    | some state =>
      obtain ⟨bits, least, greatest, after⟩ := state
      by_cases hgoes : least ≤ byte.toNat ∧ byte.toNat ≤ greatest
      · rw [marksFrom, if_pos hgoes] at h
        cases after with
        | zero =>
          obtain ⟨rest, rfl, hrest⟩ := hwhole _ h
          have hchar := hpending byte hgoes.1 hgoes.2
          rw [encodeChars_cons, hchar, hrest, List.append_assoc, List.singleton_append]
        | succ after =>
          have hnext : Pending (front ++ [byte]) (some ⟨bits * 64 + (byte.toNat - 0x80), 0x80, 0xBF, after⟩) :=
            hpending byte hgoes.1 hgoes.2
          rw [ih hnext h, List.append_assoc, List.singleton_append]
      · rw [marksFrom_break hgoes] at h
        simp [List.map_eq_cons_iff] at h

/-- Values are collected only if none of them is missing. -/
theorem map_some_of_mapM_id {α : Type} {values : List (Option α)} {collected : List α}
    (h : values.mapM id = some collected) : collected.map some = values := by
  induction values generalizing collected with
  | nil =>
    rw [List.mapM_nil] at h
    obtain rfl := Option.some.inj h
    rfl
  | cons value values ih =>
    simp only [List.mapM_cons, id_eq, Option.bind_eq_bind, Option.bind_eq_some_iff] at h
    obtain ⟨first, rfl, rest, hrest, hcollected⟩ := h
    obtain rfl := Option.some.inj hcollected
    rw [List.map_cons, ih hrest]

/-- **Strict decoding accepts exactly the bytes of texts,** and gives the text that they are the bytes of. -/
theorem decode?_eq_some_iff {bytes : List UInt8} {text : String} : decode? bytes = some text ↔ bytes = encode text := by
  constructor
  · intro h
    obtain ⟨chars, hchars, rfl⟩ := Option.map_eq_some_iff.1 h
    have hmarks : chars.map some = marks bytes := map_some_of_mapM_id hchars
    have hnothing : Pending [] none := rfl
    rw [encode, String.toList_ofList, encodeChars_of_marksFrom hnothing hmarks, List.nil_append]
  · rintro rfl
    exact decode?_encode text

end CounterCatalog.Text.Utf8
