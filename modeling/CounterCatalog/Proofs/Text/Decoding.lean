import CounterCatalog.Proofs.Text.Utf8
import Mathlib.Tactic.SplitIfs

/-!
# What bytes are read as around an ASCII character

Bytes need not be UTF-8, and a character that has been started in them may never be finished. An ASCII character
is read in any case: no byte below 128 goes on with a character that has been started, so reading begins afresh
there (`marksFrom_append_cons`). What stands before an ASCII character and what stands behind it are therefore
decoded each by itself, whatever they are, also where only well-formed bytes are accepted
(`decodeChars?_append_cons`).
-/

set_option autoImplicit false

namespace CounterCatalog.Text.Utf8

/-- A byte begins a longer character: it says how many bytes are due, and bounds the next of them so that no form
longer than it needs to be, no surrogate, and nothing past the last code point can come out. -/
def Begins (byte : UInt8) (state : Started) : Prop :=
  (0xC2 ≤ byte.toNat ∧ byte.toNat < 0xE0 ∧ state = ⟨byte.toNat - 0xC0, 0x80, 0xBF, 0⟩) ∨
  (∃ least greatest, 0xE0 ≤ byte.toNat ∧ byte.toNat < 0xF0 ∧ 0x80 ≤ least ∧ greatest ≤ 0xBF ∧
    (byte.toNat = 0xE0 → 0xA0 ≤ least) ∧ (byte.toNat = 0xED → greatest ≤ 0x9F) ∧
    state = ⟨byte.toNat - 0xE0, least, greatest, 1⟩) ∨
  (∃ least greatest, 0xF0 ≤ byte.toNat ∧ byte.toNat < 0xF5 ∧ 0x80 ≤ least ∧ greatest ≤ 0xBF ∧
    (byte.toNat = 0xF0 → 0x90 ≤ least) ∧ (byte.toNat = 0xF4 → greatest ≤ 0x8F) ∧
    state = ⟨byte.toNat - 0xF0, least, greatest, 2⟩)

/-- A byte is a character of its own, begins a longer one, or is a stray one. -/
theorem lead_cases (byte : UInt8) :
    match lead byte with
    | .whole c => byte.toNat < 0x80 ∧ c = Char.ofNat byte.toNat
    | .begins state => Begins byte state
    | .stray => 0x80 ≤ byte.toNat := by
  unfold lead
  simp only
  split_ifs <;> dsimp only
  · exact ⟨by omega, rfl⟩
  · omega
  · exact .inl ⟨by omega, by omega, rfl⟩
  · exact .inr (.inl ⟨0xA0, 0xBF, by omega, by omega, by omega, by omega, by omega, by omega, rfl⟩)
  · exact .inr (.inl ⟨0x80, 0x9F, by omega, by omega, by omega, by omega, by omega, by omega, rfl⟩)
  · exact .inr (.inl ⟨0x80, 0xBF, by omega, by omega, by omega, by omega, by omega, by omega, rfl⟩)
  · exact .inr (.inr ⟨0x90, 0xBF, by omega, by omega, by omega, by omega, by omega, by omega, rfl⟩)
  · exact .inr (.inr ⟨0x80, 0xBF, by omega, by omega, by omega, by omega, by omega, by omega, rfl⟩)
  · exact .inr (.inr ⟨0x80, 0x8F, by omega, by omega, by omega, by omega, by omega, by omega, rfl⟩)
  · omega

/-- A byte that is taken to begin a longer character does begin one. -/
theorem begins_of_lead {byte : UInt8} {state : Started} (h : lead byte = .begins state) : Begins byte state := by
  have hcases := lead_cases byte
  rw [h] at hcases
  exact hcases

/-- No byte that is due inside a character is an ASCII one. -/
theorem least_of_lead {byte : UInt8} {state : Started} (h : lead byte = .begins state) : 0x80 ≤ state.least := by
  obtain ⟨-, -, rfl⟩ | ⟨least, greatest, -, -, hleast, -, -, -, rfl⟩ | ⟨least, greatest, -, -, hleast, -, -, -, rfl⟩ :=
    begins_of_lead h
  · exact Nat.le_refl _
  · exact hleast
  · exact hleast

/-- An ASCII byte is a character of its own. -/
theorem lead_of_lt {byte : UInt8} (h : byte.toNat < 0x80) : lead byte = .whole (Char.ofNat byte.toNat) := by
  simp only [lead, if_pos h]

/-- A byte that does not go on with what has been started is read as if nothing had been. -/
theorem marksFrom_break {state : Started} {byte : UInt8} {bytes : List UInt8}
    (h : ¬ (state.least ≤ byte.toNat ∧ byte.toNat ≤ state.greatest)) :
    marksFrom (some state) (byte :: bytes) = none :: marksFrom none (byte :: bytes) := by
  rw [marksFrom, marksFrom, if_neg h]
  cases lead byte <;> rfl

/-- A byte below 128 is never part of a longer character, so it ends what has been started, and what was read
before it does not matter to what comes after it. -/
theorem marksFrom_append_cons {byte : UInt8} (hbyte : byte.toNat < 0x80) (before after : List UInt8)
    {started : Option Started} (hstarted : ∀ state ∈ started, 0x80 ≤ state.least) :
    marksFrom started (before ++ byte :: after) =
      marksFrom started before ++ some (Char.ofNat byte.toNat) :: marksFrom none after := by
  have hnothing : ∀ state ∈ (none : Option Started), 0x80 ≤ state.least := by simp
  induction before generalizing started with
  | nil =>
    have hfresh : marksFrom none (byte :: after) = some (Char.ofNat byte.toNat) :: marksFrom none after := by
      rw [marksFrom, lead_of_lt hbyte]
    cases started with
    | none => exact hfresh
    | some state =>
      have hleast := hstarted state rfl
      have hends : ¬ (state.least ≤ byte.toNat ∧ byte.toNat ≤ state.greatest) := by omega
      rw [List.nil_append, marksFrom_break hends, hfresh]
      rfl
  | cons first before ih =>
    have hfresh : marksFrom none (first :: (before ++ byte :: after)) =
        marksFrom none (first :: before) ++ some (Char.ofNat byte.toNat) :: marksFrom none after := by
      rw [marksFrom, marksFrom]
      cases hlead : lead first with
      | whole c => rw [ih hnothing, List.cons_append]
      | stray => rw [ih hnothing, List.cons_append]
      | begins state =>
        apply ih
        rintro _ ⟨⟩
        exact least_of_lead hlead
    rw [List.cons_append]
    cases started with
    | none => exact hfresh
    | some state =>
      by_cases hgoes : state.least ≤ first.toNat ∧ first.toNat ≤ state.greatest
      · rw [marksFrom, marksFrom, if_pos hgoes, if_pos hgoes]
        cases state.after with
        | zero => rw [ih hnothing, List.cons_append]
        | succ after => exact ih (by simp)
      · rw [marksFrom_break hgoes, marksFrom_break hgoes, hfresh, List.cons_append]

/-- An ASCII byte is a character wherever it stands, and what is before it is read apart from what is behind it. -/
theorem marks_append_cons {byte : UInt8} (hbyte : byte.toNat < 0x80) (before after : List UInt8) :
    marks (before ++ byte :: after) = marks before ++ some (Char.ofNat byte.toNat) :: marks after := by
  have hnothing : ∀ state ∈ (none : Option Started), 0x80 ≤ state.least := by simp
  exact marksFrom_append_cons hbyte before after hnothing

/-- The bytes of a text that begins with an ASCII character are read as that text, whatever stands on either side
of them. -/
theorem marks_append_encodeChars {c : Char} (hc : c.toNat < 0x80) (text : List Char) (before after : List UInt8) :
    marks (before ++ (encodeChars (c :: text) ++ after)) =
      marks before ++ ((c :: text).map some ++ marks after) := by
  have htext : marks (encodeChars text ++ after) = text.map some ++ marks after := by
    induction text with
    | nil => rfl
    | cons d text ih =>
      unfold marks at ih ⊢
      rw [encodeChars_cons, List.append_assoc, marksFrom_encodeChar, ih, List.map_cons, List.cons_append]
  have hbyte : (UInt8.ofNat c.toNat).toNat = c.toNat := toNat_byte (by omega)
  have hascii : (UInt8.ofNat c.toNat).toNat < 0x80 := by omega
  rw [encodeChars_cons, encodeChar_one hc, List.singleton_append, List.cons_append, marks_append_cons hascii, htext,
    hbyte, Char.ofNat_toNat]
  rfl

/-- The bytes of a text that begins with an ASCII character are decoded to that text, whatever stands on either side of
them. -/
theorem decodeCharsLossy_append_encodeChars {c : Char} (hc : c.toNat < 0x80) (text : List Char)
    (before after : List UInt8) :
    decodeCharsLossy (before ++ (encodeChars (c :: text) ++ after)) =
      decodeCharsLossy before ++ (c :: text ++ decodeCharsLossy after) := by
  have hkept : ((c :: text).map some).map (fun mark => mark.getD replacement) = c :: text := by
    rw [List.map_map]
    exact List.map_id _
  rw [decodeCharsLossy, marks_append_encodeChars hc, List.map_append, List.map_append, hkept, decodeCharsLossy,
    decodeCharsLossy]

/-- What stands on either side of an ASCII character is accepted or refused each by itself. -/
theorem decodeChars?_append_cons {byte : UInt8} (hbyte : byte.toNat < 0x80) (before after : List UInt8) :
    decodeChars? (before ++ byte :: after) =
      (decodeChars? before).bind fun front =>
        (decodeChars? after).map fun back => front ++ Char.ofNat byte.toNat :: back := by
  rw [decodeChars?, marks_append_cons hbyte, List.mapM_append, List.mapM_cons, decodeChars?, decodeChars?]
  cases (marks before).mapM id <;> cases (marks after).mapM id <;> rfl

end CounterCatalog.Text.Utf8
