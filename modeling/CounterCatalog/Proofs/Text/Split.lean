import CounterCatalog.Proofs.Text.Scan
import CounterCatalog.Text.Split

/-!
# Cutting a text that was put together

A text made of a piece without the separator, the separator and a rest is cut into that piece and the
pieces of the rest. For a single separator this holds as it stands; for a separating word it needs that the
word does not overlap itself, which is so when its first character occurs in it only once.

Such a word can stand between any two texts, whatever is in them: cutting there cuts nothing else
(`splitOnWord_append_word_both`). No piece has the word in it (`not_infix_of_mem_splitOnWord`), so cutting and joining
undo each other (`intercalate_splitOnWord`, `splitOnWord_intercalate`).
-/

set_option autoImplicit false

namespace CounterCatalog.Text

/-! ## At a single separator -/

section SplitOn

variable {α : Type} [DecidableEq α] {sep : α}

/-- A text without the separator is one piece. -/
theorem splitOn_of_not_mem {text : List α} (h : sep ∉ text) : splitOn sep text = [text] := by
  induction text with
  | nil => rfl
  | cons a text ih =>
    have ha : a ≠ sep := fun ha => h (by simp [ha])
    rw [splitOn, if_neg ha, ih fun hmem => h (List.mem_cons_of_mem a hmem)]
    rfl

/-- The first piece is what stands before the first separator. -/
theorem splitOn_append_cons {piece rest : List α} (h : sep ∉ piece) :
    splitOn sep (piece ++ sep :: rest) = piece :: splitOn sep rest := by
  induction piece with
  | nil => simp [splitOn]
  | cons a piece ih =>
    have ha : a ≠ sep := fun ha => h (by simp [ha])
    rw [List.cons_append, splitOn, if_neg ha, ih fun hmem => h (List.mem_cons_of_mem a hmem)]
    rfl

/-- Pieces that each end with a separator are cut apart again, and nothing is left behind the last. -/
theorem splitOn_flatMap {pieces : List (List α)} (h : ∀ piece ∈ pieces, sep ∉ piece) :
    splitOn sep (pieces.flatMap fun piece => piece ++ [sep]) = pieces ++ [[]] := by
  induction pieces with
  | nil => rfl
  | cons piece pieces ih =>
    rw [List.flatMap_cons, List.append_assoc, List.singleton_append,
      splitOn_append_cons (h piece (by simp)), ih fun p hp => h p (by simp [hp]), List.cons_append]

/-- Pieces that stand behind a separator each are cut apart again. -/
theorem splitOn_append_flatMap {first : List α} {pieces : List (List α)} (hfirst : sep ∉ first)
    (h : ∀ piece ∈ pieces, sep ∉ piece) :
    splitOn sep (first ++ pieces.flatMap fun piece => sep :: piece) = first :: pieces := by
  induction pieces generalizing first with
  | nil => rw [List.flatMap_nil, List.append_nil, splitOn_of_not_mem hfirst]
  | cons piece pieces ih =>
    rw [List.forall_mem_cons] at h
    rw [List.flatMap_cons, List.cons_append, splitOn_append_cons hfirst, ih h.1 h.2]

/-! ## At the last separator -/

/-- The two parts of a text at the last separator in it, if it has one. -/
def splitAtLast (sep : α) : List α → Option (List α × List α)
  | [] => none
  | a :: text =>
    match splitAtLast sep text with
    | some (front, back) => some (a :: front, back)
    | none => if a = sep then some ([], text) else none

/-- A text without the separator is not split. -/
theorem splitAtLast_of_not_mem {text : List α} (h : sep ∉ text) : splitAtLast sep text = none := by
  induction text with
  | nil => rfl
  | cons a text ih =>
    rw [List.mem_cons, not_or] at h
    rw [splitAtLast, ih h.2]
    exact if_neg (Ne.symm h.1)

/-- The last separator is the one that no other comes after, however many stand before it. -/
theorem splitAtLast_append_cons {back : List α} (h : sep ∉ back) (front : List α) :
    splitAtLast sep (front ++ sep :: back) = some (front, back) := by
  induction front with
  | nil =>
    rw [List.nil_append, splitAtLast, splitAtLast_of_not_mem h]
    exact if_pos rfl
  | cons a front ih => rw [List.cons_append, splitAtLast, ih]

end SplitOn

/-! ## At a word -/

section SplitOnWord

variable {c : Char} {word : List Char}

/-- The empty text is one empty piece. -/
@[simp] theorem splitOnWord_nil : splitOnWord c word [] = [[]] := by
  rw [splitOnWord]
  rfl

/-- Where the word begins, a piece ends. -/
theorem splitOnWord_append_word {rest : List Char} :
    splitOnWord c word (c :: word ++ rest) = [] :: splitOnWord c word rest := by
  rw [splitOnWord]
  split
  · next tail h =>
    rw [dropWord?_eq_some_iff, List.append_cancel_left_eq] at h
    rw [h]
  · next h =>
    have := dropWord?_eq_some_iff.2 (Eq.refl (c :: word ++ rest))
    rw [h] at this
    cases this

/-- A character that does not begin the word belongs to the first piece. -/
theorem splitOnWord_cons {a : Char} {text : List Char} (h : ¬ c :: word <+: a :: text) :
    splitOnWord c word (a :: text) = consFirst a (splitOnWord c word text) := by
  rw [splitOnWord]
  split
  · next rest hrest =>
    rw [dropWord?_eq_some_iff] at hrest
    exact absurd ⟨rest, hrest.symm⟩ h
  · rfl

/-- A piece without the word is put in front of the first piece of what follows it, unless that begins
inside the word. -/
theorem splitOnWord_append {piece next : List Char} (hpiece : ¬ c :: word <:+: piece)
    (hnext : ∀ d ∈ next.head?, d ∉ word) :
    splitOnWord c word (piece ++ next) = piece.foldr consFirst (splitOnWord c word next) := by
  induction piece with
  | nil => rfl
  | cons a piece ih =>
    have hpre : ¬ c :: word <+: a :: (piece ++ next) := not_prefix_append hpiece (by simp) hnext
    rw [List.cons_append, splitOnWord_cons hpre, ih fun h => hpiece (List.infix_cons h)]
    rfl

/-- Elements that are put in front of the first piece one by one stand there in their order. -/
theorem foldr_consFirst {α : Type} (elements piece : List α) (pieces : List (List α)) :
    elements.foldr consFirst (piece :: pieces) = (elements ++ piece) :: pieces := by
  induction elements with
  | nil => rfl
  | cons a elements ih => rw [List.foldr_cons, ih]; rfl

/-- A text without the word is one piece. -/
theorem splitOnWord_eq_singleton {text : List Char} (h : ¬ c :: word <:+: text) :
    splitOnWord c word text = [text] := by
  have hnil : ∀ d ∈ ([] : List Char).head?, d ∉ word := by simp
  have hsplit := splitOnWord_append h hnil
  rwa [splitOnWord_nil, foldr_consFirst, List.append_nil] at hsplit

/-- The first piece is what stands before the first occurrence of a word that does not overlap itself. -/
theorem splitOnWord_append_word_append {piece rest : List Char} (hself : c ∉ word)
    (hpiece : ¬ c :: word <:+: piece) :
    splitOnWord c word (piece ++ (c :: word ++ rest)) = piece :: splitOnWord c word rest := by
  rw [splitOnWord_append hpiece (by simpa using hself), splitOnWord_append_word, foldr_consFirst,
    List.append_nil]

/-- Pieces that each begin behind the word are cut apart again. -/
theorem splitOnWord_flatMap {piece : List Char} {pieces : List (List Char)} (hself : c ∉ word)
    (hpiece : ¬ c :: word <:+: piece) (hpieces : ∀ piece ∈ pieces, ¬ c :: word <:+: piece) :
    splitOnWord c word (piece ++ pieces.flatMap fun piece => c :: word ++ piece) = piece :: pieces := by
  induction pieces generalizing piece with
  | nil => rw [List.flatMap_nil, List.append_nil, splitOnWord_eq_singleton hpiece]
  | cons next pieces ih =>
    rw [List.flatMap_cons, List.append_assoc, splitOnWord_append_word_append hself hpiece,
      ih (hpieces next (by simp)) fun p hp => hpieces p (by simp [hp])]

/-! ## Around a word that stands in a text -/

/-- What is put in front of the first piece has nothing to do with the pieces behind. -/
theorem consFirst_append {α : Type} (a : α) {pieces : List (List α)} (h : pieces ≠ []) (more : List (List α)) :
    consFirst a (pieces ++ more) = consFirst a pieces ++ more := by
  cases pieces with
  | nil => exact absurd rfl h
  | cons piece pieces => rfl

/-- There is a first piece, and the text begins with it. -/
theorem exists_splitOnWord_eq_cons (c : Char) (word text : List Char) :
    ∃ piece pieces, splitOnWord c word text = piece :: pieces ∧ piece <+: text := by
  induction text with
  | nil => exact ⟨[], [], splitOnWord_nil, List.prefix_rfl⟩
  | cons a text ih =>
    by_cases hpre : c :: word <+: a :: text
    · obtain ⟨rest, hrest⟩ := hpre
      rw [← hrest, splitOnWord_append_word]
      exact ⟨_, _, rfl, List.nil_prefix⟩
    · obtain ⟨piece, pieces, hsplit, hpiece⟩ := ih
      rw [splitOnWord_cons hpre, hsplit]
      exact ⟨_, _, rfl, (List.prefix_cons_inj a).2 hpiece⟩

/-- There is always a piece between words. -/
theorem splitOnWord_ne_nil (text : List Char) : splitOnWord c word text ≠ [] := by
  obtain ⟨piece, pieces, hsplit, -⟩ := exists_splitOnWord_eq_cons c word text
  rw [hsplit]
  exact List.cons_ne_nil piece pieces

/-- A text is empty, begins with the word, or has a character in front at which the word does not begin. -/
theorem word_induction (c : Char) (word : List Char) {motive : List Char → Prop} (nil : motive [])
    (begins : ∀ rest, motive rest → motive (c :: word ++ rest))
    (passes : ∀ a text, ¬ c :: word <+: a :: text → motive text → motive (a :: text)) (text : List Char) :
    motive text := by
  induction hn : text.length using Nat.strongRecOn generalizing text with
  | ind n ih =>
    by_cases hpre : c :: word <+: text
    · obtain ⟨rest, rfl⟩ := hpre
      have hlt : rest.length < n := by
        rw [List.length_append, List.length_cons] at hn
        omega
      exact begins rest (ih rest.length hlt rest rfl)
    · cases text with
      | nil => exact nil
      | cons a text =>
        have hlt : text.length < n := by
          rw [List.length_cons] at hn
          omega
        exact passes a text hpre (ih text.length hlt text rfl)

/-- No piece has the word in it. -/
theorem not_infix_of_mem_splitOnWord {text piece : List Char} (h : piece ∈ splitOnWord c word text) :
    ¬ c :: word <:+: piece := by
  induction text using word_induction c word generalizing piece with
  | nil =>
    rw [splitOnWord_nil, List.mem_singleton] at h
    simp [h]
  | begins rest ih =>
    rw [splitOnWord_append_word] at h
    rcases List.mem_cons.1 h with rfl | h
    · simp
    · exact ih h
  | passes a text hpre ih =>
    obtain ⟨first, pieces, hsplit, hfirst⟩ := exists_splitOnWord_eq_cons c word text
    rw [splitOnWord_cons hpre, hsplit, consFirst] at h
    rw [hsplit] at ih
    rcases List.mem_cons.1 h with rfl | h
    · intro hinfix
      rcases List.infix_cons_iff.1 hinfix with hbegin | hinside
      · exact hpre (hbegin.trans ((List.prefix_cons_inj a).2 hfirst))
      · exact ih (List.mem_cons_self ..) hinside
    · exact ih (List.mem_cons_of_mem first h)

/-- The pieces of two texts with the word between them are those of the first, then those of the second. -/
theorem splitOnWord_append_word_both (hself : c ∉ word) (left right : List Char) :
    splitOnWord c word (left ++ (c :: word ++ right)) = splitOnWord c word left ++ splitOnWord c word right := by
  induction left using word_induction c word with
  | nil => rw [List.nil_append, splitOnWord_append_word, splitOnWord_nil, List.singleton_append]
  | begins rest ih =>
    rw [List.append_assoc, splitOnWord_append_word, splitOnWord_append_word, ih, List.cons_append]
  | passes a left hpre ih =>
    have hlong : ¬ c :: word <+: a :: (left ++ (c :: word ++ right)) := by
      intro h
      exact hpre (prefix_of_prefix_append h (by simp) (by simpa using hself))
    rw [List.cons_append, splitOnWord_cons hlong, splitOnWord_cons hpre, ih,
      consFirst_append a (splitOnWord_ne_nil left)]

/-! ## Joining the pieces -/

/-- A character in front of the first piece stands in front of the joined text. -/
theorem intercalate_consFirst {α : Type} (sep : List α) (a : α) {pieces : List (List α)} (h : pieces ≠ []) :
    sep.intercalate (consFirst a pieces) = a :: sep.intercalate pieces := by
  cases pieces with
  | nil => exact absurd rfl h
  | cons piece pieces =>
    cases pieces with
    | nil => rw [consFirst, List.intercalate_singleton, List.intercalate_singleton]
    | cons next pieces =>
      rw [consFirst, List.intercalate_cons_cons, List.intercalate_cons_cons, List.cons_append, List.cons_append]

/-- The pieces of a text with the word between any two of them are the text. -/
theorem intercalate_splitOnWord (text : List Char) : (c :: word).intercalate (splitOnWord c word text) = text := by
  induction text using word_induction c word with
  | nil => rw [splitOnWord_nil, List.intercalate_singleton]
  | begins rest ih =>
    rw [splitOnWord_append_word, List.intercalate_cons_of_ne_nil (splitOnWord_ne_nil rest), ih, List.nil_append]
  | passes a text hpre ih => rw [splitOnWord_cons hpre, intercalate_consFirst _ a (splitOnWord_ne_nil text), ih]

/-- Pieces without the word are cut apart again where the word was put between them. -/
theorem splitOnWord_intercalate (hself : c ∉ word) {pieces : List (List Char)} (hne : pieces ≠ [])
    (h : ∀ piece ∈ pieces, ¬ c :: word <:+: piece) : splitOnWord c word ((c :: word).intercalate pieces) = pieces := by
  induction pieces with
  | nil => exact absurd rfl hne
  | cons piece pieces ih =>
    rw [List.forall_mem_cons] at h
    by_cases hpieces : pieces = []
    · rw [hpieces, List.intercalate_singleton, splitOnWord_eq_singleton h.1]
    · rw [List.intercalate_cons_of_ne_nil hpieces, List.append_assoc, splitOnWord_append_word_append hself h.1,
        ih hpieces h.2]

end SplitOnWord

end CounterCatalog.Text
