import CounterCatalog.Proofs.Path.Components
import CounterCatalog.Proofs.Tree.WellFormed
import CounterCatalog.Tree.Canonical

/-!
# The steps of a path's text

A path is followed by the bytes of its segments, the empty ones left out (`ofPath_encode`). A path and the one with
another name beside it therefore take the same steps up to the name, where the path ends in a name
(`exists_steps_beside`), and the names on the way down from the root are steps as they are (`ofPath_beside_pathOf`).
-/

set_option autoImplicit false

namespace CounterCatalog.Path

open Text Utf8

variable {path : String} {anchor : Anchor} {body : List String}

/-- The steps that segments make. -/
def stepsOf (body : List String) : List Name :=
  (body.filter fun segment => segment ≠ "").map encode

/-- The steps of segments are those of the first, then those of the others. -/
theorem stepsOf_append (before after : List String) : stepsOf (before ++ after) = stepsOf before ++ stepsOf after := by
  rw [stepsOf, List.filter_append, List.map_append, stepsOf, stepsOf]

/-- A segment that is not empty is one step. -/
theorem stepsOf_singleton {segment : String} (h : segment ≠ "") : stepsOf [segment] = [encode segment] := by
  simp [stepsOf, h]

/-- Idle segments are steps that stay, if they are steps. -/
theorem eq_stay_of_mem_stepsOf (h : ∀ segment ∈ body, isIdle segment = true) {step : Name}
    (hstep : step ∈ stepsOf body) : step = Route.stay := by
  obtain ⟨segment, hsegment, rfl⟩ := List.mem_map.1 hstep
  obtain ⟨hmem, hne⟩ := List.mem_filter.1 hsegment
  have hidle := h segment hmem
  have hdot : segment = "." := by simp_all [isIdle]
  rw [hdot]
  rfl

/-- Only the empty text has no bytes. -/
theorem encode_eq_nil_iff {text : String} : encode text = [] ↔ text = "" := by
  rw [encode, ← String.toList_eq_nil_iff]
  cases text.toList with
  | nil => simp
  | cons c chars => simp [encodeChar_ne_nil]

/-- The bytes of a path are cut at slashes where the path is. -/
theorem splitOn_encode (path : String) : splitOn 0x2F (encode path) = (segments path).map encode := by
  have hsplit : splitOn 0x2F (encodeChars path.toList) = (splitOn '/' path.toList).map encodeChars :=
    splitOn_encodeChars (show '/'.toNat < 0x80 by decide) path.toList
  rw [encode, hsplit, segments, List.map_map]
  refine List.map_congr_left fun chars _ => ?_
  rw [Function.comp_apply, encode, String.toList_ofList]

/-- A path is absolute exactly if its first byte is a slash. -/
theorem head?_encode (path : String) : (encode path).head? = some 0x2F ↔ isAbsolute path = true := by
  rw [encode, isAbsolute, decide_eq_true_eq]
  cases path.toList with
  | nil => simp
  | cons c chars =>
    rw [encodeChars_cons, List.head?_append_of_ne_nil _ (encodeChar_ne_nil c), List.head?_cons, Option.some.injEq]
    constructor
    · intro hhead
      exact Char.toNat_inj.1 ((mem_encodeChar_iff (by decide)).1 (List.mem_of_head? hhead))
    · rintro rfl
      rfl

/-- **A path is followed by the steps of its segments.** -/
theorem ofPath_encode (path : String) :
    Route.ofPath (encode path) =
      ⟨isAbsolute path, stepsOf (segments path), (segments path).getLast? = some ""⟩ := by
  have habsolute : decide ((encode path).head? = some 0x2F) = isAbsolute path := by
    rw [Bool.eq_iff_iff, decide_eq_true_eq, head?_encode]
  have hsteps : ((segments path).map encode).filter (fun segment => segment ≠ []) = stepsOf (segments path) := by
    rw [List.filter_map, stepsOf]
    congr 2
    funext segment
    simp [encode_eq_nil_iff]
  have hslash : ((segments path).map encode).getLast? = some [] ↔ (segments path).getLast? = some "" := by
    rw [List.getLast?_map, Option.map_eq_some_iff]
    constructor
    · rintro ⟨segment, hlast, hempty⟩
      rw [hlast, encode_eq_nil_iff.1 hempty]
    · intro hlast
      exact ⟨"", hlast, rfl⟩
  simp only [Route.ofPath, splitOn_encode, habsolute, hsteps, hslash]

/-- A path is absolute exactly if the root is its anchor. -/
theorem isAbsolute_of_anchored (h : anchored path = (anchor, body)) : isAbsolute path = decide (anchor = .root) := by
  rw [Bool.eq_iff_iff, isAbsolute_iff, h, decide_eq_true_eq]

/-- The steps of a path that ends in a name are those of the segments before it, and the name. -/
theorem ofPath_text {name : String} (h : anchor.Admits (body ++ [name])) (hname : name ≠ "") :
    Route.ofPath (encode (anchor.text (body ++ [name]))) =
      ⟨decide (anchor = .root), stepsOf (anchor.segments ++ body) ++ [encode name], false⟩ := by
  have hne : body ++ [name] ≠ [] := by simp
  have hslash : decide (some name = some "") = false := by simpa using hname
  rw [ofPath_encode, isAbsolute_of_anchored (anchored_text h hne), segments_text hne h.slash, ← List.append_assoc,
    stepsOf_append, stepsOf_singleton hname, List.getLast?_concat, hslash]

/-- The path of names on the way down from the root is anchored there and has the names as its segments. -/
theorem anchored_of_pathOf {way : List Name} (hne : way ≠ []) (hslash : ∀ name ∈ way, 0x2F ∉ name)
    (h : encode path = Tree.pathOf way) : ∃ body, anchored path = (.root, body) ∧ body.map encode = way := by
  have hcut : splitOn 0x2F (Tree.pathOf way) = [] :: way := by
    rw [Tree.pathOf, splitOn, if_pos rfl, splitOn_intercalate hne hslash]
  rw [← h, splitOn_encode, List.map_eq_cons_iff] at hcut
  obtain ⟨first, body, hsegments, hfirst, hbody⟩ := hcut
  rw [encode_eq_nil_iff] at hfirst
  subst hfirst
  refine ⟨body, ?_, hbody⟩
  cases body with
  | nil => exact absurd hbody.symm hne
  | cons segment rest =>
    rw [anchored, hsegments]
    rfl

/-! ## The steps of a path and of another name beside it -/

/-- **A path whose last component is a name takes the steps of the path beside it up to that name.** Before the name and
behind it stand only steps that stay. -/
theorem exists_steps_beside {name other : String} (h : fileName? path = some name) (hslash : '/' ∉ other.toList)
    (hother : isIdle other = false) :
    ∃ absolute steps before after slash,
      Route.ofPath (encode path) = ⟨absolute, steps ++ (before ++ encode name :: after), slash⟩ ∧
      Route.ofPath (encode (join ((parent? path).getD "") other)) = ⟨absolute, steps ++ [encode other], false⟩ ∧
      (∀ step ∈ before, step = Route.stay) ∧ (∀ step ∈ after, step = Route.stay) ∧
      encode name ≠ Route.stay ∧ encode name ≠ Route.up := by
  obtain ⟨front, hcomponents⟩ := fileName?_eq_some_iff.1 h
  obtain ⟨anchor, body, kept, hanchored, hbody, hup, -⟩ := exists_last_segment hcomponents
  obtain ⟨after, hafter, hidleAfter, hcounts⟩ := exists_around_last hbody
  obtain ⟨before, hbefore, hidleBefore, -⟩ := exists_idle_end kept
  obtain ⟨hempty, hdot⟩ := isIdle_eq_false_iff.1 hcounts
  have hadmits : anchor.Admits (dropIdleEnd kept ++ [other]) :=
    (admits_dropIdleEnd hanchored hbody).concat hslash hother
  have hsegments : segments path = (anchor.segments ++ dropIdleEnd kept) ++ (before ++ ([name] ++ after)) := by
    calc segments path = anchor.segments ++ (kept ++ ([name] ++ after)) := by
          rw [segments_of_anchored hanchored, hafter, List.singleton_append]
      _ = anchor.segments ++ ((dropIdleEnd kept ++ before) ++ ([name] ++ after)) := by rw [← hbefore]
      _ = (anchor.segments ++ dropIdleEnd kept) ++ (before ++ ([name] ++ after)) := by simp only [List.append_assoc]
  refine ⟨decide (anchor = .root), stepsOf (anchor.segments ++ dropIdleEnd kept), stepsOf before, stepsOf after,
    (segments path).getLast? = some "", ?path, ?beside, fun step => eq_stay_of_mem_stepsOf hidleBefore, fun step => eq_stay_of_mem_stepsOf hidleAfter,
    fun heq => hdot (encode_injective heq), fun heq => hup (encode_injective heq)⟩
  case path =>
    rw [ofPath_encode, hsegments, stepsOf_append, stepsOf_append before, stepsOf_append [name],
      stepsOf_singleton hempty, isAbsolute_of_anchored hanchored, List.singleton_append]
  case beside =>
    rw [join_parent? hanchored hbody hslash, ofPath_text hadmits (isIdle_eq_false_iff.1 hother).1]

/-- The path beside the one that names on the way down from the root make has the same names but for the last. -/
theorem ofPath_beside_pathOf {front : List Name} {last : Name} {other : String}
    (hnames : ∀ name ∈ front ++ [last], Tree.IsName name) (h : encode path = Tree.pathOf (front ++ [last]))
    (hslash : '/' ∉ other.toList) (hother : isIdle other = false) :
    Route.ofPath (encode (join ((parent? path).getD "") other)) = ⟨true, front ++ [encode other], false⟩ := by
  obtain ⟨body, hanchored, hbody⟩ := anchored_of_pathOf (by simp) (fun name hmem => (hnames name hmem).slash) h
  have hidle : ∀ segment ∈ body, isIdle segment = false := by
    intro segment hsegment
    have hname : Tree.IsName (encode segment) := hnames _ (hbody ▸ List.mem_map_of_mem hsegment)
    refine isIdle_eq_false_iff.2 ⟨?_, ?_⟩
    · rintro rfl
      exact hname.ne_nil rfl
    · rintro rfl
      exact hname.stay rfl
  obtain ⟨kept, ends, rfl, hkept, hends⟩ := List.map_eq_append_iff.1 hbody
  obtain ⟨segment, rfl, -⟩ := List.map_eq_singleton_iff.1 hends
  have hidleKept : ∀ segment ∈ kept, isIdle segment = false :=
    fun segment hsegment => hidle segment (List.mem_append_left _ hsegment)
  have hsteps : stepsOf kept = front := by
    rw [stepsOf, ← hkept, List.filter_eq_self.2]
    intro segment hsegment
    simpa using (isIdle_eq_false_iff.1 (hidleKept segment hsegment)).1
  have hlast : dropIdleEnd (kept ++ [segment]) = kept ++ [segment] := dropIdleEnd_of_not_idle hidle
  have hfirst : dropIdleEnd kept = kept := dropIdleEnd_of_not_idle hidleKept
  have hadmits : Anchor.root.Admits (kept ++ [other]) := by
    have hdropped := admits_dropIdleEnd hanchored hlast
    rw [hfirst] at hdropped
    exact hdropped.concat hslash hother
  rw [join_parent? hanchored hlast hslash, hfirst, ofPath_text hadmits (isIdle_eq_false_iff.1 hother).1, stepsOf_append,
    hsteps]
  rfl

end CounterCatalog.Path
