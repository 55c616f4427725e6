import CounterCatalog.Path
import CounterCatalog.Proofs.Text.Lines
import Mathlib.Data.List.Basic
import Mathlib.Data.List.Induction

/-!
# The components of a path

A path is an anchor and segments between slashes. Its components are those of the anchor and, in order, of the
segments (`components_text`), so segments that add nothing can be left out wherever they stand behind the anchor. The
parent of a path keeps its first segments as they are spelt (`parent?_eq`), and a name that is joined to it becomes one
more segment (`join_text`).
-/

set_option autoImplicit false

namespace CounterCatalog.Path

open Text

/-! ## Segments -/

/-- No slash is in a segment of a path. -/
theorem slash_not_mem_of_mem_segments {path segment : String} (h : segment ∈ segments path) :
    '/' ∉ segment.toList := by
  obtain ⟨chars, hchars, rfl⟩ := List.mem_map.1 h
  rw [String.toList_ofList]
  exact (of_mem_splitOn hchars).1

/-- Segments that are joined by slashes are cut apart again. -/
theorem segments_intercalate {body : List String} (hne : body ≠ []) (h : ∀ segment ∈ body, '/' ∉ segment.toList) :
    segments ("/".intercalate body) = body := by
  have hpieces : ∀ piece ∈ body.map String.toList, '/' ∉ piece := by
    intro piece hpiece
    obtain ⟨segment, hsegment, rfl⟩ := List.mem_map.1 hpiece
    exact h segment hsegment
  have hchars : ("/".intercalate body).toList = ['/'].intercalate (body.map String.toList) :=
    String.toList_intercalate
  rw [segments, hchars, splitOn_intercalate (by simpa using hne) hpieces, List.map_map]
  exact List.map_id'' (fun segment => String.ofList_toList) body

/-! ## Anchors -/

variable {path : String} {anchor : Anchor} {body : List String}

/-- The segments before those that stand behind an anchor. -/
def Anchor.segments : Anchor → List String
  | .root => [""]
  | .here => ["."]
  | .bare => []

/-- The segments of a path are those of its anchor and the others. -/
theorem segments_of_anchored (h : anchored path = (anchor, body)) : segments path = anchor.segments ++ body := by
  unfold anchored at h
  split at h
  · next hsegments =>
    cases h
    exact hsegments
  · next hsegments =>
    cases h
    exact hsegments
  · cases h
    rfl

/-- Segments that may stand behind an anchor: none has a slash in it, and without an anchor the first one is not what
an anchor is made of. -/
structure Anchor.Admits (anchor : Anchor) (body : List String) : Prop where
  slash : ∀ segment ∈ body, '/' ∉ segment.toList
  bare : anchor = .bare → ∀ segment ∈ body.head?, isIdle segment = false

/-- A segment is idle exactly if it is empty or a dot. -/
theorem isIdle_eq_false_iff {segment : String} : isIdle segment = false ↔ segment ≠ "" ∧ segment ≠ "." := by
  simp [isIdle]

/-- An idle segment is no component. -/
theorem componentOf_of_idle {segment : String} (h : isIdle segment = true) : componentOf segment = none := by
  rw [componentOf, if_pos h]

/-- Idle segments have no components among them. -/
theorem filterMap_componentOf_of_idle (h : ∀ segment ∈ body, isIdle segment = true) :
    body.filterMap componentOf = [] := by
  rw [List.filterMap_eq_nil_iff]
  exact fun segment hsegment => componentOf_of_idle (h segment hsegment)

/-- A path with segments behind its anchor is all of its segments with slashes between them. -/
theorem Anchor.text_eq (anchor : Anchor) (hne : body ≠ []) :
    anchor.text body = "/".intercalate (anchor.segments ++ body) := by
  cases anchor with
  | root =>
    rw [Anchor.segments, List.singleton_append, String.intercalate_cons_of_ne_nil hne, String.empty_append]
    rfl
  | here => rfl
  | bare => rfl

/-- The segments of an anchor and further ones are those of the path. -/
theorem segments_text (hne : body ≠ []) (h : ∀ segment ∈ body, '/' ∉ segment.toList) :
    segments (anchor.text body) = anchor.segments ++ body := by
  rw [anchor.text_eq hne]
  refine segments_intercalate (List.append_ne_nil_of_right_ne_nil _ hne) fun segment hsegment => ?_
  rcases List.mem_append.1 hsegment with hanchor | hbody
  · cases anchor <;> simp [Anchor.segments] at hanchor <;> rw [hanchor] <;> decide
  · exact h segment hbody

/-- What an anchor and segments say is read as them. -/
theorem anchored_text (h : anchor.Admits body) (hne : body ≠ []) : anchored (anchor.text body) = (anchor, body) := by
  rw [anchored, segments_text hne h.slash]
  obtain ⟨segment, rest, rfl⟩ := List.exists_cons_of_ne_nil hne
  cases anchor with
  | root => rfl
  | here => rfl
  | bare =>
    obtain ⟨hempty, hdot⟩ := isIdle_eq_false_iff.1 (h.bare rfl segment (by simp))
    rw [Anchor.segments, List.nil_append]
    split
    · next heq => exact absurd (List.cons.inj heq).1 hempty
    · next heq => exact absurd (List.cons.inj heq).1 hdot
    · rfl

/-- **The components of a path are those of its anchor and of its segments,** in order. -/
theorem components_text (h : anchor.Admits body) (hne : body ≠ []) :
    components (anchor.text body) = anchor.components ++ body.filterMap componentOf := by
  rw [components, anchored_text h hne]

/-- The paths that are anchored at the root are those that begin with a slash. -/
theorem isAbsolute_iff : isAbsolute path = true ↔ (anchored path).1 = .root := by
  unfold isAbsolute anchored segments
  cases path.toList with
  | nil => simp [splitOn]
  | cons c text =>
    have hpiece : splitOn '/' text ≠ [] := splitOn_ne_nil text
    obtain ⟨piece, pieces, hpieces⟩ := List.exists_cons_of_ne_nil hpiece
    by_cases hslash : c = '/'
    · simp [splitOn, hslash, hpieces]
    · have hfirst : String.ofList (c :: piece) ≠ "" := by simp [String.ofList_eq_empty_iff]
      simp only [splitOn, hslash, if_false, hpieces, consFirst, List.map_cons, List.head?_cons, Option.some.injEq,
        decide_false, Bool.false_eq_true, false_iff]
      split
      · next hsegments => exact absurd (List.cons.inj hsegments).1 hfirst
      · simp
      · simp

/-- The segments of a path may stand behind its anchor, but for the one of a path with nothing in it. -/
theorem of_anchored (h : anchored path = (anchor, body)) :
    (∀ segment ∈ body, '/' ∉ segment.toList) ∧
      (anchor = .bare → body = [""] ∨ ∀ segment ∈ body.head?, isIdle segment = false) := by
  have hsegments := segments_of_anchored h
  constructor
  · intro segment hsegment
    have hmem : segment ∈ segments path := hsegments ▸ List.mem_append_right _ hsegment
    exact slash_not_mem_of_mem_segments hmem
  · rintro rfl
    unfold anchored at h
    split at h
    · cases h
    · cases h
    · next hroot hhere =>
      rw [Anchor.segments, List.nil_append] at hsegments
      cases body with
      | nil => simp
      | cons segment rest =>
        by_cases hempty : segment = ""
        · cases rest with
          | nil => exact .inl (by rw [hempty])
          | cons next rest => exact absurd (by rw [hsegments, hempty]) (hroot next rest)
        · refine .inr fun other hother => ?_
          obtain rfl : segment = other := by simpa using hother
          exact isIdle_eq_false_iff.2 ⟨hempty, fun hdot => hhere rest (by rw [hsegments, hdot])⟩

/-- The last component is an ordinary name exactly where the components end in one. -/
theorem fileName?_eq_some_iff {name : String} :
    fileName? path = some name ↔ ∃ front, components path = front ++ [.name name] := by
  unfold fileName?
  rw [← List.getLast?_eq_some_iff]
  split
  · next hlast => simp [hlast]
  · next hno =>
    constructor
    · nofun
    · intro hlast
      exact absurd hlast (hno name)

/-! ## Idle ends -/

/-- An idle segment at the end is dropped with those before it. -/
theorem dropIdleEnd_concat_of_idle {segment : String} (h : isIdle segment = true) (body : List String) :
    dropIdleEnd (body ++ [segment]) = dropIdleEnd body := by
  simp [dropIdleEnd, h]

/-- Nothing is dropped where the last segment is not idle. -/
theorem dropIdleEnd_concat {segment : String} (h : isIdle segment = false) (body : List String) :
    dropIdleEnd (body ++ [segment]) = body ++ [segment] := by
  simp [dropIdleEnd, h]

/-- Nothing is dropped from segments none of which is idle. -/
theorem dropIdleEnd_of_not_idle (h : ∀ segment ∈ body, isIdle segment = false) : dropIdleEnd body = body := by
  rcases List.eq_nil_or_concat' body with rfl | ⟨front, last, rfl⟩
  · rfl
  · exact dropIdleEnd_concat (h last (by simp)) front

/-- What is dropped at the end adds nothing, and what is left does not end like that. -/
theorem exists_idle_end (body : List String) :
    ∃ idle, body = dropIdleEnd body ++ idle ∧ (∀ segment ∈ idle, isIdle segment = true) ∧
      ∀ segment ∈ (dropIdleEnd body).getLast?, isIdle segment = false := by
  induction body using List.reverseRecOn with
  | nil => exact ⟨[], rfl, by simp, by simp [dropIdleEnd]⟩
  | append_singleton body segment ih =>
    cases hidle : isIdle segment with
    | false =>
      rw [dropIdleEnd_concat hidle]
      exact ⟨[], by simp, by simp, by simpa using hidle⟩
    | true =>
      obtain ⟨idle, hbody, hdropped, hlast⟩ := ih
      rw [dropIdleEnd_concat_of_idle hidle]
      refine ⟨idle ++ [segment], ?_, ?_, hlast⟩
      · rw [← List.append_assoc, ← hbody]
      · simp only [List.mem_append, List.mem_singleton]
        rintro other (hother | rfl)
        · exact hdropped other hother
        · exact hidle

/-- Dropping idle segments at the end drops no component. -/
theorem filterMap_dropIdleEnd (body : List String) :
    (dropIdleEnd body).filterMap componentOf = body.filterMap componentOf := by
  obtain ⟨idle, hbody, hidle, -⟩ := exists_idle_end body
  have hall : (dropIdleEnd body ++ idle).filterMap componentOf = (dropIdleEnd body).filterMap componentOf := by
    rw [List.filterMap_append, filterMap_componentOf_of_idle hidle, List.append_nil]
  rw [← hall, ← hbody]

/-- What counts at the end of a path's segments has idle ones behind it. -/
theorem exists_around_last {kept : List String} {segment : String} (h : dropIdleEnd body = kept ++ [segment]) :
    ∃ idle, body = kept ++ segment :: idle ∧ (∀ segment ∈ idle, isIdle segment = true) ∧ isIdle segment = false := by
  obtain ⟨idle, hsplit, hidle, hlast⟩ := exists_idle_end body
  refine ⟨idle, ?_, hidle, hlast segment (by simp [h])⟩
  rw [hsplit, h, List.append_assoc, List.singleton_append]

/-- The segments before the last one that counts may stand behind the anchor, once nothing idle is at their end. -/
theorem admits_dropIdleEnd {kept : List String} {segment : String} (h : anchored path = (anchor, body))
    (hbody : dropIdleEnd body = kept ++ [segment]) : anchor.Admits (dropIdleEnd kept) := by
  obtain ⟨idle, hsplit, -, hlast⟩ := exists_idle_end kept
  obtain ⟨behind, rfl, -, -⟩ := exists_around_last hbody
  obtain ⟨hslash, hbare⟩ := of_anchored h
  have hfirst : dropIdleEnd kept ⊆ kept ++ segment :: behind := by
    intro other hother
    exact List.mem_append_left _ (hsplit ▸ List.mem_append_left idle hother)
  refine ⟨fun other hother => hslash other (hfirst hother), fun hanchor other hother => ?_⟩
  cases hdropped : dropIdleEnd kept with
  | nil => simp [hdropped] at hother
  | cons first rest =>
    rw [hdropped] at hsplit hother
    obtain rfl : first = other := by simpa using hother
    rcases hbare hanchor with hempty | hhead
    -- The path with nothing in it has no segment that counts.
    · rw [hsplit] at hempty
      simp at hempty
    · exact hhead first (by simp [hsplit])

/-- A name can come behind the segments that an anchor admits. -/
theorem Anchor.Admits.concat {name : String} (h : anchor.Admits body) (hslash : '/' ∉ name.toList)
    (hname : isIdle name = false) : anchor.Admits (body ++ [name]) := by
  constructor
  · simp only [List.mem_append, List.mem_singleton]
    rintro segment (hsegment | rfl)
    · exact h.slash segment hsegment
    · exact hslash
  · intro hanchor segment hsegment
    cases body with
    | nil =>
      cases hsegment
      exact hname
    | cons first rest => exact h.bare hanchor segment hsegment

/-! ## The parent and another name -/

/-- A name behind segments follows a slash. -/
theorem text_concat (anchor : Anchor) (hbody : body ≠ []) (name : String) :
    anchor.text (body ++ [name]) = anchor.text body ++ "/" ++ name := by
  rw [anchor.text_eq (List.append_ne_nil_of_left_ne_nil hbody _), ← List.append_assoc,
    String.intercalate_append_of_ne_nil (List.append_ne_nil_of_right_ne_nil _ hbody) (List.cons_ne_nil _ _),
    String.intercalate_singleton, ← anchor.text_eq hbody]

/-- A text ends as its last segment does. -/
theorem exists_text_eq_append (anchor : Anchor) (body : List String) (last : String) :
    ∃ before, anchor.text (body ++ [last]) = before ++ last := by
  by_cases hbody : body = []
  · subst hbody
    cases anchor with
    | root => exact ⟨"/", rfl⟩
    | here => exact ⟨"./", by simp [Anchor.text]⟩
    | bare => exact ⟨"", by simp [Anchor.text]⟩
  · exact ⟨_, text_concat anchor hbody last⟩

/-- Joining a name to a path whose segments do not end idle puts it behind the segments. -/
theorem join_text {name : String} (hbody : ∀ segment ∈ body, '/' ∉ segment.toList)
    (hlast : ∀ segment ∈ body.getLast?, isIdle segment = false) (hname : '/' ∉ name.toList) (anchor : Anchor) :
    join (anchor.text body) name = anchor.text (body ++ [name]) := by
  have hrelative : isAbsolute name = false := by
    unfold isAbsolute
    simp only [decide_eq_false_iff_not]
    exact fun hhead => hname (List.mem_of_head? hhead)
  rcases List.eq_nil_or_concat' body with rfl | ⟨front, last, rfl⟩
  · cases anchor <;> simp [join, Anchor.text, hrelative]
  · obtain ⟨before, htext⟩ := exists_text_eq_append anchor front last
    have hne : last ≠ "" := (isIdle_eq_false_iff.1 (hlast last (by simp))).1
    have hchars : last.toList ≠ [] := by simpa using hne
    have hend : (anchor.text (front ++ [last])).toList.getLast? ≠ some '/' := by
      rw [htext, String.toList_append, List.getLast?_append, List.getLast?_eq_some_getLast hchars, Option.some_or]
      intro hslash
      exact hbody last (by simp) (Option.some.inj hslash ▸ List.getLast_mem hchars)
    have hnonempty : anchor.text (front ++ [last]) ≠ "" := by
      rw [htext]
      simp [hne]
    rw [join, hrelative, Bool.false_or, decide_eq_false hnonempty, if_neg Bool.false_ne_true, if_neg hend,
      text_concat anchor (by simp) name]

/-- The parent of a path is spelt like the path up to the segments before the last one that counts. -/
theorem parent?_eq {kept : List String} {segment : String} (h : anchored path = (anchor, body))
    (hbody : dropIdleEnd body = kept ++ [segment]) : parent? path = some (anchor.text (dropIdleEnd kept)) := by
  unfold parent?
  rw [h]
  simp only
  split
  · next hnil =>
    rw [hbody] at hnil
    simp at hnil
  · next first rest hcons =>
    rw [← hcons, hbody, List.dropLast_concat]

/-- **A name joined to the parent of a path takes the place of the last segment that counts.** -/
theorem join_parent? {kept : List String} {segment name : String} (h : anchored path = (anchor, body))
    (hbody : dropIdleEnd body = kept ++ [segment]) (hname : '/' ∉ name.toList) :
    join ((parent? path).getD "") name = anchor.text (dropIdleEnd kept ++ [name]) := by
  obtain ⟨-, -, -, hlast⟩ := exists_idle_end kept
  rw [parent?_eq h hbody, Option.getD_some, join_text (admits_dropIdleEnd h hbody).slash hlast hname]

/-- A segment is a name exactly if it is neither idle nor two dots. -/
theorem componentOf_eq_name_iff {segment name : String} :
    componentOf segment = some (.name name) ↔ segment = name ∧ isIdle segment = false ∧ segment ≠ ".." := by
  unfold componentOf
  split_ifs <;> simp_all

/-- The last component of a path, where it is a name, is its last segment that counts. -/
theorem exists_last_segment {front : List Component} {name : String} (h : components path = front ++ [.name name]) :
    ∃ anchor body kept, anchored path = (anchor, body) ∧ dropIdleEnd body = kept ++ [name] ∧
      name ≠ ".." ∧ front = anchor.components ++ kept.filterMap componentOf := by
  cases hanchored : anchored path with
  | mk anchor body =>
    have hcomponents : components path = anchor.components ++ (dropIdleEnd body).filterMap componentOf := by
      rw [components, hanchored, filterMap_dropIdleEnd]
    obtain ⟨-, -, -, hlast⟩ := exists_idle_end body
    rcases List.eq_nil_or_concat' (dropIdleEnd body) with hnil | ⟨kept, last, hkept⟩
    · rw [h, hnil] at hcomponents
      cases anchor <;> simp [Anchor.components, List.append_eq_singleton_iff] at hcomponents
    · have hcounts : isIdle last = false := hlast last (by simp [hkept])
      obtain ⟨component, hcomponent⟩ : ∃ component, componentOf last = some component := by
        rw [componentOf, hcounts]
        exact ⟨_, (apply_ite some _ _ _).symm⟩
      have hone : [last].filterMap componentOf = [component] := by simp [hcomponent]
      rw [h, hkept, List.filterMap_append, hone, ← List.append_assoc] at hcomponents
      obtain ⟨hfront, hend⟩ := List.append_inj' hcomponents rfl
      cases hend
      obtain ⟨rfl, -, hup⟩ := componentOf_eq_name_iff.1 hcomponent
      exact ⟨anchor, body, kept, rfl, hkept, hup, hfront⟩

end CounterCatalog.Path
