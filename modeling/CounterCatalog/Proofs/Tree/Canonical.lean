import CounterCatalog.Proofs.Tree.WellFormed
import CounterCatalog.Tree.Canonical

/-!
# Where a canonical path leads

A path is followed handle by handle, and its canonical path is built up name by name. In a well-formed tree the two go
along together: the names lead to the handle before every step (`Meets`), a link is met by both or by neither
(`resolveAlong_of_stretch`), and so the canonical way of a path leads to what the path leads to
(`canonicalWay_of_locate`), by itself and without links (`WellFormed.leads_of_atWay?`). A canonical way can fail to be
found only because it gets too long.
-/

set_option autoImplicit false

namespace CounterCatalog.Tree

variable {tree : Tree} {cwd directory handle : Handle} {step name : Name} {way steps : List Name} {slash : Bool}

/-! ## Ways -/

/-- A way and another behind it lead where the second leads from the end of the first. -/
theorem atWay?_append (before after : List Name) (handle : Handle) :
    tree.atWay? handle (before ++ after) = (tree.atWay? handle before).bind fun next => tree.atWay? next after := by
  induction before generalizing handle with
  | nil => rfl
  | cons name before ih =>
    rw [List.cons_append, atWay?, atWay?, Option.bind_assoc]
    congr 1
    funext next
    exact ih next

/-- One more name on a way leads from its end to what has that name there. -/
theorem atWay?_concat (way : List Name) (name : Name) (handle : Handle) :
    tree.atWay? handle (way ++ [name]) = (tree.atWay? handle way).bind fun next => tree.child? next name := by
  rw [atWay?_append]
  congr 1
  funext next
  rw [atWay?]
  cases tree.child? next name <;> rfl

/-- Names that lead to a directory are steps that lead there. -/
theorem WellFormed.leads_of_atWay? (wf : tree.WellFormed) (h : tree.atWay? directory way = some handle)
    (hdirectory : tree.isDirectory handle = true) : tree.Leads directory way handle := by
  induction way generalizing directory with
  | nil =>
    cases h
    exact .arrived _
  | cons name way ih =>
    obtain ⟨next, hchild, hway⟩ := Option.bind_eq_some_iff.1 h
    have hnext : tree.isDirectory next = true := by
      cases way with
      | nil =>
        cases hway
        exact hdirectory
      | cons other way =>
        obtain ⟨_, hother, -⟩ := Option.bind_eq_some_iff.1 hway
        exact isDirectory_of_child? hother
    have hname := wf.isName hchild
    exact .step ((enter_of_name hname.stay hname.up).2 ⟨hname.length_le, hchild⟩) hnext (ih hway)

/-- In a well-formed tree every way that leads somewhere is made of names. -/
theorem WellFormed.isName_of_atWay? (wf : tree.WellFormed) (h : tree.atWay? directory way = some handle) :
    ∀ name ∈ way, IsName name := by
  induction way generalizing directory with
  | nil => simp
  | cons name way ih =>
    obtain ⟨next, hchild, hway⟩ := Option.bind_eq_some_iff.1 h
    rw [List.forall_mem_cons]
    exact ⟨wf.isName hchild, ih hway⟩

/-- The way to a directory leads to it. -/
theorem WellFormed.atWay?_of_wayTo? (wf : tree.WellFormed) (hdirectory : tree.isDirectory directory = true)
    (h : tree.wayTo? directory = some way) : tree.atWay? root way = some directory := by
  unfold wayTo? at h
  generalize tree.nodes.size = depth at h
  induction depth generalizing directory way with
  | zero =>
    rw [wayWithin] at h
    split at h
    · next hroot =>
      cases h
      rw [hroot]
      rfl
    · cases h
  | succ depth ih =>
    rw [wayWithin] at h
    split at h
    · next hroot =>
      cases h
      rw [hroot]
      rfl
    · split at h
      · next name front hname hfront =>
        cases h
        obtain ⟨entry, hfind, rfl⟩ := Option.map_eq_some_iff.1 hname
        obtain rfl : entry.2 = directory := by simpa using List.find?_some hfind
        have hchild : tree.child? (tree.above entry.2) entry.1 = some entry.2 :=
          wf.child?_of_mem (List.mem_of_find?_eq_some hfind)
        rw [atWay?_concat, ih (isDirectory_of_child? hchild) hfront]
        exact hchild
      · cases h

/-! ## The canonical way beside the path -/

/-- A way from the root leads to a directory. -/
structure Meets (tree : Tree) (way : List Name) (directory : Handle) : Prop where
  atWay? : tree.atWay? root way = some directory
  isDirectory : tree.isDirectory directory = true

/-- A name in a directory is one more on the way to it. -/
theorem Meets.down (h : tree.Meets way directory) (hchild : tree.child? directory name = some handle) :
    tree.atWay? root (way ++ [name]) = some handle := by
  rw [atWay?_concat, h.atWay?]
  exact hchild

/-- The directory above has one name less on its way. -/
theorem Meets.up (wf : tree.WellFormed) (h : tree.Meets way directory) :
    tree.Meets way.dropLast (tree.above directory) := by
  obtain ⟨hway, hdirectory⟩ := h
  rcases List.eq_nil_or_concat' way with rfl | ⟨front, name, rfl⟩
  · cases hway
    rw [wf.above_root]
    exact ⟨rfl, hdirectory⟩
  · rw [atWay?_concat] at hway
    obtain ⟨above, habove, hchild⟩ := Option.bind_eq_some_iff.1 hway
    rw [List.dropLast_concat, wf.above_child? hchild hdirectory]
    exact ⟨habove, isDirectory_of_child? hchild⟩

/-- The canonical way is as far as the path is: where the path ends there is what the way leads to, and where a link has
come up the way leads to the directory with the link. -/
inductive Matches (tree : Tree) : Stretch → Resolved → Prop where
  | ends {place : Place} {way : List Name}
      (spot : ∀ handle node, tree.spotOf place = .ok (.taken handle node) → tree.atWay? root way = some handle) :
      tree.Matches (.arrives place) (.ends way)
  | turns {directory : Handle} {way : List Name} (meets : tree.Meets way directory) (target : List UInt8)
      (rest : List Name) : tree.Matches (.turns directory target rest) (.turns way target rest)

/-- A result has a property, unless a path has got too long before there was one. -/
def UnlessTooLong {α : Type} (result : Except Fault α) (good : α → Prop) : Prop :=
  result = .error .nameTooLong ∨ ∃ a, result = .ok a ∧ good a

/-- Two parts neither of which fails unless a path has got too long make a whole that does not either. -/
theorem UnlessTooLong.bind {α β : Type} {result : Except Fault α} {good : α → Prop} {next : α → Except Fault β}
    {good' : β → Prop} (h : UnlessTooLong result good) (hnext : ∀ a, good a → UnlessTooLong (next a) good') :
    UnlessTooLong (result.bind next) good' := by
  rcases h with hlong | ⟨a, hresult, hgood⟩
  · rw [hlong]
    exact .inl rfl
  · rw [hresult]
    exact hnext a hgood

/-- A name below a way that leads to a directory stands for what has the name there. -/
theorem Meets.nodeBelow {node : Node} (wf : tree.WellFormed) (h : tree.Meets way directory)
    (hchild : tree.child? directory step = some handle) (hnode : tree.get? handle = some node) :
    UnlessTooLong (tree.nodeBelow way step) (· = node) := by
  unfold Tree.nodeBelow
  by_cases hlong : pathLimit ≤ (pathOf (way ++ [step])).length
  · exact .inl (if_pos hlong)
  · have hlength : ¬ nameLimit < step.length := Nat.not_lt.2 (wf.isName hchild).length_le
    have hnot : tree.isDirectory directory ≠ false := by simp [h.isDirectory]
    rw [if_neg hlong, h.atWay?]
    dsimp only
    rw [if_neg hnot, if_neg hlength, hchild, Option.bind_some, hnode]
    exact .inr ⟨node, rfl, rfl⟩

/-- A name turns at a link and otherwise goes on, through a directory if something is to be found behind it. -/
theorem resolveAlong_name {rest : List Name} (hstay : step ≠ Route.stay) (hup : step ≠ Route.up) :
    tree.resolveAlong .nothing true slash way (step :: rest) = (tree.nodeBelow way step).bind fun node =>
      node.target?.elim
        (if needsDirectory rest slash = true ∧ node.isDirectory = false then .error .notADirectory
          else tree.resolveAlong .nothing true slash (way ++ [step]) rest)
        fun target => .ok (.turns way target rest) := by
  rw [resolveAlong, if_neg hstay, if_neg hup, if_neg (by simp), if_pos rfl]
  cases tree.nodeBelow way step with
  | error fault => rfl
  | ok node => cases node <;> simp [Node.target?, Except.bind]

/-- **The canonical way of steps is as far as the steps lead,** where they lead to something. -/
theorem resolveAlong_of_stretch {result : Stretch} (wf : tree.WellFormed) (hmeets : tree.Meets way directory)
    (h : tree.stretch .followed slash directory steps = .ok result)
    (hspot : ∀ place, result = .arrives place → ∃ handle node, tree.spotOf place = .ok (.taken handle node)) :
    UnlessTooLong (tree.resolveAlong .nothing true slash way steps) (tree.Matches result) := by
  induction steps generalizing way directory with
  | nil =>
    cases h
    refine .inr ⟨_, rfl, .ends fun handle node hspot => ?_⟩
    rw [(spotAt_eq_taken_iff.1 hspot).2]
    exact hmeets.atWay?
  | cons step rest ih =>
    by_cases hstay : step = Route.stay
    · rw [hstay, stretch_stay hmeets.isDirectory] at h
      rw [resolveAlong, if_pos hstay]
      exact ih hmeets h
    by_cases hup : step = Route.up
    · have habove := hmeets.up wf
      rw [resolveAlong, if_neg hstay, if_pos hup]
      subst hup
      by_cases hrest : rest = []
      · subst hrest
        obtain rfl : .arrives ⟨directory, .up⟩ = result := by simpa [Tree.stretch, hstay] using h
        refine .inr ⟨_, rfl, .ends fun handle node hspot => ?_⟩
        rw [(spotAt_eq_taken_iff.1 hspot).2]
        exact habove.atWay?
      · obtain ⟨handle, henter, hon⟩ := (stretch_cons_iff hrest).1 h
        obtain rfl : tree.above directory = handle := by simpa [enter, hstay] using henter
        rcases hon with ⟨-, h⟩ | ⟨target, htarget, -⟩
        · exact ih habove h
        · rw [target?_of_isDirectory habove.isDirectory] at htarget
          cases htarget
    · rw [resolveAlong_name hstay hup]
      by_cases hrest : rest = []
      · subst hrest
        rcases stretch_singleton_iff.1 h with ⟨h, -⟩ | ⟨⟨-, h⟩, -⟩ | ⟨-, ⟨hnone, rfl⟩ | ⟨target, hsome, rfl⟩⟩
        · exact absurd h hstay
        · exact absurd h hup
        · obtain ⟨handle, node, htaken⟩ := hspot _ rfl
          obtain ⟨hnode, -, hchild, hslash⟩ := spotOf_name_eq_taken_iff.1 htaken
          have htarget : node.target? = none := by
            have hlink : tree.targetOf? directory step = none := hnone
            rwa [targetOf?, hchild, Option.bind_some, hnode, Option.bind_some] at hlink
          have hneeds : ¬ (needsDirectory [] slash = true ∧ node.isDirectory = false) := by
            rintro ⟨hneeds, hnot⟩
            have hdirectory := hslash (by simpa [needsDirectory] using hneeds)
            rw [isDirectory, hnode, Option.any_some, hnot] at hdirectory
            cases hdirectory
          refine (hmeets.nodeBelow wf hchild hnode).bind ?_
          rintro _ rfl
          rw [htarget, Option.elim_none, if_neg hneeds]
          refine .inr ⟨_, rfl, .ends fun other node hother => ?_⟩
          exact hmeets.down (spotOf_name_eq_taken_iff.1 hother).2.2.1
        · obtain ⟨handle, hchild, hlink⟩ := Option.bind_eq_some_iff.1 hsome
          obtain ⟨node, hnode, htarget⟩ := Option.bind_eq_some_iff.1 hlink
          refine (hmeets.nodeBelow wf hchild hnode).bind ?_
          rintro _ rfl
          rw [htarget, Option.elim_some]
          exact .inr ⟨_, rfl, .turns hmeets target []⟩
      · obtain ⟨handle, henter, hon⟩ := (stretch_cons_iff hrest).1 h
        have hchild := ((enter_of_name hstay hup).1 henter).2
        rcases hon with ⟨hdirectory, h⟩ | ⟨target, hlink, rfl⟩
        · obtain ⟨above, entries, mode, hnode⟩ := isDirectory_iff.1 hdirectory
          refine (hmeets.nodeBelow wf hchild hnode).bind ?_
          rintro _ rfl
          have htarget : (Node.directory above entries mode).target? = none := rfl
          rw [htarget, Option.elim_none, if_neg (by simp [Node.isDirectory])]
          exact ih ⟨hmeets.down hchild, hdirectory⟩ h
        · obtain ⟨node, hnode, htarget⟩ := Option.bind_eq_some_iff.1 hlink
          refine (hmeets.nodeBelow wf hchild hnode).bind ?_
          rintro _ rfl
          rw [htarget, Option.elim_some]
          exact .inr ⟨_, rfl, .turns hmeets target rest⟩

/-! ## Routes and paths -/

section Routes

variable {links : Nat} {route : Route}

/-- A fault on the way is that of the whole route. -/
theorem resolveFrom_of_error {fault : Fault}
    (h : tree.resolveAlong .nothing true route.slash (if route.absolute then [] else way) route.steps = .error fault) :
    tree.resolveFrom .nothing links way route = .error fault := by
  have hturns : decide (Lack.nothing ≠ .anything) = true := rfl
  cases links with
  | zero => rw [resolveFrom, hturns, h]
  | succ links => rw [resolveFrom, h]

/-- A way without links is that of the whole route. -/
theorem resolveFrom_of_ends {found : List Name}
    (h : tree.resolveAlong .nothing true route.slash (if route.absolute then [] else way) route.steps =
      .ok (.ends found)) : tree.resolveFrom .nothing links way route = .ok found := by
  have hturns : decide (Lack.nothing ≠ .anything) = true := rfl
  cases links with
  | zero => rw [resolveFrom, hturns, h]
  | succ links => rw [resolveFrom, h]

/-- At a link the route goes on with its target, and one link less may be followed. -/
theorem resolveFrom_of_turns {front rest : List Name} {target : List UInt8}
    (h : tree.resolveAlong .nothing true route.slash (if route.absolute then [] else way) route.steps =
      .ok (.turns front target rest)) :
    tree.resolveFrom .nothing (links + 1) way route =
      tree.resolveFrom .nothing links front (onward route target rest) := by
  rw [resolveFrom, h]
  rfl

/-- An absolute route begins at the root, and every other one where it is followed from. -/
theorem Meets.origin (hroot : tree.isDirectory root = true) (h : tree.Meets way directory) (route : Route) :
    tree.Meets (if route.absolute then [] else way) (origin directory route) := by
  unfold Tree.origin
  cases route.absolute with
  | true => exact ⟨rfl, hroot⟩
  | false => exact h

/-- The canonical way along a route leads to what the route leads to. -/
theorem resolveFrom_of_walk {place : Place} {node : Node} (wf : tree.WellFormed) (hroot : tree.isDirectory root = true)
    (hmeets : tree.Meets (if route.absolute then [] else way) (origin cwd route))
    (hwalk : tree.walk .followed links cwd route = .ok place)
    (hspot : tree.spotOf place = .ok (.taken handle node)) :
    UnlessTooLong (tree.resolveFrom .nothing links way route) fun found => tree.atWay? root found = some handle := by
  induction links using Nat.strongRecOn generalizing cwd way route with
  | ind links ih =>
    rcases walk_eq_ok_iff.1 hwalk with harrives | ⟨fewer, directory, target, rest, rfl, hturns, hwalk⟩
    · have htaken : ∀ arrived, Stretch.arrives place = .arrives arrived →
          ∃ handle node, tree.spotOf arrived = .ok (.taken handle node) := by
        rintro _ ⟨⟩
        exact ⟨handle, node, hspot⟩
      rcases resolveAlong_of_stretch wf hmeets harrives htaken with hlong | ⟨resolved, hresolved, hmatches⟩
      · exact .inl (resolveFrom_of_error hlong)
      · cases hmatches with
        | ends hspots => exact .inr ⟨_, resolveFrom_of_ends hresolved, hspots handle node hspot⟩
    · rcases resolveAlong_of_stretch wf hmeets hturns (by rintro _ ⟨⟩) with hlong | ⟨resolved, hresolved, hmatches⟩
      · exact .inl (resolveFrom_of_error hlong)
      · cases hmatches with
        | turns hdirectory =>
          rw [resolveFrom_of_turns hresolved]
          exact ih fewer (Nat.lt_succ_self fewer) (hdirectory.origin hroot _) hwalk

end Routes

/-- **What a path leads to has a canonical way, which leads to it,** unless that gets too long. -/
theorem canonicalWay_of_locate {path : List UInt8} {node : Node} (wf : tree.WellFormed) (anchored : Anchored tree cwd)
    (hcwd : (tree.wayTo? cwd).isSome = true) (hlocate : tree.locate cwd path = .ok (handle, node)) :
    UnlessTooLong (tree.canonicalWay .nothing true cwd path) fun found => tree.atWay? root found = some handle := by
  obtain ⟨place, hplace, hspot⟩ := locate_eq_ok_iff.1 hlocate
  obtain ⟨⟨hzero, hne, -⟩, hwalk⟩ := placeOf_eq_ok_iff.1 hplace
  obtain ⟨way, hway⟩ := Option.isSome_iff_exists.1 hcwd
  have hmeets : tree.Meets way cwd := ⟨wf.atWay?_of_wayTo? anchored.cwd hway, anchored.cwd⟩
  have horigin := hmeets.origin anchored.root (Route.ofPath path)
  rw [canonicalWay, if_neg (by simpa using hzero), if_neg hne, hway]
  dsimp only
  cases habsolute : (Route.ofPath path).absolute with
  | true =>
    rw [habsolute] at horigin
    exact resolveFrom_of_walk wf anchored.root (by rwa [habsolute]) hwalk hspot
  | false =>
    rw [habsolute] at horigin
    exact resolveFrom_of_walk wf anchored.root (by rwa [habsolute]) hwalk hspot

end CounterCatalog.Tree
