import CounterCatalog.Tree.File
import Mathlib.Tactic.SplitIfs

/-!
# Paths in a tree that gets a file

Writing a file changes what the file holds, and making one gives a name to a new node. Neither leads a path
astray: where a path led to before, it still leads (`Keeps`), and the path that a file was made or emptied at
leads to that file (`locate_create`), which it also does after the file has been written
(`locate_set_file`).

Opening for writing follows a link at the end of a path as opening for reading does, and refuses a slash
after the last name, so the two find the same place.
-/

set_option autoImplicit false

namespace CounterCatalog.Tree

/-- Paths have somewhere to begin: the root and the current directory are directories. -/
structure Anchored (tree : Tree) (cwd : Handle) : Prop where
  root : tree.isDirectory root = true
  cwd : tree.isDirectory cwd = true

/-- Every path that leads somewhere leads there in the new tree too: names are kept, links and directories
stay what they are, and a name that is new stands for no link. -/
structure Keeps (old new : Tree) : Prop where
  child? : ∀ {directory name handle}, old.child? directory name = some handle →
    new.child? directory name = some handle
  fresh : ∀ {directory name handle}, old.child? directory name = none →
    new.child? directory name = some handle → (new.get? handle).bind Node.target? = none
  above : ∀ directory, new.above directory = old.above directory
  target? : ∀ handle, (new.get? handle).bind Node.target? = (old.get? handle).bind Node.target?
  directory : ∀ {handle}, old.isDirectory handle = true → new.isDirectory handle = true

/-! ## When a path leads somewhere -/

section Leading

variable {tree : Tree} {ending : Ending}

/-- A handle is a directory exactly if a directory is what it stands for. -/
theorem isDirectory_iff {handle : Handle} :
    tree.isDirectory handle = true ↔
      ∃ above entries mode, tree.get? handle = some (.directory above entries mode) := by
  unfold isDirectory
  cases h : tree.get? handle with
  | none => simp
  | some node => cases node <;> simp [Node.isDirectory]

/-- The last step stays, goes up, or is a name; a name turns at a link that has to be followed, and a name
for a file to be made has no slash behind it. -/
theorem stretch_singleton_iff {slash : Bool} {directory : Handle} {step : Name} {result : Stretch} :
    tree.stretch ending slash directory [step] = .ok result ↔
      step = Route.stay ∧ result = .arrives ⟨directory, .here⟩ ∨
      (step ≠ Route.stay ∧ step = Route.up) ∧ result = .arrives ⟨directory, .up⟩ ∨
      (step ≠ Route.stay ∧ step ≠ Route.up ∧ (ending = .made → slash = false)) ∧
        ((if ending.follows slash then tree.targetOf? directory step else none) = none ∧
            result = .arrives ⟨directory, .name step slash⟩ ∨
          ∃ target, (if ending.follows slash then tree.targetOf? directory step else none) = some target ∧
            result = .turns directory target []) := by
  rw [Tree.stretch]
  -- The cases are those of the definition, in its order, so each of them comes after the ones before it failed.
  by_cases hstay : step = Route.stay
  · rw [if_pos hstay]
    constructor
    · intro h
      cases h
      exact .inl ⟨hstay, rfl⟩
    · rintro (⟨-, rfl⟩ | ⟨⟨h, -⟩, -⟩ | ⟨⟨h, -⟩, -⟩)
      · rfl
      · exact absurd hstay h
      · exact absurd hstay h
  by_cases hup : step = Route.up
  · rw [if_neg hstay, if_pos hup]
    constructor
    · intro h
      cases h
      exact .inr (.inl ⟨⟨hstay, hup⟩, rfl⟩)
    · rintro (⟨h, -⟩ | ⟨-, rfl⟩ | ⟨⟨-, h, -⟩, -⟩)
      · exact absurd h hstay
      · rfl
      · exact absurd hup h
  rw [if_neg hstay, if_neg hup]
  by_cases hmade : ending = .made ∧ slash = true
  · simp [hmade, hstay, hup]
  rw [if_neg hmade]
  have hslash : ending = .made → slash = false := by simpa using hmade
  cases if ending.follows slash then tree.targetOf? directory step else none with
  | none =>
    constructor
    · intro h
      cases h
      exact .inr (.inr ⟨⟨hstay, hup, hslash⟩, .inl ⟨rfl, rfl⟩⟩)
    · rintro (⟨h, -⟩ | ⟨⟨-, h⟩, -⟩ | ⟨-, ⟨-, rfl⟩ | ⟨target, h, -⟩⟩)
      · exact absurd h hstay
      · exact absurd h hup
      · rfl
      · cases h
  | some target =>
    constructor
    · intro h
      cases h
      exact .inr (.inr ⟨⟨hstay, hup, hslash⟩, .inr ⟨target, rfl, rfl⟩⟩)
    · rintro (⟨h, -⟩ | ⟨⟨-, h⟩, -⟩ | ⟨-, ⟨h, -⟩ | ⟨target', h, rfl⟩⟩)
      · exact absurd h hstay
      · exact absurd h hup
      · cases h
      · cases h
        rfl

/-- A step before the last leads on through a directory, or turns at a link. -/
theorem stretch_cons_cons_iff {slash : Bool} {directory : Handle} {step next : Name} {rest : List Name}
    {result : Stretch} :
    tree.stretch ending slash directory (step :: next :: rest) = .ok result ↔
      ∃ handle, tree.enter directory step = .ok handle ∧
        (tree.isDirectory handle = true ∧ tree.stretch ending slash handle (next :: rest) = .ok result ∨
          ∃ target, (tree.get? handle).bind Node.target? = some target ∧
            result = .turns directory target (next :: rest)) := by
  rw [Tree.stretch]
  cases henter : tree.enter directory step with
  | error fault => simp
  | ok handle =>
    simp only [Except.ok.injEq, exists_eq_left', isDirectory_iff]
    cases hnode : tree.get? handle with
    | none => simp
    | some node => cases node <;> simp [Node.target?, eq_comm]

/-- The route on from a link: what it stands for, and then the steps that are left behind it. -/
def onward (route : Route) (target : List UInt8) (rest : List Name) : Route :=
  let next := Route.ofPath target
  ⟨next.absolute, next.steps ++ rest, if rest = [] then route.slash || next.slash else route.slash⟩

/-- A route leads to its last step by itself, or through a link that may still be followed. -/
theorem walk_eq_ok_iff {links : Nat} {cwd : Handle} {route : Route} {place : Place} :
    tree.walk ending links cwd route = .ok place ↔
      tree.stretch ending route.slash (origin cwd route) route.steps = .ok (.arrives place) ∨
      ∃ fewer directory target rest, links = fewer + 1 ∧
        tree.stretch ending route.slash (origin cwd route) route.steps = .ok (.turns directory target rest) ∧
        tree.walk ending fewer directory (onward route target rest) = .ok place := by
  cases links with
  | zero =>
    rw [Tree.walk]
    split <;> simp_all
  | succ links =>
    rw [Tree.walk]
    cases tree.stretch ending route.slash (origin cwd route) route.steps with
    | error fault => simp
    | ok result =>
      cases result with
      | arrives place => simp
      | turns directory target rest =>
        constructor
        · intro h
          exact .inr ⟨links, directory, target, rest, rfl, rfl, h⟩
        · rintro (h | ⟨fewer, _, _, _, hlinks, hturns, h⟩)
          · cases h
          · cases hlinks
            cases hturns
            exact h

/-- What holds where a route arrives, and holds of a route when it holds of the way on from its first link, holds
of every route that leads somewhere. -/
theorem walk_induction {motive : Nat → Handle → Route → Place → Prop}
    (arrives : ∀ {links cwd route place},
      tree.stretch ending route.slash (origin cwd route) route.steps = .ok (.arrives place) →
        motive links cwd route place)
    (turns : ∀ {links cwd route place directory target rest},
      tree.stretch ending route.slash (origin cwd route) route.steps = .ok (.turns directory target rest) →
        motive links directory (onward route target rest) place → motive (links + 1) cwd route place)
    {links : Nat} {cwd : Handle} {route : Route} {place : Place} (h : tree.walk ending links cwd route = .ok place) :
    motive links cwd route place := by
  induction links generalizing cwd route with
  | zero =>
    obtain harrives | ⟨fewer, _, _, _, hlinks, -⟩ := walk_eq_ok_iff.1 h
    · exact arrives harrives
    · cases hlinks
  | succ links ih =>
    obtain harrives | ⟨fewer, directory, target, rest, hlinks, hturns, hwalk⟩ := walk_eq_ok_iff.1 h
    · exact arrives harrives
    · cases hlinks
      exact turns hturns (ih hwalk)

/-- A path leads to its last step when it can be a path and its route leads there. -/
theorem placeOf_eq_ok_iff {cwd : Handle} {path : List UInt8} {place : Place} :
    tree.placeOf ending cwd path = .ok place ↔
      (0 ∉ path ∧ path ≠ [] ∧ path.length < pathLimit) ∧
        tree.walk ending linkLimit cwd (Route.ofPath path) = .ok place := by
  unfold placeOf
  split_ifs with hzero hempty hlong
  · simp_all
  · simp_all
  · simp [Nat.not_lt.2 hlong]
  · simp_all

end Leading

/-! ## Following a path in both trees -/

/-- What is found with one ending is found with another: the same links are followed, and no slash is refused that
was not refused before. -/
structure Ending.CoveredBy (ending other : Ending) : Prop where
  follows : ∀ slash, other.follows slash = ending.follows slash
  made : other = .made → ending = .made

/-- Every ending is covered by itself. -/
theorem Ending.CoveredBy.refl (ending : Ending) : ending.CoveredBy ending :=
  ⟨fun _ => rfl, id⟩

/-- A file that is to be made is found where one that is to be read is. -/
theorem Ending.CoveredBy.made_followed : Ending.made.CoveredBy .followed :=
  ⟨fun _ => rfl, nofun⟩

section Following

variable {old new : Tree} {ending other : Ending}

/-- A tree that stays the same keeps its paths. -/
theorem Keeps.refl (tree : Tree) : Keeps tree tree where
  child? h := h
  fresh hnone hsome := by
    rw [hnone] at hsome
    cases hsome
  above _ := rfl
  target? _ := rfl
  directory h := h

/-- Paths that are kept twice are kept. -/
theorem Keeps.trans {between : Tree} (keeps : Keeps old between) (keeps' : Keeps between new) : Keeps old new where
  child? h := keeps'.child? (keeps.child? h)
  fresh {directory name handle} hnone hsome := by
    cases hbetween : between.child? directory name with
    | none => exact keeps'.fresh hbetween hsome
    | some other =>
      cases (keeps'.child? hbetween).symm.trans hsome
      rw [keeps'.target?]
      exact keeps.fresh hnone hbetween
  above directory := (keeps'.above directory).trans (keeps.above directory)
  target? handle := (keeps'.target? handle).trans (keeps.target? handle)
  directory h := keeps'.directory (keeps.directory h)

/-- A name stands for the same link in both trees, or for none in both. -/
theorem Keeps.targetOf? (keeps : Keeps old new) (directory : Handle) (name : Name) :
    new.targetOf? directory name = old.targetOf? directory name := by
  unfold Tree.targetOf?
  cases hold : old.child? directory name with
  | some handle =>
    rw [keeps.child? hold, Option.bind_some, Option.bind_some, keeps.target?]
  | none =>
    cases hnew : new.child? directory name with
    | none => rfl
    | some handle => exact keeps.fresh hold hnew

/-- A step that leads somewhere leads there in the new tree too. -/
theorem Keeps.enter (keeps : Keeps old new) {directory handle : Handle} {step : Name}
    (h : old.enter directory step = .ok handle) : new.enter directory step = .ok handle := by
  unfold Tree.enter at h ⊢
  rw [keeps.above]
  cases hchild : old.child? directory step with
  | some child =>
    rw [keeps.child? hchild]
    rwa [hchild] at h
  | none =>
    rw [hchild] at h
    split_ifs at h ⊢ <;> exact h

/-- The way along steps is the same in the new tree. -/
theorem Keeps.stretch (keeps : Keeps old new) (covered : ending.CoveredBy other) {slash : Bool}
    {directory : Handle} {steps : List Name} {result : Stretch}
    (h : old.stretch ending slash directory steps = .ok result) :
    new.stretch other slash directory steps = .ok result := by
  induction steps generalizing directory with
  | nil => exact h
  | cons step rest ih =>
    cases rest with
    | nil =>
      rw [stretch_singleton_iff] at h ⊢
      rw [keeps.targetOf?, covered.follows]
      rcases h with h | h | ⟨⟨hstay, hup, hslash⟩, h⟩
      · exact .inl h
      · exact .inr (.inl h)
      · exact .inr (.inr ⟨⟨hstay, hup, fun hmade => hslash (covered.made hmade)⟩, h⟩)
    | cons next rest =>
      obtain ⟨handle, henter, hon⟩ := stretch_cons_cons_iff.1 h
      refine stretch_cons_cons_iff.2 ⟨handle, keeps.enter henter, ?_⟩
      rcases hon with ⟨hdirectory, hrest⟩ | ⟨target, htarget, hresult⟩
      · exact .inl ⟨keeps.directory hdirectory, ih hrest⟩
      · exact .inr ⟨target, (keeps.target? handle).trans htarget, hresult⟩

/-- The way along a route is the same in the new tree. -/
theorem Keeps.walk (keeps : Keeps old new) (covered : ending.CoveredBy other) {links : Nat}
    {cwd : Handle} {route : Route} {place : Place} (h : old.walk ending links cwd route = .ok place) :
    new.walk other links cwd route = .ok place := by
  refine walk_induction (motive := fun links cwd route place => new.walk other links cwd route = .ok place)
    ?arrives ?turns h
  case arrives =>
    intro links cwd route place harrives
    exact walk_eq_ok_iff.2 (.inl (keeps.stretch covered harrives))
  case turns =>
    intro links cwd route place directory target rest hturns hwalk
    exact walk_eq_ok_iff.2 (.inr ⟨links, directory, target, rest, rfl, keeps.stretch covered hturns, hwalk⟩)

/-- A path's last step is taken at the same place in the new tree. -/
theorem Keeps.placeOf (keeps : Keeps old new) (covered : ending.CoveredBy other) {cwd : Handle}
    {path : List UInt8} {place : Place} (h : old.placeOf ending cwd path = .ok place) :
    new.placeOf other cwd path = .ok place := by
  obtain ⟨hpath, hwalk⟩ := placeOf_eq_ok_iff.1 h
  exact placeOf_eq_ok_iff.2 ⟨hpath, keeps.walk covered hwalk⟩

end Following

/-! ## Where a last step can be taken -/

section Arriving

variable {tree : Tree} {ending : Ending}

/-- The directory in which the way along steps stops. -/
def Stretch.directory : Stretch → Handle
  | .arrives place => place.directory
  | .turns directory _ _ => directory

/-- The way along steps goes from directory to directory. -/
theorem isDirectory_stretch {slash : Bool} {directory : Handle} {steps : List Name} {result : Stretch}
    (hdirectory : tree.isDirectory directory = true)
    (h : tree.stretch ending slash directory steps = .ok result) :
    tree.isDirectory result.directory = true := by
  induction steps generalizing directory with
  | nil =>
    cases h
    exact hdirectory
  | cons step rest ih =>
    cases rest with
    | nil =>
      rcases stretch_singleton_iff.1 h with ⟨-, rfl⟩ | ⟨-, rfl⟩ | ⟨-, ⟨-, rfl⟩ | ⟨target, -, rfl⟩⟩ <;>
        exact hdirectory
    | cons next rest =>
      obtain ⟨handle, -, ⟨hhandle, hrest⟩ | ⟨target, -, rfl⟩⟩ := stretch_cons_cons_iff.1 h
      · exact ih hhandle hrest
      · exact hdirectory

/-- Every route begins at a directory. -/
theorem Anchored.origin {cwd : Handle} (anchored : Anchored tree cwd) (route : Route) :
    tree.isDirectory (origin cwd route) = true := by
  unfold Tree.origin
  split
  · exact anchored.root
  · exact anchored.cwd

/-- The last step of a path is taken in a directory. -/
theorem isDirectory_walk {links : Nat} {cwd : Handle} {route : Route} {place : Place}
    (anchored : Anchored tree cwd) (h : tree.walk ending links cwd route = .ok place) :
    tree.isDirectory place.directory = true := by
  refine walk_induction (motive := fun _ cwd _ place => Anchored tree cwd → tree.isDirectory place.directory = true)
    ?arrives ?turns h anchored
  case arrives =>
    intro links cwd route place harrives anchored
    exact isDirectory_stretch (anchored.origin route) harrives
  case turns =>
    intro links cwd route place directory target rest hturns hwalk anchored
    exact hwalk ⟨anchored.root, isDirectory_stretch (anchored.origin route) hturns⟩

/-- A path to a file to be made has no slash behind its last name. -/
theorem slash_of_stretch_made {slash slash' : Bool} {directory directory' : Handle} {steps : List Name}
    {name : Name} (h : tree.stretch .made slash directory steps = .ok (.arrives ⟨directory', .name name slash'⟩)) :
    slash' = false := by
  induction steps generalizing directory with
  | nil => cases h
  | cons step rest ih =>
    cases rest with
    | nil =>
      rcases stretch_singleton_iff.1 h with ⟨-, h⟩ | ⟨-, h⟩ | ⟨⟨-, -, hslash⟩, ⟨-, h⟩ | ⟨target, -, h⟩⟩
      · cases h
      · cases h
      · cases h
        exact hslash rfl
      · cases h
    | cons next rest =>
      obtain ⟨handle, -, ⟨-, hrest⟩ | ⟨target, -, hresult⟩⟩ := stretch_cons_cons_iff.1 h
      · exact ih hrest
      · cases hresult

/-- A file is never made under a name with a slash behind it. -/
theorem slash_of_walk_made {links : Nat} {cwd directory : Handle} {route : Route} {name : Name} {slash : Bool}
    (h : tree.walk .made links cwd route = .ok ⟨directory, .name name slash⟩) : slash = false := by
  refine walk_induction (motive := fun _ _ _ place =>
    ∀ directory name slash, place = ⟨directory, .name name slash⟩ → slash = false) ?arrives ?turns h _ _ _ rfl
  case arrives =>
    rintro links cwd route place harrives directory name slash rfl
    exact slash_of_stretch_made harrives
  case turns =>
    intro links cwd route place directory target rest hturns hwalk
    exact hwalk

end Arriving

end CounterCatalog.Tree
