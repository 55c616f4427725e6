import CounterCatalog.Proofs.Tree.Leading
import Mathlib.Data.List.Basic
import Mathlib.Data.List.Nodup

/-!
# Well-formed trees

In a tree that is well formed, a directory is below the one that has it under a name, and names can be written in a path
(`WellFormed`). A tree stays well formed when it gets a new node under a name, whatever had the name before
(`WellFormed.place`), so every tree is that is built up from the empty one.
-/

set_option autoImplicit false

namespace CounterCatalog.Tree

/-- Bytes can be a name in a directory: it is of some length, but not too long, no slash is in it, and it is not one of
the two steps that are no names. -/
structure IsName (name : Name) : Prop where
  ne_nil : name ≠ []
  length_le : name.length ≤ nameLimit
  slash : 0x2F ∉ name
  stay : name ≠ Route.stay
  up : name ≠ Route.up

instance (name : Name) : Decidable (IsName name) :=
  decidable_of_iff ((name ≠ [] ∧ name.length ≤ nameLimit) ∧ 0x2F ∉ name ∧ name ≠ Route.stay ∧ name ≠ Route.up)
    ⟨fun ⟨⟨h₁, h₂⟩, h₃, h₄, h₅⟩ => ⟨h₁, h₂, h₃, h₄, h₅⟩, fun h => ⟨⟨h.1, h.2⟩, h.3, h.4, h.5⟩⟩

/-- Names stand for one thing each, which is there, and a directory that has a name in another is below that. -/
structure WellFormed (tree : Tree) : Prop where
  above_root : tree.above root = root
  name : ∀ directory, ∀ entry ∈ tree.entries directory, IsName entry.1
  there : ∀ directory, ∀ entry ∈ tree.entries directory, (tree.get? entry.2).isSome = true
  distinct : ∀ directory, ((tree.entries directory).map Prod.fst).Nodup
  above : ∀ directory, ∀ entry ∈ tree.entries directory, tree.isDirectory entry.2 = true →
    tree.above entry.2 = directory

variable {tree : Tree} {directory handle : Handle} {name : Name}

/-- No names are in a handle that is not in use. -/
theorem entries_of_size_le (h : tree.nodes.size ≤ directory) : tree.entries directory = [] := by
  have hnone : tree.get? directory = none := by simpa [get?] using h
  rw [Tree.entries, hnone]
  rfl

/-- Only the directories that are there have names in them. -/
theorem wellFormed_iff :
    tree.WellFormed ↔ tree.above root = root ∧ ∀ directory < tree.nodes.size,
      (∀ entry ∈ tree.entries directory, IsName entry.1 ∧ (tree.get? entry.2).isSome = true ∧
        (tree.isDirectory entry.2 = true → tree.above entry.2 = directory)) ∧
      ((tree.entries directory).map Prod.fst).Nodup := by
  constructor
  · intro h
    refine ⟨h.above_root, fun directory _ => ⟨fun entry hentry => ?_, h.distinct directory⟩⟩
    exact ⟨h.name directory entry hentry, h.there directory entry hentry, h.above directory entry hentry⟩
  · rintro ⟨hroot, h⟩
    have hlt : ∀ directory, ∀ entry ∈ tree.entries directory, directory < tree.nodes.size := by
      intro directory entry hentry
      by_contra hle
      rw [entries_of_size_le (Nat.le_of_not_lt hle)] at hentry
      cases hentry
    refine ⟨hroot, fun directory entry hentry => ?_, fun directory entry hentry => ?_, fun directory => ?_,
      fun directory entry hentry => ?_⟩
    · exact ((h directory (hlt directory entry hentry)).1 entry hentry).1
    · exact ((h directory (hlt directory entry hentry)).1 entry hentry).2.1
    · by_cases hdirectory : directory < tree.nodes.size
      · exact (h directory hdirectory).2
      · rw [entries_of_size_le (Nat.le_of_not_lt hdirectory)]
        exact List.nodup_nil
    · exact ((h directory (hlt directory entry hentry)).1 entry hentry).2.2

instance (tree : Tree) : Decidable tree.WellFormed :=
  decidable_of_iff _ wellFormed_iff.symm

/-- What a name stands for is entered in the directory under that name. -/
theorem mem_entries_of_child? (h : tree.child? directory name = some handle) :
    (name, handle) ∈ tree.entries directory := by
  obtain ⟨entry, hfind, rfl⟩ := Option.map_eq_some_iff.1 h
  obtain rfl : entry.1 = name := by simpa using List.find?_some hfind
  exact List.mem_of_find?_eq_some hfind

/-- In a well-formed tree every entry is what its name stands for. -/
theorem WellFormed.child?_of_mem (wf : tree.WellFormed) (h : (name, handle) ∈ tree.entries directory) :
    tree.child? directory name = some handle := by
  obtain ⟨entry, hfind⟩ : ∃ entry, (tree.entries directory).find? (fun entry => entry.1 = name) = some entry := by
    rw [← Option.isSome_iff_exists, List.find?_isSome]
    exact ⟨_, h, by simp⟩
  have hname : entry.1 = name := by simpa using List.find?_some hfind
  have hentry : entry = (name, handle) :=
    List.inj_on_of_nodup_map (wf.distinct directory) (List.mem_of_find?_eq_some hfind) h hname
  rw [child?, hfind, hentry]
  rfl

/-- In a well-formed tree whatever stands for something is a name. -/
theorem WellFormed.isName (wf : tree.WellFormed) (h : tree.child? directory name = some handle) : IsName name :=
  wf.name directory _ (mem_entries_of_child? h)

/-- A directory that a name stands for is below the directory with that name. -/
theorem WellFormed.above_child? (wf : tree.WellFormed) (h : tree.child? directory name = some handle)
    (hdirectory : tree.isDirectory handle = true) : tree.above handle = directory :=
  wf.above directory _ (mem_entries_of_child? h) hdirectory

/-! ## Trees that get new nodes -/

/-- The tree that has only a root is well formed. -/
theorem wellFormed_empty : empty.WellFormed := by
  decide

section Placing

variable {node : Node}

/-- A new node changes neither where another node is nor whether it is a directory. -/
theorem same_after_place (hdirectory : tree.isDirectory directory = true) (h : (tree.get? handle).isSome = true) :
    (tree.place directory name node).2.above handle = tree.above handle ∧
      (tree.place directory name node).2.isDirectory handle = tree.isDirectory handle ∧
      ((tree.place directory name node).2.get? handle).isSome = true := by
  obtain ⟨above, entries, mode, hnode⟩ := isDirectory_iff.1 hdirectory
  have hne : handle ≠ tree.nodes.size := by
    rintro rfl
    simp [get?] at h
  unfold Tree.above isDirectory
  rw [get?_place hnode]
  by_cases heq : handle = directory
  · subst heq
    simp [hnode, Node.isDirectory]
  · rw [if_neg heq, if_neg hne]
    exact ⟨rfl, rfl, h⟩

/-- A new node brings the name that it is placed under, and no names in it. -/
theorem mem_entries_place {other : Handle} {entry : Name × Handle} (hdirectory : tree.isDirectory directory = true)
    (hnode : node.entries = []) (h : entry ∈ (tree.place directory name node).2.entries other) :
    entry ∈ tree.entries other ∨ other = directory ∧ entry = (name, tree.nodes.size) := by
  obtain ⟨above, entries, mode, hget⟩ := isDirectory_iff.1 hdirectory
  unfold Tree.entries at h ⊢
  rw [get?_place hget] at h
  split_ifs at h with hother hnew
  · rw [Option.map_some, Option.getD_some, Node.entries, List.mem_append, List.mem_singleton] at h
    rw [hother, hget]
    rcases h with hold | hentry
    · exact .inl (List.mem_filter.1 hold).1
    · exact .inr ⟨rfl, hentry⟩
  · rw [Option.map_some, Option.getD_some, hnode] at h
    cases h
  · exact .inl h

/-- **A well-formed tree stays so when it gets a new node under a name,** if that is a directory below the one with the
name or no directory at all. -/
theorem WellFormed.place (wf : tree.WellFormed) (hdirectory : tree.isDirectory directory = true) (hname : IsName name)
    (hentries : node.entries = [])
    (habove : ∀ above entries mode, node = .directory above entries mode → above = directory) :
    (tree.place directory name node).2.WellFormed := by
  obtain ⟨above, entries, mode, hget⟩ := isDirectory_iff.1 hdirectory
  have hroot : (tree.get? root).isSome = true := by
    have hlt := lt_of_get? hget
    simp [get?, root, Nat.zero_lt_of_lt hlt]
  have hplaced : (tree.place directory name node).2.get? tree.nodes.size = some node := by
    rw [get?_place hget, if_neg (Nat.ne_of_gt (lt_of_get? hget)), if_pos rfl]
  constructor
  case above_root => exact (same_after_place hdirectory hroot).1.trans wf.above_root
  case name =>
    intro other entry hentry
    rcases mem_entries_place hdirectory hentries hentry with hold | ⟨-, rfl⟩
    · exact wf.name other entry hold
    · exact hname
  case there =>
    intro other entry hentry
    rcases mem_entries_place hdirectory hentries hentry with hold | ⟨-, rfl⟩
    · exact (same_after_place hdirectory (wf.there other entry hold)).2.2
    · exact Option.isSome_iff_exists.2 ⟨node, hplaced⟩
  case distinct =>
    intro other
    have hother := wf.distinct other
    unfold Tree.entries at hother ⊢
    rw [get?_place hget]
    split_ifs with heq hnew
    · rw [heq, hget] at hother
      have hkept : ((entries.filter fun entry => entry.1 ≠ name).map Prod.fst).Nodup :=
        hother.sublist (List.filter_sublist.map Prod.fst)
      rw [Option.map_some, Option.getD_some, Node.entries, List.map_append, List.map_singleton, List.nodup_append]
      refine ⟨hkept, List.nodup_singleton name, ?_⟩
      simp
    · rw [Option.map_some, Option.getD_some, hentries]
      exact List.nodup_nil
    · exact hother
  case above =>
    intro other entry hentry hentryDirectory
    rcases mem_entries_place hdirectory hentries hentry with hold | ⟨rfl, rfl⟩
    · obtain ⟨hsame, hkind, -⟩ := same_after_place hdirectory (wf.there other entry hold)
      rw [hsame]
      exact wf.above other entry hold (hkind ▸ hentryDirectory)
    · obtain ⟨above', entries', mode', hnode⟩ := isDirectory_iff.1 hentryDirectory
      cases hplaced.symm.trans hnode
      rw [Tree.above, hplaced]
      exact habove above' entries' mode' rfl

/-- A well-formed tree stays so when it gets a new directory under a name. -/
theorem WellFormed.placeDirectory (wf : tree.WellFormed) (hdirectory : tree.isDirectory directory = true)
    (hname : IsName name) (mode : Nat) : (tree.placeDirectory directory name mode).2.WellFormed := by
  refine wf.place hdirectory hname rfl ?_
  rintro _ _ _ ⟨⟩
  rfl

end Placing

end CounterCatalog.Tree
