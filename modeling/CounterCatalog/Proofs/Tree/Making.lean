import CounterCatalog.Proofs.Tree.Keeping

/-!
# Making and writing a file

What becomes of the nodes and names of a tree when a file is made or written, and that paths keep leading where
they led. The two results are `locate_create`, by which the path that a file was opened at for writing leads
to it afterwards, and `locate_set_file`, by which it does so still when the file has been written.
-/

set_option autoImplicit false

namespace CounterCatalog.Tree

variable {tree : Tree}

/-! ## Another content for a file -/

/-- A handle that stands for something is in use. -/
theorem lt_of_get? {handle : Handle} {node : Node} (h : tree.get? handle = some node) :
    handle < tree.nodes.size := by
  unfold get? at h
  exact (Array.getElem?_eq_some_iff.1 h).1

/-- Of two nodes that are set for one handle the second stays. -/
theorem set_set (handle : Handle) (first second : Node) :
    (tree.set handle first).set handle second = tree.set handle second := by
  simp [set]

/-- Setting what a handle stands for already changes nothing. -/
theorem set_get? {handle : Handle} {node : Node} (h : tree.get? handle = some node) :
    tree.set handle node = tree := by
  have hlt := lt_of_get? h
  unfold get? at h
  rw [Array.getElem?_eq_some_iff] at h
  obtain ⟨_, rfl⟩ := h
  simp [set, Array.setIfInBounds, hlt]

section Rewriting

variable {handle : Handle} {content content' : List UInt8} {mode mode' : Nat}

/-- What a handle stands for after a file has been written. -/
theorem get?_set_file (h : tree.get? handle = some (.file content mode)) (other : Handle) :
    (tree.set handle (.file content' mode')).get? other =
      if other = handle then some (.file content' mode') else tree.get? other := by
  split
  · next heq => rw [heq, get?_set_self (lt_of_get? h)]
  · next hne => rw [get?_set_of_ne hne]

/-- Whatever does not tell files apart is the same after a file has been written. -/
theorem congr_get?_set_file {α : Type} (f : Option Node → α)
    (hf : ∀ content mode content' mode', f (some (.file content mode)) = f (some (.file content' mode')))
    (h : tree.get? handle = some (.file content mode)) (other : Handle) :
    f ((tree.set handle (.file content' mode')).get? other) = f (tree.get? other) := by
  rw [get?_set_file h]
  split
  · next heq => rw [heq, h, hf content' mode' content mode]
  · rfl

/-- Another content for a file leaves every name standing for what it stood for. -/
theorem child?_set_file (h : tree.get? handle = some (.file content mode)) (directory : Handle) (name : Name) :
    (tree.set handle (.file content' mode')).child? directory name = tree.child? directory name := by
  unfold child? entries
  rw [congr_get?_set_file (fun node => (node.map Node.entries).getD []) (fun _ _ _ _ => rfl) h]

/-- Another content for a file leaves every directory where it is. -/
theorem above_set_file (h : tree.get? handle = some (.file content mode)) (directory : Handle) :
    (tree.set handle (.file content' mode')).above directory = tree.above directory := by
  unfold above
  rw [get?_set_file h]
  by_cases heq : directory = handle
  · rw [if_pos heq, heq, h]
  · rw [if_neg heq]

/-- Another content for a file makes no directory and takes none away. -/
theorem isDirectory_set_file (h : tree.get? handle = some (.file content mode)) (other : Handle) :
    (tree.set handle (.file content' mode')).isDirectory other = tree.isDirectory other :=
  congr_get?_set_file (fun node => node.any Node.isDirectory) (fun _ _ _ _ => rfl) h other

/-- Another content for a file leaves every link with its target. -/
theorem target?_set_file (h : tree.get? handle = some (.file content mode)) (other : Handle) :
    ((tree.set handle (.file content' mode')).get? other).bind Node.target? =
      (tree.get? other).bind Node.target? :=
  congr_get?_set_file (fun node => node.bind Node.target?) (fun _ _ _ _ => rfl) h other

/-- Writing a file leads no path astray. -/
theorem keeps_set_file (h : tree.get? handle = some (.file content mode)) :
    Keeps tree (tree.set handle (.file content' mode')) where
  child? hchild := (child?_set_file h _ _).trans hchild
  fresh hnone hsome := by
    rw [child?_set_file h, hnone] at hsome
    cases hsome
  above := above_set_file h
  target? := target?_set_file h
  directory hdirectory := (isDirectory_set_file h _).trans hdirectory

end Rewriting

/-! ## A new file under a free name -/

section Placing

variable {directory : Handle} {name : Name} {node : Node}

/-- What a handle stands for after a new node has been given a name. -/
theorem get?_place {above : Handle} {entries : List (Name × Handle)} {mode : Nat}
    (h : tree.get? directory = some (.directory above entries mode)) (other : Handle) :
    (tree.place directory name node).2.get? other =
      if other = directory then
        some (.directory above ((entries.filter fun entry => entry.1 ≠ name) ++ [(name, tree.nodes.size)]) mode)
      else if other = tree.nodes.size then some node
      else tree.get? other := by
  have hlt := lt_of_get? h
  have hadd : (tree.add node).2.get? directory = some (.directory above entries mode) :=
    (get?_add_of_lt hlt).trans h
  have hentries : (tree.add node).2.entries directory = entries := by
    unfold Tree.entries
    rw [hadd]
    rfl
  -- The node is added first, so the names of the directory are changed in the grown tree.
  have hplace : (tree.place directory name node).2 = (tree.add node).2.set directory
      (.directory above ((entries.filter fun entry => entry.1 ≠ name) ++ [(name, tree.nodes.size)]) mode) := by
    show (tree.add node).2.bind directory name tree.nodes.size = _
    unfold bind setEntries
    rw [hadd, hentries]
  rw [hplace]
  by_cases hother : other = directory
  · rw [if_pos hother, hother, get?_set_self (lt_of_get? hadd)]
  · rw [if_neg hother, get?_set_of_ne hother]
    simp only [get?, add, Array.getElem?_push]

/-- The name of a new file stands for it, and every other name for what it stood for. -/
theorem child?_place_file {content : List UInt8} {mode : Nat} (hdirectory : tree.isDirectory directory = true)
    (other : Handle) (other' : Name) :
    (tree.place directory name (.file content mode)).2.child? other other' =
      if other = directory ∧ other' = name then some tree.nodes.size else tree.child? other other' := by
  obtain ⟨above, entries, mode', h⟩ := isDirectory_iff.1 hdirectory
  unfold child? Tree.entries
  rw [get?_place h]
  by_cases hother : other = directory
  · subst hother
    rw [if_pos rfl, h, Option.map_some, Option.map_some, Option.getD_some, Option.getD_some, Node.entries,
      Node.entries, List.find?_append]
    by_cases hname : other' = name
    · subst hname
      have hgone : ((entries.filter fun entry => entry.1 ≠ other').find? fun entry => entry.1 = other') = none :=
        List.find?_eq_none.2 fun entry hentry => by simpa using (List.mem_filter.1 hentry).2
      rw [hgone]
      simp
    · have hkept : ((entries.filter fun entry => entry.1 ≠ name).find? fun entry => entry.1 = other') =
          entries.find? fun entry => entry.1 = other' := by
        rw [List.find?_filter]
        congr 1
        funext entry
        by_cases hentry : entry.1 = other' <;> simp [hentry, hname]
      rw [hkept]
      simp [hname, Ne.symm hname]
  · have hboth : ¬ (other = directory ∧ other' = name) := fun h => hother h.1
    rw [if_neg hother, if_neg hboth]
    split
    -- Where the file is now nothing stood before, so neither of them has names.
    · next hnew =>
      have hnone : tree.get? other = none := by
        rw [hnew]
        simp [get?]
      rw [hnone]
      rfl
    · rfl

/-- Making a file leads no path astray. -/
theorem keeps_place_file {content : List UInt8} {mode : Nat} (hdirectory : tree.isDirectory directory = true)
    (hfree : tree.child? directory name = none) :
    Keeps tree (tree.place directory name (.file content mode)).2 := by
  obtain ⟨above, entries, mode', h⟩ := isDirectory_iff.1 hdirectory
  have hunused : tree.get? tree.nodes.size = none := by simp [get?]
  have hne : tree.nodes.size ≠ directory := Nat.ne_of_gt (lt_of_get? h)
  constructor
  case child? =>
    intro other other' handle hchild
    rw [child?_place_file hdirectory, if_neg, hchild]
    rintro ⟨rfl, rfl⟩
    rw [hfree] at hchild
    cases hchild
  case fresh =>
    intro other other' handle hnone hsome
    rw [child?_place_file hdirectory, hnone] at hsome
    split at hsome
    · cases hsome
      rw [get?_place h, if_neg hne, if_pos rfl]
      rfl
    · cases hsome
  case above =>
    intro other
    unfold Tree.above
    rw [get?_place h]
    by_cases hother : other = directory
    · rw [if_pos hother, hother, h]
    · rw [if_neg hother]
      by_cases hnew : other = tree.nodes.size
      · rw [if_pos hnew, hnew, hunused]
      · rw [if_neg hnew]
  case target? =>
    intro other
    rw [get?_place h]
    by_cases hother : other = directory
    · rw [if_pos hother, hother, h]
      rfl
    · rw [if_neg hother]
      by_cases hnew : other = tree.nodes.size
      · rw [if_pos hnew, hnew, hunused]
        rfl
      · rw [if_neg hnew]
  case directory =>
    intro other hother
    obtain ⟨above', entries', mode'', h'⟩ := isDirectory_iff.1 hother
    rw [isDirectory_iff, get?_place h]
    by_cases heq : other = directory
    · rw [if_pos heq]
      exact ⟨_, _, _, rfl⟩
    · rw [if_neg heq, if_neg (Nat.ne_of_lt (lt_of_get? h')), h']
      exact ⟨_, _, _, rfl⟩

end Placing

/-! ## Where a path leads after a file was made or written -/

section Locating

variable {cwd handle : Handle} {path : List UInt8} {content content' : List UInt8} {mode mode' : Nat}

/-- A path leads to what stands where its last step is taken. -/
theorem locate_eq_ok_iff {node : Node} :
    tree.locate cwd path = .ok (handle, node) ↔
      ∃ place, tree.placeOf .followed cwd path = .ok place ∧ tree.spotOf place = .ok (.taken handle node) := by
  unfold locate find findWith
  cases hplace : tree.placeOf .followed cwd path with
  | error fault => simp [hplace]
  | ok place =>
    simp only [if_true, hplace, Except.ok.injEq, exists_eq_left']
    cases tree.spotOf place with
    | error fault => simp
    | ok spot => cases spot <;> simp

/-- What a handle stands for is found there. -/
theorem spotAt_eq_taken_iff {other : Handle} {node : Node} :
    tree.spotAt other = .ok (.taken handle node) ↔ tree.get? handle = some node ∧ handle = other := by
  unfold spotAt
  constructor
  · intro h
    split at h
    · next found hfound =>
      cases h
      exact ⟨hfound, rfl⟩
    · cases h
  · rintro ⟨h, rfl⟩
    rw [h]

/-- A name leads to what it stands for; slashes may follow it only if that is a directory. -/
theorem spotOf_name_eq_taken_iff {directory : Handle} {name : Name} {slash : Bool} {node : Node} :
    tree.spotOf ⟨directory, .name name slash⟩ = .ok (.taken handle node) ↔
      tree.get? handle = some node ∧ name.length ≤ nameLimit ∧ tree.child? directory name = some handle ∧
        (slash = true → tree.isDirectory handle = true) := by
  unfold spotOf
  dsimp only
  by_cases hlong : nameLimit < name.length
  · simp [hlong, Nat.not_le.2 hlong]
  rw [if_neg hlong]
  cases tree.child? directory name with
  | none => simp
  | some child =>
    by_cases hslash : slash = true ∧ tree.isDirectory child = false
    · simp only [hslash, and_self, if_true, reduceCtorEq, Option.some.injEq, false_iff]
      rintro ⟨-, -, rfl, hdirectory⟩
      rw [hslash.2] at hdirectory
      cases hdirectory trivial
    · simp only [hslash, if_false, spotAt_eq_taken_iff, Option.some.injEq]
      constructor
      · rintro ⟨h, rfl⟩
        exact ⟨h, Nat.le_of_not_lt hlong, rfl, by simpa using hslash⟩
      · rintro ⟨h, -, rfl, -⟩
        exact ⟨h, rfl⟩

/-- A name leads nowhere yet if it is free. -/
theorem spotOf_name_of_free {directory : Handle} {name : Name} (slash : Bool) (hlength : name.length ≤ nameLimit)
    (hfree : tree.child? directory name = none) :
    tree.spotOf ⟨directory, .name name slash⟩ = .ok (.free directory name slash) := by
  unfold spotOf
  dsimp only
  rw [if_neg (Nat.not_lt.2 hlength), hfree]

/-- A last step that leads to a free name is that name. -/
theorem of_spotOf_eq_free {place : Place} {directory : Handle} {name : Name} {slash : Bool}
    (h : tree.spotOf place = .ok (.free directory name slash)) :
    place = ⟨directory, .name name slash⟩ ∧ name.length ≤ nameLimit ∧ tree.child? directory name = none := by
  have hspot : ∀ other, tree.spotAt other ≠ .ok (.free directory name slash) := by
    intro other
    unfold spotAt
    split <;> simp
  obtain ⟨directory', last⟩ := place
  unfold spotOf at h
  cases last with
  | here => exact absurd h (hspot _)
  | up => exact absurd h (hspot _)
  | name name' slash' =>
    dsimp only at h
    split_ifs at h with hlong
    split at h
    · next hchild =>
      cases h
      exact ⟨rfl, Nat.le_of_not_lt hlong, hchild⟩
    · split_ifs at h
      exact absurd h (hspot _)

/-- What is found at a place is what its handle stands for. -/
theorem get?_of_spotOf {place : Place} {node : Node} (h : tree.spotOf place = .ok (.taken handle node)) :
    tree.get? handle = some node := by
  obtain ⟨directory, last⟩ := place
  cases last with
  | here => exact (spotAt_eq_taken_iff.1 h).1
  | up => exact (spotAt_eq_taken_iff.1 h).1
  | name name slash => exact (spotOf_name_eq_taken_iff.1 h).1

/-- What is found at a place is found there in the new tree, as it is by then. -/
theorem Keeps.spotOf {new : Tree} {place : Place} {node node' : Node} (keeps : Keeps tree new)
    (h : tree.spotOf place = .ok (.taken handle node)) (hnew : new.get? handle = some node') :
    new.spotOf place = .ok (.taken handle node') := by
  obtain ⟨directory, last⟩ := place
  cases last with
  | here => exact spotAt_eq_taken_iff.2 ⟨hnew, (spotAt_eq_taken_iff.1 h).2⟩
  | up => exact spotAt_eq_taken_iff.2 ⟨hnew, (spotAt_eq_taken_iff.1 h).2.trans (keeps.above directory).symm⟩
  | name name slash =>
    obtain ⟨-, hlength, hchild, hslash⟩ := spotOf_name_eq_taken_iff.1 h
    exact spotOf_name_eq_taken_iff.2
      ⟨hnew, hlength, keeps.child? hchild, fun hs => keeps.directory (hslash hs)⟩

/-- What a path leads to is what its handle stands for. -/
theorem get?_of_locate {node : Node} (h : tree.locate cwd path = .ok (handle, node)) :
    tree.get? handle = some node := by
  obtain ⟨place, -, hspot⟩ := locate_eq_ok_iff.1 h
  exact get?_of_spotOf hspot

/-- A path leads to the same handle in the new tree, and to what that stands for by then. -/
theorem Keeps.locate {new : Tree} {node node' : Node} (keeps : Keeps tree new)
    (h : tree.locate cwd path = .ok (handle, node)) (hnew : new.get? handle = some node') :
    new.locate cwd path = .ok (handle, node') := by
  obtain ⟨place, hplace, hspot⟩ := locate_eq_ok_iff.1 h
  exact locate_eq_ok_iff.2 ⟨place, keeps.placeOf (.refl _) hplace, keeps.spotOf hspot hnew⟩

/-- **A path to a file still leads to it when it has been written.** -/
theorem locate_set_file (h : tree.locate cwd path = .ok (handle, .file content mode)) :
    (tree.set handle (.file content' mode')).locate cwd path = .ok (handle, .file content' mode') := by
  have hfile := get?_of_locate h
  exact (keeps_set_file hfile).locate h (get?_set_self (lt_of_get? hfile))

/-- A file that was opened for writing is one that stood there and is emptied, or a new one under a name that
was free. -/
theorem create_eq_ok_file {made : Tree} (h : tree.create cwd path = .ok (.file handle, made)) :
    ∃ place, tree.placeOf .made cwd path = .ok place ∧
      ((∃ content mode, tree.spotOf place = .ok (.taken handle (.file content mode)) ∧
          made = tree.set handle (.file [] mode)) ∨
        ∃ directory name slash, tree.spotOf place = .ok (.free directory name slash) ∧
          handle = tree.nodes.size ∧ made = (tree.place directory name (.file [] Node.fileMode)).2) := by
  unfold create openWith findWith at h
  cases hplace : tree.placeOf .made cwd path with
  | error fault =>
    rw [hplace] at h
    cases h
  | ok place =>
    refine ⟨place, rfl, ?_⟩
    rw [hplace] at h
    cases hspot : tree.spotOf place with
    | error fault => simp [hspot] at h
    | ok spot =>
      cases spot with
      | taken other node =>
        cases node <;> simp [hspot, targetOf] at h
        case file content mode =>
          obtain ⟨rfl, rfl⟩ := h
          exact .inl ⟨content, mode, rfl, rfl⟩
        case device device => cases device <;> simp at h
      | free directory name slash =>
        simp only [hspot] at h
        split_ifs at h
        cases h
        exact .inr ⟨directory, name, slash, rfl, rfl, rfl⟩

/-- No path is led astray when a file is opened for writing, and where its path ends there is then an empty file. -/
theorem spotOf_create {made : Tree} (anchored : Anchored tree cwd)
    (h : tree.create cwd path = .ok (.file handle, made)) :
    Keeps tree made ∧ ∃ place mode, tree.placeOf .made cwd path = .ok place ∧
      made.spotOf place = .ok (.taken handle (.file [] mode)) := by
  obtain ⟨place, hplace, ⟨content, mode, hspot, rfl⟩ | ⟨directory, name, slash, hspot, rfl, rfl⟩⟩ :=
    create_eq_ok_file h
  · have hfile := get?_of_spotOf hspot
    have keeps : Keeps tree (tree.set handle (.file [] mode)) := keeps_set_file hfile
    exact ⟨keeps, place, mode, hplace, keeps.spotOf hspot (get?_set_self (lt_of_get? hfile))⟩
  · obtain ⟨rfl, hlength, hfree⟩ := of_spotOf_eq_free hspot
    obtain ⟨-, hwalk⟩ := placeOf_eq_ok_iff.1 hplace
    have hdirectory : tree.isDirectory directory = true := isDirectory_walk anchored hwalk
    have hslash := slash_of_walk_made hwalk
    refine ⟨keeps_place_file hdirectory hfree, _, Node.fileMode, hplace, ?_⟩
    obtain ⟨above, entries, mode', hnode⟩ := isDirectory_iff.1 hdirectory
    refine spotOf_name_eq_taken_iff.2 ⟨?_, hlength, ?_, fun hs => ?_⟩
    · rw [get?_place hnode, if_neg (Nat.ne_of_gt (lt_of_get? hnode)), if_pos rfl]
    · rw [child?_place_file hdirectory, if_pos ⟨rfl, rfl⟩]
    · rw [hslash] at hs
      cases hs

/-- **A path that a file was opened at for writing leads to that file, which is empty.** No path is led astray
by that. -/
theorem locate_create {made : Tree} (anchored : Anchored tree cwd)
    (h : tree.create cwd path = .ok (.file handle, made)) :
    Keeps tree made ∧ ∃ mode, made.locate cwd path = .ok (handle, .file [] mode) := by
  obtain ⟨keeps, place, mode, hplace, hspot⟩ := spotOf_create anchored h
  exact ⟨keeps, mode, locate_eq_ok_iff.2 ⟨place, keeps.placeOf .made_followed hplace, hspot⟩⟩

end Locating

end CounterCatalog.Tree
