import CounterCatalog.Proofs.Tree.Making

/-!
# Files that do not touch one another

A path that can be written to names a site: a file that stands there, or a name that is free (`siteOf?`). Writing to it
changes the tree at that site and nowhere else (`Touches`), so what stands at other sites, and where every path leads,
stays as it is. The path itself leads from then on to the file that it was opened at (`create_of_siteOf?`).
-/

set_option autoImplicit false

namespace CounterCatalog.Tree

/-- Where the bytes go that are written to a path. -/
inductive Site where
  /-- To a file. -/
  | file (handle : Handle)
  /-- To a file that is still to be made under a free name. -/
  | name (directory : Handle) (name : Name)
deriving DecidableEq

/-- The site that a path names, if a file can be written there. -/
def siteOf? (tree : Tree) (cwd : Handle) (path : List UInt8) : Option Site :=
  match tree.findWith .made cwd path with
  | .ok (.taken handle (.file _ _)) => some (.file handle)
  | .ok (.free directory name _) => if tree.isGone directory then none else some (.name directory name)
  | _ => none

/-- One tree comes from another by a change at one site: every path leads where it led, and all other files and free
names stay as they are. -/
structure Touches (site : Site) (old new : Tree) : Prop where
  keeps : Keeps old new
  file : ∀ {handle content mode}, .file handle ≠ site → old.get? handle = some (.file content mode) →
    new.get? handle = some (.file content mode)
  free : ∀ {directory name}, .name directory name ≠ site → old.child? directory name = none →
    new.child? directory name = none
  there : ∀ {directory}, old.isGone directory = false → new.isGone directory = false

variable {tree : Tree} {site : Site}

/-! ## Changes at one site -/

section Touching

variable {handle directory : Handle} {name : Name} {content content' : List UInt8} {mode mode' : Nat}

/-- A tree that stays the same is touched nowhere. -/
theorem Touches.refl (site : Site) (tree : Tree) : Touches site tree tree :=
  ⟨.refl tree, fun _ h => h, fun _ h => h, fun h => h⟩

/-- A directory is still there as long as it has its name in the directory above it. -/
theorem isGone_eq_false_iff :
    tree.isGone directory = false ↔
      directory = root ∨ ∃ entry ∈ tree.entries (tree.above directory), entry.2 = directory := by
  unfold isGone nameOf?
  by_cases hroot : directory = root
  · simp [hroot]
  · simp [hroot, List.find?_isSome]

/-- Directories stay there when no name is taken away. -/
theorem Keeps.isGone {new : Tree} (keeps : Keeps tree new)
    (hentries : ∀ directory, ∀ entry ∈ tree.entries directory, entry ∈ new.entries directory)
    (h : tree.isGone directory = false) : new.isGone directory = false := by
  rw [isGone_eq_false_iff] at h ⊢
  rw [keeps.above]
  rcases h with hroot | ⟨entry, hentry, heq⟩
  · exact .inl hroot
  · exact .inr ⟨entry, hentries _ entry hentry, heq⟩

/-- Writing a file touches that file. -/
theorem touches_set_file (h : tree.get? handle = some (.file content mode)) :
    Touches (.file handle) tree (tree.set handle (.file content' mode')) where
  keeps := keeps_set_file h
  file hne hother := by
    rw [get?_set_of_ne fun heq => hne (congrArg Site.file heq)]
    exact hother
  free _ hfree := (child?_set_file h _ _).trans hfree
  there hthere := (keeps_set_file h).isGone (fun directory entry hentry => by
    unfold entries at hentry ⊢
    rwa [congr_get?_set_file (fun node => (node.map Node.entries).getD []) (fun _ _ _ _ => rfl) h]) hthere

/-- Making a file touches its name. -/
theorem touches_place_file (hdirectory : tree.isDirectory directory = true)
    (hfree : tree.child? directory name = none) :
    Touches (.name directory name) tree (tree.place directory name (.file content mode)).2 := by
  have keeps : Keeps tree (tree.place directory name (.file content mode)).2 := keeps_place_file hdirectory hfree
  obtain ⟨above, entries, mode', hnode⟩ := isDirectory_iff.1 hdirectory
  refine ⟨keeps, ?file, ?free, fun hthere => keeps.isGone ?entries hthere⟩
  case file =>
    intro other content mode hne hother
    rw [get?_place hnode, if_neg, if_neg (Nat.ne_of_lt (lt_of_get? hother)), hother]
    rintro rfl
    rw [hnode] at hother
    cases hother
  case free =>
    intro other other' hne hother
    rw [child?_place_file hdirectory, if_neg, hother]
    rintro ⟨rfl, rfl⟩
    exact hne rfl
  case entries =>
    intro other entry hentry
    have hentries : tree.entries other = ((tree.get? other).map Node.entries).getD [] := rfl
    unfold Tree.entries
    rw [get?_place hnode]
    by_cases hother : other = directory
    · subst hother
      rw [if_pos rfl]
      rw [hentries, hnode] at hentry
      -- The name was free, so the filter takes no entry away.
      have hname : entry.1 ≠ name := by
        intro heq
        have hnone : (entries.find? fun entry => entry.1 = name) = none := by
          unfold child? Tree.entries at hfree
          rw [hnode] at hfree
          exact Option.map_eq_none_iff.1 hfree
        have := List.find?_eq_none.1 hnone entry hentry
        simp [heq] at this
      exact List.mem_append_left _ (List.mem_filter.2 ⟨hentry, by simpa using hname⟩)
    · rw [if_neg hother, if_neg]
      · exact hentry
      · rintro rfl
        rw [hentries] at hentry
        simp [get?] at hentry

/-- A file that is written after the tree was touched at its site, or that was only made then, is no other site. -/
theorem Touches.set_file {new : Tree} (touches : Touches site tree new)
    (h : new.get? handle = some (.file content mode)) (hown : site = .file handle ∨ tree.get? handle = none) :
    Touches site tree (new.set handle (.file content' mode')) where
  keeps := touches.keeps.trans (keeps_set_file h)
  file {other _ _} hne hother := by
    rw [get?_set_of_ne, touches.file hne hother]
    rintro rfl
    rcases hown with rfl | hnone
    · exact hne rfl
    · rw [hnone] at hother
      cases hother
  free hne hfree := (child?_set_file h _ _).trans (touches.free hne hfree)
  there hthere := (touches_set_file h).there (touches.there hthere)

/-- The current directory is still there when something has been written at a site. -/
theorem Anchored.touches {cwd : Handle} {new : Tree} (anchored : Anchored tree cwd) (touches : Touches site tree new) :
    Anchored new cwd :=
  ⟨touches.keeps.directory anchored.root, touches.keeps.directory anchored.cwd⟩

end Touching

/-! ## The site of a path -/

section Paths

variable {cwd handle directory : Handle} {name : Name} {path : List UInt8} {content : List UInt8} {mode : Nat}

/-- A path has the site of a file exactly if it leads to that file. -/
theorem siteOf?_eq_file_iff :
    tree.siteOf? cwd path = some (.file handle) ↔
      ∃ place content mode, tree.placeOf .made cwd path = .ok place ∧
        tree.spotOf place = .ok (.taken handle (.file content mode)) := by
  unfold siteOf? findWith
  cases hplace : tree.placeOf .made cwd path with
  | error fault => simp
  | ok place =>
    cases hspot : tree.spotOf place with
    | error fault => simp [hspot]
    | ok spot =>
      cases spot with
      | free directory name slash => simp [hspot]
      | taken other node => cases node <;> simp [hspot]

/-- A path has the site of a free name exactly if a file can be made there under that name. -/
theorem siteOf?_eq_name_iff :
    tree.siteOf? cwd path = some (.name directory name) ↔
      ∃ slash, tree.placeOf .made cwd path = .ok ⟨directory, .name name slash⟩ ∧
        tree.spotOf ⟨directory, .name name slash⟩ = .ok (.free directory name slash) ∧
        tree.isGone directory = false := by
  unfold siteOf? findWith
  cases hplace : tree.placeOf .made cwd path with
  | error fault => simp
  | ok place =>
    constructor
    · intro h
      cases hspot : tree.spotOf place with
      | error fault => simp [hspot] at h
      | ok spot =>
        cases spot with
        | taken other node => cases node <;> simp [hspot] at h
        | free directory' name' slash =>
          simp only [hspot] at h
          split_ifs at h with hgone
          cases h
          obtain ⟨rfl, -, -⟩ := of_spotOf_eq_free hspot
          exact ⟨slash, rfl, hspot, by simpa using hgone⟩
    · rintro ⟨slash, hsame, hspot, hgone⟩
      cases hsame
      simp only [hspot, hgone]
      rfl

/-- The site of a path stays its site when another one is touched. -/
theorem Touches.siteOf? {new : Tree} {other : Site} (touches : Touches site tree new)
    (h : tree.siteOf? cwd path = some other) (hne : other ≠ site) : new.siteOf? cwd path = some other := by
  cases other with
  | file handle =>
    obtain ⟨place, content, mode, hplace, hspot⟩ := siteOf?_eq_file_iff.1 h
    have hfile := touches.file hne (get?_of_spotOf hspot)
    exact siteOf?_eq_file_iff.2
      ⟨place, content, mode, touches.keeps.placeOf (.refl _) hplace, touches.keeps.spotOf hspot hfile⟩
  | name directory name =>
    obtain ⟨slash, hplace, hspot, hthere⟩ := siteOf?_eq_name_iff.1 h
    obtain ⟨-, hlength, hfree⟩ := of_spotOf_eq_free hspot
    exact siteOf?_eq_name_iff.2 ⟨slash, touches.keeps.placeOf (.refl _) hplace,
      spotOf_name_of_free slash hlength (touches.free hne hfree), touches.there hthere⟩

/-- A file that is written stays the site of its path. -/
theorem siteOf?_of_file {new : Tree} (keeps : Keeps tree new) (h : tree.siteOf? cwd path = some (.file handle))
    (hfile : new.get? handle = some (.file content mode)) : new.siteOf? cwd path = some (.file handle) := by
  obtain ⟨place, content', mode', hplace, hspot⟩ := siteOf?_eq_file_iff.1 h
  exact siteOf?_eq_file_iff.2 ⟨place, content, mode, keeps.placeOf (.refl _) hplace, keeps.spotOf hspot hfile⟩

/-- A path whose site is a file leads to that file. -/
theorem locate_of_siteOf?_file (h : tree.siteOf? cwd path = some (.file handle))
    (hfile : tree.get? handle = some (.file content mode)) :
    tree.locate cwd path = .ok (handle, .file content mode) := by
  obtain ⟨place, content', mode', hplace, hspot⟩ := siteOf?_eq_file_iff.1 h
  cases hfile.symm.trans (get?_of_spotOf hspot)
  exact locate_eq_ok_iff.2 ⟨place, (Keeps.refl tree).placeOf .made_followed hplace, hspot⟩

/-- A path whose site is a free name leads nowhere. -/
theorem locate_of_siteOf?_name (h : tree.siteOf? cwd path = some (.name directory name)) :
    tree.locate cwd path = .error .notFound := by
  obtain ⟨slash, hplace, hspot, -⟩ := siteOf?_eq_name_iff.1 h
  unfold locate find findWith
  rw [if_pos rfl, (Keeps.refl tree).placeOf .made_followed hplace]
  simp only [hspot]

/-- **A path that has a site can be opened for writing,** and touches that site. -/
theorem create_of_siteOf? (anchored : Anchored tree cwd) (h : tree.siteOf? cwd path = some site) :
    ∃ handle made mode, tree.create cwd path = .ok (.file handle, made) ∧
      made.get? handle = some (.file [] mode) ∧ made.siteOf? cwd path = some (.file handle) ∧
      Touches site tree made ∧
      (site = .file handle ∨ (∃ directory name, site = .name directory name) ∧ tree.get? handle = none) := by
  have hmade : ∀ {handle made}, tree.create cwd path = .ok (.file handle, made) →
      ∃ mode, made.get? handle = some (.file [] mode) ∧ made.siteOf? cwd path = some (.file handle) := by
    intro handle made hcreate
    obtain ⟨keeps, place, mode, hplace, hspot⟩ := spotOf_create anchored hcreate
    exact ⟨mode, get?_of_spotOf hspot,
      siteOf?_eq_file_iff.2 ⟨place, [], mode, keeps.placeOf (.refl _) hplace, hspot⟩⟩
  cases site with
  | file handle =>
    obtain ⟨place, content, mode, hplace, hspot⟩ := siteOf?_eq_file_iff.1 h
    have hcreate : tree.create cwd path = .ok (.file handle, tree.set handle (.file [] mode)) := by
      unfold create openWith findWith
      simp only [hplace, hspot]
    obtain ⟨mode', hfile, hsite⟩ := hmade hcreate
    exact ⟨handle, _, mode', hcreate, hfile, hsite, touches_set_file (get?_of_spotOf hspot), .inl rfl⟩
  | name directory name =>
    obtain ⟨slash, hplace, hspot, hthere⟩ := siteOf?_eq_name_iff.1 h
    have hcreate : tree.create cwd path =
        .ok (.file tree.nodes.size, (tree.place directory name (.file [] Node.fileMode)).2) := by
      unfold create openWith findWith
      simp only [hplace, hspot, hthere]
      rfl
    obtain ⟨mode', hfile, hsite⟩ := hmade hcreate
    obtain ⟨-, -, hfree⟩ := of_spotOf_eq_free hspot
    have hdirectory : tree.isDirectory directory = true :=
      isDirectory_walk anchored (placeOf_eq_ok_iff.1 hplace).2
    refine ⟨_, _, mode', hcreate, hfile, hsite, touches_place_file hdirectory hfree,
      .inr ⟨⟨directory, name, rfl⟩, ?_⟩⟩
    simp [get?]

end Paths

end CounterCatalog.Tree
