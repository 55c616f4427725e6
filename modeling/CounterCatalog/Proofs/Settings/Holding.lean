import CounterCatalog.Proofs.Path.Steps
import CounterCatalog.Proofs.Settings.Output
import CounterCatalog.Proofs.Tree.Canonical

/-!
# The counter list next to a checkout that is there

Where a checkout's path leads to a directory, the counter list goes into the directory above that
(`output_above_checkout`), with one exception. Dots at the end of a path that are idle are taken for nothing, so a name
before them counts as the end of the path. If that name is a link, the path is not looked up and the counter list goes
into the directory of the link, although the path leads through it (`output_beside_link`).
-/

set_option autoImplicit false

namespace CounterCatalog.Settings

open CounterCatalog.Path CounterCatalog.Tree Text Utf8

variable {tree : Tree} {cwd handle : Handle} {settings : Settings} {node : Node}

/-! ## A checkout that is not looked up -/

/-- The counter list goes beside what the last name of the checkout's path stands for. That is what the path leads to,
unless it is a link. -/
theorem isPathTo_output_of_name {name : String} (anchored : Anchored tree cwd) (hout : settings.output? = none)
    (hname : fileName? settings.checkout = some name)
    (hlocate : tree.locate cwd (encode settings.checkout) = .ok (handle, node)) :
    ∃ directory, tree.IsPathTo cwd (encode (settings.output tree cwd)) directory (encode outputName) ∧
      (tree.child? directory (encode name) = some handle ∨
        ∃ target, tree.targetOf? directory (encode name) = some target) := by
  obtain ⟨absolute, steps, before, after, slash, hpath, hbeside, hbefore, hafter, hstay, hup⟩ :=
    exists_steps_beside hname not_mem_outputName (show isIdle outputName = false by decide)
  obtain ⟨place, hplace, hspot⟩ := locate_eq_ok_iff.1 hlocate
  obtain ⟨-, hwalk⟩ := placeOf_eq_ok_iff.1 hplace
  rw [hpath] at hwalk
  obtain ⟨directory, fewer, hkept, hon⟩ := walk_append (by simp) hwalk
    (show encode outputName ≠ Route.stay by decide) (show encode outputName ≠ Route.up by decide)
  refine ⟨directory, ?_, ?_⟩
  · rw [IsPathTo, output_of_none hout, namedCheckout_of_fileName? hname, hbeside]
    exact hkept
  · exact child?_of_walk (isDirectory_walk anchored hkept) hbefore hafter hstay hup hon hspot

/-! ## A checkout that is looked up -/

/-- A path can be looked up and written down: the current directory has not been taken out of the tree, and the
canonical path is text and not too long. -/
structure Resolvable (tree : Tree) (cwd : Handle) (path : String) : Prop where
  there : (tree.wayTo? cwd).isSome = true
  short : tree.canonical cwd (encode path) ≠ .error .nameTooLong
  text : ∀ bytes, tree.canonical cwd (encode path) = .ok bytes → ∃ text, bytes = encode text

/-- What a resolvable path leads to is at the end of its canonical path. -/
theorem Resolvable.exists_way {path : String} (h : Resolvable tree cwd path) (wf : tree.WellFormed)
    (anchored : Anchored tree cwd) (hlocate : tree.locate cwd (encode path) = .ok (handle, node)) :
    ∃ way resolved, tree.canonical cwd (encode path) = .ok (encode resolved) ∧ encode resolved = pathOf way ∧
      tree.atWay? root way = some handle := by
  rcases canonicalWay_of_locate wf anchored h.there hlocate with hlong | ⟨way, hway, hend⟩
  · refine absurd ?_ h.short
    rw [canonical, hlong]
    rfl
  · have hcanonical : tree.canonical cwd (encode path) = .ok (pathOf way) := by
      rw [canonical, hway]
      rfl
    obtain ⟨resolved, hresolved⟩ := h.text _ hcanonical
    exact ⟨way, resolved, hresolved ▸ hcanonical, hresolved.symm, hend⟩

/-- The counter list goes above a checkout that is looked up. -/
theorem isPathTo_output_of_resolvable (wf : tree.WellFormed) (anchored : Anchored tree cwd)
    (hout : settings.output? = none) (hname : fileName? settings.checkout = none)
    (hresolvable : Resolvable tree cwd settings.checkout)
    (hlocate : tree.locate cwd (encode settings.checkout) = .ok (handle, node))
    (hdirectory : tree.isDirectory handle = true) (hroot : handle ≠ root) :
    tree.IsPathTo cwd (encode (settings.output tree cwd)) (tree.above handle) (encode outputName) := by
  obtain ⟨way, path, hcanonical, hpath, hend⟩ := hresolvable.exists_way wf anchored hlocate
  -- What is looked up is not the root, so the way to it has a last name.
  obtain ⟨front, last, rfl⟩ : ∃ front last, way = front ++ [last] := by
    refine (List.eq_nil_or_concat' way).resolve_left ?_
    rintro rfl
    cases hend
    exact hroot rfl
  have hconcat := (atWay?_concat front last root).symm.trans hend
  obtain ⟨above, habove, hchild⟩ := Option.bind_eq_some_iff.1 hconcat
  have hnamed : namedCheckout tree cwd settings.checkout = path := by
    rw [namedCheckout, hname, hcanonical]
    dsimp only
    rw [decode?_encode, Option.getD_some]
  have hbeside : Route.ofPath (encode (settings.output tree cwd)) = ⟨true, front ++ [encode outputName], false⟩ := by
    rw [output_of_none hout, hnamed]
    exact ofPath_beside_pathOf (wf.isName_of_atWay? hend) hpath not_mem_outputName (by decide)
  rw [wf.above_child? hchild hdirectory, IsPathTo, hbeside]
  exact walk_kept_of_leads (wf.leads_of_atWay? habove (isDirectory_of_child? hchild)) (by decide) (by decide)

/-! ## The counter list and the directory above the checkout -/

/-- **The counter list goes into the directory above the checkout that is there,** however its path is written. The path
may be any that leads to a directory other than the root; if it has no last name, it is looked up. The one exception is
a path whose last name, with nothing but idle dots behind it, is a link: the counter list then goes into the directory
that has the link. -/
theorem output_above_checkout (wf : tree.WellFormed) (anchored : Anchored tree cwd) (hout : settings.output? = none)
    (hlocate : tree.locate cwd (encode settings.checkout) = .ok (handle, node)) (hdirectory : node.isDirectory = true)
    (hroot : handle ≠ root)
    (hresolvable : fileName? settings.checkout = none → Resolvable tree cwd settings.checkout) :
    ∃ directory, tree.IsPathTo cwd (encode (settings.output tree cwd)) directory (encode outputName) ∧
      (directory = tree.above handle ∨
        ∃ name target, fileName? settings.checkout = some name ∧
          tree.targetOf? directory (encode name) = some target) := by
  have hhandle : tree.isDirectory handle = true := by
    rw [isDirectory, get?_of_locate hlocate]
    exact hdirectory
  cases hname : fileName? settings.checkout with
  | none =>
    have hpath := isPathTo_output_of_resolvable wf anchored hout hname (hresolvable hname) hlocate hhandle hroot
    exact ⟨_, hpath, .inl rfl⟩
  | some name =>
    obtain ⟨directory, hpath, hend⟩ := isPathTo_output_of_name anchored hout hname hlocate
    refine ⟨directory, hpath, ?_⟩
    rcases hend with hchild | ⟨target, htarget⟩
    · exact .inl (wf.above_child? hchild hhandle).symm
    · exact .inr ⟨name, target, rfl, htarget⟩

/-- A current directory `work` with a checkout `deps/real` in it, and a link `link` to that. -/
def linkedTree : Tree where
  nodes := #[
    .directory root [(encode "work", 1)] Node.openMode,
    .directory root [(encode "deps", 2), (encode "link", 4)] Node.openMode,
    .directory 1 [(encode "real", 3)] Node.openMode,
    .directory 2 [] Node.openMode,
    .link (encode "deps/real")]

/-- That tree is the empty one with one node placed in it after the other. -/
theorem wellFormed_linkedTree : linkedTree.WellFormed := by
  have hwork := wellFormed_empty.placeDirectory (rfl : empty.isDirectory root = true)
    (by decide : IsName (encode "work")) Node.openMode
  have hdeps := hwork.placeDirectory (rfl : Tree.isDirectory _ 1 = true) (by decide : IsName (encode "deps"))
    Node.openMode
  have hreal := hdeps.placeDirectory (rfl : Tree.isDirectory _ 2 = true) (by decide : IsName (encode "real"))
    Node.openMode
  exact hreal.place (rfl : Tree.isDirectory _ 1 = true) (by decide : IsName (encode "link"))
    (rfl : (Node.link (encode "deps/real")).entries = []) nofun

/-- The checkout `link/..` is `deps`, which is in the current directory. -/
theorem output_above_checkout_sample :
    let settings : Settings := { standard with checkout := "link/.." }
    (linkedTree.WellFormed ∧ Anchored linkedTree 1 ∧ settings.output? = none ∧
      linkedTree.locate 1 (encode settings.checkout) =
        .ok (2, .directory 1 [(encode "real", 3)] Node.openMode) ∧ 2 ≠ root ∧
      Resolvable linkedTree 1 settings.checkout) ∧
    ∃ directory, linkedTree.IsPathTo 1 (encode (settings.output linkedTree 1)) directory (encode outputName) ∧
      (directory = linkedTree.above 2 ∨
        ∃ name target, fileName? settings.checkout = some name ∧
          linkedTree.targetOf? directory (encode name) = some target) := by
  intro settings
  have anchored : Anchored linkedTree 1 := ⟨rfl, rfl⟩
  have hlocate : linkedTree.locate 1 (encode "link/..") = .ok (2, .directory 1 [(encode "real", 3)] Node.openMode) := by
    decide
  have hcanonical : linkedTree.canonical 1 (encode "link/..") = .ok (encode "/work/deps") := by decide
  have hresolvable : Resolvable linkedTree 1 "link/.." := by
    refine ⟨by decide, by simp [hcanonical], ?_⟩
    rintro bytes hbytes
    exact ⟨"/work/deps", Except.ok.inj (hbytes.symm.trans hcanonical)⟩
  exact ⟨⟨wellFormed_linkedTree, anchored, rfl, hlocate, by decide, hresolvable⟩,
    output_above_checkout wellFormed_linkedTree anchored rfl hlocate rfl (by decide) fun _ => hresolvable⟩

/-- **The dot at the end of `link/.` does not have the link looked up.** The path leads to `deps/real`, but the counter
list goes into the current directory and not into `deps`. -/
theorem output_beside_link :
    let settings : Settings := { standard with checkout := "link/." }
    linkedTree.WellFormed ∧ Anchored linkedTree 1 ∧ settings.output? = none ∧
      linkedTree.locate 1 (encode settings.checkout) = .ok (3, .directory 2 [] Node.openMode) ∧ 3 ≠ root ∧
      linkedTree.IsPathTo 1 (encode (settings.output linkedTree 1)) 1 (encode outputName) ∧
      ¬ linkedTree.IsPathTo 1 (encode (settings.output linkedTree 1)) (linkedTree.above 3) (encode outputName) := by
  intro settings
  have hlocate : linkedTree.locate 1 (encode "link/.") = .ok (3, .directory 2 [] Node.openMode) := by decide
  exact ⟨wellFormed_linkedTree, ⟨rfl, rfl⟩, rfl, hlocate, by decide, by decide, by decide⟩

end CounterCatalog.Settings
