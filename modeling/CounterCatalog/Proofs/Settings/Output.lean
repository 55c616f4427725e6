import CounterCatalog.Proofs.Path.Components
import CounterCatalog.Settings

/-!
# The counter list next to a named checkout

A checkout whose path ends in a name is not looked up, so where the counter list goes depends on the settings alone. Its
path is the one of the checkout with the last name replaced, whatever slashes and dots stand around that name
(`output_beside_checkout`).
-/

set_option autoImplicit false

namespace CounterCatalog.Settings

open CounterCatalog.Path

variable {settings : Settings} {front : List Component} {name : String}

/-- A checkout whose path ends in a name is taken as it is written. -/
theorem namedCheckout_of_fileName? {checkout : String} (h : fileName? checkout = some name) (tree : Tree)
    (cwd : Handle) : namedCheckout tree cwd checkout = checkout := by
  rw [namedCheckout, h]

/-- Without an output that is named, the list goes beside the checkout, under the usual name. -/
theorem output_of_none (h : settings.output? = none) (tree : Tree) (cwd : Handle) :
    settings.output tree cwd = join ((parent? (namedCheckout tree cwd settings.checkout)).getD "") outputName := by
  rw [output, h, holdingDirectory]

/-- No slash is in the usual name. -/
theorem not_mem_outputName : '/' ∉ outputName.toList := by
  decide

/-- **Unless an output is set, the counter list goes beside a checkout whose path ends in a name.** Its path is the same
in every file tree and seen from every directory, it has the components of the checkout's path with another name at the
end, and it depends on the current directory exactly if the checkout's path does. -/
theorem output_beside_checkout (hout : settings.output? = none)
    (hlast : components settings.checkout = front ++ [.name name]) :
    ∃ path, (∀ tree cwd, settings.output tree cwd = path) ∧ components path = front ++ [.name outputName] ∧
      isAbsolute path = isAbsolute settings.checkout := by
  obtain ⟨anchor, body, kept, hanchored, hbody, -, hfront⟩ := exists_last_segment hlast
  have hadmits : anchor.Admits (dropIdleEnd kept ++ [outputName]) :=
    (admits_dropIdleEnd hanchored hbody).concat not_mem_outputName (by decide)
  refine ⟨anchor.text (dropIdleEnd kept ++ [outputName]), fun tree cwd => ?everywhere, ?components, ?absolute⟩
  case everywhere =>
    rw [output_of_none hout, namedCheckout_of_fileName? (fileName?_eq_some_iff.2 ⟨front, hlast⟩),
      join_parent? hanchored hbody not_mem_outputName]
  case components =>
    rw [components_text hadmits (by simp), List.filterMap_append, filterMap_dropIdleEnd, ← List.append_assoc, ← hfront]
    rfl
  case absolute =>
    rw [Bool.eq_iff_iff, isAbsolute_iff, isAbsolute_iff, anchored_text hadmits (by simp), hanchored]

/-- The checkout `.//deps/x/.././libpfm4/./` keeps its first dot and its two dots, and nothing else that is idle. -/
theorem output_beside_checkout_sample :
    let settings : Settings := { standard with checkout := ".//deps/x/.././libpfm4/./" }
    let front : List Component := [.here, .name "deps", .name "x", .up]
    (settings.output? = none ∧ components settings.checkout = front ++ [.name "libpfm4"]) ∧
      ∃ path, (∀ tree cwd, settings.output tree cwd = path) ∧ components path = front ++ [.name outputName] ∧
        isAbsolute path = isAbsolute settings.checkout := by
  intro settings front
  have hlast : components settings.checkout = front ++ [.name "libpfm4"] := by decide
  exact ⟨⟨rfl, hlast⟩, output_beside_checkout rfl hlast⟩

end CounterCatalog.Settings
