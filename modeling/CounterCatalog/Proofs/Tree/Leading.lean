import CounterCatalog.Proofs.Tree.Making

/-!
# A path in two parts

The first steps of a path lead to a directory, or to a link that they turn at (`stretch_append_iff`). A route with steps
behind these leads on from where these lead to, whatever links they go through; and where a single name follows them
instead, that is where the name is looked up (`walk_append`).

`IsPathTo` says which name in which directory a path stands for, whether or not something has that name.
-/

set_option autoImplicit false

namespace CounterCatalog.Tree

/-- A path stands for a name in a directory: the steps before the last one lead to the directory, and the last one is
the name. Nothing is said about how long the path is, nor about what has the name. -/
def IsPathTo (tree : Tree) (cwd : Handle) (path : List UInt8) (directory : Handle) (name : Name) : Prop :=
  tree.walk .kept linkLimit cwd (Route.ofPath path) = .ok ⟨directory, .name name false⟩

instance (tree : Tree) (cwd : Handle) (path : List UInt8) (directory : Handle) (name : Name) :
    Decidable (tree.IsPathTo cwd path directory name) :=
  decidable_of_iff ((tree.walk .kept linkLimit cwd (Route.ofPath path)).toOption = some ⟨directory, .name name false⟩) <| by
    unfold IsPathTo
    cases tree.walk .kept linkLimit cwd (Route.ofPath path) <;> simp [Except.toOption]

/-- Steps lead from directory to directory, none of them a link. -/
inductive Leads (tree : Tree) : Handle → List Name → Handle → Prop where
  | arrived (directory : Handle) : tree.Leads directory [] directory
  | step {directory next last : Handle} {step : Name} {rest : List Name} (enter : tree.enter directory step = .ok next)
      (isDirectory : tree.isDirectory next = true) (leads : tree.Leads next rest last) :
      tree.Leads directory (step :: rest) last

/-- Steps lead to a directory in which the next one is a link, and leave steps behind that. -/
inductive Turns (tree : Tree) : Handle → List Name → Handle → List UInt8 → List Name → Prop where
  | link {directory handle : Handle} {step : Name} {rest : List Name} {target : List UInt8}
      (enter : tree.enter directory step = .ok handle)
      (target? : (tree.get? handle).bind Node.target? = some target) :
      tree.Turns directory (step :: rest) directory target rest
  | step {directory next last : Handle} {step : Name} {steps rest : List Name} {target : List UInt8}
      (enter : tree.enter directory step = .ok next) (isDirectory : tree.isDirectory next = true)
      (turns : tree.Turns next steps last target rest) : tree.Turns directory (step :: steps) last target rest

variable {tree : Tree} {ending : Ending} {slash : Bool} {cwd directory handle : Handle} {step name : Name}
  {steps tail : List Name}

/-! ## Single steps -/

/-- A name is entered exactly if it is not too long and stands for something. -/
theorem enter_of_name (hstay : step ≠ Route.stay) (hup : step ≠ Route.up) :
    tree.enter directory step = .ok handle ↔ step.length ≤ nameLimit ∧ tree.child? directory step = some handle := by
  rw [enter, if_neg hstay, if_neg hup]
  by_cases hlong : nameLimit < step.length
  · simp [hlong, Nat.not_le.2 hlong]
  · rw [if_neg hlong]
    cases tree.child? directory step <;> simp [Nat.le_of_not_lt hlong]

/-- What has names in it is a directory. -/
theorem isDirectory_of_child? (h : tree.child? directory name = some handle) : tree.isDirectory directory = true := by
  cases hnode : tree.get? directory with
  | none => simp [child?, Tree.entries, hnode] at h
  | some node => cases node <;> simp_all [child?, Tree.entries, Node.entries, isDirectory, Node.isDirectory]

/-- A directory is no link. -/
theorem target?_of_isDirectory (h : tree.isDirectory handle = true) : (tree.get? handle).bind Node.target? = none := by
  obtain ⟨above, entries, mode, hnode⟩ := isDirectory_iff.1 h
  rw [hnode]
  rfl

/-- A step that others follow leads on through a directory, or turns at a link. -/
theorem stretch_cons_iff {rest : List Name} {result : Stretch} (hrest : rest ≠ []) :
    tree.stretch ending slash directory (step :: rest) = .ok result ↔
      ∃ handle, tree.enter directory step = .ok handle ∧
        (tree.isDirectory handle = true ∧ tree.stretch ending slash handle rest = .ok result ∨
          ∃ target, (tree.get? handle).bind Node.target? = some target ∧
            result = .turns directory target rest) := by
  obtain ⟨next, rest, rfl⟩ := List.exists_cons_of_ne_nil hrest
  exact stretch_cons_cons_iff

/-- A step that stays in a directory can be left out. -/
theorem stretch_stay {rest : List Name} (h : tree.isDirectory directory = true) :
    tree.stretch ending slash directory (Route.stay :: rest) = tree.stretch ending slash directory rest := by
  cases rest with
  | nil => exact stretch_singleton_iff.2 (.inl ⟨rfl, rfl⟩)
  | cons next rest =>
    obtain ⟨above, entries, mode, hnode⟩ := isDirectory_iff.1 h
    have henter : tree.enter directory Route.stay = .ok directory := if_pos rfl
    rw [Tree.stretch, henter]
    dsimp only
    rw [hnode]

/-- Steps that stay can be left out of the front of a way. -/
theorem stretch_stays {stays rest : List Name} (h : tree.isDirectory directory = true)
    (hstays : ∀ step ∈ stays, step = Route.stay) :
    tree.stretch ending slash directory (stays ++ rest) = tree.stretch ending slash directory rest := by
  induction stays with
  | nil => rfl
  | cons step stays ih =>
    rw [List.forall_mem_cons] at hstays
    rw [List.cons_append, hstays.1, stretch_stay h, ih hstays.2]

/-! ## Steps and steps behind them -/

/-- The way along steps that others follow leads past the former, or turns among them. -/
theorem stretch_append_iff {result : Stretch} (htail : tail ≠ []) :
    tree.stretch ending slash directory (steps ++ tail) = .ok result ↔
      (∃ last, tree.Leads directory steps last ∧ tree.stretch ending slash last tail = .ok result) ∨
      ∃ last target rest, tree.Turns directory steps last target rest ∧ result = .turns last target (rest ++ tail) := by
  induction steps generalizing directory with
  | nil =>
    constructor
    · intro h
      exact .inl ⟨directory, .arrived directory, h⟩
    · rintro (⟨last, hleads, h⟩ | ⟨last, target, rest, hturns, -⟩)
      · cases hleads
        exact h
      · cases hturns
  | cons step steps ih =>
    rw [List.cons_append, stretch_cons_iff (List.append_ne_nil_of_right_ne_nil steps htail)]
    constructor
    · rintro ⟨handle, henter, ⟨hdirectory, h⟩ | ⟨target, htarget, rfl⟩⟩
      · rcases ih.1 h with ⟨last, hleads, h⟩ | ⟨last, target, rest, hturns, h⟩
        · exact .inl ⟨last, .step henter hdirectory hleads, h⟩
        · exact .inr ⟨last, target, rest, .step henter hdirectory hturns, h⟩
      · exact .inr ⟨directory, target, steps, .link henter htarget, rfl⟩
    · rintro (⟨last, hleads, h⟩ | ⟨last, target, rest, hturns, h⟩)
      · cases hleads with
        | step henter hdirectory hleads => exact ⟨_, henter, .inl ⟨hdirectory, ih.2 (.inl ⟨last, hleads, h⟩)⟩⟩
      · cases hturns with
        | link henter htarget => exact ⟨_, henter, .inr ⟨target, htarget, h⟩⟩
        | step henter hdirectory hturns =>
          exact ⟨_, henter, .inl ⟨hdirectory, ih.2 (.inr ⟨last, target, rest, hturns, h⟩)⟩⟩

/-- A name is looked up where the steps before it lead to, and links that it stands for are kept. -/
theorem walk_kept_of_leads {links : Nat} {absolute : Bool} {last : Handle}
    (h : tree.Leads (origin cwd ⟨absolute, steps ++ [name], false⟩) steps last) (hstay : name ≠ Route.stay)
    (hup : name ≠ Route.up) :
    tree.walk .kept links cwd ⟨absolute, steps ++ [name], false⟩ = .ok ⟨last, .name name false⟩ := by
  have hname : tree.stretch .kept false last [name] = .ok (.arrives ⟨last, .name name false⟩) :=
    stretch_singleton_iff.2 (.inr (.inr ⟨⟨hstay, hup, nofun⟩, .inl ⟨rfl, rfl⟩⟩))
  exact walk_eq_ok_iff.2 (.inl ((stretch_append_iff (List.cons_ne_nil _ _)).2 (.inl ⟨last, h, hname⟩)))

/-- **A path whose steps are followed by others leads on from where these steps lead to,** which is also where a name
that follows them is looked up. -/
theorem walk_append {links : Nat} {absolute : Bool} {place : Place} (htail : tail ≠ [])
    (h : tree.walk ending links cwd ⟨absolute, steps ++ tail, slash⟩ = .ok place) (hstay : name ≠ Route.stay)
    (hup : name ≠ Route.up) :
    ∃ directory fewer, tree.walk .kept links cwd ⟨absolute, steps ++ [name], false⟩ = .ok ⟨directory, .name name false⟩ ∧
      tree.walk ending fewer directory ⟨false, tail, slash⟩ = .ok place := by
  induction links using Nat.strongRecOn generalizing cwd absolute steps with
  | ind links ih =>
    obtain harrives | ⟨fewer, middle, target, rest, rfl, hturns, hwalk⟩ := walk_eq_ok_iff.1 h
    · rcases (stretch_append_iff htail).1 harrives with ⟨last, hleads, harrives⟩ | ⟨_, _, _, -, hturns⟩
      · exact ⟨last, 0, walk_kept_of_leads hleads hstay hup, walk_eq_ok_iff.2 (.inl harrives)⟩
      · cases hturns
    · rcases (stretch_append_iff htail).1 hturns with ⟨last, hleads, hturns⟩ | ⟨last, target, rest, hamong, heq⟩
      -- The link is behind the steps, so the way on from it is that of the tail.
      · refine ⟨last, fewer + 1, walk_kept_of_leads hleads hstay hup, walk_eq_ok_iff.2 (.inr ?_)⟩
        exact ⟨fewer, middle, target, rest, rfl, hturns, hwalk⟩
      -- The link is among the steps, so it is followed for the name too.
      · cases heq
        have hrest : rest ++ tail ≠ [] := List.append_ne_nil_of_right_ne_nil rest htail
        rw [onward, if_neg hrest, ← List.append_assoc] at hwalk
        obtain ⟨directory, left, hname, hon⟩ := ih fewer (Nat.lt_succ_self fewer) hwalk
        refine ⟨directory, left, walk_eq_ok_iff.2 (.inr ⟨fewer, middle, target, rest ++ [name], rfl, ?_, ?_⟩), hon⟩
        · exact (stretch_append_iff (List.cons_ne_nil _ _)).2 (.inr ⟨middle, target, rest, hamong, rfl⟩)
        · rwa [onward, if_neg (List.append_ne_nil_of_right_ne_nil rest (List.cons_ne_nil _ _)), ← List.append_assoc]

/-- **A path whose last name only has steps behind it that stay leads to what has the name, or the name is a link.** -/
theorem child?_of_walk {links : Nat} {before after : List Name} {place : Place} {node : Node}
    (hdirectory : tree.isDirectory directory = true) (hbefore : ∀ step ∈ before, step = Route.stay)
    (hafter : ∀ step ∈ after, step = Route.stay) (hstay : name ≠ Route.stay) (hup : name ≠ Route.up)
    (hwalk : tree.walk .followed links directory ⟨false, before ++ name :: after, slash⟩ = .ok place)
    (hspot : tree.spotOf place = .ok (.taken handle node)) :
    tree.child? directory name = some handle ∨ ∃ target, tree.targetOf? directory name = some target := by
  -- Only the first stretch matters: it ends at the name, or behind it in the same directory, or turns at it.
  obtain ⟨result, hstretch, hresult⟩ :
      ∃ result, tree.stretch .followed slash directory (name :: after) = .ok result ∧
        (result = .arrives place ∨ ∃ middle target rest, result = .turns middle target rest) := by
    rcases walk_eq_ok_iff.1 hwalk with harrives | ⟨_, middle, target, rest, -, hturns, -⟩
    · exact ⟨_, (stretch_stays hdirectory hbefore).symm.trans harrives, .inl rfl⟩
    · exact ⟨_, (stretch_stays hdirectory hbefore).symm.trans hturns, .inr ⟨middle, target, rest, rfl⟩⟩
  by_cases hnil : after = []
  · subst hnil
    rcases stretch_singleton_iff.1 hstretch with ⟨h, -⟩ | ⟨⟨-, h⟩, -⟩ | ⟨-, ⟨-, rfl⟩ | ⟨target, htarget, -⟩⟩
    · exact absurd h hstay
    · exact absurd h hup
    · rcases hresult with hplace | ⟨_, _, _, hturns⟩
      · cases hplace
        exact .inl (spotOf_name_eq_taken_iff.1 hspot).2.2.1
      · cases hturns
    · exact .inr ⟨target, htarget⟩
  · obtain ⟨next, henter, hon⟩ := (stretch_cons_iff hnil).1 hstretch
    have hchild := ((enter_of_name hstay hup).1 henter).2
    rcases hon with ⟨hnext, harrives⟩ | ⟨target, htarget, -⟩
    · rw [← List.append_nil after, stretch_stays hnext hafter] at harrives
      cases harrives
      rcases hresult with hplace | ⟨_, _, _, hturns⟩
      · cases hplace
        rw [(spotAt_eq_taken_iff.1 hspot).2]
        exact .inl hchild
      · cases hturns
    · refine .inr ⟨target, ?_⟩
      rw [targetOf?, hchild, Option.bind_some, htarget]

end CounterCatalog.Tree
