import CounterCatalog.Settings

/-!
# Updating and building a checkout

A checkout that is there is pulled, one that is missing is cloned, and then it is built. Each step prints
what it does before it does it.
-/

set_option autoImplicit false

namespace CounterCatalog.Checkout

variable {τ : Type}

/-- The command that brings the checkout up to date. -/
def syncCommand (settings : Settings) (tree : Tree) (cwd : Handle) : Command :=
  if tree.pathExists cwd (Text.Utf8.encode settings.checkout) then
    ⟨settings.git, ["pull"], some settings.checkout, settings.strictness⟩
  else
    ⟨settings.git, ["clone", "-b", settings.branch, "--single-branch", settings.url, settings.checkout],
      none, settings.strictness⟩

/-- Clones the checkout, or pulls if it is already there. -/
def sync (launcher : Launcher) (settings : Settings) : Action τ Unit := do
  let host ← get
  let command := syncCommand settings host.tree host.cwd
  Action.say ("perflist: " ++ command.line)
  let _ ← command.run launcher
  pure ()

/-- The command that builds the checkout. -/
def buildCommand (settings : Settings) : Command :=
  ⟨settings.make, [], some settings.checkout, settings.strictness⟩

/-- Builds the checkout. -/
def build (launcher : Launcher) (settings : Settings) : Action τ Unit := do
  let command := buildCommand settings
  Action.say ("perflist: building in " ++ settings.checkout)
  let report ← command.run launcher
  Action.log .debug (command.line ++ " exited with " ++ report.status.describe)
  Action.log .trace report.stdout

end CounterCatalog.Checkout
