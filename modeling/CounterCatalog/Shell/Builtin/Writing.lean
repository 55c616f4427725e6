import CounterCatalog.Shell.Builtin.Common
import CounterCatalog.Shell.Format
import CounterCatalog.Shell.Test

/-!
# Commands that write and answer

The commands of the shell that only write their arguments or answer a question by their status.
-/

set_option autoImplicit false

namespace CounterCatalog.Shell.Builtin

open Step

/-- Writes its arguments, with their escapes replaced. -/
def echo : Builtin := fun arguments =>
  say (Format.echo arguments)

/-- Writes its arguments in a format. -/
def printf : Builtin := fun arguments => do
  let (_, arguments) ← options "" arguments
  match arguments with
  | [] => fail "usage: printf format [arg ...]".toList
  | format :: arguments =>
    let (text, complaints, fault?) := Format.printf format arguments
    complaints.forM warn
    if let some reason := fault? then
      warn reason
      let _ ← say text
      return 2
    let status ← say text
    return if complaints.isEmpty then status else 1

/-- Answers a condition by its status; under the name of a bracket the last argument closes it. -/
def test (closed : Bool) : Builtin := fun arguments => do
  if closed ∧ arguments.getLast? ≠ some [']'] then fail "missing ]".toList
  match Test.answer (← get) (if closed then arguments.dropLast else arguments) with
  | .ok true => return 0
  | .ok false => return 1
  | .error reason => fail reason

/-- Does nothing, and succeeds or fails at that. -/
def constant (status : Nat) : Builtin := fun _ => return status

/-- Writes the times that the shell and its children have worked for, of which none is kept. -/
def times : Builtin := fun _ =>
  let none := "0m0.000000s 0m0.000000s\n".toList
  say (none ++ none)

/-- Shows or sets a limit of the process; only core files are limited, and a limit that is set changes
nothing. -/
def ulimit : Builtin := fun arguments => do
  let (found, rest) ← options "HSatfdscmlpnvwr" arguments
  match rest with
  | [] =>
    let coreFiles := (found.map Prod.fst).getLast? = some 'c'
    say (line (if coreFiles then ['0'] else "unlimited".toList))
  | [value] =>
    unless value = "unlimited".toList ∨ value.all Char.isDigit do fail "bad number".toList
    return 0
  | _ => fail "too many arguments".toList

end CounterCatalog.Shell.Builtin
