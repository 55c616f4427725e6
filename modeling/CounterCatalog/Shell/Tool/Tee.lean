import CounterCatalog.Shell.Tool.Common

/-!
# Writing to several files

`tee` passes its input on and writes it to files too.
-/

set_option autoImplicit false

namespace CounterCatalog.Shell.Tool

open Step

/-- Passes its input on and writes it to files too. -/
def tee : Tool := fun arguments =>
  withOptions (flags [('a', "append"), ('i', "ignore-interrupts"), ('p', "")]) arguments
    fun options => do
      let appends := options.has 'a'
      let openings ← options.operands.mapM fun file => do
        match (← get).openToWrite file (if appends then id else fun _ => []) with
        | .ok (opening, machine) =>
          set machine
          return some { opening with appends := appends }
        | .error fault =>
          let _ ← blameFault file fault
          return none
      let (content, goesOn) ←
        match ← drainPart 0 with
        | .ok part => pure part
        | .error fault => do
          report ("read error: ".toList ++ fault.reason.toList)
          if fault = .badHandle then report ("standard input: ".toList ++ fault.reason.toList)
          return 1
      let status ← finish 0 content
      let written ← (openings.zip options.operands).mapM fun (opening?, file) => do
        match opening? with
        | none => return false
        | some opening =>
          let before := (← get).streams
          let (number, machine) := (← get).openNew opening
          set (machine.lead 1 number)
          let result ← writeTo 1 content
          modify fun machine => { machine with streams := before }
          match result with
          | .ok _ => return true
          | .error fault =>
            let _ ← blameFault file fault
            return false
      if goesOn then starve
      return if status = 0 ∧ written.all id then 0 else 1

end CounterCatalog.Shell.Tool
