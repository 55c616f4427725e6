import CounterCatalog.Shell.Tool.Blocks
import CounterCatalog.Shell.Tool.Cat
import CounterCatalog.Shell.Tool.Compare
import CounterCatalog.Shell.Tool.Condition
import CounterCatalog.Shell.Tool.Cut
import CounterCatalog.Shell.Tool.Ends
import CounterCatalog.Shell.Tool.Expression
import CounterCatalog.Shell.Tool.File.Copy
import CounterCatalog.Shell.Tool.File.Create
import CounterCatalog.Shell.Tool.File.Link
import CounterCatalog.Shell.Tool.File.Listing
import CounterCatalog.Shell.Tool.File.Path
import CounterCatalog.Shell.Tool.File.Permission
import CounterCatalog.Shell.Tool.File.Remove
import CounterCatalog.Shell.Tool.Fold
import CounterCatalog.Shell.Tool.Grep.Run
import CounterCatalog.Shell.Tool.LineNumber
import CounterCatalog.Shell.Tool.Paste
import CounterCatalog.Shell.Tool.Print
import CounterCatalog.Shell.Tool.Process.Identity
import CounterCatalog.Shell.Tool.Process.System
import CounterCatalog.Shell.Tool.Process.Time
import CounterCatalog.Shell.Tool.Repeat
import CounterCatalog.Shell.Tool.Sed.Run
import CounterCatalog.Shell.Tool.Sequence
import CounterCatalog.Shell.Tool.Sorting.Run
import CounterCatalog.Shell.Tool.Tee
import CounterCatalog.Shell.Tool.Transliterate
import CounterCatalog.Shell.Tool.Turn
import CounterCatalog.Shell.Tool.WordCount

/-!
# The tools of the system by name
-/

set_option autoImplicit false

namespace CounterCatalog.Shell.Tool

/-- The tools that need nothing but their arguments. -/
def plainTools : List (String × Tool) :=
  [("[", test true), ("arch", arch), ("basename", basename), ("cat", cat), ("chmod", chmod), ("cmp", cmp),
   ("cp", cp), ("cut", cut), ("dd", dd), ("dirname", dirname), ("echo", echo), ("expr", expr),
   ("false", fun _ => return 1), ("fold", fold), ("grep", grep), ("head", head), ("groups", groups), ("id", identify),
   ("link", link), ("ln", ln), ("ls", ls), ("mkdir", mkdir), ("mktemp", mktemp), ("mv", mv), ("nl", nl), ("paste", paste),
   ("printenv", printenv), ("printf", printf), ("pwd", pwd), ("readlink", readlink), ("realpath", realpath),
   ("rev", rev), ("rm", rm), ("rmdir", rmdir), ("sed", sed), ("seq", seq), ("sleep", sleep), ("sort", sort),
   ("stat", stat), ("sync", sync), ("tac", tac), ("tail", tail), ("tee", tee),
   ("test", test false), ("touch", touch), ("tr", tr), ("true", fun _ => return 0), ("truncate", truncate),
   ("tty", tty), ("uname", uname), ("uniq", uniq), ("unlink", unlink), ("wc", wc), ("which", which),
   ("whoami", whoami), ("yes", yes)]

/-- The tools that go on as other programs. -/
def runningTools (go : Become) : List (String × Tool) :=
  [("env", env go), ("nohup", nohup go), ("timeout", timeout go)]

/-- The name of the shell. -/
def shellNames : List String := ["sh", "dash"]

/-- The names of all programs of the system. -/
def names : List String :=
  shellNames ++ plainTools.map Prod.fst ++ (runningTools fun _ => return ()).map Prod.fst

/-- The tool with a name, but for the shell itself. -/
def find? (go : Become) (name : String) : Option Tool :=
  ((plainTools ++ runningTools go).find? fun item => item.1 = name).map Prod.snd

end CounterCatalog.Shell.Tool
