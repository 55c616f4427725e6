import CounterCatalog.Shell.Syntax

/-!
# How tools are used

The operands of the tools, as they are shown to those who ask how a tool is used.
-/

set_option autoImplicit false

namespace CounterCatalog.Shell.Tool

/-- What is shown behind the names of tools that take options and files. -/
def commonUsage : String := "[OPTION]... [FILE]..."

/-- What is shown behind the names of the other tools, each in one or more forms. -/
def specialUsages : List (String × List String) :=
  [("arch", ["[OPTION]..."]),
   ("basename", ["NAME [SUFFIX]", "OPTION... NAME..."]),
   ("chmod", ["[OPTION]... MODE[,MODE]... FILE...", "[OPTION]... OCTAL-MODE FILE...",
     "[OPTION]... --reference=RFILE FILE..."]),
   ("cmp", ["[OPTION]... FILE1 [FILE2 [SKIP1 [SKIP2]]]"]),
   ("cp", ["[OPTION]... [-T] SOURCE DEST", "[OPTION]... SOURCE... DIRECTORY",
     "[OPTION]... -t DIRECTORY SOURCE..."]),
   ("cut", ["OPTION... [FILE]..."]),
   ("dirname", ["[OPTION] NAME..."]),
   ("env", ["[OPTION]... [-] [NAME=VALUE]... [COMMAND [ARG]...]"]),
   ("grep", ["[OPTION]... PATTERNS [FILE]..."]),
   ("groups", ["[OPTION]... [USERNAME]..."]),
   ("id", ["[OPTION]... [USER]..."]),
   ("link", ["FILE1 FILE2", "OPTION"]),
   ("ln", ["[OPTION]... [-T] TARGET LINK_NAME", "[OPTION]... TARGET", "[OPTION]... TARGET... DIRECTORY",
     "[OPTION]... -t DIRECTORY TARGET..."]),
   ("mkdir", ["[OPTION]... DIRECTORY..."]),
   ("mktemp", ["[OPTION]... [TEMPLATE]"]),
   ("mv", ["[OPTION]... [-T] SOURCE DEST", "[OPTION]... SOURCE... DIRECTORY",
     "[OPTION]... -t DIRECTORY SOURCE..."]),
   ("nohup", ["COMMAND [ARG]...", "OPTION"]),
   ("printenv", ["[OPTION]... [VARIABLE]..."]),
   ("pwd", ["[OPTION]..."]),
   ("readlink", ["[OPTION]... FILE..."]),
   ("realpath", ["[OPTION]... FILE..."]),
   ("rmdir", ["[OPTION]... DIRECTORY..."]),
   ("sed", ["[OPTION]... \x7bscript-only-if-no-other-script\x7d [input-file]..."]),
   ("seq", ["[OPTION]... LAST", "[OPTION]... FIRST LAST", "[OPTION]... FIRST INCREMENT LAST"]),
   ("sleep", ["NUMBER[SUFFIX]...", "OPTION"]),
   ("sort", ["[OPTION]... [FILE]...", "[OPTION]... --files0-from=F"]),
   ("stat", ["[OPTION]... FILE..."]),
   ("sync", ["[OPTION] [FILE]..."]),
   ("timeout", ["[OPTION] DURATION COMMAND [ARG]...", "[OPTION]"]),
   ("touch", ["[OPTION]... FILE..."]),
   ("tr", ["[OPTION]... STRING1 [STRING2]"]),
   ("truncate", ["OPTION... FILE..."]),
   ("tty", ["[OPTION]..."]),
   ("uname", ["[OPTION]..."]),
   ("uniq", ["[OPTION]... [INPUT [OUTPUT]]"]),
   ("unlink", ["FILE", "OPTION"]),
   ("wc", ["[OPTION]... [FILE]...", "[OPTION]... --files0-from=F"]),
   ("whoami", ["[OPTION]..."]),
   ("yes", ["[STRING]...", "OPTION"])]

/-- How the tool with a name is used that has been called by a title. -/
def usageText (title name : Chars) : Chars :=
  let forms := ((specialUsages.find? fun item => item.1.toList = name).map Prod.snd).getD [commonUsage]
  forms.zipIdx.flatMap fun (form, place) =>
    (if place = 0 then "Usage: " else "  or:  ").toList ++ title ++ [' '] ++ form.toList ++ ['\n']

end CounterCatalog.Shell.Tool
