import CounterCatalog.Shell.Tool.Common

/-!
# Telling who somebody is

`id` writes the numbers and names of users and of their groups, or of who runs the process, which is the one who may
do everything; `whoami` and `groups` write some of that.
-/

set_option autoImplicit false

namespace CounterCatalog.Shell.Tool

open Step

namespace Identity

/-- A user of the system. -/
structure User where
  /-- The name. -/
  name : String
  /-- The number. -/
  number : Nat
  /-- The number of the group. -/
  group : Nat

/-- The users of the system. -/
def users : List User :=
  [⟨"root", 0, 0⟩, ⟨"daemon", 1, 1⟩, ⟨"bin", 2, 2⟩, ⟨"sys", 3, 3⟩, ⟨"sync", 4, 65534⟩, ⟨"games", 5, 60⟩,
   ⟨"man", 6, 12⟩, ⟨"lp", 7, 7⟩, ⟨"mail", 8, 8⟩, ⟨"news", 9, 9⟩, ⟨"uucp", 10, 10⟩, ⟨"proxy", 13, 13⟩,
   ⟨"www-data", 33, 33⟩, ⟨"backup", 34, 34⟩, ⟨"list", 38, 38⟩, ⟨"irc", 39, 39⟩, ⟨"_apt", 42, 65534⟩,
   ⟨"nobody", 65534, 65534⟩]

/-- The names of groups that are not those of users. -/
def groupNames : List (Nat × String) :=
  [(60, "games"), (12, "man"), (65534, "nogroup")]

/-- The name of the group with a number. -/
def groupName (number : Nat) : String :=
  match groupNames.find? fun item => item.1 = number with
  | some (_, name) => name
  | none => ((users.find? fun user => user.number = number).map User.name).getD (toString number)

/-- The user with a name or a number. -/
def find? (text : Chars) : Option User :=
  match users.find? fun user => user.name.toList = text with
  | some user => some user
  | none =>
    if Chars.isNumber text then users.find? fun user => user.number = Chars.toNat text else none

/-- Who runs the process. -/
def me : User := ⟨"root", 0, 0⟩

/-- All that is known about a user. -/
def describe (user : User) : String :=
  let group := toString user.group ++ "(" ++ groupName user.group ++ ")"
  "uid=" ++ toString user.number ++ "(" ++ user.name ++ ") gid=" ++ group ++ " groups=" ++ group

end Identity

open Identity in
/-- Writes the numbers or names of users. -/
def identify : Tool := fun arguments =>
  withOptions (flags [('a', ""), ('Z', "context"), ('g', "group"), ('G', "groups"), ('n', "name"), ('r', "real"),
    ('u', "user"), ('z', "zero")]) arguments fun options => do
    let fail (message : String) : Step Nat := do
      report message.toList
      return 1
    if options.has 'Z' then return ← fail "--context (-Z) works only on an SELinux-enabled kernel"
    let chosen := ['u', 'g', 'G'].filter options.has
    if 1 < chosen.length then return ← fail "cannot print \"only\" of more than one choice"
    if chosen.isEmpty && options.hasAny "nr" then
      return ← fail "cannot print only names or real IDs in default format"
    if chosen.isEmpty && options.has 'z' then return ← fail "option --zero not permitted in default format"
    let ending := recordEnd options
    let told := fun user : User =>
      match chosen with
      | [] => describe user
      | letter :: _ =>
        if letter = 'u' then (if options.has 'n' then user.name else toString user.number)
        else if options.has 'n' then groupName user.group else toString user.group
    if options.operands.isEmpty then return ← answer 0 ((told me).toList ++ [ending])
    forAll options.operands fun text => do
      match find? text with
      | some user => return (← answer 0 ((told user).toList ++ [ending])) = 0
      | none =>
        report (quoted text ++ ": no such user".toList)
        return false

/-- Writes who runs the process. -/
def whoami : Tool := fun arguments =>
  withOptions [] arguments fun options => do
    match options.operands with
    | [] => answer 0 (Identity.me.name.toList ++ ['\n'])
    | extra :: _ => misusedWith 1 ("extra operand ".toList ++ quoted extra)

open Identity in
/-- Writes the groups of users. -/
def groups : Tool := fun arguments =>
  withOptions [] arguments fun options => do
    if options.operands.isEmpty then return ← answer 0 ((groupName me.group).toList ++ ['\n'])
    forAll options.operands fun text => do
      match find? text with
      | some user => return (← answer 0 (text ++ " : ".toList ++ (groupName user.group).toList ++ ['\n'])) = 0
      | none =>
        report (quoted text ++ ": no such user".toList)
        return false

end CounterCatalog.Shell.Tool
