/-!
# Failures

Two types say why something failed. A `Fault` is what the system reports about one operation on files or
children. A `Failure` is what stops the program: a fault, a child that ended badly, a counter that is not
there, each possibly inside the description of what was being done. `Failure.message` is the one place
that words a failure; the description comes first, then the cause.
-/

set_option autoImplicit false

namespace CounterCatalog

/-- What the system reports about an operation on files or children. -/
inductive Fault where
  | notPermitted
  | notFound
  | noProcess
  | inputOutput
  | noDevice
  | tooManyArguments
  | badFormat
  | badHandle
  | permissionDenied
  | busy
  | alreadyExists
  | notADirectory
  | isADirectory
  | invalid
  | noSpace
  | illegalSeek
  | brokenPipe
  | nameTooLong
  | notEmpty
  | tooManyLinks
  | invalidUtf8
  | invalidPath
  | zeroInPath
  | zeroInCommand
deriving DecidableEq

namespace Fault

/-- The number that the system gives a fault of its own. -/
def number? : Fault → Option Nat
  | notPermitted => some 1
  | notFound => some 2
  | noProcess => some 3
  | inputOutput => some 5
  | noDevice => some 6
  | tooManyArguments => some 7
  | badFormat => some 8
  | badHandle => some 9
  | permissionDenied => some 13
  | busy => some 16
  | alreadyExists => some 17
  | notADirectory => some 20
  | isADirectory => some 21
  | invalid => some 22
  | noSpace => some 28
  | illegalSeek => some 29
  | brokenPipe => some 32
  | nameTooLong => some 36
  | notEmpty => some 39
  | tooManyLinks => some 40
  | invalidUtf8 => none
  | invalidPath => none
  | zeroInPath => none
  | zeroInCommand => none

/-- The words for a fault, without its number. -/
def reason : Fault → String
  | notPermitted => "Operation not permitted"
  | notFound => "No such file or directory"
  | noProcess => "No such process"
  | inputOutput => "Input/output error"
  | noDevice => "No such device or address"
  | tooManyArguments => "Argument list too long"
  | badFormat => "Exec format error"
  | badHandle => "Bad file descriptor"
  | permissionDenied => "Permission denied"
  | busy => "Device or resource busy"
  | alreadyExists => "File exists"
  | notADirectory => "Not a directory"
  | isADirectory => "Is a directory"
  | invalid => "Invalid argument"
  | noSpace => "No space left on device"
  | illegalSeek => "Illegal seek"
  | brokenPipe => "Broken pipe"
  | nameTooLong => "File name too long"
  | notEmpty => "Directory not empty"
  | tooManyLinks => "Too many levels of symbolic links"
  | invalidUtf8 => "stream did not contain valid UTF-8"
  | invalidPath => "Path contains invalid UTF-8"
  | zeroInPath => "file name contained an unexpected NUL byte"
  | zeroInCommand => "nul byte found in provided data"

/-- The words for a fault, with its number where it has one. -/
def message (fault : Fault) : String :=
  match fault.number? with
  | some n => fault.reason ++ " (os error " ++ String.ofList (Nat.toDigits 10 n) ++ ")"
  | none => fault.reason

end Fault

/-- Why the program, or a part of it, stopped. -/
inductive Failure where
  /-- The system reported a fault. -/
  | system (fault : Fault)
  /-- A child whose success matters ended with a code other than zero. -/
  | exited (command : String) (code : Nat)
  /-- A child whose success matters was ended by a signal. -/
  | killed (command : String)
  /-- A counter list does not define the counter that was asked for. -/
  | unlistedCounter (name path : String)
  /-- Something was left out that has no default. -/
  | unset (field : String)
  /-- An event source gave this as its reason for not answering. -/
  | unavailable (reason : String)
  /-- Something failed while something larger was being done. -/
  | within (doing : String) (cause : Failure)
deriving DecidableEq

namespace Failure

/-- The words for a failure: what was being done, from the outermost inwards, and then the cause. -/
def message : Failure → String
  | system fault => fault.message
  | exited command code =>
    "\"" ++ command ++ "\" exited with code " ++ String.ofList (Nat.toDigits 10 code)
  | killed command => "\"" ++ command ++ "\" probably killed by signal"
  | unlistedCounter name path => "counter `" ++ name ++ "` not found in " ++ path
  | unset field => "`" ++ field ++ "` must be initialized"
  | unavailable reason => reason
  | within doing cause => doing ++ ": " ++ cause.message

/-- The innermost cause of a failure. -/
def root : Failure → Failure
  | within _ cause => cause.root
  | failure => failure

end Failure

end CounterCatalog
