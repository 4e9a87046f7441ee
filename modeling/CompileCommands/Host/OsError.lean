/-!
# Errors of the operating system

Why the system refuses to do what it is asked, with its usual texts and numbers.
-/

namespace CompileCommands

/-- Why the system refuses. -/
inductive OsError where
  /-- Nothing is there. -/
  | noEntry
  /-- The file is no program. -/
  | noExec
  /-- The file may not be used so. -/
  | accessDenied
  /-- The name is in use by the system itself. -/
  | busy
  /-- Something is there already. -/
  | alreadyExists
  /-- Something on the way is no directory. -/
  | notDirectory
  /-- A directory is there. -/
  | isDirectory
  /-- A name or a path is too long. -/
  | nameTooLong
  /-- Too many symbolic links follow one another. -/
  | tooManyLinks
  /-- The argument list is too long. -/
  | listTooLong
  /-- A path holds a zero byte. -/
  | zeroInPath
  /-- An argument holds a zero byte. -/
  | zeroInArgument
  /-- Another cause, with its number and text. -/
  | other (number : Nat) (text : String)
  deriving DecidableEq, Repr

namespace OsError

/-- The number of an error, unless it is found before the system is asked. -/
def number? : OsError → Option Nat
  | noEntry => some 2
  | listTooLong => some 7
  | noExec => some 8
  | accessDenied => some 13
  | busy => some 16
  | alreadyExists => some 17
  | notDirectory => some 20
  | isDirectory => some 21
  | nameTooLong => some 36
  | tooManyLinks => some 40
  | zeroInPath => none
  | zeroInArgument => none
  | other number _ => some number

/-- The text of an error. -/
def reason : OsError → String
  | noEntry => "No such file or directory"
  | listTooLong => "Argument list too long"
  | noExec => "Exec format error"
  | accessDenied => "Permission denied"
  | busy => "Device or resource busy"
  | alreadyExists => "File exists"
  | notDirectory => "Not a directory"
  | isDirectory => "Is a directory"
  | nameTooLong => "File name too long"
  | tooManyLinks => "Too many levels of symbolic links"
  | zeroInPath => "file name contained an unexpected NUL byte"
  | zeroInArgument => "nul byte found in provided data"
  | other _ text => text

/-- The text of an error with its number. -/
def message (e : OsError) : String :=
  match e.number? with
  | some number => e.reason ++ " (os error " ++ toString number ++ ")"
  | none => e.reason

end OsError

end CompileCommands
