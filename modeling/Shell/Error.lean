import Shell.Errno

/-!
# Errors of a command line

An error ends the line it arises on and nothing else. Its message is printed and it decides the
status of the line.
-/

namespace Shell

/-- Why a line could not be run to its end. -/
inductive Error
  | commandNotFound (name : String)
  | spawn (name : String) (cause : IoError)
  | redirection (name : String) (path : String) (cause : IoError)
  | wait (name : String) (reason : String)
  | builtin (name : String) (reason : String)
  | pipe (name : String) (cause : IoError)
  | missingRedirectTarget
  deriving DecidableEq, Repr

namespace Error

def message : Error → String
  | .commandNotFound name => name ++ ": command not found"
  | .spawn name cause => name ++ ": " ++ cause.text
  | .redirection name path cause => name ++ ": " ++ path ++ ": " ++ cause.text
  | .wait name reason => name ++ ": " ++ reason
  | .builtin name reason => name ++ ": " ++ reason
  | .pipe name cause => name ++ ": failed to create pipe: " ++ cause.text
  | .missingRedirectTarget => "syntax error near unexpected token `newline'"

/-- Only an unknown command is reported on standard output. -/
def reportsToStdout : Error → Bool
  | .commandNotFound _ => true
  | _ => false

/-- The status of a line that ended with this error. -/
def status : Error → Nat
  | .commandNotFound _ => 127
  | .missingRedirectTarget => 2
  | _ => 1

end Error

end Shell
