/-!
# Signals

The names of signals and the words for a process that one of them ended.
-/

namespace Shell

namespace Signal

/-- Names and descriptions of the signals, from number one on. -/
def table : List (String × String) :=
  [("HUP", "Hangup"), ("INT", "Interrupt"), ("QUIT", "Quit"), ("ILL", "Illegal instruction"),
   ("TRAP", "Trace/breakpoint trap"), ("ABRT", "Aborted"), ("BUS", "Bus error"),
   ("FPE", "Floating point exception"), ("KILL", "Killed"), ("USR1", "User defined signal 1"),
   ("SEGV", "Segmentation fault"), ("USR2", "User defined signal 2"), ("PIPE", "Broken pipe"),
   ("ALRM", "Alarm clock"), ("TERM", "Terminated"), ("STKFLT", "Stack fault"),
   ("CHLD", "Child exited"), ("CONT", "Continued"), ("STOP", "Stopped (signal)"),
   ("TSTP", "Stopped"), ("TTIN", "Stopped (tty input)"), ("TTOU", "Stopped (tty output)"),
   ("URG", "Urgent I/O condition"), ("XCPU", "CPU time limit exceeded"),
   ("XFSZ", "File size limit exceeded"), ("VTALRM", "Virtual timer expired"),
   ("PROF", "Profiling timer expired"), ("WINCH", "Window changed"), ("IO", "I/O possible"),
   ("PWR", "Power failure"), ("SYS", "Bad system call")]

/-- The greatest number of a signal. -/
def last : Nat := 64

/-- The name of a signal, without the letters that all names begin with. -/
def name? (number : Nat) : Option String :=
  if number = 0 then none else (table[number - 1]?).map Prod.fst

/-- The words for a signal. -/
def description (number : Nat) : String :=
  if number = 0 then "Unknown signal 0"
  else match table[number - 1]? with
    | some (_, text) => text
    | none =>
      if 34 ≤ number && number ≤ last then "Real-time signal " ++ toString (number - 34)
      else "Unknown signal " ++ toString number

/-- The number of a signal by its name, in any case of letters. -/
def number? (name : String) : Option Nat :=
  let upper := String.ofList (name.toList.map Char.toUpper)
  (table.findIdx? fun s => s.1 = upper).map (· + 1)

end Signal

end Shell
