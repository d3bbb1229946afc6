import Shell.Text.Join

/-!
# Option grammars

A command that takes options is described by a grammar: its options, its positional arguments and
a summary. Arguments are read from left to right. `--help` and `help` ask for the usage text; `--`
ends the options; an argument that begins with `-` must be the name of an option, and nothing is
joined to it. The first argument that does not fit is the error.
-/

namespace Shell

/-- An option of a command. -/
structure Flag where
  long : String
  short : Option String := none
  /-- The option takes the argument after it as its value. -/
  takesValue : Bool := true
  help : String
  deriving DecidableEq, Repr

/-- The positional arguments of a command. -/
inductive Positional
  | none
  | optional (name : String) (help : String)
  /-- Any number of arguments; the first one ends the options. -/
  | greedy (name : String)
  deriving DecidableEq, Repr

structure Grammar where
  command : String
  summary : String
  flags : List Flag := []
  positional : Positional := .none
  deriving DecidableEq, Repr

/-- Why arguments do not fit a grammar. -/
inductive OptionError
  | unrecognized (arg : String)
  | missingValue (arg : String)
  | duplicateValue (arg : String) (value : String)
  | trailingAfterHelp
  deriving DecidableEq, Repr

def OptionError.message : OptionError → String
  | .unrecognized arg => "Unrecognized argument: " ++ arg ++ "\n"
  | .missingValue arg => "No value provided for option '" ++ arg ++ "'.\n"
  | .duplicateValue arg value =>
    "Error parsing option '" ++ arg ++ "' with value '" ++ value ++ "': duplicate values provided\n"
  | .trailingAfterHelp => "Trailing arguments are not allowed after `help`."

/-- The arguments of a command, sorted by what they are for. -/
structure Arguments where
  /-- The values of options, by long name. -/
  values : List (String × String) := []
  /-- The long names of the switches that were given. -/
  switches : List String := []
  positionals : List String := []
  /-- Arguments are no longer read as options. -/
  ended : Bool := false
  /-- The usage text was asked for. -/
  help : Bool := false
  deriving DecidableEq, Repr

namespace Arguments

/-- The value of an option. -/
def value? (a : Arguments) (long : String) : Option String :=
  a.values.lookup long

/-- A switch was given. -/
def has (a : Arguments) (long : String) : Bool :=
  a.switches.contains long

end Arguments

namespace Flag

/-- The name with its dashes, as it is written. -/
def longName (f : Flag) : String :=
  "--" ++ f.long

/-- An argument that names this option. -/
def isNamedBy (f : Flag) (arg : String) : Bool :=
  arg == f.longName || f.short.any fun s => arg == "-" ++ s

end Flag

namespace Grammar

/-- The option that an argument names. -/
def flag? (g : Grammar) (arg : String) : Option Flag :=
  g.flags.find? fun f => f.isNamedBy arg

/-- Take an argument that is not an option. -/
def takePositional (g : Grammar) (a : Arguments) (arg : String) : Except OptionError Arguments :=
  match g.positional with
  | .none => .error (.unrecognized arg)
  | .optional _ _ =>
    if a.positionals.isEmpty then .ok { a with positionals := [arg] }
    else .error (.unrecognized arg)
  | .greedy _ => .ok { a with positionals := a.positionals ++ [arg], ended := true }

/-- Read the arguments that follow those of `a`. -/
def parseFrom (g : Grammar) (a : Arguments) : List String → Except OptionError Arguments
  | [] => .ok a
  | arg :: rest =>
    if !a.ended && (arg == "--help" || arg == "help") then g.parseFrom { a with help := true } rest
    else if !a.ended && startsWithText "-" arg then
      if arg == "--" then g.parseFrom { a with ended := true } rest
      else if a.help then .error .trailingAfterHelp
      else match g.flag? arg with
        | none => .error (.unrecognized arg)
        | some f =>
          if f.takesValue then
            match rest with
            | [] => .error (.missingValue arg)
            | value :: rest =>
              if (a.value? f.long).isSome then .error (.duplicateValue arg value)
              else g.parseFrom { a with values := a.values ++ [(f.long, value)] } rest
          else g.parseFrom { a with switches := a.switches ++ [f.long] } rest
    else match g.takePositional a arg with
      | .error e => .error e
      | .ok a => g.parseFrom a rest

/-- Read the arguments of a command. -/
def parse (g : Grammar) (args : List String) : Except OptionError Arguments :=
  g.parseFrom {} args

end Grammar

end Shell
