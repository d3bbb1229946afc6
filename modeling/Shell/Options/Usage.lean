import Shell.Options

/-!
# Usage texts

The text that `--help` prints: a line that shows how the command is written, its summary, and its
positional arguments and options with their descriptions in a second column.
-/

namespace Shell

namespace Usage

/-- The column in which descriptions begin. -/
def descriptionColumn : Nat := 20

/-- The most characters on a line of a description. -/
def lineWidth : Nat := 80

/-- Lines filled with words, each as long as the width allows; `line` is the one being filled. -/
def fill (line : String) : List String → List String
  | [] => [line]
  | word :: rest =>
    if line.length + word.length + 1 > lineWidth then
      line :: fill (padLeft descriptionColumn "" ++ word) rest
    else fill (line ++ " " ++ word) rest

/-- An item with its description in the second column. -/
def item (name description : String) : String :=
  let name := "  " ++ name
  let start := name ++ String.ofList (List.replicate (descriptionColumn - name.length) ' ')
  match splitText ' ' description with
  | [] => start ++ "\n"
  | word :: rest => String.join ((fill (start ++ word) rest).map (· ++ "\n"))

/-- An option on the first line. -/
def synopsis (f : Flag) : String :=
  let name := match f.short with
    | some s => "-" ++ s
    | none => f.longName
  if f.takesValue then " [" ++ name ++ " <" ++ f.long ++ ">]" else " [" ++ name ++ "]"

/-- The names of an option in the list of options. -/
def names (f : Flag) : String :=
  match f.short with
  | some s => "-" ++ s ++ ", " ++ f.longName
  | none => f.longName

end Usage

namespace Grammar

/-- The usage text of a command. -/
def usage (g : Grammar) : String :=
  let synopsis := String.join (g.flags.map Usage.synopsis) ++
    match g.positional with
    | .none => ""
    | .optional name _ => " [--] [<" ++ name ++ ">]"
    | .greedy name => " [" ++ name ++ "...]"
  let positionals := match g.positional with
    | .optional name help => "Positional Arguments:\n" ++ Usage.item name help ++ "\n"
    | _ => ""
  "Usage: " ++ g.command ++ synopsis ++ "\n\n" ++ g.summary ++ "\n\n" ++ positionals ++
  "Options:\n" ++ String.join (g.flags.map fun f => Usage.item (Usage.names f) f.help) ++
  Usage.item "--help, help" "display usage information"

end Grammar

end Shell
