import Shell.Script.State
import Shell.Text.Number

/-!
# Commands of the shell itself

What the commands have in common that a script runs without a process of their own: how they read
their options and numbers and how they print. A command gets its arguments and ends with a status.
-/

namespace Shell

namespace Script

namespace Builtin

/-- Options and what they take, and the arguments behind them. -/
structure Arguments where
  options : List (Char × Option String) := []
  operands : List String := []
  deriving DecidableEq, Repr

/-- The options of a group of letters, then those behind it, which `goOn` reads. `spec` gives the
letters and whether they take a value. -/
def parseLetters (spec : List (Char × Bool)) (goOn : List String → Except String Arguments)
    (rest : List String) : List Char → Except String Arguments
  | [] => goOn rest
  | c :: cs =>
    let adding (value : Option String) (a : Arguments) : Arguments :=
      { a with options := (c, value) :: a.options }
    match spec.lookup c with
    | none => .error ("Illegal option -" ++ String.ofList [c])
    | some false => (parseLetters spec goOn rest cs).map (adding none)
    | some true =>
      match cs, rest with
      | [], [] => .error ("No arg for -" ++ String.ofList [c] ++ " option")
      | [], value :: rest => (goOn rest).map (adding (some value))
      | cs, rest => (goOn rest).map (adding (some (String.ofList cs)))

/-- Read options. The first argument bounds the number of the others. -/
def parse (spec : List (Char × Bool)) : Nat → List String → Except String Arguments
  | 0, args => .ok { operands := args }
  | _ + 1, [] => .ok {}
  | fuel + 1, arg :: rest =>
    match arg.toList with
    | ['-', '-'] => .ok { operands := rest }
    | '-' :: c :: cs => parseLetters spec (parse spec fuel) rest (c :: cs)
    | _ => .ok { operands := arg :: rest }

/-- The options and operands of a command. -/
def arguments (spec : List (Char × Bool)) (args : List String) : Sh Arguments :=
  match parse spec (args.length + 1) args with
  | .ok a => pure a
  | .error text => Sh.fail text

def Arguments.has (a : Arguments) (c : Char) : Bool := a.options.any fun o => o.1 = c

/-- Print on standard output, and give the status. -/
def print (text : String) (status : Nat := 0) : Sh Nat := do
  if text = "" then return status
  if ← Sh.write 1 text then return status
  let s ← Sh.get
  Sh.warn ((s.command.getD "") ++ ": I/O error")
  return status ||| 1

/-- The number that an argument without sign stands for. -/
def natural (text : String) : Sh Nat :=
  match wholeNumberAt? false text.toList with
  | some (n, rest) =>
    if 0 ≤ n && n ≤ 2147483647 && rest.all isBlankOctet then pure n.toNat
    else Sh.fail ("Illegal number: " ++ text)
  | none => Sh.fail ("Illegal number: " ++ text)

/-- Pieces between quotation marks in single quotes, and the marks in double quotes. The first
argument bounds the number of pieces. -/
def quotedPieces : Nat → List Char → List Char
  | 0, _ => []
  | fuel + 1, cs =>
    let plain := cs.takeWhile (· ≠ '\'')
    let rest := cs.drop plain.length
    let marks := rest.takeWhile (· = '\'')
    let rest := rest.drop marks.length
    ['\''] ++ plain ++ ['\''] ++ (if marks.isEmpty then [] else ['"'] ++ marks ++ ['"']) ++
      (if rest.isEmpty then [] else quotedPieces fuel rest)

/-- A text that the shell reads as this one word. -/
def quoted (text : String) : String :=
  String.ofList (quotedPieces (text.length + 1) text.toList)

end Builtin

end Script

end Shell
