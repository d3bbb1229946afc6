import Shell.Text.Octets

/-!
# Names in messages

How tools write a name or an argument in a message, so that it can be told from the words around it
and copied to a command line. Names are texts of octets; bytes outside printable ASCII are written
as escapes.
-/

namespace Shell

namespace Quoted

/-- A character that is shown as it is. -/
def isShown (c : Char) : Bool :=
  32 ≤ c.toNat && c.toNat < 127

/-- How a character that is not shown is written. -/
def escape (c : Char) : String :=
  match c.toNat with
  | 7 => "\\a"
  | 8 => "\\b"
  | 9 => "\\t"
  | 10 => "\\n"
  | 11 => "\\v"
  | 12 => "\\f"
  | 13 => "\\r"
  | n => "\\" ++ String.ofList (Nat.toDigits 8 (512 + n)).tail

/-- A character that means something to a shell wherever it stands. -/
def isActive (c : Char) : Bool :=
  " !\"$&'()*;<=>?[\\^`|".toList.contains c

/-- A character that cannot stand in double quotes as it is, or is not known to. -/
def isAwkward (first : Bool) (c : Char) : Bool :=
  !isShown c || "!\"$&()*;<=>?[\\^`|".toList.contains c || c = '\x7b' || c = '\x7d' ||
    (!first && (c = '#' || c = '~'))

/-- A name in single quotes. What cannot be shown is escaped between quotes of its own. A name with
a single quote is gone through twice, and escapes at its end still count as open the second time. -/
def single (name : List Char) : String :=
  let step := fun (acc : String × Bool) (c : Char) =>
    if c = '\'' then (acc.1 ++ "'\\''", false)
    else if isShown c then (acc.1 ++ (if acc.2 then "''" else "") ++ String.ofList [c], false)
    else (acc.1 ++ (if acc.2 then "" else "'$'") ++ escape c, true)
  let reopened := name.contains '\'' && name.getLast?.any fun c => !isShown c
  (name.foldl step ("'", reopened)).1 ++ "'"

/-- A name in quotes: single ones, or double ones if it has single quotes and nothing that would
need care in double quotes. -/
def always (name : String) : String :=
  let cs := name.toList
  let awkward := (cs.head?.any (isAwkward true)) || cs.tail.any (isAwkward false)
  if cs.contains '\'' && (!awkward || cs.length = 1) then "\"" ++ name ++ "\"" else single cs

/-- A name needs quotes to be copied to a command line or to be told from the colon after it. -/
def needsQuotes (name : String) : Bool :=
  let cs := name.toList
  cs.isEmpty || cs.any (fun c => !isShown c || isActive c || c = ':') || cs = ['\x7b'] ||
    cs = ['\x7d'] || cs.head?.any fun c => c = '~' || c = '#'

/-- A name, in quotes if it needs them. -/
def name (text : String) : String :=
  if needsQuotes text then always text else text

/-- An argument in single quotes, with a backslash before quotes and backslashes. -/
def argument (text : String) : String :=
  "'" ++ String.join (text.toList.map fun c =>
    if c = '\'' || c = '\\' then String.ofList ['\\', c]
    else if isShown c then String.ofList [c] else escape c) ++ "'"

end Quoted

end Shell
