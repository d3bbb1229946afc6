import Shell.Command

/-!
# Finding commands

A name with a slash is a path. Any other name is looked for in the directories that the variable
`PATH` lists, in order; an empty entry there is the working directory. The names of builtins come
before programs of the same name.
-/

namespace Shell

namespace Context

/-- The directories in which programs are looked for. -/
def searchDirectories (ctx : Context) : List Path :=
  match ctx.var "PATH" with
  | none => []
  | some dirs => (splitText ':' dirs).map ctx.resolvePath

/-- The program that a name leads to, whether or not a builtin has that name. -/
def findExecutable (ctx : Context) (fs : FileSystem) (name : String) : Option String :=
  if name = "" then none
  else if Path.isAbsolute name then
    if fs.isExecutable name then some name else none
  else if containsChar '/' name then
    let candidate := (ctx.resolvePath name).text
    if fs.isExecutable candidate then some candidate else none
  else
    (ctx.searchDirectories.map fun dir => dir.entryText name).find? fs.isExecutable

/-- Look a name up among builtins and programs. -/
def resolve (ctx : Context) (fs : FileSystem) (name : String) : Command :=
  let builtin := Builtin.isNamed name
  let program := ctx.findExecutable fs name
  { name := some name, program, builtin
    runnable := builtin || program.isSome
    workspace := ctx.workspace.text }

/-- Put a name in its place in an increasing list, unless it is there already. -/
def insertName (name : String) : List String → List String
  | [] => [name]
  | n :: rest =>
    if name < n then name :: n :: rest
    else if name = n then n :: rest
    else n :: insertName name rest

/-- The names of builtins and of programs in the search directories that begin with `word`, in
increasing order. -/
def commandNames (ctx : Context) (fs : FileSystem) (word : String) : List String :=
  let builtins := Builtin.names.filter (startsWithText word)
  let programs := ctx.searchDirectories.flatMap fun dir =>
    (fs.list dir.text).filter fun name =>
      startsWithText word name && fs.isExecutable (dir.entryText name)
  (builtins ++ programs).foldr insertName []

end Context

end Shell
