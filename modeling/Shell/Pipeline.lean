import Shell.Command.Search

/-!
# Pipelines

A line is a sequence of segments with `|` between them and at most one redirection at the end:
the first redirection takes the word after it as its target, and all that follows is dropped. The
first word of a segment names a command and the others are its arguments.
-/

namespace Shell

/-- The redirection of a line. -/
structure Redirection where
  /-- A file, or the name of a command that takes the output as its arguments. -/
  target : String
  stream : OutputStream
  mode : WriteMode
  deriving DecidableEq, Repr

structure Pipeline where
  stages : List Command
  redirection : Option Redirection := none
  deriving DecidableEq, Repr

namespace Pipeline

/-- Nothing is to be run: there is no stage, or a stage without a name. -/
def isNoop (p : Pipeline) : Bool :=
  p.stages.isEmpty || p.stages.any fun c => c.name.isNone

/-- The words of each segment, and the redirection. `segment` holds the words of the current
segment in reverse, `done` the segments before it in reverse. -/
def splitFrom (segment : List String) (done : List (List String)) :
    List Token → Except Error (List (List String) × Option Redirection)
  | [] => .ok ((segment.reverse :: done).reverse, none)
  | .word w :: rest => splitFrom (w :: segment) done rest
  | .pipe :: rest => splitFrom [] (segment.reverse :: done) rest
  | .redirect stream mode :: .word target :: _ =>
    .ok ((segment.reverse :: done).reverse, some { target, stream, mode })
  | .redirect _ _ :: _ => .error .missingRedirectTarget

/-- The words of each segment of a line, and its redirection. -/
def split (tokens : List Token) : Except Error (List (List String) × Option Redirection) :=
  splitFrom [] [] tokens

/-- The stage of a segment with these words. -/
def stageOf (ctx : Context) (fs : FileSystem) : List String → Command
  | [] => .blank ctx.workspace.text
  | name :: args =>
    { ctx.resolve fs name with args := args.map fun a => Path.expandTilde a ctx.home }

/-- The pipeline that a line stands for. -/
def parse (ctx : Context) (fs : FileSystem) (line : String) : Except Error Pipeline :=
  match split (tokenize line) with
  | .error e => .error e
  | .ok (segments, redirection) => .ok { stages := segments.map (stageOf ctx fs), redirection }

end Pipeline

end Shell
