import Shell.Proofs.Execute.Interleaving
import Shell.Proofs.History.Session
import Shell.Proofs.Interpreter.Actions
import Shell.Proofs.Machine.Opening

/-!
# Builtins with a redirected stream

A builtin is compared with and without a redirection of one of its streams to a regular file, which
the builtin itself does not open. What it prints on this stream goes to the end of what the file
holds on, and not to the session. All else is the same: the other stream, the result, the context
and all other files. There is one exception, which comes from opening the file first. Where that
makes a new file, `history` finds no directory at a path that leads through it, and says so, instead
of finding nothing. And a stream of the shell itself is no such stream of the builtin: `history`
that is told to write to it as to a file does so, whatever is redirected.

Lines of `echo` that are redirected to one file add to it what they print. It holds what was printed
since the last line that emptied it.
-/

namespace Shell

/-! ### What a builtin prints -/

lemma Session.printed_empty (s : Session) : s.printed "" "" = s := by
  simp [printed, encode_empty]

lemma Session.printed_printed (s : Session) (out err : String) :
    (s.printed out "").printed "" err = s.printed out err := by
  simp [printed, encode_empty]

namespace Machine

lemma write_sessionOut (m : Machine) (text : String) :
    m.write .sessionOut (encode text) = .ok { m with session := m.session.printed text "" } := by
  unfold write
  split
  · rename_i hempty
    simp [Session.printed, List.isEmpty_iff.mp hempty, encode_empty]
  · simp [Session.printed, Session.writeOut, SharedOutput.write, encode_empty]

lemma write_sessionErr (m : Machine) (text : String) :
    m.write .sessionErr (encode text) = .ok { m with session := m.session.printed "" text } := by
  unfold write
  split
  · rename_i hempty
    simp [Session.printed, List.isEmpty_iff.mp hempty, encode_empty]
  · simp [Session.printed, Session.writeErr, SharedOutput.write, encode_empty]

/-- Writing to a file that was just opened changes nothing but this file. -/
lemma write_file {m : Machine} {l : Location} {bits : Nat} {mode : WriteMode} {content : Bytes}
    (hget : m.files.get? l = some (.file bits (FileSystem.kept mode content))) (text : String) :
    ∃ files, m.write (.file (.file l) mode) (encode text) = .ok { m with files } ∧
      files.get? l = some (.file bits (FileSystem.kept mode content ++ encode text)) ∧
      ∀ k, k ≠ l → files.get? k = m.files.get? k := by
  have hl : l ≠ [] := by
    rintro rfl
    cases hget
  obtain ⟨files, after, hwrite, hget', hothers⟩ := FileSystem.writeAt_kept hget hl (encode text)
  refine ⟨files, ?_, hget', hothers⟩
  unfold write
  split
  · rename_i hempty
    simp only [FileSystem.writeAt, hempty, if_true] at hwrite
    cases hwrite
    rfl
  · simp only [channel_file, hwrite]

/-- A builtin with both streams of the session. -/
lemma perform_session (b : Builtin) (c : Command) (ctx : Context) (m : Machine) :
    let reported := b.report disk c.args ctx m
    let r := reported.1
    let left := reported.2
    m.perform b c { input := .session, output := .sessionOut, errors := .sessionErr } ctx =
      ((b.outcome r.result, r.context),
        { left with session := left.session.printed r.stdout r.stderr }) := by
  have hproper := b.report_isProper disk c.args ctx m
  rw [perform_eq b c Streams.whole_session]
  generalize b.report disk c.args ctx m = reported at hproper
  dsimp only
  cases hresult : reported.1.result with
  | error failure =>
    obtain ⟨hout, herr⟩ := hproper.silent failure hresult
    simp only [hout, herr, Session.printed_empty]
  | ok status =>
    simp only [write_sessionOut, write_sessionErr, Session.printed_printed]
    rfl

/-- A builtin with one stream going to a file that was just opened. -/
lemma perform_redirected (b : Builtin) (c : Command) (ctx : Context) (m : Machine)
    (stream : OutputStream) {l : Location} {bits : Nat} {mode : WriteMode} {content : Bytes}
    (hget : (b.report disk c.args ctx m).2.files.get? l =
      some (.file bits (FileSystem.kept mode content))) :
    let reported := b.report disk c.args ctx m
    let r := reported.1
    let left := reported.2
    let sinks := redirected stream (.file (.file l) mode)
    ∃ files,
      m.perform b c { input := .session, output := sinks.1, errors := sinks.2 } ctx =
        ((b.outcome r.result, r.context), { left with
          files
          session := left.session.printed (stream.pick "" r.stdout) (stream.pick r.stderr "") }) ∧
      files.get? l =
        some (.file bits (FileSystem.kept mode content ++ encode (stream.pick r.stdout r.stderr))) ∧
      ∀ k, k ≠ l → files.get? k = left.files.get? k := by
  have hproper := b.report_isProper disk c.args ctx m
  have hsink : ∀ id, Sink.file (.file l) mode ≠ .pipe id := by simp
  have hperform := perform_eq b c (redirected_whole hsink stream) ctx m
  generalize b.report disk c.args ctx m = reported at hproper hget hperform
  obtain ⟨r, left⟩ := reported
  dsimp only at hproper hget hperform ⊢
  rw [hperform]
  cases hresult : r.result with
  | error failure =>
    obtain ⟨hout, herr⟩ := hproper.silent failure hresult
    simp only [hout, herr]
    refine ⟨left.files, ?_, ?_, fun k _ => rfl⟩
    · cases stream <;> simp only [OutputStream.pick, Session.printed_empty]
    · cases stream <;> simpa [OutputStream.pick, encode_empty] using hget
  | ok status =>
    cases stream with
    | stdout =>
      obtain ⟨files, hwrite, hget', hothers⟩ := write_file hget r.stdout
      refine ⟨files, ?_, hget', hothers⟩
      simp only [redirected, hwrite, write_sessionErr]
      rfl
    | stderr =>
      obtain ⟨files, hwrite, hget', hothers⟩ := write_file
        (m := { left with session := left.session.printed r.stdout "" }) hget r.stderr
      refine ⟨files, ?_, hget', hothers⟩
      simp only [redirected, hwrite, write_sessionOut]
      rfl

/-! ### With and without the redirection -/

variable (programs : Programs)

lemma runStages_builtin {c : Command} {b : Builtin} (hrunner : c.runner = .ok (.builtin b))
    (output errors : Sink) (ctx : Context) (m : Machine) :
    (host programs).runStages [c] output errors ctx m =
      m.perform b c { input := .session, output, errors } ctx := by
  change (host programs).runSingle c output errors ctx m = _
  rw [Host.runSingle, hrunner]
  rfl

end Machine

/-- The redirection goes to the regular file at `l`, or to a new one there: its target is no command
that can be run, but a path that leads to `l`, where it may be written. -/
structure Redirection.GoesTo (r : Redirection) (ctx : Context) (fs : FileSystem) (l : Location) :
    Prop where
  not_command : (ctx.resolve fs r.target).runnable = false
  place : fs.place? (ctx.resolvePath r.target).text = some l
  mayWrite : fs.mayWriteAt l = true

namespace Machine

variable (programs : Programs)

/-- A builtin with a redirection to a file is carried out after the file was opened. -/
lemma execute_redirected {c : Command} {b : Builtin} (hrunner : c.runner = .ok (.builtin b))
    {r : Redirection} {ctx : Context} {m : Machine} {l : Location} {opened : FileSystem}
    (hcommand : (ctx.resolve m.files r.target).runnable = false)
    (hopen : m.files.openFile [] (ctx.resolvePath r.target).text (.write r.mode) =
      .ok (.file l, opened)) :
    let sinks := redirected r.stream (.file (.file l) r.mode)
    execute programs { stages := [c], redirection := some r } ctx m =
      { m with files := opened }.perform b c
        { input := .session, output := sinks.1, errors := sinks.2 } ctx := by
  obtain ⟨hrun, -, hnamed⟩ := Command.of_runner_builtin hrunner
  have hnoop : Pipeline.isNoop { stages := [c], redirection := some r } = false := by
    simp [Pipeline.isNoop, hnamed]
  rw [execute_eq_executeBy, executeBy, hnoop, List.find?_cons_of_neg (by simp [hrun])]
  simp only [List.find?_nil, hcommand, Bool.false_eq_true, if_false, runToFileBy, hopen]
  exact runStages_builtin programs hrunner _ _ ctx _

end Machine

/-- What the redirection `r` to the file at `l` makes of a run from `m` that prints `out` and `err`
to a session. The run is `plain` without the redirection and `moved` with it. -/
structure Redirection.Moves (r : Redirection) (l : Location) (m : Machine) (session : Session)
    (out err : String) (plain moved : (Except Error Nat × Context) × Machine) : Prop where
  plain_machine :
    plain.2 = { m with files := plain.2.files, session := session.printed out err }
  moved_machine : moved.2 = { m with
    files := moved.2.files
    session := session.printed (r.stream.pick "" out) (r.stream.pick err "") }
  content : moved.2.files.bytesAt l =
    FileSystem.kept r.mode (m.files.bytesAt l) ++ encode (r.stream.pick out err)
  /-- Without the redirection the file is as before, and all other files are the same. -/
  files : ∃ e', Entry.Rewritten (m.files.get? l) e' ∧
    plain.2.files.AgreeExcept l (m.files.get? l) e' moved.2.files
  context : moved.1.2 = plain.1.2
  /-- The results are the same, or `history` failed at a path that leads through a new file. -/
  result : moved.1.1 = plain.1.1 ∨ m.files.get? l = none ∧ ∃ file,
    plain.1.1 = .error (.builtin "history" (file ++ ": " ++ (IoError.os .noEntry).message)) ∧
      moved.1.1 = .error (.builtin "history" (file ++ ": " ++ (IoError.os .notDirectory).message))

namespace Machine

variable (programs : Programs)

lemma execute_moves {c : Command} {b : Builtin} (hrunner : c.runner = .ok (.builtin b))
    {r : Redirection} {ctx : Context} {m : Machine} {l : Location} (hgoes : r.GoesTo ctx m.files l)
    (havoids : History.Avoids disk l (b.operations c.args ctx) ctx.history m) :
    let reported := b.report disk c.args ctx m
    r.Moves l m reported.2.session reported.1.stdout reported.1.stderr
      (execute programs { stages := [c] } ctx m)
      (execute programs { stages := [c], redirection := some r } ctx m) := by
  obtain ⟨opened, e', hopen, hrewritten, hagree, bits, rfl⟩ :=
    FileSystem.openFile_agreeExcept hgoes.place hgoes.mayWrite r.mode
  have halike := (disk_mirrors hrewritten).report hrewritten (.of_files hagree) b c.args havoids
  have hshifts := (disk_shifts m).report b c.args ctx (.refl m)
  obtain ⟨files, hperform, hget, hothers⟩ := perform_redirected b c ctx { m with files := opened }
    r.stream halike.after.files.second
  have hplain := perform_session b c ctx m
  rw [execute_builtin programs hrunner, execute_redirected programs hrunner hgoes.not_command hopen]
  generalize b.report disk c.args ctx m = reported, b.report disk c.args ctx _ = reported'
    at halike hshifts hperform hplain hget hothers ⊢
  obtain ⟨response, left⟩ := reported
  obtain ⟨response', left'⟩ := reported'
  dsimp only at halike hshifts hperform hplain hget hothers ⊢
  obtain ⟨hstdout, hstderr, hcontext, ⟨hafter⟩, hresult⟩ := halike
  obtain ⟨-⟩ := hshifts
  rw [hstdout, hstderr, hcontext] at hperform
  rw [hstdout, hstderr] at hget
  rw [hplain, hperform]
  refine ⟨rfl, rfl, by rw [FileSystem.bytesAt, hget], ?_, rfl, ?_⟩
  · refine ⟨_, hrewritten.of_content _, ?_, hafter.first, hget⟩
    intro k hk
    rw [hothers k hk]
    exact hafter.others k hk
  · rcases hresult with hsame | ⟨rfl, hnone, file, hfirst, hsecond⟩
    · exact .inl (by rw [hsame])
    · refine .inr ⟨hnone, file, ?_, ?_⟩
      · rw [hfirst]
        rfl
      · rw [hsecond]
        rfl

end Machine

/-! ### Lines of `echo` -/

lemma Builtin.report_echo {σ : Type} (d : Disk σ) (args : List String) (ctx : Context) (s : σ) :
    Builtin.echo.report d args ctx s = ({ stdout := echoText args, context := ctx }, s) := by
  rw [report_eq]
  exact d.report_conclude ctx s .stdout (echoText args) 0

/-- A line that is one `echo` with a redirection. -/
structure EchoLine where
  line : String
  words : List String
  redirection : Redirection
  split : Pipeline.split (tokenize line) = .ok (["echo" :: words], some redirection)

namespace EchoLine

/-- What the line prints on the stream that it redirects. -/
def output (home : Option String) (x : EchoLine) : Bytes :=
  let text := Builtin.echoText (x.words.map fun a => Path.expandTilde a home)
  encode (x.redirection.stream.pick text "")

/-- The command of the line. -/
def command (x : EchoLine) (ctx : Context) (fs : FileSystem) : Command :=
  Pipeline.stageOf ctx fs ("echo" :: x.words)

lemma parse_line (x : EchoLine) (ctx : Context) (fs : FileSystem) :
    Pipeline.parse ctx fs x.line =
      .ok { stages := [x.command ctx fs], redirection := some x.redirection } := by
  rw [Pipeline.parse, x.split]
  rfl

lemma runner_command (x : EchoLine) (ctx : Context) (fs : FileSystem) :
    (x.command ctx fs).runner = .ok (.builtin .echo) := by
  rfl

lemma home_record (ctx : Context) (line : String) : (ctx.record line).home = ctx.home := by
  simp only [Context.record, Context.home, Context.var]

end EchoLine

namespace Redirection

variable {r : Redirection} {ctx : Context} {fs fs' : FileSystem} {l : Location}

/-- The history makes no difference to where a redirection goes. -/
lemma GoesTo.of_history (h : r.GoesTo ctx fs l) (history : History) :
    r.GoesTo { ctx with history } fs l :=
  ⟨h.not_command, h.place, h.mayWrite⟩

lemma GoesTo.record (h : r.GoesTo ctx fs l) (line : String) : r.GoesTo (ctx.record line) fs l :=
  h.of_history (ctx.history.record line)

/-- Once the file was written, the redirection still goes there. -/
lemma GoesTo.of_agreeExcept {e' : Option Entry} (h : r.GoesTo ctx fs l)
    (hrewritten : Entry.Rewritten (fs.get? l) e') (hagree : fs.AgreeExcept l (fs.get? l) e' fs') :
    r.GoesTo ctx fs' l := by
  refine ⟨?_, FileSystem.place?_revises (hagree.revises hrewritten) h.place, ?_⟩
  · have hcommand := h.not_command
    rw [Context.resolve] at hcommand ⊢
    rwa [hagree.findExecutable hrewritten]
  · rw [FileSystem.mayWriteAt, hagree.second]
    exact hrewritten.all_mayWrite h.mayWrite

end Redirection

namespace EchoLine

variable (programs : Programs) {l : Location}

/-- One line adds what it prints to what the file holds on, and changes nothing else but the
history. -/
lemma evaluate_line (x : EchoLine) {sh : Interpreter}
    (hgoes : x.redirection.GoesTo sh.context sh.machine.files l) :
    let sh' := (sh.evaluate programs x.line).2
    sh'.context = sh.context.record x.line ∧
      sh'.machine.files.bytesAt l =
        FileSystem.kept x.redirection.mode (sh.machine.files.bytesAt l) ++
          x.output sh.context.home ∧
      ∃ e', Entry.Rewritten (sh.machine.files.get? l) e' ∧
        sh.machine.files.AgreeExcept l (sh.machine.files.get? l) e' sh'.machine.files := by
  intro sh'
  have hrunner := x.runner_command (sh.context.record x.line) sh.machine.files
  have hmoves := Machine.execute_moves programs hrunner (hgoes.record x.line) trivial
  have hplain := Machine.execute_builtin programs hrunner (sh.context.record x.line) sh.machine
  rw [Machine.perform_session, Builtin.report_echo] at hplain
  rw [Builtin.report_echo] at hmoves
  have hline := Interpreter.runLine_of_parse programs x.line
    (x.parse_line (sh.context.record x.line) sh.machine.files)
  rw [hplain, ← hline] at hmoves
  refine ⟨?_, ?_, ?_⟩
  · rw [Interpreter.context_evaluate]
    exact hmoves.context
  · rw [(Interpreter.machine_evaluate programs x.line sh).1, hmoves.content,
      ← home_record sh.context x.line]
    rfl
  · rw [(Interpreter.machine_evaluate programs x.line sh).1]
    exact hmoves.files

/-- The content of a file after lines that are redirected to it. -/
def contentAfter (home : Option String) (content : Bytes) (lines : List EchoLine) : Bytes :=
  lines.foldl (fun content x => FileSystem.kept x.redirection.mode content ++ x.output home) content

/-- By induction over the lines. -/
lemma bytesAt_after {lines : List EchoLine} {sh : Interpreter}
    (hgoes : ∀ x ∈ lines, x.redirection.GoesTo sh.context sh.machine.files l) :
    (Interpreter.after programs (lines.map fun x => .evaluate x.line) sh).machine.files.bytesAt l =
      contentAfter sh.context.home (sh.machine.files.bytesAt l) lines := by
  induction lines generalizing sh with
  | nil => rfl
  | cons x lines ih =>
    obtain ⟨hcontext, hbytes, e', hrewritten, hagree⟩ :=
      x.evaluate_line programs (hgoes x List.mem_cons_self)
    rw [List.map_cons, Interpreter.after_cons, Interpreter.Action.apply, ih]
    · rw [hbytes, hcontext, home_record, contentAfter, contentAfter, List.foldl_cons]
    · intro y hy
      rw [hcontext]
      have hy := (hgoes y (List.mem_cons_of_mem x hy)).of_agreeExcept hrewritten hagree
      exact hy.record x.line

lemma contentAfter_of_append {home : Option String} {content : Bytes} {lines : List EchoLine}
    (h : ∀ x ∈ lines, x.redirection.mode = .append) :
    contentAfter home content lines = content ++ lines.flatMap (output home) := by
  induction lines generalizing content with
  | nil => simp [contentAfter]
  | cons x lines ih =>
    have hlines : ∀ content,
        contentAfter home content lines = content ++ lines.flatMap (output home) :=
      fun content => ih fun y hy => h y (List.mem_cons_of_mem x hy)
    simpa [contentAfter, h x List.mem_cons_self, FileSystem.kept]
      using hlines (content ++ x.output home)

/-- What was in the file before the last line that empties it does not matter. -/
lemma contentAfter_of_truncate {home : Option String} {content : Bytes}
    {before rest : List EchoLine} {x : EchoLine} (hx : x.redirection.mode = .truncate)
    (hrest : ∀ y ∈ rest, y.redirection.mode = .append) :
    contentAfter home content (before ++ x :: rest) = (x :: rest).flatMap (output home) := by
  have hkept : ∀ content, FileSystem.kept x.redirection.mode content = [] := by
    intro content
    rw [hx]
    rfl
  calc contentAfter home content (before ++ x :: rest)
      = contentAfter home (x.output home) rest := by
        rw [contentAfter, List.foldl_append, List.foldl_cons, hkept]
        rfl
    _ = (x :: rest).flatMap (output home) := contentAfter_of_append hrest

end EchoLine

/-! ### Moving output to a file -/

/-- The line `echo a > h`. -/
def EchoLine.first : EchoLine where
  line := "echo a > h"
  words := ["a"]
  redirection := ⟨"h", .stdout, .truncate⟩
  split := rfl

/-- The line `echo -n b >> h`. -/
def EchoLine.second : EchoLine where
  line := "echo -n b >> h"
  words := ["-n", "b"]
  redirection := ⟨"h", .stdout, .append⟩
  split := rfl

lemma Redirection.goesTo_onlyFile (stream : OutputStream) (mode : WriteMode) (text : String) :
    (⟨"h", stream, mode⟩ : Redirection).GoesTo { workspace := .root } (History.onlyFile text)
      ["h"] := by
  have hcommand : ∀ fs, (Context.resolve { workspace := .root } fs "h").runnable = false :=
    fun _ => rfl
  have hpath : (Context.resolvePath { workspace := .root } "h").text = "/h" := rfl
  refine ⟨hcommand _, ?_, History.mayWriteAt_onlyFile text⟩
  rw [hpath]
  exact History.place?_onlyFile text

lemma Machine.result_perform {b : Builtin} {c : Command} {ctx : Context} {m : Machine}
    {failure : Failure} (h : (b.report disk c.args ctx m).1.result = .error failure)
    {streams : Streams} (hwhole : streams.Whole) :
    (m.perform b c streams ctx).1.1 = b.outcome (.error failure) := by
  rw [perform_eq b c hwhole]
  simp only [h]

/-- What `history -w file` does. -/
lemma Builtin.report_history_write {σ : Type} (d : Disk σ) (file : String) (ctx : Context) (s : σ) :
    history.report d ["-w", file] ctx s =
      let ((result, h), s) := ctx.history.writeFile d (ctx.resolvePath file).text s
      ({ result := (result.mapError (.file file)).map fun _ => 0
         context := { ctx with history := h } }, s) := by
  have hargs : history.parseArguments ["-w", file] = .ok { values := [("write", file)] } := rfl
  have hread : ({ values := [("write", file)] } : Arguments).value? "read" = none := rfl
  have hwrite : ({ values := [("write", file)] } : Arguments).value? "write" = some file := rfl
  have happend : ({ values := [("write", file)] } : Arguments).value? "append" = none := rfl
  rw [report_eq, hargs]
  simp only [Bool.false_eq_true, if_false, Desk.act, Disk.report_history, List.isEmpty_cons,
    Disk.operations, Desk.historyFiles, hread, hwrite, happend, bind_apply]
  rcases ctx.history.writeFile d (ctx.resolvePath file).text s with ⟨⟨_ | _, _⟩, _⟩ <;> rfl

/-- `history -w f/x` fails as following the path does. -/
lemma Machine.result_history_write {m : Machine} {cause : IoError}
    (h : m.files.locate .place [] "/f/x" = .error cause) :
    (Builtin.history.report disk ["-w", "f/x"] { workspace := .root } m).1.result =
      .error (.file "f/x" cause) := by
  have hpath : (({ workspace := .root } : Context).resolvePath "f/x").text = "/f/x" := rfl
  have hsave : ∀ bytes, disk.save "/f/x" .truncate bytes m = (.error cause, m) := by
    intro bytes
    simp only [disk, FileSystem.openFile, FileSystem.lookupFor, h]
  rw [Builtin.report_history_write, hpath, History.writeFile, bind_apply, hsave]
  rfl

/-- A session that has inherited its streams, with its standard output among the files and one line
in its history. -/
def withOutput : Interpreter where
  context := { workspace := .root, history := { entries := ["ls"] } }
  machine :=
    { files :=
        { entries := [(["dev"], .directory), (["dev", "stdout"], .device (.descriptor 1))] }
      session := { kind := .inherited } }

/-- `history -w /dev/stdout` writes to the session. -/
lemma Machine.report_withOutput :
    (Builtin.history.report disk ["-w", "/dev/stdout"] withOutput.context withOutput.machine).2 =
      { withOutput.machine with
        session := withOutput.machine.session.writeOut (encode "ls\n") } := by
  have hpath : (withOutput.context.resolvePath "/dev/stdout").text = "/dev/stdout" := by decide
  have hsteps : FileSystem.steps "/dev/stdout" = ["dev", "stdout"] := by decide
  have hopen : withOutput.machine.files.openFile [] "/dev/stdout" (.write .truncate) =
      .ok (.device (.descriptor 1), withOutput.machine.files) :=
    FileSystem.openFile_device (by decide) hsteps (by decide) (by decide) rfl rfl (by simp)
  have hsave : disk.save "/dev/stdout" .truncate (encode "ls\n") withOutput.machine =
      (.ok (), { withOutput.machine with
        session := withOutput.machine.session.writeOut (encode "ls\n") }) := by
    simp only [disk, hopen]
    rfl
  have htext : History.fileText withOutput.context.history.entries = "ls\n" := by decide
  rw [Builtin.report_history_write, hpath, History.writeFile, bind_apply]
  dsimp only
  rw [htext, hsave]
  rfl

/-- A redirection to a file in the root that is not there yet. -/
lemma Redirection.goesTo_new {fs : FileSystem} (h : fs.get? ["f"] = none) (history : History) :
    (⟨"f", .stdout, .truncate⟩ : Redirection).GoesTo { workspace := .root, history } fs ["f"] := by
  have hplace : fs.place? "/f" = some ["f"] :=
    FileSystem.place?_of_steps (by decide) (by decide) (by decide) (h ▸ .same none)
  have hcommand : (Context.resolve { workspace := .root, history } fs "f").runnable = false := rfl
  have hpath : (Context.resolvePath { workspace := .root, history } "f").text = "/f" := rfl
  refine ⟨hcommand, hpath ▸ hplace, ?_⟩
  rw [FileSystem.mayWriteAt, h]
  rfl

/-- Writing the history to one file avoids another one. -/
lemma Machine.avoids_write {m : Machine} {l : Location} {path : String}
    (h : m.files.place? path ≠ some l) (name : String) (history : History) :
    History.Avoids disk l [(name, .write path)] history m := by
  refine ⟨fun path' access hopened => ?_, fun _ _ _ => trivial⟩
  cases hopened
  exact h

/-- The redirection makes the file through which the path of `history` leads. -/
lemma Machine.result_redirected_write :
    let m : Machine := { files := {} }
    let ctx : Context := { workspace := .root }
    let c := Interpreter.builtinStage "history" ["-w", "f/x"]
    let r : Redirection := ⟨"f", .stdout, .truncate⟩
    History.Avoids disk ["f"] (Builtin.history.operations c.args ctx) ctx.history m ∧
    (execute (fun _ _ => .exit 0) { stages := [c] } ctx m).1.1 =
      .error (.builtin "history" "f/x: No such file or directory (os error 2)") ∧
    (execute (fun _ _ => .exit 0) { stages := [c], redirection := some r } ctx m).1.1 =
      .error (.builtin "history" "f/x: Not a directory (os error 20)") := by
  intro m ctx c r
  have hsteps : FileSystem.steps "/f/x" = ["f", "x"] := by decide
  have hmissing : m.files.locate .place [] "/f/x" = .error (.os .noEntry) := by
    rw [FileSystem.locate_eq_walk (by decide), hsteps,
      FileSystem.walk_missing (by decide) (by decide) rfl]
    rfl
  have helsewhere : m.files.place? "/f/x" ≠ some ["f"] := by
    rw [FileSystem.place?, hmissing]
    simp
  have hgoes : r.GoesTo ctx m.files ["f"] := Redirection.goesTo_new rfl _
  obtain ⟨opened, e', hopen, -, hagree, bits, rfl⟩ :=
    FileSystem.openFile_agreeExcept hgoes.place hgoes.mayWrite r.mode
  have hfile : opened.locate .place [] "/f/x" = .error (.os .notDirectory) := by
    rw [FileSystem.locate_eq_walk (by decide), hsteps,
      FileSystem.walk_file (by decide) (by decide) hagree.second]
    rfl
  refine ⟨avoids_write helsewhere _ _, ?_, ?_⟩
  · rw [execute_builtin _ rfl,
      result_perform (result_history_write hmissing) Streams.whole_session]
    decide
  · rw [execute_redirected _ rfl hgoes.not_command hopen,
      result_perform (result_history_write hfile) (redirected_whole (by simp) _)]
    decide

end Shell
