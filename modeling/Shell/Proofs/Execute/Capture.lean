import Shell.Proofs.Execute.Redirection
import Shell.Proofs.Token.Bare

/-!
# Lines of `echo` that go into a command

A redirection whose target is a command hands it the words that were printed. Words that stand for
themselves on a line come back from what `echo` prints for them as they were, so that such a line of
`echo` is the command with these arguments, run on the very machine that the line found: the
redirection itself makes no file (`Machine.execute_echo_into`).
-/

namespace Shell

/-! ### Words that are printed and read again -/

namespace Token.Scan

/-- By induction over the words: each is ended by the blank before the next one, and the last by the
line feed. -/
lemma run_joined {ws : List String} (h : ∀ w ∈ ws, IsBare w) (d : List Token) :
    run ⟨.bare, none, d⟩ (joinText " " ws ++ "\n").toList =
      ⟨.bare, none, (ws.map .word).reverse ++ d⟩ := by
  induction ws generalizing d with
  | nil => rfl
  | cons w ws ih =>
    obtain ⟨hw, hws⟩ := List.forall_mem_cons.mp h
    cases ws with
    | nil => simpa using run_bare hw (c := '\n') (by decide) d
    | cons v ws =>
      have hsplit : (joinText " " (w :: v :: ws) ++ "\n").toList =
          (w.toList ++ [' ']) ++ (joinText " " (v :: ws) ++ "\n").toList := by
        simp [joinText_cons_cons]
      rw [hsplit, run_append, run_bare hw (by decide), ih hws]
      simp

end Token.Scan

/-- Bare words that are printed with blanks between them are read again as they were. -/
theorem words_joinText {ws : List String} (h : ∀ w ∈ ws, Token.IsBare w) :
    words (joinText " " ws ++ "\n") = ws := by
  have htokens : tokenize (joinText " " ws ++ "\n") = ws.map .word := by
    rw [tokenize, Token.Scan.run_joined h, Token.Scan.tokens_rest]
    simp
  rw [words, htokens]
  simp [List.filterMap_map, Function.comp_def, Token.word?]

example : words (joinText " " ["1", "~", "-n", "a1"] ++ "\n") = ["1", "~", "-n", "a1"] := by decide

lemma decodeLossy_encode (s : String) : decodeLossy (encode s) = s := by
  rw [decodeLossy, decode?_encode]

lemma Builtin.echoText_of_head? {args : List String} (h : args.head? ≠ some "-n") :
    echoText args = joinText " " args ++ "\n" := by
  unfold echoText
  split
  · exact absurd rfl h
  · rfl

/-! ### Into a command -/

namespace Machine

lemma write_capture (m : Machine) (text : String) :
    m.write .capture (encode text) = .ok { m with capture := m.capture ++ encode text } := by
  unfold write
  split
  · rename_i hempty
    simp [List.isEmpty_iff.mp hempty]
  · rfl

variable (programs : Programs)

/-- What `echo` prints is captured, and nothing else happens. -/
lemma captured_echo {c : Command} (hrunner : c.runner = .ok (.builtin .echo)) (ctx : Context)
    (m : Machine) :
    captured (host programs).runStages [c] .stdout ctx m =
      ((.ok 0, ctx), { m with capture := encode (Builtin.echoText c.args) }) := by
  have hwhole : Streams.Whole
      { input := .session, output := .capture, errors := .sessionErr } := ⟨nofun, nofun⟩
  simp only [captured, capturing, redirected, runStages_builtin programs hrunner,
    perform_eq _ c hwhole, Builtin.report_echo, write_capture, encode_empty, write_nil,
    List.nil_append]

/-- The command that takes the words of `echo` is run with them on the machine as it was before. -/
lemma taking_echo {c : Command} (hrunner : c.runner = .ok (.builtin .echo))
    (hbare : ∀ w ∈ c.args, Token.IsBare w) (hfirst : c.args.head? ≠ some "-n") (target : Command)
    (ctx : Context) (m : Machine) :
    taking (host programs).runStages [c] .stdout target ctx m =
      ⟨[{ target with args := c.args }], ctx, m⟩ := by
  have hwords : words (decodeLossy (encode (Builtin.echoText c.args))) = c.args := by
    rw [decodeLossy_encode, Builtin.echoText_of_head? hfirst, words_joinText hbare]
  simp only [taking, captured_echo programs hrunner, hwords]

/-- A command of one stage that can be run. -/
lemma execute_alone {c : Command} (hname : c.name.isNone = false) (hrun : c.runnable = true)
    (ctx : Context) (m : Machine) :
    execute programs { stages := [c] } ctx m =
      (host programs).runStages [c] .sessionOut .sessionErr ctx m := by
  have hnoop : Pipeline.isNoop { stages := [c] } = false := by simp [Pipeline.isNoop, hname]
  rw [execute_eq_executeBy, executeBy, hnoop, List.find?_cons_of_neg (by simp [hrun])]
  rfl

section

variable {c : Command} (hrunner : c.runner = .ok (.builtin .echo))
  (hbare : ∀ w ∈ c.args, Token.IsBare w) (hfirst : c.args.head? ≠ some "-n") {ctx : Context}
  {m : Machine} {target : String} (htarget : (ctx.resolve m.files target).runnable = true)
  (mode : WriteMode)
include hrunner hbare hfirst htarget

/-- All that is left of the line is the command that takes its words. -/
lemma execute_echo_taken :
    execute programs { stages := [c], redirection := some ⟨target, .stdout, mode⟩ } ctx m =
      (host programs).runStages [{ ctx.resolve m.files target with args := c.args }]
        .sessionOut .sessionErr ctx m := by
  obtain ⟨hrun, -, hnamed⟩ := Command.of_runner_builtin hrunner
  have hnoop : Pipeline.isNoop
      { stages := [c], redirection := some ⟨target, .stdout, mode⟩ } = false := by
    simp [Pipeline.isNoop, hnamed]
  rw [execute_eq_executeBy, executeBy, hnoop, List.find?_cons_of_neg (by simp [hrun])]
  simp only [List.find?_nil, Bool.false_eq_true, if_false]
  rw [if_pos htarget, runIntoBy_eq, captured_echo programs hrunner,
    taking_echo programs hrunner hbare hfirst]

lemma moments_echo :
    moments (host programs).runStages
        { stages := [c], redirection := some ⟨target, .stdout, mode⟩ } ctx m =
      [⟨[c], ctx, { m with capture := [] }⟩,
        ⟨[{ ctx.resolve m.files target with args := c.args }], ctx, m⟩] := by
  obtain ⟨hrun, -, hnamed⟩ := Command.of_runner_builtin hrunner
  have hmoments : moments (host programs).runStages
      { stages := [c], redirection := some ⟨target, .stdout, mode⟩ } ctx m =
        momentsInto (host programs).runStages [c] .stdout (ctx.resolve m.files target) ctx m := by
    simp [moments, Pipeline.isNoop, hnamed, hrun, htarget]
  rw [hmoments, momentsInto, captured_echo programs hrunner,
    taking_echo programs hrunner hbare hfirst]
  rfl

/-- A line of `echo` with bare words that goes into a command is the command with these words: the
result, the context and the machine are the same. The stages are run at two moments. At the first
`echo` is run with an empty buffer for what it prints, and at the second the command is run on the
machine as the line found it, with all its files, streams and processes. -/
theorem execute_echo_into :
    let line : Pipeline := { stages := [c], redirection := some ⟨target, .stdout, mode⟩ }
    let call : Pipeline := { stages := [{ ctx.resolve m.files target with args := c.args }] }
    execute programs line ctx m = execute programs call ctx m ∧
      moments (host programs).runStages line ctx m =
        [⟨[c], ctx, { m with capture := [] }⟩, ⟨call.stages, ctx, m⟩] := by
  intro line call
  have hcall : execute programs call ctx m =
      (host programs).runStages call.stages .sessionOut .sessionErr ctx m :=
    execute_alone programs (by simp [Context.resolve]) (by simpa using htarget) ctx m
  refine ⟨?_, moments_echo programs hrunner hbare hfirst htarget mode⟩
  rw [hcall]
  exact execute_echo_taken programs hrunner hbare hfirst htarget mode

end

/-- `echo cd nosuch > type` is `type cd nosuch`. -/
theorem execute_echo_into_type :
    let ctx : Context := { workspace := .root }
    let m : Machine := { files := {} }
    let c := Interpreter.builtinStage "echo" ["cd", "nosuch"]
    let r : Redirection := ⟨"type", .stdout, .truncate⟩
    execute (fun _ _ => .exit 0) { stages := [c], redirection := some r } ctx m =
      ((.ok 1, ctx), { m with
        session := m.session.printed "cd is a shell builtin\nnosuch: not found\n" "" }) := by
  intro ctx m c r
  have htarget : (ctx.resolve m.files "type").runnable = true := rfl
  have hbare : ∀ w ∈ c.args, Token.IsBare w := by decide
  have hline := (execute_echo_into (fun _ _ => .exit 0) rfl hbare (by decide) htarget .truncate).1
  have hcall := execute_builtin (fun _ _ => .exit 0)
    (c := { ctx.resolve m.files "type" with args := c.args }) (b := .type) rfl ctx m
  rw [hline, hcall, perform_session]
  rfl

/-- The file `history` is there after `echo -w history > history`, since the command makes it. -/
theorem execute_echo_into_history :
    let ctx : Context := { workspace := .root }
    let m : Machine := { files := {} }
    let c := Interpreter.builtinStage "echo" ["-w", "history"]
    let r : Redirection := ⟨"history", .stdout, .truncate⟩
    c.runner = .ok (.builtin .echo) ∧ (∀ w ∈ c.args, Token.IsBare w) ∧ c.args.head? ≠ some "-n" ∧
    (ctx.resolve m.files r.target).runnable = true ∧
    (ctx.resolvePath r.target).text = "/history" ∧ m.files.get? ["history"] = none ∧
    (execute (fun _ _ => .exit 0) { stages := [c], redirection := some r } ctx m).2.files.get?
      ["history"] = some (.file FileSystem.newFileMode []) := by
  intro ctx m c r
  have hbare : ∀ w ∈ c.args, Token.IsBare w := by decide
  have hfirst : c.args.head? ≠ some "-n" := by decide
  have hpath : (ctx.resolvePath r.target).text = "/history" := by decide
  have hplace : m.files.place? "/history" = some ["history"] :=
    FileSystem.place?_of_steps (by decide) (by decide) (by decide) (.same none)
  have hsave : m.files.save "/history" .truncate (encode (History.fileText ctx.history.entries)) =
      (.ok (), m.files.insert ["history"] (.file FileSystem.newFileMode [])) := by
    rw [FileSystem.save, FileSystem.openFile_new hplace rfl]
    rfl
  have hreport : (Builtin.history.report disk c.args ctx m).2.files =
      m.files.insert ["history"] (.file FileSystem.newFileMode []) := by
    have hargs : c.args = ["-w", "history"] := rfl
    have hplain := isPlain_write_of_place hplace .truncate
    rw [hargs, Builtin.report_history_write, hpath, writeFile_eq hplain, History.writeTo_eq, hsave]
  refine ⟨rfl, hbare, hfirst, rfl, hpath, rfl, ?_⟩
  rw [execute_echo_taken _ rfl hbare hfirst rfl, runStages_builtin _ (b := .history) rfl,
    perform_session]
  change (Builtin.history.report disk c.args ctx m).2.files.get? ["history"] = _
  rw [hreport]
  rfl

end Machine

end Shell
