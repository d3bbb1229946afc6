import Shell.Machine.Host
import Shell.Proofs.Builtin.Desk
import Shell.Proofs.FileSystem.Elsewhere

/-!
# Builtins on the machine

What a builtin can do to the machine: it changes files and the streams of the session, and nothing
else unless it writes to a pipe or a buffer (`Machine.Outside.perform`). It first does what it
reports, and then its texts are written (`Machine.perform_eq`), as long as it does not write to a
pipe, where it matters in how many pieces that is done.
-/

namespace Shell

/-- No text goes to a pipe, where it matters in how many pieces it is written. -/
structure Streams.Whole (streams : Streams) : Prop where
  output : ∀ id, streams.output ≠ .pipe id
  errors : ∀ id, streams.errors ≠ .pipe id

lemma Streams.Whole.pick {streams : Streams} (h : streams.Whole) (stream : OutputStream) :
    ∀ id, stream.pick streams.output streams.errors ≠ .pipe id := by
  cases stream with
  | stdout => exact h.output
  | stderr => exact h.errors

lemma Streams.whole_session : Streams.Whole ⟨.session, .sessionOut, .sessionErr⟩ :=
  ⟨by simp, by simp⟩

namespace Machine

variable {m : Machine}

/-! ### Writing in pieces -/

lemma write_nil (m : Machine) (sink : Sink) (written : Nat) : m.write sink [] written = .ok m := by
  simp [write]

/-- Bytes that go to a file behind others. -/
lemma writeAt_append {fs : FileSystem} {f : OpenFile} {mode : WriteMode} {bytes more : Bytes}
    (hbytes : bytes ≠ []) (hmore : more ≠ []) (written : Nat) :
    (fs.writeAt f (FileSystem.nextOffset written mode) (bytes ++ more)).map Prod.fst =
      (fs.writeAt f (FileSystem.nextOffset written mode) bytes).bind fun after =>
        (after.1.writeAt f (FileSystem.nextOffset (written + bytes.length) mode) more).map
          Prod.fst := by
  have hempty : ∀ {bytes : Bytes}, bytes ≠ [] → bytes.isEmpty = false := by simp
  have hboth : bytes ++ more ≠ [] := by simp [hbytes]
  simp only [FileSystem.writeAt, hempty hbytes, hempty hmore, hempty hboth, Bool.false_eq_true,
    if_false]
  cases f with
  | directory l => rfl
  | device d => cases d <;> simp [Except.map, Except.bind]
  | file l =>
    cases hget : fs.get? l with
    | none => simp [hget, Except.map, Except.bind]
    | some e =>
      cases e with
      | file bits content =>
        have hl : l ≠ [] := by
          rintro rfl
          cases hget
        have hafter : ∀ content, (fs.insert l (.file bits content)).get? l =
            some (.file bits content) := fun content => FileSystem.get?_insert_self _ _ _ hl
        cases mode with
        | truncate =>
          simp [FileSystem.nextOffset, Except.map, Except.bind, hget, hafter, overlay_overlay]
        | append =>
          have hend := overlay_length (content ++ bytes) more
          rw [List.length_append] at hend
          simp [FileSystem.nextOffset, Except.map, Except.bind, hget, hafter, hend]
      | _ => simp [hget, Except.map, Except.bind]

/-- A file that leads to the output of the session. -/
lemma write_of_output {f : OpenFile} (h : m.channel f = .output) (mode : WriteMode) (bytes : Bytes)
    (written : Nat) : m.write (.file f mode) bytes written = m.write .sessionOut bytes := by
  simp only [write, h]

/-- A file that leads to the error stream of the session. -/
lemma write_of_errors {f : OpenFile} (h : m.channel f = .errors) (mode : WriteMode) (bytes : Bytes)
    (written : Nat) : m.write (.file f mode) bytes written = m.write .sessionErr bytes := by
  simp only [write, h]

/-- A file that leads to the input of the session, behind which the bytes come. -/
lemma write_of_input {f : OpenFile} (h : m.channel f = .input) (mode : WriteMode) {bytes : Bytes}
    (hbytes : bytes ≠ []) (written : Nat) :
    m.write (.file f mode) bytes written = .ok { m with session := m.session.writeIn bytes } := by
  simp [write, h, hbytes]

/-- Any other file is written itself. -/
lemma write_of_ne {f : OpenFile} (hinput : m.channel f ≠ .input) (houtput : m.channel f ≠ .output)
    (herrors : m.channel f ≠ .errors) (mode : WriteMode) {bytes : Bytes} (hbytes : bytes ≠ [])
    (written : Nat) :
    m.write (.file f mode) bytes written =
      ((m.files.writeAt f (FileSystem.nextOffset written mode) bytes).map Prod.fst).map
        fun files => { m with files } := by
  have hempty : bytes.isEmpty = false := by simpa using hbytes
  rw [write, hempty]
  simp only [Bool.false_eq_true, if_false]
  cases hchannel : m.channel f with
  | input => exact absurd hchannel hinput
  | output => exact absurd hchannel houtput
  | errors => exact absurd hchannel herrors
  | _ => cases m.files.writeAt f (FileSystem.nextOffset written mode) bytes <;> rfl

/-- What goes to a sink that is no pipe may go there in pieces. -/
lemma write_append {sink : Sink} (hsink : ∀ id, sink ≠ .pipe id) (m : Machine) (bytes more : Bytes)
    (written : Nat) : m.write sink (bytes ++ more) written =
      (m.write sink bytes written).bind fun m => m.write sink more (written + bytes.length) := by
  by_cases hbytes : bytes = []
  · simp [hbytes, write_nil, Except.bind]
  by_cases hmore : more = []
  · cases hwrite : m.write sink bytes written <;> simp [hmore, write_nil, Except.bind, hwrite]
  have hboth : bytes ++ more ≠ [] := by simp [hbytes]
  have hsession : ∀ m : Machine, m.write .sessionOut (bytes ++ more) =
      (m.write .sessionOut bytes).bind fun m => m.write .sessionOut more := by
    intro m
    simp [write, hbytes, hmore, Except.bind, Session.writeOut, SharedOutput.write]
  have hcomplaint : ∀ m : Machine, m.write .sessionErr (bytes ++ more) =
      (m.write .sessionErr bytes).bind fun m => m.write .sessionErr more := by
    intro m
    simp [write, hbytes, hmore, Except.bind, Session.writeErr, SharedOutput.write]
  cases sink with
  | pipe id => exact absurd rfl (hsink id)
  | sessionOut => exact hsession m
  | sessionErr => exact hcomplaint m
  | capture | closed => simp [write, hbytes, hmore, Except.bind]
  | file f mode =>
    by_cases houtput : m.channel f = .output
    · have hafter : ({ m with session := m.session.writeOut bytes } : Machine).channel f =
          .output := houtput
      rw [write_of_output houtput, write_of_output houtput, hsession]
      simp only [write, List.isEmpty_iff, hbytes, hmore, if_false, Except.bind, hafter]
    by_cases herrors : m.channel f = .errors
    · have hafter : ({ m with session := m.session.writeErr bytes } : Machine).channel f =
          .errors := herrors
      rw [write_of_errors herrors, write_of_errors herrors, hcomplaint]
      simp only [write, List.isEmpty_iff, hbytes, hmore, if_false, Except.bind, hafter]
    by_cases hinput : m.channel f = .input
    · have hafter : ({ m with session := m.session.writeIn bytes } : Machine).channel f =
          .input := hinput
      rw [write_of_input hinput mode hboth, write_of_input hinput mode hbytes, Except.bind,
        write_of_input hafter mode hmore]
      simp [Session.writeIn, SharedInput.push]
    rw [write_of_ne hinput houtput herrors mode hboth,
      write_of_ne hinput houtput herrors mode hbytes, writeAt_append hbytes hmore]
    cases m.files.writeAt f (FileSystem.nextOffset written mode) bytes with
    | error e => rfl
    | ok after =>
      have hafter := write_of_ne (m := { m with files := after.1 }) hinput houtput herrors mode
        hmore (written + bytes.length)
      simp only [Except.bind, Except.map] at hafter ⊢
      rw [hafter]

/-- Whether a file can be written to depends on nothing but the file. -/
lemma writeAt_error {fs fs' : FileSystem} {f : OpenFile} {offset offset' : Option Nat}
    {bytes more : Bytes} {cause : IoError} (h : fs.writeAt f offset bytes = .error cause)
    (hmore : more ≠ []) : fs'.writeAt f offset' more = .error cause := by
  have hempty : more.isEmpty = false := by simpa using hmore
  unfold FileSystem.writeAt at h
  split at h
  · cases h
  simp only [FileSystem.writeAt, hempty, Bool.false_eq_true, if_false]
  cases f with
  | directory l => exact h
  | device d => cases d <;> first | exact h | cases h
  | file l =>
    dsimp only at h
    split at h <;> cases h

/-- A sink that refuses something refuses all, whatever has become of the files meanwhile. -/
lemma write_error {m m' : Machine} (hkind : m'.session.kind = m.session.kind) {sink : Sink}
    {bytes more : Bytes} {written written' : Nat} {e : IoError}
    (h : m.write sink bytes written = .error e) (hmore : more ≠ []) :
    m'.write sink more written' = .error e := by
  have hbytes : bytes ≠ [] := by
    rintro rfl
    rw [write_nil] at h
    cases h
  cases sink with
  | closed =>
    simp only [write, List.isEmpty_iff, hbytes, if_false] at h
    simpa [write, hmore] using h
  | file f mode =>
    have hchannel : m'.channel f = m.channel f := by simp only [channel, hkind]
    by_cases houtput : m.channel f = .output
    · rw [write_of_output houtput] at h
      simp [write, hbytes] at h
    by_cases herrors : m.channel f = .errors
    · rw [write_of_errors herrors] at h
      simp [write, hbytes] at h
    by_cases hinput : m.channel f = .input
    · rw [write_of_input hinput mode hbytes] at h
      cases h
    rw [write_of_ne hinput houtput herrors mode hbytes] at h
    rw [write_of_ne (hchannel ▸ hinput) (hchannel ▸ houtput) (hchannel ▸ herrors) mode hmore]
    cases hcause : m.files.writeAt f (FileSystem.nextOffset written mode) bytes with
    | ok after =>
      rw [hcause] at h
      cases h
    | error cause =>
      rw [hcause] at h
      rw [writeAt_error hcause hmore]
      exact h
  | _ => simp [write, hbytes] at h

lemma kind_write {m m' : Machine} {sink : Sink} {bytes : Bytes} {written : Nat}
    (h : m.write sink bytes written = .ok m') : m'.session.kind = m.session.kind := by
  unfold write at h
  repeat' split at h
  all_goals cases h <;> rfl

/-! ### The desk -/

lemma isExecutable_writeAt {fs written : FileSystem} {f : OpenFile} {offset : Option Nat}
    {bytes : Bytes} {after : Nat} (h : fs.writeAt f offset bytes = .ok (written, after)) :
    written.isExecutable = fs.isExecutable := by
  unfold FileSystem.writeAt at h
  split at h
  · cases h
    rfl
  split at h
  · cases h
  · cases h
    rfl
  · cases h
  · rename_i l
    split at h
    · rename_i mode content hget
      have hl : l ≠ [] := by
        rintro rfl
        cases hget
      cases h
      let content' := overlay content (offset.getD content.length) bytes
      have hagree : fs.AgreeExcept l (some (.file mode content)) (some (.file mode content'))
          (fs.insert l (.file mode content')) :=
        ⟨fun k hk => FileSystem.get?_insert_of_ne _ _ hk, hget,
          FileSystem.get?_insert_self _ _ _ hl⟩
      exact hagree.isExecutable (.written _ _ _)
    · cases h
      rfl

lemma isExecutable_write {m m' : Machine} {sink : Sink} {bytes : Bytes} {written : Nat}
    (h : m.write sink bytes written = .ok m') :
    m'.files.isExecutable = m.files.isExecutable := by
  by_cases hbytes : bytes = []
  · rw [hbytes, write_nil] at h
    cases h
    rfl
  have hempty : bytes.isEmpty = false := by simpa using hbytes
  simp only [write, hempty, Bool.false_eq_true, if_false] at h
  cases sink with
  | file f mode =>
    dsimp only at h
    split at h
    · cases h
      rfl
    · cases h
      rfl
    · cases h
      rfl
    · split at h
      · rename_i hwrite
        cases h
        exact isExecutable_writeAt hwrite
      · cases h
  | closed => cases h
  | _ =>
    cases h
    rfl

lemma desk_lawful {streams : Streams} (h : streams.Whole) : (desk streams).Lawful where
  print_empty stream := by
    funext w
    simp only [desk, encode_empty, write_nil, List.length_nil, ite_self, Nat.add_zero]
    rfl
  print_append stream text more := by
    funext w
    rw [bind_apply]
    simp only [desk, encode_append, write_append (h.pick stream)]
    cases hfirst : w.machine.write (stream.pick streams.output streams.errors) (encode text)
      (w.written stream) with
    | error e => rfl
    | ok m =>
      simp only [Except.bind, if_true]
      cases hsecond : m.write (stream.pick streams.output streams.errors) (encode more)
        (w.written stream + (encode text).length) with
      | error e =>
        -- so the first piece would have been refused as well, and there was none
        have hmissing : encode text = [] := by
          refine Decidable.byContradiction fun hne => ?_
          rw [write_error (kind_write hfirst).symm hsecond hne] at hfirst
          cases hfirst
        rw [hmissing, write_nil] at hfirst
        cases hfirst
        simp only [hmissing, List.length_nil, ite_self, Nat.add_zero]
      | ok m =>
        refine Prod.ext rfl (congrArg (Bench.mk m) (funext fun other => ?_))
        by_cases hother : other = stream <;> simp [hother, Nat.add_assoc]
  executable stream text w := by
    simp only [desk]
    cases hwrite : w.machine.write (stream.pick streams.output streams.errors) (encode text)
      (w.written stream) with
    | error e => rfl
    | ok m => exact isExecutable_write hwrite

/-- A builtin in place does what it reports, and then its texts are written. -/
theorem perform_eq (b : Builtin) (c : Command) {streams : Streams} (h : streams.Whole)
    (ctx : Context) (m : Machine) :
    m.perform b c streams ctx =
      let reported := b.report disk c.args ctx m
      let r := reported.1
      match r.result with
      | .error failure => ((b.outcome (.error failure), r.context), reported.2)
      | .ok status =>
        match reported.2.write streams.output (encode r.stdout) with
        | .error e => ((b.outcome (.error (.output e)), r.context), reported.2)
        | .ok m =>
          match m.write streams.errors (encode r.stderr) with
          | .error e => ((b.outcome (.error (.output e)), r.context), m)
          | .ok m => ((.ok status, r.context), m) := by
  rw [perform, Desk.execute_eq_report (desk_lawful h) (p := Bench.part) rfl, bind_apply,
    Part.lift_apply]
  simp only [Bench.part]
  generalize b.report disk c.args ctx m = reported
  obtain ⟨r, m'⟩ := reported
  simp only [Desk.deliver]
  cases r.result with
  | error failure => rfl
  | ok status =>
    dsimp only
    rw [bind_apply]
    simp only [desk, OutputStream.pick]
    cases m'.write streams.output (encode r.stdout) with
    | error e => rfl
    | ok m =>
      simp only [Desk.conclude, bind_apply]
      have hnone : (if OutputStream.stderr = .stdout then (encode r.stdout).length else 0) = 0 :=
        if_neg (by decide)
      simp only [hnone]
      cases m.write streams.errors (encode r.stderr) <;> rfl

/-- A worker whose text goes to a pipe does what it reports, and then a process writes the text. -/
lemma work_pipe (b : Builtin) (c : Command) {streams : Streams} {id : Nat}
    (h : streams.output = .pipe id) (ctx : Context) (m : Machine) :
    m.work b c streams ctx =
      let reported := b.report disk c.args ctx m
      let r := reported.1
      match r.result with
      | .error failure => (.done (b.outcome (.error failure)), reported.2)
      | .ok status =>
        let todo := (writer (encode r.stdout) (encode r.stderr) status).toProc
        let launched := reported.2.launch { streams with input := untaken streams.input } [] todo
          [pipeSignal]
        (.writing launched.1, launched.2) := by
  rw [work, h]
  rfl

/-- Any other worker does as the shell itself. -/
lemma work_of_ne (b : Builtin) (c : Command) {streams : Streams}
    (h : ∀ id, streams.output ≠ .pipe id) (ctx : Context) (m : Machine) :
    m.work b c streams ctx =
      (.done (m.perform b c streams ctx).1.1, (m.perform b c streams ctx).2) := by
  unfold work
  split
  · exact absurd ‹_› (h _)
  · rfl

section

variable {P : Machine → Prop} (b : Builtin) (c : Command) {streams : Streams} (ctx : Context)
  (m : Machine) (hreport : P (b.report disk c.args ctx m).2)
include hreport

/-- What holds after a builtin did what it reports, and still after anything was written to its
sinks, holds after it was carried out. -/
lemma perform_after (h : streams.Whole)
    (hwrite : ∀ (stream : OutputStream) bytes m m', P m →
      m.write (stream.pick streams.output streams.errors) bytes = .ok m' → P m') :
    P (m.perform b c streams ctx).2 := by
  rw [perform_eq b c h]
  dsimp only
  split
  · exact hreport
  split
  · exact hreport
  rename_i hout
  have hwritten := hwrite .stdout _ _ _ hreport hout
  split
  · exact hwritten
  · rename_i herr
    exact hwrite .stderr _ _ _ hwritten herr

/-- A worker either does what it reports and leaves its text to a process, or is carried out. -/
lemma work_after
    (hlaunch : ∀ id todo, streams.output = .pipe id →
      P ((b.report disk c.args ctx m).2.launch { streams with input := untaken streams.input } []
        todo [pipeSignal]).2)
    (hperform : (∀ id, streams.output ≠ .pipe id) → P (m.perform b c streams ctx).2) :
    P (m.work b c streams ctx).2 := by
  by_cases houtput : ∃ id, streams.output = .pipe id
  · obtain ⟨id, houtput⟩ := houtput
    rw [work_pipe b c houtput]
    dsimp only
    split
    · exact hreport
    · exact hlaunch id _ houtput
  · have hne : ∀ id, streams.output ≠ .pipe id := fun id hid => houtput ⟨id, hid⟩
    rw [work_of_ne b c hne]
    exact hperform hne

end

/-- A stage that a builtin carries out is given to a worker. -/
lemma launch_builtin (programs : Programs) {c : Command} {b : Builtin} (hc : c.builtin = true)
    (hb : Builtin.ofName? c.displayName = some b) (ctx : Context) (streams : Streams)
    (m : Machine) :
    (host programs).launch ctx c streams m =
      (.ok (.worker (m.work b c streams ctx.detach).1), (m.work b c streams ctx.detach).2) := by
  simp only [Host.launch, hc, hb, if_true]
  rfl

/-! ### What is left alone -/

/-- Something that holds of the machine whatever its files, streams and pipes hold. -/
structure Outside (P : Machine → Prop) : Prop where
  files : ∀ m files, P m → P { m with files }
  session : ∀ m session, P m → P { m with session }
  capture : ∀ m capture, P m → P { m with capture }
  pipes : ∀ m pipes, P m → P { m with pipes }

namespace Outside

variable {P : Machine → Prop} (h : Outside P)
include h

lemma write {m m' : Machine} {sink : Sink} {bytes : Bytes} {written : Nat}
    (hwrite : m.write sink bytes written = .ok m') (hm : P m) : P m' := by
  unfold Machine.write at hwrite
  repeat' split at hwrite
  all_goals cases hwrite
  · exact hm
  · exact h.session _ _ hm
  · exact h.session _ _ hm
  · exact h.pipes _ _ hm
  · exact h.capture _ _ hm
  · exact h.session _ _ hm
  · exact h.session _ _ hm
  · exact h.session _ _ hm
  · exact h.files _ _ hm

lemma readAll {m : Machine} (f : OpenFile) (hm : P m) : P (m.readAll f).2 := by
  unfold Machine.readAll
  split
  · exact h.session _ _ hm
  · exact hm
  · exact hm
  · exact hm

lemma disk : disk.Preserves P where
  read path m hm := by
    simp only [Machine.disk]
    split
    · exact hm
    · exact h.readAll _ hm
  save path mode bytes m hm := by
    simp only [Machine.disk]
    split
    · exact hm
    · split
      · exact h.files _ _ hm
      · rename_i hwrite
        exact h.write hwrite (h.files _ _ hm)

lemma desk (streams : Streams) : (desk streams).Preserves fun w => P w.machine where
  read path w hw := h.disk.read path w.machine hw
  save path mode bytes w hw := h.disk.save path mode bytes w.machine hw
  print stream text w hw := by
    simp only [Machine.desk]
    split
    · exact hw
    · rename_i hwrite
      exact h.write hwrite hw

/-- A builtin leaves alone whatever has nothing to do with files, streams and pipes. -/
theorem perform (b : Builtin) (c : Command) (streams : Streams) (ctx : Context) {m : Machine}
    (hm : P m) : P (m.perform b c streams ctx).2 :=
  (h.desk streams).execute b c.args ctx hm

end Outside

end Machine

end Shell
