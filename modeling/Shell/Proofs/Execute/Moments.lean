import Shell.Proofs.Execute.Refusal

/-!
# When stages are run

Executing a pipeline runs stages at most twice: those of the pipeline, and after them the command
that takes their words. Each time is a moment, with the stages, the context and the machine that
they find. What holds of running stages at every moment holds of executing the pipeline; in
particular nothing else about the way to run stages makes a difference (`Machine.executeBy_congr`).
-/

namespace Shell

/-- Stages that are run, and what they find. -/
structure Moment where
  stages : List Command
  context : Context
  machine : Machine

namespace Machine

/-- Stages that are redirected to no pipe write to none. -/
lemma redirected_whole {sink : Sink} (hsink : ∀ id, sink ≠ .pipe id) (stream : OutputStream) :
    Streams.Whole ⟨.session, (redirected stream sink).1, (redirected stream sink).2⟩ := by
  cases stream with
  | stdout => exact ⟨hsink, by simp [redirected]⟩
  | stderr => exact ⟨by simp [redirected], hsink⟩

/-! ### The moments of a pipeline -/

section

variable (run : StageRunner)

/-- Stages whose words are captured, before they are run. -/
def capturing (stages : List Command) (ctx : Context) (m : Machine) : Moment :=
  ⟨stages, ctx, { m with capture := [] }⟩

/-- What stages leave whose words are captured. -/
def captured (stages : List Command) (stream : OutputStream) (ctx : Context) (m : Machine) :
    (Except Error Nat × Context) × Machine :=
  let sinks := redirected stream .capture
  run stages sinks.1 sinks.2 ctx (capturing stages ctx m).machine

/-- The command that takes the words of stages, before it is run. -/
def taking (stages : List Command) (stream : OutputStream) (target : Command) (ctx : Context)
    (m : Machine) : Moment :=
  let left := captured run stages stream ctx m
  ⟨[{ target with args := words (decodeLossy left.2.capture) }], left.1.2,
    { left.2 with capture := m.capture }⟩

/-- The moments of stages whose words go to `target`, which is run unless they failed. -/
def momentsInto (stages : List Command) (stream : OutputStream) (target : Command) (ctx : Context)
    (m : Machine) : List Moment :=
  capturing stages ctx m ::
    match (captured run stages stream ctx m).1.1 with
    | .error _ => []
    | .ok _ => [taking run stages stream target ctx m]

/-- The moments of stages one of whose streams goes to a file, which has to be opened first. -/
def momentsToFile (stages : List Command) (r : Redirection) (ctx : Context) (m : Machine) :
    List Moment :=
  match m.files.openFile [] (ctx.resolvePath r.target).text (.write r.mode) with
  | .error _ => []
  | .ok opened => [⟨stages, ctx, { m with files := opened.2 }⟩]

/-- The moments at which executing a pipeline runs stages. -/
def moments (p : Pipeline) (ctx : Context) (m : Machine) : List Moment :=
  if p.isNoop then []
  else match p.stages.find? fun c => !c.runnable with
    | some _ => []
    | none =>
      match p.redirection with
      | none => [⟨p.stages, ctx, m⟩]
      | some r =>
        let target := ctx.resolve m.files r.target
        if target.runnable then momentsInto run p.stages r.stream target ctx m
        else momentsToFile p.stages r ctx m

/-- The course that executing a pipeline takes. It is settled before any stage is run, so that only
the moments depend on the way to run stages. -/
inductive Course (p : Pipeline) (ctx : Context) (m : Machine) : Prop
  | idle (moments : moments run p ctx m = [])
      (result : ∀ run', executeBy run' p ctx m = ((.ok 0, ctx), m))
  | unknown (c : Command) (find : p.stages.find? (fun c => !c.runnable) = some c)
      (moments : moments run p ctx m = [])
      (result : ∀ run', executeBy run' p ctx m =
        ((.error (.commandNotFound c.displayName), ctx), m))
  | unopened (name path : String) (cause : IoError) (moments : moments run p ctx m = [])
      (result : ∀ run', executeBy run' p ctx m = ((.error (.redirection name path cause), ctx), m))
  | once (m' : Machine) (output errors : Sink) (runnable : ∀ c ∈ p.stages, c.runnable = true)
      (moments : moments run p ctx m = [⟨p.stages, ctx, m'⟩])
      (result : ∀ run', executeBy run' p ctx m = run' p.stages output errors ctx m')
  | into (stream : OutputStream) (name : String) (runnable : ∀ c ∈ p.stages, c.runnable = true)
      (target : (ctx.resolve m.files name).runnable = true)
      (moments : moments run p ctx m =
        momentsInto run p.stages stream (ctx.resolve m.files name) ctx m)
      (result : ∀ run', executeBy run' p ctx m =
        runIntoBy run' p.stages stream (ctx.resolve m.files name) ctx m)

lemma course (p : Pipeline) (ctx : Context) (m : Machine) : Course run p ctx m := by
  by_cases hnoop : p.isNoop = true
  · exact .idle (by simp [moments, hnoop]) (by simp [executeBy, hnoop])
  cases hfind : p.stages.find? fun c => !c.runnable with
  | some c =>
    exact .unknown c hfind (by simp [moments, hnoop, hfind]) (by simp [executeBy, hnoop, hfind])
  | none =>
    have hrunnable : ∀ c ∈ p.stages, c.runnable = true := by simpa using hfind
    cases hr : p.redirection with
    | none =>
      refine .once m .sessionOut .sessionErr hrunnable ?_ ?_
      · simp [moments, hnoop, hfind, hr]
      · simp [executeBy, hnoop, hfind, hr]
    | some r =>
      by_cases htarget : (ctx.resolve m.files r.target).runnable = true
      · refine .into r.stream r.target hrunnable htarget ?_ ?_
        · simp [moments, hnoop, hfind, hr, htarget]
        · simp [executeBy, hnoop, hfind, hr, htarget]
      · cases hopen : m.files.openFile [] (ctx.resolvePath r.target).text (.write r.mode) with
        | error cause =>
          refine .unopened (lastName p.stages) (ctx.resolvePath r.target).text cause ?_ ?_
          · simp [moments, hnoop, hfind, hr, htarget, momentsToFile, hopen]
          · simp [executeBy, hnoop, hfind, hr, htarget, runToFileBy, hopen]
        | ok opened =>
          let sinks := redirected r.stream (.file opened.1 r.mode)
          refine .once { m with files := opened.2 } sinks.1 sinks.2 hrunnable ?_ ?_
          · simp [moments, hnoop, hfind, hr, htarget, momentsToFile, hopen]
          · simp [executeBy, hnoop, hfind, hr, htarget, runToFileBy, hopen, sinks]

end

/-! ### From moments to the whole -/

variable {run run' : StageRunner} {stages : List Command} {stream : OutputStream} {target : Command}
  {p : Pipeline} {ctx : Context} {m : Machine}

lemma runIntoBy_eq :
    runIntoBy run stages stream target ctx m =
      match (captured run stages stream ctx m).1.1 with
      | .error e => ((.error e, (captured run stages stream ctx m).1.2),
          { (captured run stages stream ctx m).2 with capture := m.capture })
      | .ok _ =>
        let x := taking run stages stream target ctx m
        run x.stages .sessionOut .sessionErr x.context x.machine := rfl

lemma capturing_mem : capturing stages ctx m ∈ momentsInto run stages stream target ctx m :=
  List.mem_cons_self

lemma taking_mem {status : Nat} (h : (captured run stages stream ctx m).1.1 = .ok status) :
    taking run stages stream target ctx m ∈ momentsInto run stages stream target ctx m := by
  simp [momentsInto, h]

/-- Executing a pipeline depends on the way to run stages only at its moments. -/
theorem executeBy_congr
    (h : ∀ x ∈ moments run p ctx m, ∀ output errors,
      run' x.stages output errors x.context x.machine =
        run x.stages output errors x.context x.machine) :
    executeBy run' p ctx m = executeBy run p ctx m := by
  cases course run p ctx m with
  | idle _ hresult => rw [hresult, hresult]
  | unknown _ _ _ hresult => rw [hresult, hresult]
  | unopened _ _ _ _ hresult => rw [hresult, hresult]
  | once m' output errors _ hmoments hresult =>
    rw [hmoments] at h
    rw [hresult, hresult]
    exact h _ List.mem_cons_self output errors
  | into stream name _ _ hmoments hresult =>
    rw [hmoments] at h
    rw [hresult, hresult, runIntoBy_eq, runIntoBy_eq]
    have hleft : captured run' p.stages stream ctx m = captured run p.stages stream ctx m :=
      h _ capturing_mem _ _
    rw [taking, taking, hleft]
    cases hok : (captured run p.stages stream ctx m).1.1 with
    | error e => rfl
    | ok status => exact h _ (taking_mem hok) .sessionOut .sessionErr

/-- What the moments of a pipeline do to the context one after the other, the pipeline does. -/
theorem executeBy_context {R : Context → Context → Prop} (refl : ∀ ctx, R ctx ctx)
    (trans : ∀ ctx ctx' ctx'', R ctx ctx' → R ctx' ctx'' → R ctx ctx'')
    (h : ∀ x ∈ moments run p ctx m, ∀ output errors,
      R x.context (run x.stages output errors x.context x.machine).1.2) :
    R ctx (executeBy run p ctx m).1.2 := by
  cases course run p ctx m with
  | idle _ hresult => rw [hresult]; exact refl ctx
  | unknown _ _ _ hresult => rw [hresult]; exact refl ctx
  | unopened _ _ _ _ hresult => rw [hresult]; exact refl ctx
  | once m' output errors _ hmoments hresult =>
    rw [hmoments] at h
    rw [hresult]
    exact h _ List.mem_cons_self output errors
  | into stream name _ _ hmoments hresult =>
    rw [hmoments] at h
    rw [hresult, runIntoBy_eq]
    have hleft : R ctx (captured run p.stages stream ctx m).1.2 := h _ capturing_mem _ _
    cases hok : (captured run p.stages stream ctx m).1.1 with
    | error e => exact hleft
    | ok status => exact trans _ _ _ hleft (h _ (taking_mem hok) .sessionOut .sessionErr)

/-- If all stages of a pipeline can be run, it fails with what the moments fail with, or because the
file of its redirection cannot be opened. -/
theorem executeBy_failsWith {P : Error → Prop}
    (hrunnable : ∀ c ∈ p.stages, c.runnable = true)
    (hredirection : ∀ name path cause, P (.redirection name path cause))
    (h : ∀ x ∈ moments run p ctx m, ∀ output errors,
      FailsWith P (run x.stages output errors x.context x.machine).1.1) :
    FailsWith P (executeBy run p ctx m).1.1 := by
  cases course run p ctx m with
  | idle _ hresult => rw [hresult]; exact failsWith_ok P 0
  | unknown c hfind =>
    have hc : c.runnable = false := by simpa using List.find?_some hfind
    rw [hrunnable c (List.mem_of_find?_eq_some hfind)] at hc
    cases hc
  | unopened name path cause _ hresult =>
    rw [hresult]
    exact failsWith_error.mpr (hredirection name path cause)
  | once m' output errors _ hmoments hresult =>
    rw [hmoments] at h
    rw [hresult]
    exact h _ List.mem_cons_self output errors
  | into stream name _ _ hmoments hresult =>
    rw [hmoments] at h
    rw [hresult, runIntoBy_eq]
    cases hok : (captured run p.stages stream ctx m).1.1 with
    | error e => exact failsWith_error.mpr (h _ capturing_mem _ _ e hok)
    | ok status => exact h _ (taking_mem hok) .sessionOut .sessionErr

/-- Only stages are run that were found. -/
theorem found_of_moments (hfound : ∀ c ∈ p.stages, c.runnable = true → c.Found) {x : Moment}
    (hx : x ∈ moments run p ctx m) {c : Command} (hc : c ∈ x.stages) :
    c.Found ∧ c.runnable = true := by
  cases course run p ctx m with
  | idle hmoments => simp [hmoments] at hx
  | unknown _ _ hmoments => simp [hmoments] at hx
  | unopened _ _ _ hmoments => simp [hmoments] at hx
  | once m' _ _ hrunnable hmoments =>
    obtain rfl : x = ⟨p.stages, ctx, m'⟩ := by simpa [hmoments] using hx
    exact ⟨hfound c hc (hrunnable c hc), hrunnable c hc⟩
  | into stream name hrunnable htarget hmoments =>
    rw [hmoments] at hx
    rcases List.mem_cons.mp hx with rfl | hx
    · exact ⟨hfound c hc (hrunnable c hc), hrunnable c hc⟩
    · split at hx
      · cases hx
      · obtain rfl := List.mem_singleton.mp hx
        obtain rfl := List.mem_singleton.mp hc
        exact ⟨Context.found_resolve _ htarget, htarget⟩

end Machine
end Shell
