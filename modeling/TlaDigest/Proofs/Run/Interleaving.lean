import TlaDigest.Proofs.Run.Tasks
import TlaDigest.Proofs.Stream.Transcripts

/-!
# Output and error output race

The output and the error output of a process may race. The two tasks of `Proofs/Run/Tasks` share a
transcript, and a schedule says which of them takes the next step (`Race.run`). A schedule may poll
a task that is over, which changes nothing; the run is done when both are over.

Whatever the schedule, nothing is lost, repeated or put out of order: what was written down and what
the tasks still have to write down always make up the lines of both streams, in an order that keeps
the order of each (`Balanced`). A poll keeps this (`balanced_poll`), since a step takes off the fate
of its task what it does. The run is done as soon as each task was polled often enough
(`isDone_of_count`), and `Run.observe`, which reads one stream after the other, is one of the
schedules (`exists_schedule_observe`). The main statement is `race_outcome`.
-/

namespace TlaDigest.Run

open TlaDigest.Stream

variable {σ ω : Type}

/-! ### Interleavings -/

/-- `zs` holds the elements of `xs` and of `ys`, each in its order, and nothing else. -/
inductive Interleaved {α : Type} : List α → List α → List α → Prop where
  | nil : Interleaved [] [] []
  | left {x : α} {xs ys zs : List α} : Interleaved xs ys zs → Interleaved (x :: xs) ys (x :: zs)
  | right {y : α} {xs ys zs : List α} : Interleaved xs ys zs → Interleaved xs (y :: ys) (y :: zs)

theorem Interleaved.mem {α : Type} {xs ys zs : List α} (h : Interleaved xs ys zs) {z : α}
    (hz : z ∈ zs) : z ∈ xs ∨ z ∈ ys := by
  induction h with
  | nil => cases hz
  | left _ ih =>
    rcases List.mem_cons.mp hz with rfl | hz
    · exact .inl List.mem_cons_self
    · exact (ih hz).imp_left (List.mem_cons_of_mem _)
  | right _ ih =>
    rcases List.mem_cons.mp hz with rfl | hz
    · exact .inr List.mem_cons_self
    · exact (ih hz).imp_right (List.mem_cons_of_mem _)

/-! ### Schedules -/

inductive Task where
  | parse
  | forward
deriving DecidableEq, Repr

structure Race (σ ω : Type) where
  parsing : Parsing σ ω
  forwarding : Forwarding
  sink : Transcript
  /-- How often notice was given that the output failed. -/
  aborts : Nat

namespace Race

def start (p : LineParser σ ω) (reads : List Read) (stderr : List UInt8) (before : Transcript) :
    Race σ ω :=
  ⟨.waiting (.start p) reads, .reading stderr, before, 0⟩

/-- Does what a task does in a step; lines are written down under the name of a tool. -/
def perform (r : Race σ ω) (tool : String) : Option Action → Race σ ω
  | none => r
  | some (.print text) => { r with sink := r.sink.line tool text }
  | some .abort => { r with aborts := r.aborts + 1 }

/-- Lets a task take a step. The lines of the output go under the parser's name of the tool, those
    of the error output under `tool`. -/
def poll (p : LineParser σ ω) (tool : String) (r : Race σ ω) : Task → Race σ ω
  | .parse => { r with parsing := (r.parsing.step p).1 }.perform p.tool (r.parsing.step p).2
  | .forward =>
    { r with forwarding := r.forwarding.step.1 }.perform tool (r.forwarding.step.2.map .print)

def run (p : LineParser σ ω) (tool : String) (schedule : List Task) (r : Race σ ω) : Race σ ω :=
  schedule.foldl (fun r task => r.poll p tool task) r

def result? (r : Race σ ω) : Option (Except StreamError ω) :=
  match r.parsing with
  | .finished result => some result
  | _ => none

def isDone (r : Race σ ω) : Bool :=
  match r.parsing, r.forwarding with
  | .finished _, .finished => true
  | _, _ => false

theorem isDone_iff (r : Race σ ω) :
    r.isDone = true ↔ r.parsing.work = 0 ∧ r.forwarding.work = 0 := by
  obtain ⟨parsing, forwarding, sink, aborts⟩ := r
  cases parsing <;> cases forwarding <;> simp [isDone, Parsing.work, Forwarding.work]

/-- What is done in a step is seen in the sink and in the notices only. -/
theorem tasks_perform (r : Race σ ω) (tool : String) (action : Option Action) :
    (r.perform tool action).parsing = r.parsing ∧
      (r.perform tool action).forwarding = r.forwarding := by
  unfold perform
  split <;> constructor <;> rfl

theorem tasks_poll_parse (p : LineParser σ ω) (tool : String) (r : Race σ ω) :
    (r.poll p tool .parse).parsing = (r.parsing.step p).1 ∧
      (r.poll p tool .parse).forwarding = r.forwarding :=
  tasks_perform _ _ _

theorem tasks_poll_forward (p : LineParser σ ω) (tool : String) (r : Race σ ω) :
    (r.poll p tool .forward).parsing = r.parsing ∧
      (r.poll p tool .forward).forwarding = r.forwarding.step.1 :=
  tasks_perform _ _ _

/-! ### Both tasks come to an end -/

/-- Every poll takes off some of the work of its task and none of the other's. -/
theorem work_run (p : LineParser σ ω) (tool : String) (schedule : List Task) (r : Race σ ω) :
    (run p tool schedule r).parsing.work ≤ r.parsing.work - schedule.count .parse ∧
      (run p tool schedule r).forwarding.work ≤ r.forwarding.work - schedule.count .forward := by
  induction schedule generalizing r with
  | nil => exact ⟨le_refl _, le_refl _⟩
  | cons task schedule ih =>
    obtain ⟨hparsing, hforwarding⟩ := ih (r.poll p tool task)
    rw [run, List.foldl_cons, ← run]
    cases task with
    | parse =>
      obtain ⟨hstep, hsame⟩ := tasks_poll_parse p tool r
      have hwork := Parsing.work_step p r.parsing
      rw [hstep] at hparsing
      rw [hsame] at hforwarding
      rw [List.count_cons_self, List.count_cons_of_ne (by decide)]
      exact ⟨by omega, hforwarding⟩
    | forward =>
      obtain ⟨hsame, hstep⟩ := tasks_poll_forward p tool r
      have hwork := Forwarding.work_step r.forwarding
      rw [hsame] at hparsing
      rw [hstep] at hforwarding
      rw [List.count_cons_self, List.count_cons_of_ne (by decide)]
      exact ⟨hparsing, by omega⟩

/-- **A run is done when each task was polled often enough**, in whatever order. -/
theorem isDone_of_count (p : LineParser σ ω) (tool : String) {schedule : List Task} {r : Race σ ω}
    (hparse : r.parsing.work ≤ schedule.count .parse)
    (hforward : r.forwarding.work ≤ schedule.count .forward) :
    (run p tool schedule r).isDone = true := by
  obtain ⟨hparsing, hforwarding⟩ := work_run p tool schedule r
  rw [isDone_iff]
  omega

/-! ### The balance of a run -/

def tagged (tool : String) (lines : List String) : List TranscriptLine :=
  lines.map (TranscriptLine.mk tool)

/-- What was done and what is still to be done make up `all` of the output and the lines `errors` of
    the error output. However the lines that are left are interleaved, behind those written down
    since `before` they give an interleaving of both streams. -/
structure Balanced (p : LineParser σ ω) (tool : String) (before : Transcript) (all : Fate ω)
    (errors : List String) (r : Race σ ω) : Prop where
  result_eq : (r.parsing.fate p).result = all.result
  aborts_eq : r.aborts + (r.parsing.fate p).aborts = all.aborts
  lines_eq : ∃ printed, r.sink.toList = before.toList ++ printed ∧
    ∀ rest, Interleaved (tagged p.tool (r.parsing.fate p).lines) (tagged tool r.forwarding.rest)
        rest →
      Interleaved (tagged p.tool all.lines) (tagged tool errors) (printed ++ rest)

theorem balanced_start (p : LineParser σ ω) (tool : String) (reads : List Read)
    (stderr : List UInt8) (before : Transcript) :
    Balanced p tool before (fateOf p p.start [] reads) (strictLines stderr)
      (start p reads stderr before) := by
  refine ⟨rfl, Nat.zero_add _, [], ?_, ?_⟩
  · exact (List.append_nil _).symm
  · intro rest hrest
    exact hrest

theorem toList_line (t : Transcript) (tool text : String) :
    (t.line tool text).toList = t.toList ++ [⟨tool, text⟩] :=
  Array.toList_push

/-- **A poll keeps the balance.** -/
theorem balanced_poll {p : LineParser σ ω} {tool : String} {before : Transcript} {all : Fate ω}
    {errors : List String} {r : Race σ ω} (h : Balanced p tool before all errors r) (task : Task) :
    Balanced p tool before all errors (r.poll p tool task) := by
  obtain ⟨hresult, haborts, printed, hsink, hlines⟩ := h
  cases task with
  | parse =>
    have hfate := Parsing.fate_step p r.parsing
    rw [hfate] at hresult haborts hlines
    unfold poll
    cases haction : (r.parsing.step p).2 with
    | none =>
      rw [haction] at hresult haborts hlines
      exact ⟨hresult, haborts, printed, hsink, hlines⟩
    | some action =>
      rw [haction] at hresult haborts hlines
      cases action with
      | print text =>
        -- the line moves from what is left to what is printed, so it leads whatever follows
        refine ⟨hresult, haborts, printed ++ [⟨p.tool, text⟩], ?_, ?_⟩
        · simp only [perform, toList_line, hsink, List.append_assoc]
        · intro rest hrest
          have hmore := hlines (⟨p.tool, text⟩ :: rest) (.left hrest)
          rwa [List.append_assoc]
      | abort =>
        refine ⟨hresult, ?_, printed, hsink, hlines⟩
        simp only [Fate.cons, perform] at haborts ⊢
        omega
  | forward =>
    have hrest := Forwarding.rest_step r.forwarding
    rw [hrest] at hlines
    unfold poll
    cases hline : r.forwarding.step.2 with
    | none =>
      rw [hline] at hlines
      exact ⟨hresult, haborts, printed, hsink, hlines⟩
    | some text =>
      rw [hline] at hlines
      refine ⟨hresult, haborts, printed ++ [⟨tool, text⟩], ?_, ?_⟩
      · simp only [Option.map_some, perform, toList_line, hsink, List.append_assoc]
      · intro rest hrest
        have hmore := hlines (⟨tool, text⟩ :: rest) (.right hrest)
        rwa [List.append_assoc]

theorem balanced_run {p : LineParser σ ω} {tool : String} {before : Transcript} {all : Fate ω}
    {errors : List String} {r : Race σ ω} (h : Balanced p tool before all errors r)
    (schedule : List Task) : Balanced p tool before all errors (run p tool schedule r) := by
  induction schedule generalizing r with
  | nil => exact h
  | cons task schedule ih => exact ih (balanced_poll h task)

theorem Balanced.of_isDone {p : LineParser σ ω} {tool : String} {before : Transcript}
    {all : Fate ω} {errors : List String} {r : Race σ ω}
    (h : Balanced p tool before all errors r) (hdone : r.isDone = true) :
    r.result? = some all.result ∧ r.aborts = all.aborts ∧
      ∃ printed, r.sink.toList = before.toList ++ printed ∧
        Interleaved (tagged p.tool all.lines) (tagged tool errors) printed := by
  obtain ⟨hresult, haborts, printed, hsink, hlines⟩ := h
  obtain ⟨hparsing, hforwarding⟩ := (isDone_iff r).mp hdone
  have hfinished := Parsing.eq_finished_of_work p hparsing
  have hrest := Forwarding.eq_finished_of_work hforwarding
  rw [hfinished] at hresult haborts hlines
  rw [hrest] at hlines
  refine ⟨?_, haborts, printed, hsink, ?_⟩
  · rw [result?, hfinished]
    exact congrArg some hresult
  · -- nothing is left on either side, so nothing follows what was printed
    have hall := hlines [] .nil
    rwa [List.append_nil] at hall

/-! ### One task after the other -/

/-- The parsing task alone does what its fate says. -/
theorem run_replicate_parse (p : LineParser σ ω) (tool : String) {n : Nat} {r : Race σ ω}
    (hn : r.parsing.work ≤ n) :
    run p tool (List.replicate n .parse) r =
      ⟨.finished (r.parsing.fate p).result, r.forwarding,
        r.sink.addLines p.tool (r.parsing.fate p).lines, r.aborts + (r.parsing.fate p).aborts⟩ := by
  induction n generalizing r with
  | zero =>
    have hfinished := Parsing.eq_finished_of_work p (Nat.le_zero.mp hn)
    obtain ⟨parsing, forwarding, sink, aborts⟩ := r
    simp only at hfinished ⊢
    rw [hfinished]
    rfl
  | succ n ih =>
    obtain ⟨hstep, hsame⟩ := tasks_poll_parse p tool r
    have hwork := Parsing.work_step p r.parsing
    have hnext : (r.poll p tool .parse).parsing.work ≤ n := by
      rw [hstep]
      omega
    have hfate := Parsing.fate_step p r.parsing
    rw [List.replicate_succ, run, List.foldl_cons, ← run, ih hnext, hstep, hsame, hfate]
    unfold poll
    cases (r.parsing.step p).2 with
    | none => rfl
    | some action =>
      cases action with
      | print text => rfl
      | abort =>
        simp only [Fate.cons, perform]
        congr 1
        omega

theorem run_replicate_forward (p : LineParser σ ω) (tool : String) {n : Nat} {r : Race σ ω}
    (hn : r.forwarding.work ≤ n) :
    run p tool (List.replicate n .forward) r =
      ⟨r.parsing, .finished, r.sink.addLines tool r.forwarding.rest, r.aborts⟩ := by
  induction n generalizing r with
  | zero =>
    have hfinished := Forwarding.eq_finished_of_work (Nat.le_zero.mp hn)
    obtain ⟨parsing, forwarding, sink, aborts⟩ := r
    simp only at hfinished ⊢
    rw [hfinished]
    rfl
  | succ n ih =>
    obtain ⟨hsame, hstep⟩ := tasks_poll_forward p tool r
    have hwork := Forwarding.work_step r.forwarding
    have hnext : (r.poll p tool .forward).forwarding.work ≤ n := by
      rw [hstep]
      omega
    rw [List.replicate_succ, run, List.foldl_cons, ← run, ih hnext, hstep, hsame,
      Forwarding.rest_step r.forwarding]
    unfold poll
    cases r.forwarding.step.2 with
    | none => rfl
    | some text => rfl

end Race

/-! ### What is observed -/

/-- The fate of a whole pass: the lines that the parser is given, notice of a failure if there is
    one, and what reading returns. -/
theorem fateOf_start (p : LineParser σ ω) (reads : List Read) :
    fateOf p p.start [] reads =
      ⟨dispatched reads, (match readAll p reads with | .ok _ => 0 | .error _ => 1),
        readAll p reads⟩ := by
  rw [readAll_eq]
  unfold fateOf dispatched
  rw [List.nil_append]
  cases fault? reads with
  | none => rfl
  | some cause => rfl

/-- What is observed of a process that is read one stream after the other. -/
theorem observe_eq (p : LineParser σ ω) (tool : String) (reads : List Read) (stderr : List UInt8)
    (before : Transcript) :
    observe p tool reads stderr before =
      (readAll p reads,
        (before.addLines p.tool (dispatched reads)).addLines tool (strictLines stderr)) := by
  obtain ⟨hreceived, hfault⟩ := received_fault?_cutReads reads
  rw [observe, readToEnd_eq, hreceived, hfault, readAll_eq, dispatched]
  -- a clean end takes the open line too; a fault leaves it out of the transcript and the parse
  cases fault? reads with
  | none =>
    simp only [parse_tee]
    rfl
  | some cause =>
    simp only [after_tee]
    rfl

theorem exists_schedule_observe (p : LineParser σ ω) (tool : String) (reads : List Read)
    (stderr : List UInt8) (before : Transcript) :
    ∃ schedule,
      let final := Race.run p tool schedule (.start p reads stderr before)
      final.isDone = true ∧ final.result? = some (observe p tool reads stderr before).1 ∧
        final.sink = (observe p tool reads stderr before).2 := by
  let r := Race.start p reads stderr before
  refine ⟨List.replicate r.parsing.work .parse ++ List.replicate r.forwarding.work .forward, ?_⟩
  have hfate : r.parsing.fate p = fateOf p p.start [] reads := rfl
  have hparse := Race.run_replicate_parse p tool (r := r) (le_refl _)
  have hforward := Race.run_replicate_forward p tool
    (r := ⟨.finished (r.parsing.fate p).result, r.forwarding,
      r.sink.addLines p.tool (r.parsing.fate p).lines, r.aborts + (r.parsing.fate p).aborts⟩)
    (le_refl _)
  rw [Race.run, List.foldl_append, ← Race.run, ← Race.run, hparse, hforward, observe_eq]
  simp only [hfate, fateOf_start]
  exact ⟨rfl, rfl, rfl⟩

/-! ### Names of tools -/

theorem tool_of_commandFor {settings : Settings} {tool : Tool} {module : Path} {command : Command}
    (h : commandFor settings tool module = .ok command) : command.tool = tool := by
  unfold commandFor at h
  split at h
  · split at h
    · next made hmade =>
      cases h
      unfold Settings.command at hmade
      cases hlauncher : settings.launcher tool with
      | error cause =>
        rw [hlauncher] at hmade
        cases hmade
      | ok launcher =>
        rw [hlauncher] at hmade
        cases hmade
        rfl
    · cases h
  · cases h

/-- **The output and the error output may race.** Every schedule that brings both tasks to their end
    returns what reading the output alone gives, writes down an interleaving of the lines that the
    parser was given and of the lines of the error output up to the first that is no text, and gives
    notice of a failure once if the output failed and never otherwise. Every schedule that polls
    both tasks often enough brings them to their end, and reading one stream after the other is one
    of them. The commands for the two tools carry the names that their parsers have, so all lines of
    such a run go under one name. -/
theorem race_outcome (p : LineParser σ ω) (tool : String) (reads : List Read)
    (stderr : List UInt8) (before : Transcript) :
    (∀ schedule,
        let final := Race.run p tool schedule (.start p reads stderr before)
        final.isDone = true →
        final.result? = some (readAll p reads) ∧
          (∃ printed, final.sink.toList = before.toList ++ printed ∧
            Interleaved ((dispatched reads).map (TranscriptLine.mk p.tool))
              ((strictLines stderr).map (TranscriptLine.mk tool)) printed ∧
            (p.tool = tool → ∀ line ∈ printed, line.tool = tool)) ∧
          final.aborts = match readAll p reads with
            | .ok _ => 0
            | .error _ => 1) ∧
      (∃ n, ∀ schedule, n ≤ schedule.count .parse → n ≤ schedule.count .forward →
        (Race.run p tool schedule (.start p reads stderr before)).isDone = true) ∧
      (∃ schedule,
        let final := Race.run p tool schedule (.start p reads stderr before)
        final.isDone = true ∧ final.result? = some (observe p tool reads stderr before).1 ∧
          final.sink = (observe p tool reads stderr before).2) ∧
      ∀ settings module command,
        (commandFor settings .transpiler module = .ok command →
          (Transpiler.parser module).tool = command.tool.name) ∧
        (commandFor settings .analyzer module = .ok command →
          (Analyzer.parser settings.analyzer.extended).tool = command.tool.name) := by
  refine ⟨?_, ?_, ?_, ?_⟩
  · intro schedule final hdone
    have hbalanced := Race.balanced_run (Race.balanced_start p tool reads stderr before) schedule
    obtain ⟨hresult, haborts, printed, hsink, hmix⟩ := hbalanced.of_isDone hdone
    rw [fateOf_start] at hresult haborts hmix
    refine ⟨hresult, ⟨printed, hsink, hmix, ?_⟩, haborts⟩
    intro hname line hline
    rcases hmix.mem hline with hmem | hmem
    · obtain ⟨text, -, rfl⟩ := List.mem_map.mp hmem
      exact hname
    · obtain ⟨text, -, rfl⟩ := List.mem_map.mp hmem
      rfl
  · let r := Race.start p reads stderr before
    refine ⟨max r.parsing.work r.forwarding.work, ?_⟩
    intro schedule hparse hforward
    exact Race.isDone_of_count p tool ((Nat.le_max_left _ _).trans hparse)
      ((Nat.le_max_right _ _).trans hforward)
  · exact exists_schedule_observe p tool reads stderr before
  · intro settings module command
    constructor
    · intro hcommand
      rw [tool_of_commandFor hcommand]
      rfl
    · intro hcommand
      rw [tool_of_commandFor hcommand]
      rfl

/-- An output that fails in its second line and an error output whose second line is no text, under
    a schedule that turns from one to the other. The analyzer writes both down under its name. -/
theorem race_outcome_of_failing_output :
    let settings : Settings := { Settings.defaults with jar := some ⟨"t.jar"⟩ }
    let command : Command := ⟨.analyzer, "java", ["-cp", "t.jar", "tla2sany.SANY", "A.tla"]⟩
    let p := Analyzer.parser settings.analyzer.extended
    let reads : List Read := [.block [0x61, 0x0A, 0x62], .fault ⟨.other, "gone"⟩]
    let stderr : List UInt8 := [0x78, 0x0A, 0xFF, 0x0A, 0x79]
    let final := Race.run p command.tool.name
      [.parse, .forward, .parse, .parse, .forward, .parse] (.start p reads stderr .empty)
    commandFor settings .analyzer ⟨"A.tla"⟩ = .ok command ∧ final.isDone = true ∧
      final.result? = some (readAll p reads) ∧
      (∃ printed, final.sink.toList = printed ∧
        Interleaved ((dispatched reads).map (TranscriptLine.mk p.tool))
          ((strictLines stderr).map (TranscriptLine.mk command.tool.name)) printed ∧
        ∀ line ∈ printed, line.tool = command.tool.name) ∧
      final.aborts = 1 := by
  intro settings command p reads stderr final
  obtain ⟨houtcome, -, -, hnames⟩ := race_outcome p command.tool.name reads stderr .empty
  have hcommand : commandFor settings .analyzer ⟨"A.tla"⟩ = .ok command := by decide +kernel
  have hdone : final.isDone = true := by decide +kernel
  have hfailed : readAll p reads = .error (.fault p.tool ⟨.other, "gone"⟩) := by decide +kernel
  obtain ⟨hresult, ⟨printed, hsink, hmix, htools⟩, haborts⟩ := houtcome _ hdone
  rw [hfailed] at haborts
  exact ⟨hcommand, hdone, hresult,
    ⟨printed, hsink, hmix, htools ((hnames settings _ command).2 hcommand)⟩, haborts⟩

end TlaDigest.Run
