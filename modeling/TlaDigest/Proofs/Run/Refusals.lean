import TlaDigest.Proofs.Run.Interleaving

/-!
# Refused runs

A run is refused when the file is no module, or the settings do not say how to start a tool. A tool
is started only when its command is known, so a refused run of one tool leaves the session as it
was: nothing was started and nothing was printed (`session_attempt`).

When both tools are run, the command of the analyzer is looked for after the transpiler has run. If
the settings are good for the transpiler and not for the analyzer, the run is refused late
(`RefusedLate`), and what the transpiler did stays. `refused_before_start` says that this is the
only way in which a refused run leaves a trace, and that it does happen.
-/

namespace TlaDigest

/-- The file or the settings are to blame, and not a process. -/
def ToolError.isRefusal : ToolError → Bool
  | .notModule _ => true
  | .unset _ => true
  | .launch _ _ => false
  | .uncaptured _ => false
  | .stream _ => false
  | .wait _ _ => false

namespace Run

variable {σ ω : Type}

/-! ### One tool -/

def attempt (host : Host) (found : Except ToolError Command) (p : LineParser σ ω) (s : Session) :
    Except ToolError (ToolRun ω) × Session :=
  match found with
  | .error cause => (.error cause, s)
  | .ok command => run host command p s

theorem transpile_eq_attempt (host : Host) (settings : Settings) (module : Path) (s : Session) :
    transpile host settings module s =
      attempt host (commandFor settings .transpiler module) (Transpiler.parser module) s := rfl

theorem analyze_eq_attempt (host : Host) (settings : Settings) (module : Path) (s : Session) :
    analyze host settings module s =
      attempt host (commandFor settings .analyzer module)
        (Analyzer.parser settings.analyzer.extended) s := rfl

/-- **What a process that was started comes to**: its output was not captured, or reading it fails, or
    it is read to its end; only then it counts whether it is known how the process ended. -/
theorem follow_cases (tool : String) (process : Process) (p : LineParser σ ω)
    (before : Transcript) :
    (process.stdout = none ∧ follow tool process p before = (.error (.uncaptured tool), before)) ∨
      ∃ stdout, process.stdout = some stdout ∧
        (follow tool process p before).2 = (observe p tool stdout process.stderr before).2 ∧
        (follow tool process p before).1 =
          match Stream.readAll p stdout, process.exit with
          | .error cause, _ => .error (.stream cause)
          | .ok _, .error cause => .error (.wait tool cause)
          | .ok output, .ok exit => .ok ⟨output, exit⟩ := by
  unfold follow
  cases process.stdout with
  | none => exact .inl ⟨rfl, rfl⟩
  | some stdout =>
    refine .inr ⟨stdout, rfl, ?_⟩
    simp only [observe_eq]
    cases Stream.readAll p stdout with
    | error cause => exact ⟨rfl, rfl⟩
    | ok output =>
      cases process.exit with
      | error cause => exact ⟨rfl, rfl⟩
      | ok exit => exact ⟨rfl, rfl⟩

/-- A process that was started is never refused. -/
theorem isRefusal_of_follow {tool : String} {process : Process} {p : LineParser σ ω}
    {before : Transcript} {cause : ToolError}
    (h : (follow tool process p before).1 = .error cause) : cause.isRefusal = false := by
  rcases follow_cases tool process p before with ⟨-, hfollow⟩ | ⟨stdout, -, -, hfollow⟩
  · rw [hfollow] at h
    cases h
    rfl
  · rw [hfollow] at h
    split at h
    · cases h
      rfl
    · cases h
      rfl
    · cases h

/-- What a run can come to: the command cannot be started, or its process is followed. Only in the
    first case nothing is started. -/
theorem run_cases (host : Host) (command : Command) (p : LineParser σ ω) (s : Session) :
    (∃ cause, run host command p s = (.error (.launch command.program cause), s)) ∨
      ∃ process, run host command p s =
        ((follow command.tool.name process p s.transcript).1,
          ⟨s.started ++ [command], (follow command.tool.name process p s.transcript).2⟩) := by
  unfold run
  cases host.launch command with
  | error cause => exact .inl ⟨cause, rfl⟩
  | ok process => exact .inr ⟨process, rfl⟩

/-- A command that was found is never refused. -/
theorem isRefusal_of_run {host : Host} {command : Command} {p : LineParser σ ω} {s : Session}
    {cause : ToolError} (h : (run host command p s).1 = .error cause) :
    cause.isRefusal = false := by
  rcases run_cases host command p s with ⟨why, hrun⟩ | ⟨process, hrun⟩
  · rw [hrun] at h
    cases h
    rfl
  · rw [hrun] at h
    exact isRefusal_of_follow h

/-- A run that is refused found no command. -/
theorem found_of_refused {host : Host} {found : Except ToolError Command} {p : LineParser σ ω}
    {s : Session} {cause : ToolError} (h : (attempt host found p s).1 = .error cause)
    (hcause : cause.isRefusal = true) : found = .error cause := by
  cases found with
  | error why =>
    cases h
    rfl
  | ok command =>
    rw [isRefusal_of_run h] at hcause
    cases hcause

/-- A refused run of one tool leaves no trace. -/
theorem session_attempt {host : Host} {found : Except ToolError Command} {p : LineParser σ ω}
    {s : Session} {cause : ToolError} (h : (attempt host found p s).1 = .error cause)
    (hcause : cause.isRefusal = true) : (attempt host found p s).2 = s := by
  rw [found_of_refused h hcause]
  rfl

/-! ### Finding the command -/

theorem commandFor_of_notModule {module : Path} (h : isModule module = false) (settings : Settings)
    (tool : Tool) : commandFor settings tool module = .error (.notModule module) := by
  rw [commandFor, if_neg (by simp [h])]

/-- Whether a command is found for a module is a matter of the settings. -/
theorem commandFor_of_isModule {module : Path} (h : isModule module = true) (settings : Settings)
    (tool : Tool) :
    commandFor settings tool module = (settings.command tool module).mapError .unset := by
  rw [commandFor, if_pos h]
  cases settings.command tool module with
  | ok command => rfl
  | error cause => rfl

theorem command_eq_error_iff {settings : Settings} {tool : Tool} {module : Path}
    {cause : Settings.Unset} :
    settings.command tool module = .error cause ↔ settings.launcher tool = .error cause := by
  unfold Settings.command
  cases settings.launcher tool with
  | ok launcher => simp [Except.map]
  | error why => simp [Except.map]

/-- For a module, the settings are to blame when no command is found. -/
theorem unset_of_commandFor {settings : Settings} {tool : Tool} {module : Path} {cause : ToolError}
    (hmodule : isModule module = true) (h : commandFor settings tool module = .error cause) :
    ∃ why, cause = .unset why ∧ settings.launcher tool = .error why := by
  rw [commandFor_of_isModule hmodule] at h
  cases hcommand : settings.command tool module with
  | ok command =>
    rw [hcommand] at h
    cases h
  | error why =>
    rw [hcommand] at h
    cases h
    exact ⟨why, rfl, command_eq_error_iff.mp hcommand⟩

/-! ### Both tools -/

/-- The settings are good for the transpiler, which ran and left the session at `s'`; they are not
    good for the analyzer. -/
structure RefusedLate (host : Host) (settings : Settings) (module : Path) (s s' : Session)
    (cause : Settings.Unset) : Prop where
  isModule : isModule module = true
  unset : settings.launcher .analyzer = .error cause
  transpiled : ∃ result, transpile host settings module s = (.ok result, s')
  /-- The transpiler is all that was started. -/
  started : ∃ command, settings.command .transpiler module = .ok command ∧
    s'.started = s.started ++ [command]

/-- A transpiler that ran to its end is all that was started. -/
theorem started_of_transpiled {host : Host} {settings : Settings} {module : Path} {s s' : Session}
    {result : ToolRun Findings} (h : transpile host settings module s = (.ok result, s')) :
    isModule module = true ∧ ∃ command, settings.command .transpiler module = .ok command ∧
      s'.started = s.started ++ [command] := by
  rw [transpile_eq_attempt] at h
  cases hmodule : isModule module with
  | false =>
    rw [commandFor_of_notModule hmodule] at h
    cases h
  | true =>
    rw [commandFor_of_isModule hmodule] at h
    cases hcommand : settings.command .transpiler module with
    | error cause =>
      rw [hcommand] at h
      cases h
    | ok command =>
      rw [hcommand] at h
      refine ⟨rfl, command, rfl, ?_⟩
      have hrun : run host command (Transpiler.parser module) s = (.ok result, s') := h
      rcases run_cases host command (Transpiler.parser module) s with ⟨why, hwhy⟩ | ⟨process, hwhy⟩
      · rw [hwhy] at hrun
        cases hrun
      · rw [← (Prod.mk.inj (hwhy.symm.trans hrun)).2]

/-- Where both tools are run, the first of them is refused at once and the second one late. -/
theorem parseModule_refused {host : Host} {settings : Settings} {module : Path} {s : Session}
    {cause : ToolError} (h : (parseModule host settings module s).1 = .error cause)
    (hcause : cause.isRefusal = true) :
    (parseModule host settings module s).2 = s ∨
      ∃ why, cause = .unset why ∧
        RefusedLate host settings module s (parseModule host settings module s).2 why := by
  unfold parseModule at h ⊢
  rcases htranspile : transpile host settings module s with ⟨_ | result, s'⟩
  · simp only [htranspile] at h ⊢
    cases h
    have hrefused : (transpile host settings module s).1 = .error cause := by rw [htranspile]
    have hsession := session_attempt hrefused hcause
    rw [← transpile_eq_attempt, htranspile] at hsession
    exact .inl hsession
  · simp only [htranspile] at h ⊢
    obtain ⟨hmodule, hstarted⟩ := started_of_transpiled htranspile
    rcases hanalyze : analyze host settings module s' with ⟨_ | analyzed, s''⟩
    · simp only [hanalyze] at h ⊢
      cases h
      have hrefused : (analyze host settings module s').1 = .error cause := by rw [hanalyze]
      -- the analyzer itself left no trace, so all there is comes from the transpiler
      obtain rfl : s'' = s' := by
        have hsession := session_attempt hrefused hcause
        rwa [← analyze_eq_attempt, hanalyze] at hsession
      obtain ⟨why, rfl, hunset⟩ :=
        unset_of_commandFor hmodule (found_of_refused hrefused hcause)
      exact .inr ⟨why, rfl, hmodule, hunset, ⟨result, htranspile⟩, hstarted⟩
    · simp only [hanalyze] at h
      cases h

/-- A late refusal is what running both tools comes to. -/
theorem RefusedLate.parseModule_eq {host : Host} {settings : Settings} {module : Path}
    {s s' : Session} {cause : Settings.Unset}
    (h : RefusedLate host settings module s s' cause) :
    parseModule host settings module s = (.error (.unset cause), s') := by
  obtain ⟨result, htranspile⟩ := h.transpiled
  have hanalyze : analyze host settings module s' = (.error (.unset cause), s') := by
    rw [analyze_eq_attempt, commandFor_of_isModule h.isModule, command_eq_error_iff.mpr h.unset]
    rfl
  simp only [parseModule, htranspile, hanalyze]

/-- **Refused runs leave no trace, unless the analyzer is refused after the transpiler.** When a
    file is no module or the settings are not good for a tool, a run of that tool has started
    nothing and printed nothing. The same goes for both tools, with one exception, which is exact:
    the settings are good for the transpiler, it ran to its end, and they are not good for the
    analyzer. The session is then as the transpiler left it. -/
theorem refused_before_start (host : Host) (settings : Settings) (module : Path) (s : Session)
    {cause : ToolError} (hcause : cause.isRefusal = true) :
    ((transpile host settings module s).1 = .error cause →
        (transpile host settings module s).2 = s) ∧
      ((analyze host settings module s).1 = .error cause →
        (analyze host settings module s).2 = s) ∧
      ((parseModule host settings module s).1 = .error cause →
        (parseModule host settings module s).2 = s ∨
          ∃ why, cause = .unset why ∧
            RefusedLate host settings module s (parseModule host settings module s).2 why) ∧
      ∀ s' why, RefusedLate host settings module s s' why →
        parseModule host settings module s = (.error (.unset why), s') ∧ s' ≠ s := by
  refine ⟨fun h => session_attempt h hcause, fun h => session_attempt h hcause,
    fun h => parseModule_refused h hcause, ?_⟩
  intro s' why hlate
  refine ⟨hlate.parseModule_eq, ?_⟩
  rintro rfl
  obtain ⟨command, -, hstarted⟩ := hlate.started
  exact absurd hstarted (by simp)

/-- The transpiler has a command of its own, the analyzer would need the jar, and there is none: the
    run is refused when the transpiler was started and has printed a line. -/
theorem refused_after_transpiling :
    let host : Host := ⟨fun _ => .ok ⟨some [.block [0x6F, 0x6B, 0x0A]], [], .ok (.ofCode 0)⟩⟩
    let settings : Settings :=
      { Settings.defaults with transpiler := ⟨["-nocfg"], some ["sh", "-c", "echo ok"]⟩ }
    let outcome := parseModule host settings ⟨"Queue.tla"⟩ .empty
    outcome.1 = .error (.unset .missingJar) ∧
      outcome.2.started = [⟨.transpiler, "sh", ["-c", "echo ok", "-nocfg", "Queue.tla"]⟩] ∧
      outcome.2.transcript.toList = [⟨Transpiler.tool, "ok"⟩] := by
  decide +kernel

/-- Without a jar each tool is refused at once by the defaults; with a command of its own for the
    transpiler, both together are refused late. -/
theorem refused_before_start_of_missing_jar :
    let host : Host := ⟨fun _ => .ok ⟨some [], [], .ok (.ofCode 0)⟩⟩
    let settings : Settings := { Settings.defaults with transpiler := ⟨[], some ["pcal"]⟩ }
    let module : Path := ⟨"Queue.tla"⟩
    let cause : ToolError := .unset .missingJar
    cause.isRefusal = true ∧
      (transpile host .defaults module .empty).1 = .error cause ∧
      (transpile host .defaults module .empty).2 = .empty ∧
      (analyze host settings module .empty).1 = .error cause ∧
      (analyze host settings module .empty).2 = .empty ∧
      (parseModule host settings module .empty).1 = .error cause ∧
      RefusedLate host settings module .empty (parseModule host settings module .empty).2
        .missingJar := by
  intro host settings module cause
  have hcause : cause.isRefusal = true := rfl
  have htranspile : (transpile host .defaults module .empty).1 = .error cause := by decide +kernel
  have hanalyze : (analyze host settings module .empty).1 = .error cause := by decide +kernel
  have hparse : (parseModule host settings module .empty).1 = .error cause := by decide +kernel
  obtain ⟨hone, -, -, -⟩ := refused_before_start host .defaults module .empty hcause
  obtain ⟨-, hother, hboth, -⟩ := refused_before_start host settings module .empty hcause
  refine ⟨hcause, htranspile, hone htranspile, hanalyze, hother hanalyze, hparse, ?_⟩
  rcases hboth hparse with hsession | ⟨why, hwhy, hlate⟩
  · have hstarted : (parseModule host settings module .empty).2.started ≠ [] := by decide +kernel
    rw [hsession] at hstarted
    exact absurd rfl hstarted
  · obtain rfl : Settings.Unset.missingJar = why := ToolError.unset.inj hwhy
    exact hlate

end Run

end TlaDigest
