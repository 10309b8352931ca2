import Mathlib.Data.List.Induction
import TlaDigest.Analyzer
import TlaDigest.Proofs.Catalog

/-!
# Banners

What the banners of an analyzer run settle. The last banner governs the lines after it, and the
files that the banners name are the ones that headers refer to. Both can be read off the lines
before (`governing?`, `parsedFiles`), and the parser's state agrees with them after every line: this
is the invariant `Reads`, kept by one line (`reads_feed`) and so by any number of them
(`reads_foldl`).

Most lines are not banners, and these leave the phase and the files alone; `frame_feed` says so once
for all of them.
-/

namespace TlaDigest

def Line.banner? : Line → Option Section
  | .banner sec => some sec
  | _ => none

def Section.file? : Section → Option Path
  | .parsing file => file
  | _ => none

/-! ### Tables -/

/-- A value that was entered is found under its key; the other keys are as before. -/
theorem Catalog.get?_put {κ ν : Type} [BEq κ] [LawfulBEq κ] (k other : κ) (v : ν)
    (table : Catalog κ ν) :
    get? (fun a b => a == b) other (put (fun a b => a == b) k v table) =
      if k == other then some v else get? (fun a b => a == b) other table :=
  get?_alter keyTest_beq other k (fun _ => v) table

namespace Analyzer

/-! ### Reading the lines before -/

def banners (lines : List String) : List Section :=
  lines.filterMap fun line => (Line.classify line).banner?

/-- The section that governs what comes after some lines: that of the last banner. -/
def governing? (before : List String) : Option Section := (banners before).getLast?

def parsedFiles (before : List String) : List Path := (banners before).filterMap Section.file?

/-- The file that a header is about, given the files named before it. The input is the last of them.
    A module is the last one with its name, or else the file of that name beside the last one. -/
def fileOf (files : List Path) : Target → Path
  | .path path => if path.text = "-" then files.getLast?.getD path else path
  | .module name =>
    match (files.filter fun file => file.stem? = some name).getLast? with
    | some file => file
    | none =>
      match files.getLast? with
      | some last => last.sibling (name ++ ".tla")
      | none => ⟨name ++ ".tla"⟩

/-- The phase under a governing section; without one it is that after a closing banner. -/
def phaseUnder (sec : Option Section) : Phase := (sec.map Phase.ofSection).getD .idle

def enterFile (table : Catalog String Path) (file : Path) : Catalog String Path :=
  match file.stem? with
  | some name => Catalog.put (fun a b => a == b) name file table
  | none => table

def moduleTable (files : List Path) : Catalog String Path := files.foldl enterFile []

@[simp] theorem moduleTable_concat (files : List Path) (file : Path) :
    moduleTable (files ++ [file]) = enterFile (moduleTable files) file :=
  List.foldl_append

@[simp] theorem banners_append (before more : List String) :
    banners (before ++ more) = banners before ++ banners more :=
  List.filterMap_append

/-- The last banner governs, and those before it do where there is no other. -/
@[simp] theorem governing?_append (before more : List String) :
    governing? (before ++ more) = (governing? more).or (governing? before) := by
  rw [governing?, banners_append, List.getLast?_append]
  rfl

@[simp] theorem parsedFiles_append (before more : List String) :
    parsedFiles (before ++ more) = parsedFiles before ++ parsedFiles more := by
  rw [parsedFiles, banners_append, List.filterMap_append]
  rfl

@[simp] theorem banners_singleton (line : String) :
    banners [line] = (Line.classify line).banner?.toList := by
  unfold banners
  cases h : (Line.classify line).banner? <;> simp [h]

@[simp] theorem governing?_singleton (line : String) :
    governing? [line] = (Line.classify line).banner? := by
  rw [governing?, banners_singleton]
  cases (Line.classify line).banner? <;> rfl

theorem phaseUnder_eq_obligations_iff (sec : Option Section) :
    phaseUnder sec = .obligations ↔ sec = some .obligations := by
  cases sec with
  | none => simp [phaseUnder]
  | some sec => cases sec <;> simp [phaseUnder, Phase.ofSection]

/-- A module is found under the last file that has its name. -/
theorem get?_moduleTable (files : List Path) (name : String) :
    Catalog.get? (fun a b => a == b) name (moduleTable files) =
      (files.filter fun file => file.stem? = some name).getLast? := by
  -- from the last file on: it decides when it has the name, and leaves the table's answer otherwise
  induction files using List.reverseRecOn with
  | nil => rfl
  | append_singleton files file ih =>
    rw [moduleTable_concat, List.filter_append]
    unfold enterFile
    cases hstem : file.stem? with
    | none => simp [hstem, ih]
    | some stem =>
      simp only [Catalog.get?_put]
      by_cases heq : stem = name
      · simp [heq, hstem]
      · simp [heq, hstem, ih]

/-! ### What one line changes -/

/-- Closing an obligation touches nothing but the obligations. -/
theorem close_eq (s : State) (counts : Tally) :
    s.close counts =
      { s with
        current := none
        output := { s.output with
          obligations := s.output.obligations ++
            (s.current.map fun o => ⟨o.obligation, counts⟩).toList } } := by
  obtain ⟨phase, draft, current, lastParsed, output⟩ := s
  cases current with
  | none => simp [State.close]
  | some o => rfl

/-- What does not depend on the lines since the last banner: the phase and the files. -/
def State.frame (s : State) : Phase × Option Path × Catalog String Path :=
  (s.phase, s.lastParsed, s.output.modules)

@[simp] theorem frame_close (s : State) (counts : Tally) : (s.close counts).frame = s.frame := by
  rw [close_eq]
  rfl

@[simp] theorem frame_addText (s : State) (extended : Bool) (text : String) :
    (s.addText extended text).frame = s.frame := by
  unfold State.addText
  split
  · split <;> rfl
  · rfl

@[simp]
theorem frame_takeStatus (s : State) (status : Status) : (s.takeStatus status).frame = s.frame := by
  cases status with
  | obligation role span status normalized => exact frame_close s .zero
  | prover name method status reason => rfl
  | tally counts => exact frame_close s counts

/-- **Only a banner changes the phase and the files.** -/
theorem frame_feed (extended : Bool) (s : State) {line : String}
    (h : (Line.classify line).banner? = none) : (feed extended s line).frame = s.frame := by
  unfold feed
  cases hline : Line.classify line with
  | banner sec => simp [hline, Line.banner?] at h
  | header header =>
    simp only
    split
    · exact frame_addText s extended line
    · rfl
  | status status =>
    simp only
    split
    · split
      · exact frame_takeStatus s status
      · rfl
    · exact frame_addText s extended line
  | message text => exact frame_addText s extended text
  | unrecognized text => exact frame_addText s extended text

/-- Entering a file adds it to the table. -/
theorem modules_parsed {s : State} {files : List Path} (h : s.output.modules = moduleTable files)
    (file : Path) : (s.parsed file).output.modules = moduleTable (files ++ [file]) :=
  calc (s.parsed file).output.modules
      = enterFile s.output.modules file := rfl
    _ = enterFile (moduleTable files) file := by rw [h]
    _ = moduleTable (files ++ [file]) := (moduleTable_concat files file).symm

/-- A banner sets the phase, and enters its file when it names one. -/
theorem frame_enter {s : State} {files : List Path} (sec : Section)
    (hlast : s.lastParsed = files.getLast?) (hmodules : s.output.modules = moduleTable files) :
    (s.enter sec).frame =
      (.ofSection sec, (files ++ sec.file?.toList).getLast?,
        moduleTable (files ++ sec.file?.toList)) := by
  have hframe : (s.settle.close .zero).frame = s.frame := frame_close s.settle .zero
  obtain ⟨-, hlast', hmodules'⟩ : _ ∧ _ ∧ _ := by simpa [State.frame] using hframe
  cases hfile : sec.file? with
  | some file =>
    have hsec : sec = .parsing (some file) := by
      cases sec <;> simp_all [Section.file?]
    subst hsec
    refine Prod.ext rfl (Prod.ext ?_ ?_)
    · exact List.getLast?_concat.symm
    · exact modules_parsed (hmodules'.trans hmodules) file
  | none =>
    have hkept : (s.enter sec).lastParsed = s.lastParsed ∧
        (s.enter sec).output.modules = s.output.modules := by
      unfold State.enter
      split
      · simp [Section.file?] at hfile
      · exact ⟨hlast', hmodules'⟩
    rw [Option.toList_none, List.append_nil, ← hlast, ← hmodules, ← hkept.1, ← hkept.2]
    rfl

/-! ### The invariant -/

/-- What a state knows of the lines before it. A draft is open only outside the obligation report,
    and an obligation only inside it. -/
structure Reads (before : List String) (s : State) : Prop where
  phase_eq : s.phase = phaseUnder (governing? before)
  lastParsed_eq : s.lastParsed = (parsedFiles before).getLast?
  modules_eq : s.output.modules = moduleTable (parsedFiles before)
  draft_eq : s.phase = .obligations → s.draft = none
  current_eq : s.phase ≠ .obligations → s.current = none

theorem reads_initial : Reads [] .initial := ⟨rfl, rfl, rfl, fun _ => rfl, fun _ => rfl⟩

/-- A banner settles the draft and closes the obligation. -/
theorem draft_current_enter (s : State) (sec : Section) :
    (s.enter sec).draft = none ∧ (s.enter sec).current = none := by
  have hclose : (s.settle.close .zero).draft = none ∧ (s.settle.close .zero).current = none := by
    rw [close_eq]
    exact ⟨rfl, rfl⟩
  unfold State.enter
  split
  · exact hclose
  · exact hclose

/-- In the obligation report no line opens a draft. -/
theorem draft_feed_of_obligations (extended : Bool) {s : State} (hphase : s.phase = .obligations)
    (hdraft : s.draft = none) (line : String) : (feed extended s line).draft = none := by
  have htext : ∀ text, (s.addText extended text).draft = none := by
    intro text
    unfold State.addText
    rw [if_pos hphase]
    split <;> exact hdraft
  unfold feed
  cases Line.classify line with
  | banner sec => exact (draft_current_enter s sec).1
  | header header =>
    simp only [if_pos hphase]
    exact htext line
  | status status =>
    simp only [if_pos hphase]
    split
    · cases status with
      | prover name method status reason => exact hdraft
      | obligation role span status normalized =>
        simp only [State.takeStatus, close_eq]
        exact hdraft
      | tally counts =>
        simp only [State.takeStatus, close_eq]
        exact hdraft
    · exact hdraft
  | message text => exact htext text
  | unrecognized text => exact htext text

/-- Outside the obligation report no line opens an obligation. -/
theorem current_feed_of_outside (extended : Bool) {s : State} (hphase : s.phase ≠ .obligations)
    (hcurrent : s.current = none) (line : String) : (feed extended s line).current = none := by
  have htext : ∀ text, (s.addText extended text).current = none := by
    intro text
    unfold State.addText
    rw [if_neg hphase]
    exact hcurrent
  unfold feed
  cases Line.classify line with
  | banner sec => exact (draft_current_enter s sec).2
  | header header =>
    simp only [if_neg hphase]
    exact hcurrent
  | status status =>
    simp only [if_neg hphase]
    exact htext line
  | message text => exact htext text
  | unrecognized text => exact htext text

/-- **One line keeps the invariant.** -/
theorem reads_feed (extended : Bool) {before : List String} {s : State} (h : Reads before s)
    (line : String) : Reads (before ++ [line]) (feed extended s line) := by
  cases hbanner : (Line.classify line).banner? with
  | some sec =>
    have hline : Line.classify line = .banner sec := by
      cases hkind : Line.classify line <;> simp_all [Line.banner?]
    have hfeed : feed extended s line = s.enter sec := by simp [feed, hline]
    have hframe := frame_enter sec h.lastParsed_eq h.modules_eq
    simp only [State.frame, Prod.mk.injEq] at hframe
    obtain ⟨hphase, hlast, hmodules⟩ := hframe
    have hgov : governing? (before ++ [line]) = some sec := by
      rw [governing?_append, governing?_singleton, hbanner]
      rfl
    have hfiles : parsedFiles (before ++ [line]) = parsedFiles before ++ sec.file?.toList := by
      rw [parsedFiles_append, parsedFiles, parsedFiles, banners_singleton, hbanner]
      cases hfile : sec.file? <;> simp [hfile]
    rw [hfeed]
    obtain ⟨hdraft, hcurrent⟩ := draft_current_enter s sec
    refine ⟨?_, ?_, ?_, fun _ => hdraft, fun _ => hcurrent⟩
    · rw [hphase, hgov]
      rfl
    · rw [hlast, hfiles]
    · rw [hmodules, hfiles]
  | none =>
    have hframe := frame_feed extended s hbanner
    simp only [State.frame, Prod.mk.injEq] at hframe
    obtain ⟨hphase, hlast, hmodules⟩ := hframe
    have hgov : governing? (before ++ [line]) = governing? before := by
      rw [governing?_append, governing?_singleton, hbanner]
      rfl
    have hfiles : parsedFiles (before ++ [line]) = parsedFiles before := by
      rw [parsedFiles_append, parsedFiles, parsedFiles, banners_singleton, hbanner]
      simp
    refine ⟨?_, ?_, ?_, ?_, ?_⟩
    · rw [hphase, hgov, h.phase_eq]
    · rw [hlast, hfiles, h.lastParsed_eq]
    · rw [hmodules, hfiles, h.modules_eq]
    · intro hnow
      have hbefore : s.phase = .obligations := hphase.symm.trans hnow
      exact draft_feed_of_obligations extended hbefore (h.draft_eq hbefore) line
    · intro hnow
      have hbefore : s.phase ≠ .obligations := fun heq => hnow (hphase.trans heq)
      exact current_feed_of_outside extended hbefore (h.current_eq hbefore) line

theorem reads_foldl (extended : Bool) {before : List String} {s : State} (h : Reads before s)
    (rest : List String) : Reads (before ++ rest) (rest.foldl (feed extended) s) := by
  induction rest generalizing before s with
  | nil => simpa using h
  | cons line rest ih =>
    have hnext := ih (reads_feed extended h line)
    rwa [List.append_assoc] at hnext

/-- The lines before tell whether the state is in the obligation report. -/
theorem Reads.phase_eq_obligations_iff {before : List String} {s : State} (h : Reads before s) :
    s.phase = .obligations ↔ governing? before = some .obligations := by
  rw [h.phase_eq, phaseUnder_eq_obligations_iff]

/-! ### Files -/

theorem siblingModule_empty (name : String) :
    (⟨""⟩ : Path).siblingModule name = ⟨name ++ ".tla"⟩ := by
  have hplace : Path.place [] (name ++ ".tla").toList = (name ++ ".tla").toList := by
    unfold Path.place
    split <;> rfl
  have hjoin : (⟨""⟩ : Path).siblingModule name =
      ⟨String.ofList (Path.place [] (name ++ ".tla").toList)⟩ := rfl
  rw [hjoin, hplace, String.ofList_toList]

/-- The state resolves a header as the banners before it say. -/
theorem Reads.resolve_eq {before : List String} {s : State} (h : Reads before s)
    (target : Target) : s.resolve target = fileOf (parsedFiles before) target := by
  cases target with
  | path path =>
    obtain ⟨text⟩ := path
    simp [State.resolve, fileOf, Header.inputPath, h.lastParsed_eq]
  | module name =>
    simp only [State.resolve, fileOf, h.modules_eq, get?_moduleTable, h.lastParsed_eq]
    cases ((parsedFiles before).filter fun file => file.stem? = some name).getLast? with
    | some file => rfl
    | none =>
      cases (parsedFiles before).getLast? with
      | some last => rfl
      | none => exact siblingModule_empty name

end Analyzer

end TlaDigest
