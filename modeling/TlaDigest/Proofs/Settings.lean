import TlaDigest.Proofs.Toml.Documents
import TlaDigest.Settings

/-!
# Settings and their documents

`ofMembers_eq_ok_iff` says which settings a document holds: every key is known, a key that is there
gives its field a value of the right type, and a key that is left out leaves its field at the default.
Unknown keys and mistyped values are refused, in the tables of the tools as well.

All settings can be written down, and are read again as they were (`parse_document`): no path, option
or argument is lost or changed on the way, whatever characters it holds.
-/

namespace TlaDigest.Settings

open Text Toml

/-! ### What a document gives -/

theorem checkKeys_eq_ok_iff {known : List String} {members : Members} {u : Unit} :
    checkKeys known members = .ok u ↔ ∀ m ∈ members, m.1 ∈ known := by
  unfold checkKeys
  cases hfind : members.find? fun m => !known.contains m.1 with
  | none => simpa using hfind
  | some m =>
    have hmem := List.mem_of_find?_eq_some hfind
    have hunknown := List.find?_some hfind
    simp only [reduceCtorEq, false_iff]
    intro hall
    simp [hall m hmem] at hunknown

/-- Members give a field its value: the default where the key is left out, and else what `reads`
    allows for the value under the key. -/
def Gives {α : Type} (members : Members) (key : String) (reads : Toml → α → Prop) (absent a : α) :
    Prop :=
  (members.lookup key = none ∧ a = absent) ∨ ∃ value, members.lookup key = some value ∧ reads value a

theorem setting_eq_ok_iff {α : Type} {members : Members} {key : String} {read? : Toml → Option α}
    {absent a : α} :
    setting members key read? absent = .ok a ↔
      Gives members key (fun value a => read? value = some a) absent a := by
  unfold setting Gives
  cases members.lookup key with
  | none => simp [eq_comm]
  | some value => cases hread : read? value <;> simp [hread]

theorem readGroup_eq_ok_iff {α : Type} {members : Members} {key : String}
    {read : Toml → Except Invalid α} {absent a : α} :
    readGroup members key read absent = .ok a ↔
      Gives members key (fun value a => read value = .ok a) absent a := by
  unfold readGroup Gives
  cases members.lookup key <;> simp [eq_comm]

structure TranspilerFrom (members : Members) (t : TranspilerSettings) : Prop where
  known : ∀ m ∈ members, m.1 ∈ transpilerKeys
  options : Gives members "options" (fun v a => v.asStrings? = some a) defaults.transpiler.options
    t.options
  command : Gives members "command" (fun v a => v.asStrings?.map some = some a) none t.command

theorem readTranspiler_eq_ok_iff {value : Toml} {t : TranspilerSettings} :
    readTranspiler value = .ok t ↔
      ∃ members, group transpilerKeys "transpiler" value = .ok members ∧ TranspilerFrom members t := by
  simp only [readTranspiler, bind_eq_ok_iff, setting_eq_ok_iff]
  constructor
  · rintro ⟨members, hgroup, _, hknown, options, hoptions, command, hcommand, ht⟩
    cases ht
    exact ⟨members, hgroup, checkKeys_eq_ok_iff.mp hknown, hoptions, hcommand⟩
  · rintro ⟨members, hgroup, hknown, hoptions, hcommand⟩
    exact ⟨members, hgroup, (), checkKeys_eq_ok_iff.mpr hknown, _, hoptions, _, hcommand, rfl⟩

structure AnalyzerFrom (members : Members) (a : AnalyzerSettings) : Prop where
  known : ∀ m ∈ members, m.1 ∈ analyzerKeys
  options : Gives members "options" (fun v a => v.asStrings? = some a) defaults.analyzer.options
    a.options
  extended : Gives members "extended" (fun v a => v.asBoolean? = some a) defaults.analyzer.extended
    a.extended
  command : Gives members "command" (fun v a => v.asStrings?.map some = some a) none a.command

theorem readAnalyzer_eq_ok_iff {value : Toml} {a : AnalyzerSettings} :
    readAnalyzer value = .ok a ↔
      ∃ members, group analyzerKeys "analyzer" value = .ok members ∧ AnalyzerFrom members a := by
  simp only [readAnalyzer, bind_eq_ok_iff, setting_eq_ok_iff]
  constructor
  · rintro ⟨members, hgroup, _, hknown, _, hoptions, _, hextended, _, hcommand, ha⟩
    cases ha
    exact ⟨members, hgroup, checkKeys_eq_ok_iff.mp hknown, hoptions, hextended, hcommand⟩
  · rintro ⟨members, hgroup, hknown, hoptions, hextended, hcommand⟩
    exact ⟨members, hgroup, (), checkKeys_eq_ok_iff.mpr hknown, _, hoptions, _, hextended, _,
      hcommand, rfl⟩

structure ReadFrom (members : Members) (s : Settings) : Prop where
  known : ∀ m ∈ members, m.1 ∈ keys
  java : Gives members "java" (fun v a => path? v = some a) defaults.java s.java
  javaHome : Gives members "java_home" (fun v a => (path? v).map some = some a) none s.javaHome
  jar : Gives members "tla2tools" (fun v a => (path? v).map some = some a) none s.jar
  javaOptions : Gives members "java_options" (fun v a => v.asStrings? = some a) [] s.javaOptions
  transpiler : Gives members "transpiler" (fun v a => ∃ sub,
    group transpilerKeys "transpiler" v = .ok sub ∧ TranspilerFrom sub a) defaults.transpiler
    s.transpiler
  analyzer : Gives members "analyzer" (fun v a => ∃ sub,
    group analyzerKeys "analyzer" v = .ok sub ∧ AnalyzerFrom sub a) defaults.analyzer s.analyzer

/-- **Which settings a document holds.** -/
theorem ofMembers_eq_ok_iff {members : Members} {s : Settings} :
    ofMembers members = .ok s ↔ ReadFrom members s := by
  simp only [ofMembers, bind_eq_ok_iff, setting_eq_ok_iff, readGroup_eq_ok_iff,
    readTranspiler_eq_ok_iff, readAnalyzer_eq_ok_iff]
  constructor
  · rintro ⟨_, hknown, _, hjava, _, hhome, _, hjar, _, hoptions, _, htranspiler, _, hanalyzer, hs⟩
    cases hs
    exact ⟨checkKeys_eq_ok_iff.mp hknown, hjava, hhome, hjar, hoptions, htranspiler, hanalyzer⟩
  · rintro ⟨hknown, hjava, hhome, hjar, hoptions, htranspiler, hanalyzer⟩
    exact ⟨(), checkKeys_eq_ok_iff.mpr hknown, _, hjava, _, hhome, _, hjar, _, hoptions, _,
      htranspiler, _, hanalyzer, rfl⟩

/-! ### Writing -/

def pair? {α : Type} (key : String) (write : α → PlainValue) (value : Option α) : Pairs :=
  value.toList.map fun a => (key, write a)

def transpilerPairs (t : TranspilerSettings) : Pairs :=
  ("options", .strings t.options) :: pair? "command" .strings t.command

def analyzerPairs (a : AnalyzerSettings) : Pairs :=
  ("options", .strings a.options) :: ("extended", .boolean a.extended) ::
    pair? "command" .strings a.command

/-- The settings as a document. What may be left out stands there where it is set. -/
def document (s : Settings) : PlainDocument where
  pairs :=
    ("java", .string s.java.text) :: ("java_options", .strings s.javaOptions) ::
      (pair? "java_home" (fun p => .string p.text) s.javaHome ++
        pair? "tla2tools" (fun p => .string p.text) s.jar)
  tables :=
    [("transpiler", transpilerPairs s.transpiler), ("analyzer", analyzerPairs s.analyzer)]

@[simp] theorem path?_string (s : String) : path? (PlainValue.string s).value = some ⟨s⟩ := rfl

@[simp]
theorem asBoolean?_boolean (b : Bool) : (PlainValue.boolean b).value.asBoolean? = some b := rfl

@[simp] theorem asStrings?_strings (items : List String) :
    (PlainValue.strings items).value.asStrings? = some items := by
  rw [PlainValue.value, asStrings?]
  induction items with
  | nil => rfl
  | cons s items ih => simp [List.mapM_cons, asString?, ih]

theorem transpilerFrom_pairs (t : TranspilerSettings) :
    TranspilerFrom (transpilerPairs t).members t := by
  obtain ⟨options, command⟩ := t
  cases command <;> constructor <;>
    simp [Gives, transpilerPairs, pair?, transpilerKeys, List.lookup_cons]

theorem analyzerFrom_pairs (a : AnalyzerSettings) : AnalyzerFrom (analyzerPairs a).members a := by
  obtain ⟨options, extended, command⟩ := a
  cases command <;> constructor <;>
    simp [Gives, analyzerPairs, pair?, analyzerKeys, List.lookup_cons]

theorem readFrom_document (s : Settings) : ReadFrom s.document.members s := by
  obtain ⟨java, javaHome, jar, javaOptions, t, a⟩ := s
  have ht := transpilerFrom_pairs t
  have ha := analyzerFrom_pairs a
  cases javaHome <;> cases jar <;> constructor <;>
    simp [Gives, document, PlainDocument.members, pair?, keys, group, List.lookup_cons, ht, ha]

def allKeys : List String := keys ++ analyzerKeys

theorem bare_of_mem_allKeys {key : String} (h : key ∈ allKeys) : Bare key := by
  have hall : allKeys.all fun key => key.toList ≠ [] ∧ key.toList.all isBareKeyChar = true := by
    decide +kernel
  have hkey := List.all_eq_true.mp hall key h
  simp only [decide_eq_true_eq, List.all_eq_true] at hkey
  exact ⟨hkey.1, hkey.2⟩

theorem wellFormed_document (s : Settings) : s.document.WellFormed := by
  obtain ⟨java, javaHome, jar, javaOptions, ⟨options, command⟩, ⟨options', extended, command'⟩⟩ := s
  refine ⟨fun st hst => bare_of_mem_allKeys ?_, ?_, ?_⟩
  · revert st
    cases javaHome <;> cases jar <;> cases command <;> cases command' <;>
      simp [document, PlainDocument.statements, Pairs.statements, transpilerPairs, analyzerPairs,
        pair?, Statement.key, allKeys, keys, analyzerKeys]
  · cases javaHome <;> cases jar <;> simp [document, pair?]
  · cases command <;> cases command' <;> simp [document, transpilerPairs, analyzerPairs, pair?]

/-- **Settings are read as they were written.** -/
theorem parse_document (s : Settings) : parse s.document.text = .ok s := by
  rw [parse, parse?_text (wellFormed_document s)]
  exact ofMembers_eq_ok_iff.mpr (readFrom_document s)

end TlaDigest.Settings
