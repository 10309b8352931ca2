import TlaDigest.Arguments
import TlaDigest.Proofs.Text.Readers

/-!
# What a command line can ask for

What is asked for is proper when no path in it is empty. A command line that is accepted asks for
something proper, and everything proper can be asked for (`exists_parse_iff`).

For the first half, whatever a level has settled was accepted by it (`Accepted`). Every argument keeps
that, whichever form it has (`accepted_argument`), and so does a whole level (`accepted_run`). For the
second half a request is spelled with the long names, values after an equals sign, and the operand
behind two hyphens, so that it may start with one (`spell`). A row of such options settles one slot
after the other (`run_named`).
-/

namespace TlaDigest

def Request.Proper : Request → Prop
  | .parse file _ => file.text ≠ ""
  | .transpile file => file.text ≠ ""
  | .analyze file _ => file.text ≠ ""
  | .read _ source _ => ∀ path ∈ source, path.text ≠ ""

namespace Arguments

open Text

structure Proper (a : Arguments) : Prop where
  config : ∀ path ∈ a.config, path.text ≠ ""
  request : a.request.Proper

/-! ### What is settled was accepted -/

namespace Scan

variable {level : Level} {s s' : Scan}

def Accepted (level : Level) (s : Scan) : Prop :=
  ∀ slot value, (slot, value) ∈ s.settled → slot.takesValue = true →
    level.accepts slot value = true

theorem accepted_start (level : Level) : start.Accepted level := by
  intro slot value hmem
  cases hmem

/-- One more entry, which is accepted if its slot takes a value. -/
theorem Accepted.concat (h : s.Accepted level) {slot : Slot} {value : String}
    (hnew : slot.takesValue = true → level.accepts slot value = true)
    (hsettled : s'.settled = s.settled ++ [(slot, value)]) : s'.Accepted level := by
  intro slot' value' hmem htakes
  rw [hsettled, List.mem_append, List.mem_singleton] at hmem
  rcases hmem with hold | hlast
  · exact h slot' value' hold htakes
  · obtain ⟨rfl, rfl⟩ := Prod.mk.inj hlast
    exact hnew htakes

theorem Accepted.of_settled_eq (h : s.Accepted level) (hsettled : s'.settled = s.settled) :
    s'.Accepted level := by
  intro slot value hmem
  rw [hsettled] at hmem
  exact h slot value hmem

theorem accepted_settle (h : s.Accepted level) (hs : s.settle level = .ok s') :
    s'.Accepted level := by
  unfold settle at hs
  split at hs
  · cases hs
    exact h
  · cases hs
  · split at hs
    · cases hs
    · split at hs
      · next haccepts =>
        cases hs
        exact h.concat (fun _ => haccepts) rfl
      · cases hs

theorem accepted_switch {slot : Slot} (hslot : slot.takesValue = false) (h : s.Accepted level)
    (hs : s.switch level slot = .ok s') : s'.Accepted level := by
  obtain ⟨middle, hmiddle, hrest⟩ := bind_eq_ok_iff.mp hs
  have hkept := accepted_settle h hmiddle
  split at hrest
  · cases hrest
  · cases hrest
  · split at hrest
    · cases hrest
    · cases hrest
      exact hkept.concat (fun htakes => by simp [hslot] at htakes) rfl

theorem accepted_await {slot : Slot} (h : s.Accepted level)
    (hs : s.await level slot = .ok s') : s'.Accepted level := by
  obtain ⟨middle, hmiddle, hrest⟩ := bind_eq_ok_iff.mp hs
  cases hrest
  exact (accepted_settle h hmiddle).of_settled_eq rfl

theorem accepted_assign {slot : Slot} {value : String} (h : s.Accepted level)
    (hs : s.assign level slot value = .ok s') : s'.Accepted level := by
  obtain ⟨middle, hmiddle, hrest⟩ := bind_eq_ok_iff.mp hs
  have hkept := accepted_settle h hmiddle
  have hpending : Accepted level { middle with pending := some (slot, some value) } :=
    hkept.of_settled_eq rfl
  exact accepted_settle hpending hrest

theorem accepted_long {text : List Char} (h : s.Accepted level)
    (hs : s.long level text = .ok s') : s'.Accepted level := by
  unfold long at hs
  obtain ⟨name, value⟩ := cutAt (· == '=') text
  dsimp only at hs
  split at hs
  · cases hs
  · split at hs
    · exact accepted_await h hs
    · next htakes => exact accepted_switch (by simpa using htakes) h hs
  · split at hs
    · exact accepted_assign h hs
    · cases hs

def ShortSwitches (level : Level) : Prop := ∀ e ∈ level.short, e.2.takesValue = false

theorem accepted_short (hshort : ShortSwitches level) {text : List Char} (h : s.Accepted level)
    (hs : short level s text = .ok s') : s'.Accepted level := by
  induction text generalizing s with
  | nil =>
    cases hs
    exact h
  | cons c text ih =>
    unfold short at hs
    split at hs
    · cases hs
    · next slot hlookup =>
      obtain ⟨before, after, hentries, -⟩ := List.lookup_eq_some_iff.mp hlookup
      have hslot : slot.takesValue = false := hshort (c, slot) (by rw [hentries]; simp)
      obtain ⟨middle, hmiddle, hrest⟩ := bind_eq_ok_iff.mp hs
      exact ih (accepted_switch hslot h hmiddle) hrest

theorem accepted_operand {value : String} (h : s.Accepted level)
    (hs : s.operand level value = .ok s') : s'.Accepted level := by
  unfold operand at hs
  split at hs
  · obtain ⟨middle, hmiddle, hrest⟩ := bind_eq_ok_iff.mp hs
    cases hrest
    exact (accepted_settle h hmiddle).of_settled_eq rfl
  · split at hs <;> cases hs

/-- **One argument** keeps what is settled accepted. -/
theorem accepted_argument (hshort : ShortSwitches level) {arg : String} (h : s.Accepted level)
    (hs : s.argument level arg = .ok s') : s'.Accepted level := by
  have hpending : ∀ pending, Accepted level { s with pending := pending } := fun _ =>
    h.of_settled_eq rfl
  unfold argument at hs
  dsimp only at hs
  by_cases htrailing : s.trailing = true
  · rw [if_pos htrailing] at hs
    exact accepted_operand h hs
  · rw [if_neg htrailing] at hs
    split at hs
    · cases hs
      exact h.of_settled_eq rfl
    · exact accepted_long h hs
    · -- a hyphen alone is a value or an operand, as a word without hyphens is below
      split at hs
      · cases hs
        exact hpending _
      · exact accepted_operand h hs
    · exact accepted_short hshort h hs
    · split at hs
      · cases hs
        exact hpending _
      · exact accepted_operand h hs

/-- **A level** accepted all that it has settled. -/
theorem accepted_run (hshort : ShortSwitches level) {args : List String}
    {rest : Option (String × List String)} (h : s.Accepted level)
    (hs : s.run level args = .ok (s', rest)) : s'.Accepted level := by
  induction args generalizing s with
  | nil =>
    cases hs
    exact h
  | cons arg args ih =>
    unfold run at hs
    split at hs
    · cases hs
      exact h
    · obtain ⟨middle, hmiddle, hrest⟩ := bind_eq_ok_iff.mp hs
      exact ih (accepted_argument hshort h hmiddle) hrest

theorem Accepted.accepts (h : s.Accepted level) {slot : Slot} (hslot : slot.takesValue = true)
    {value : String} (hvalue : s.value? slot = some value) : level.accepts slot value = true := by
  obtain ⟨before, after, hsettled, -⟩ := List.lookup_eq_some_iff.mp hvalue
  exact h slot value (by rw [hsettled]; simp) hslot

end Scan

theorem shortSwitches_topLevel : Scan.ShortSwitches topLevel := by
  simp [Scan.ShortSwitches, topLevel, sharedLetters, Slot.takesValue]

theorem shortSwitches_level (c : Subcommand) : Scan.ShortSwitches c.level := by
  simp [Scan.ShortSwitches, Subcommand.level, sharedLetters, Slot.takesValue]

theorem readLevel_cases {c : Subcommand} {args : List String} {s : Scan} {request : Request}
    (h : c.readLevel args = .ok (s, request)) :
    s.Accepted c.level ∧
      ∃ operand, s.value? .operand = some operand ∧ c.request? s operand = some request := by
  unfold Subcommand.readLevel at h
  obtain ⟨⟨first, rest⟩, hrun, hsettle⟩ := bind_eq_ok_iff.mp h
  obtain ⟨last, hlast, hresult⟩ := bind_eq_ok_iff.mp hsettle
  have haccepted : last.Accepted c.level := Scan.accepted_settle
    (Scan.accepted_run (shortSwitches_level c) (Scan.accepted_start c.level) hrun) hlast
  split at hresult
  · cases hresult
  · next operand hoperand =>
    split at hresult
    · cases hresult
    · next hrequest =>
      cases hresult
      exact ⟨haccepted, operand, hoperand, hrequest⟩

theorem request_proper {c : Subcommand} {s : Scan} (h : s.Accepted c.level) {operand : String}
    (hoperand : s.value? .operand = some operand) {request : Request}
    (hrequest : c.request? s operand = some request) : request.Proper := by
  have hoperandOk : c.level.operandOk operand = true := h.accepts rfl hoperand
  have hsource : ∀ value, s.value? .source = some value → value ≠ "" := by
    intro value hvalue
    simpa [Level.accepts] using h.accepts rfl hvalue
  cases c with
  | parse | transpile | analyze =>
    cases hrequest
    simpa [Subcommand.level, Request.Proper] using hoperandOk
  | read =>
    obtain ⟨tool, -, rfl⟩ := Option.map_eq_some_iff.mp hrequest
    rintro path hpath
    obtain ⟨value, hvalue, rfl⟩ := Option.map_eq_some_iff.mp hpath
    exact hsource value hvalue

/-- A command line that is accepted asks for something proper. -/
theorem proper_of_parse {args : List String} {a : Arguments} (h : parse args = .ok a) :
    a.Proper := by
  unfold parse at h
  obtain ⟨⟨first, rest⟩, hrun, hrest⟩ := bind_eq_ok_iff.mp h
  have hfirst := Scan.accepted_run shortSwitches_topLevel (Scan.accepted_start topLevel) hrun
  dsimp only at hrest
  split at hrest
  · obtain ⟨_, -, hnone⟩ := bind_eq_ok_iff.mp hrest
    cases hnone
  · split at hrest
    · cases hrest
    · next c hc =>
      obtain ⟨⟨inner, request⟩, hlevel, hdone⟩ := bind_eq_ok_iff.mp hrest
      obtain ⟨outer, houter, hresult⟩ := bind_eq_ok_iff.mp hdone
      obtain ⟨hinner, operand, hoperand, hrequest⟩ := readLevel_cases hlevel
      cases hresult
      refine ⟨?_, request_proper hinner hoperand hrequest⟩
      intro path hpath
      obtain ⟨value, hvalue, rfl⟩ := Option.map_eq_some_iff.mp hpath
      rcases Option.or_eq_some_iff.mp hvalue with hvalue | ⟨-, hvalue⟩
      · simpa [Level.accepts] using hinner.accepts rfl hvalue
      · simpa [Level.accepts] using (Scan.accepted_settle hfirst houter).accepts rfl hvalue

/-! ### Spelling -/

/-- An option by its long name, with its value if it takes one. -/
structure Named where
  name : String
  slot : Slot
  value : Option String

namespace Named

def text (n : Named) : String :=
  String.ofList ('-' :: '-' :: (n.name.toList ++ (n.value.map fun v => '=' :: v.toList).getD []))

def entry (n : Named) : Slot × String := (n.slot, n.value.getD "")

/-- The option is one of the level, and the level accepts its value. -/
structure Fits (level : Level) (n : Named) : Prop where
  name : Run (· != '=') n.name.toList
  known : level.long.lookup n.name = some n.slot
  answers : n.slot ≠ .help ∧ n.slot ≠ .version
  takesValue : n.slot.takesValue = n.value.isSome
  accepted : ∀ value ∈ n.value, level.accepts n.slot value = true

end Named

namespace Scan

structure Idle (s : Scan) : Prop where
  pending : s.pending = none
  trailing : s.trailing = false

def settleAll (s : Scan) (entries : List (Slot × String)) : Scan :=
  { s with settled := s.settled ++ entries }

theorem has_eq_false {s : Scan} {slot : Slot} (h : slot ∉ s.settled.map (·.1)) :
    s.has slot = false := by
  rw [has, List.any_eq_false]
  intro e he hslot
  exact h (List.mem_map.mpr ⟨e, he, eq_of_beq hslot⟩)

theorem value?_eq_none {s : Scan} {slot : Slot} (h : slot ∉ s.settled.map (·.1)) :
    s.value? slot = none := by
  rw [value?, List.lookup_eq_none_iff]
  intro e he
  have hne : slot ≠ e.1 := fun heq => h (List.mem_map.mpr ⟨e, he, heq.symm⟩)
  simpa using hne

theorem argument_named {level : Level} {s : Scan} {n : Named} (hs : s.Idle) (hn : n.Fits level)
    (hnew : s.has n.slot = false) :
    s.argument level n.text = .ok (s.settleAll [n.entry]) := by
  have hsettle : s.settle level = .ok s := by rw [settle, hs.pending]
  obtain ⟨c, cs, hname⟩ := List.exists_cons_of_ne_nil hn.name.ne_nil
  have hlong : s.argument level n.text =
      s.long level (n.name.toList ++ (n.value.map fun v => '=' :: v.toList).getD []) := by
    simp [argument, Named.text, hs.trailing, hname]
  have hall : ∀ c ∈ n.name.toList, (c == '=') = false := by simpa using hn.name.all
  rw [hlong, long]
  cases hvalue : n.value with
  | none =>
    have hcut : cutAt (· == '=') n.name.toList = (n.name.toList, []) :=
      cutAt_eq_iff.mpr ⟨by simp, hall, by simp⟩
    have htakes : n.slot.takesValue = false := by rw [hn.takesValue, hvalue]; rfl
    have hswitch : s.switch level n.slot = .ok (s.settleAll [(n.slot, "")]) := by
      rw [switch, hsettle]
      dsimp only [bind, Except.bind]
      split
      · next hhelp => exact absurd hhelp hn.answers.1
      · next hversion => exact absurd hversion hn.answers.2
      · rw [if_neg (by simp [hnew])]
        rfl
    simp [hcut, hn.known, htakes, hswitch, Named.entry, hvalue]
  | some value =>
    have hcut : cutAt (· == '=') (n.name.toList ++ '=' :: value.toList) =
        (n.name.toList, '=' :: value.toList) :=
      cutAt_eq_iff.mpr ⟨rfl, hall, by simp⟩
    have htakes : n.slot.takesValue = true := by rw [hn.takesValue, hvalue]; rfl
    have hassign : s.assign level n.slot value = .ok (s.settleAll [(n.slot, value)]) := by
      have haccepts := hn.accepted value (by rw [hvalue]; rfl)
      have hfree : (s.settled.any fun e => e.1 == n.slot) = false := hnew
      rw [assign, hsettle]
      simp [bind, Except.bind, settle, has, hfree, haccepts, settleAll, hs.pending]
    simp [hcut, hn.known, htakes, hassign, Named.entry, hvalue]

/-- The words of a level for subcommands do not look like options. -/
def PlainWords (level : Level) : Prop := ∀ word ∈ level.subcommands, word.toList.head? ≠ some '-'

/-- **A row of options** settles one slot after the other. -/
theorem run_named {level : Level} (hlevel : PlainWords level) {s : Scan} {ns : List Named}
    (hs : s.Idle) (hns : ∀ n ∈ ns, n.Fits level)
    (hnodup : (s.settled.map (·.1) ++ ns.map (·.slot)).Nodup) (rest : List String) :
    s.run level (ns.map (·.text) ++ rest) = (s.settleAll (ns.map (·.entry))).run level rest := by
  induction ns generalizing s with
  | nil => simp [settleAll]
  | cons n ns ih =>
    have hnew : s.has n.slot = false := has_eq_false fun hmem =>
      (List.nodup_append.mp hnodup).2.2 _ hmem _ (by simp) rfl
    have hword : n.text ∉ level.subcommands := fun hmem =>
      hlevel n.text hmem (by rw [Named.text, String.toList_ofList]; rfl)
    have hstep := argument_named hs (hns n List.mem_cons_self) hnew
    have hrest := @ih (s.settleAll [n.entry]) ⟨hs.pending, hs.trailing⟩
      (fun m hm => hns m (List.mem_cons_of_mem n hm))
      (by simpa [settleAll, Named.entry] using hnodup)
    rw [List.map_cons, List.cons_append, run, if_neg (by simpa using fun _ _ => hword), hstep]
    simpa [bind, Except.bind, settleAll] using hrest

end Scan

/-- The settled slots of a subcommand that was read to its end. -/
def innerScan (ns : List Named) (operand : String) : Scan where
  settled := ns.map (·.entry) ++ [(.operand, operand)]
  pending := none
  trailing := true
  operandSeen := true

theorem readLevel_spelled {c : Subcommand} {ns : List Named} (hns : ∀ n ∈ ns, n.Fits c.level)
    (hnodup : (ns.map Named.slot ++ [Slot.operand]).Nodup) {operand : String}
    (hoperand : c.level.operandOk operand = true) {request : Request}
    (hrequest : c.request? (innerScan ns operand) operand = some request) :
    c.readLevel (ns.map (·.text) ++ ["--", operand]) = .ok (innerScan ns operand, request) := by
  obtain ⟨hslots, -, hapart⟩ := List.nodup_append.mp hnodup
  have hrun : Scan.run c.level .start (ns.map (·.text) ++ ["--", operand]) =
      .ok (⟨ns.map (·.entry), some (.operand, some operand), true, true⟩, none) := by
    rw [Scan.run_named (by simp [Scan.PlainWords, Subcommand.level]) ⟨rfl, rfl⟩ hns
      (by simpa [Scan.start] using hslots)]
    simp [Scan.run, Scan.argument, Scan.operand, Scan.settle, Scan.settleAll, Scan.start,
      Subcommand.level, bind, Except.bind]
  have hfree : Slot.operand ∉ (ns.map (·.entry)).map (·.1) := by
    intro hmem
    rw [List.map_map] at hmem
    exact hapart _ hmem _ (by simp) rfl
  have hsettle : Scan.settle c.level ⟨ns.map (·.entry), some (.operand, some operand), true, true⟩ =
      .ok (innerScan ns operand) := by
    have hnew : Scan.has ⟨ns.map (·.entry), some (.operand, some operand), true, true⟩ .operand =
        false := Scan.has_eq_false hfree
    simp [Scan.settle, hnew, Level.accepts, hoperand, innerScan]
  have hvalue : (innerScan ns operand).value? .operand = some operand := by
    have hnone : Scan.value? ⟨ns.map (·.entry), none, true, true⟩ .operand = none :=
      Scan.value?_eq_none hfree
    rw [Scan.value?] at hnone
    simp [Scan.value?, innerScan, List.lookup_append, hnone]
  rw [Subcommand.readLevel, hrun]
  simp [bind, Except.bind, hsettle, hvalue, hrequest]

theorem parse_spelled {c : Subcommand} {outer inner : List Named}
    (houter : ∀ n ∈ outer, n.Fits topLevel) (hslots : (outer.map Named.slot).Nodup)
    (hinner : ∀ n ∈ inner, n.Fits c.level)
    (hnodup : (inner.map Named.slot ++ [Slot.operand]).Nodup) {operand : String}
    (hoperand : c.level.operandOk operand = true) {request : Request}
    (hrequest : c.request? (innerScan inner operand) operand = some request) :
    parse (outer.map (·.text) ++ c.word :: (inner.map (·.text) ++ ["--", operand])) =
      .ok {
        config := (((innerScan inner operand).value? .config).or
          ((outer.map (·.entry)).lookup .config)).map Path.mk
        json := (innerScan inner operand).has .json ||
          (outer.map (·.entry)).any fun e => e.1 == .json
        verbose := (innerScan inner operand).has .verbose ||
          (outer.map (·.entry)).any fun e => e.1 == .verbose
        request := request } := by
  have hplain : Scan.PlainWords topLevel := by
    have hall : topLevel.subcommands.all fun word => word.toList.head? ≠ some '-' := by
      decide +kernel
    intro word hword
    simpa using List.all_eq_true.mp hall word hword
  have hword : topLevel.subcommands.contains c.word = true := by cases c <;> decide +kernel
  have hc : Subcommand.ofWord? c.word = some c := by cases c <;> decide +kernel
  have hrun : Scan.run topLevel .start
        (outer.map (·.text) ++ c.word :: (inner.map (·.text) ++ ["--", operand])) =
      .ok (⟨outer.map (·.entry), none, false, false⟩,
        some (c.word, inner.map (·.text) ++ ["--", operand])) := by
    rw [Scan.run_named hplain ⟨rfl, rfl⟩ houter (by simpa [Scan.start] using hslots)]
    simp [Scan.run, Scan.settleAll, Scan.start, Scan.awaitsValue, List.contains_iff_mem.mp hword]
  rw [parse, hrun]
  simp [bind, Except.bind, hc, readLevel_spelled hinner hnodup hoperand hrequest, Scan.settle,
    Scan.value?, Scan.has]

/-! ### Everything proper can be asked for -/

def switch? (name : String) (slot : Slot) (set : Bool) : List Named :=
  if set then [⟨name, slot, none⟩] else []

def path? (name : String) (slot : Slot) (path : Option Path) : List Named :=
  path.toList.map fun p => ⟨name, slot, some p.text⟩

def toolWord : Tool → String
  | .transpiler => "transpiler"
  | .analyzer => "analyzer"

end Arguments

namespace Request

open Arguments

def subcommand : Request → Subcommand
  | .parse .. => .parse
  | .transpile .. => .transpile
  | .analyze .. => .analyze
  | .read .. => .read

def operand : Request → String
  | .parse file _ => file.text
  | .transpile file => file.text
  | .analyze file _ => file.text
  | .read tool _ _ => toolWord tool

def options : Request → List Named
  | .parse _ extended => switch? "extended" .extended extended
  | .transpile _ => []
  | .analyze _ extended => switch? "extended" .extended extended
  | .read _ source extended => path? "source" .source source ++ switch? "extended" .extended extended

end Request

namespace Arguments

/-- The options that every level has; they are put in front of the subcommand. -/
def outerOptions (a : Arguments) : List Named :=
  path? "config" .config a.config ++ switch? "json" .json a.json ++
    switch? "verbose" .verbose a.verbose

def spell (a : Arguments) : List String :=
  a.outerOptions.map (·.text) ++ a.request.subcommand.word ::
    (a.request.options.map (·.text) ++ ["--", a.request.operand])

theorem fits_switch {level : Level} {name : String} {slot : Slot}
    (hname : name.toList ≠ [] ∧ name.toList.all (· != '=') = true)
    (hknown : level.long.lookup name = some slot) (htakes : slot.takesValue = false)
    (hslot : slot ≠ .help ∧ slot ≠ .version) {set : Bool} :
    ∀ n ∈ switch? name slot set, n.Fits level := by
  intro n hn
  cases set with
  | false => cases hn
  | true =>
    rw [List.mem_singleton.mp hn]
    exact ⟨⟨hname.1, fun c hc => List.all_eq_true.mp hname.2 c hc⟩, hknown, hslot, htakes, by simp⟩

theorem fits_path {level : Level} {name : String} {slot : Slot}
    (hname : name.toList ≠ [] ∧ name.toList.all (· != '=') = true)
    (hknown : level.long.lookup name = some slot) (htakes : slot.takesValue = true)
    (hslot : slot ≠ .operand) {path : Option Path} (hpath : ∀ p ∈ path, p.text ≠ "") :
    ∀ n ∈ path? name slot path, n.Fits level := by
  intro n hn
  obtain ⟨p, hp, rfl⟩ := List.mem_map.mp hn
  have hanswers : slot ≠ .help ∧ slot ≠ .version := by
    constructor <;> rintro rfl <;> cases htakes
  refine ⟨⟨hname.1, fun c hc => List.all_eq_true.mp hname.2 c hc⟩, hknown, hanswers, htakes, ?_⟩
  intro value hvalue
  obtain rfl : p.text = value := Option.some.inj hvalue
  have hne : p.text ≠ "" := hpath p (by simpa using hp)
  cases slot with
  | operand => exact absurd rfl hslot
  | _ => simpa [Level.accepts] using hne

theorem fits_outerOptions {a : Arguments} (h : a.Proper) :
    ∀ n ∈ a.outerOptions, n.Fits topLevel := by
  intro n hn
  rw [outerOptions, List.mem_append, List.mem_append] at hn
  rcases hn with (hn | hn) | hn
  · exact fits_path (by decide +kernel) (by decide +kernel) rfl (by decide) h.config n hn
  · exact fits_switch (by decide +kernel) (by decide +kernel) rfl (by decide) n hn
  · exact fits_switch (by decide +kernel) (by decide +kernel) rfl (by decide) n hn

theorem fits_options {request : Request} (h : request.Proper) :
    ∀ n ∈ request.options, n.Fits request.subcommand.level := by
  have hextended : ∀ c : Subcommand, c ≠ .transpile →
      c.level.long.lookup "extended" = some .extended := by
    intro c hc
    cases c with
    | transpile => exact absurd rfl hc
    | _ => decide +kernel
  have hsource : Subcommand.read.level.long.lookup "source" = some .source := by decide +kernel
  intro n hn
  cases request with
  | parse file extended =>
    exact fits_switch (by decide +kernel) (hextended .parse (by decide)) rfl (by decide) n hn
  | transpile file => cases hn
  | analyze file extended =>
    exact fits_switch (by decide +kernel) (hextended .analyze (by decide)) rfl (by decide) n hn
  | read tool source extended =>
    rcases List.mem_append.mp hn with hn | hn
    · exact fits_path (by decide +kernel) hsource rfl (by decide) h n hn
    · exact fits_switch (by decide +kernel) (hextended .read (by decide)) rfl (by decide) n hn

theorem toolNamed?_toolWord (tool : Tool) : toolNamed? (toolWord tool) = some tool := by
  cases tool <;> rfl

theorem operandOk_operand {request : Request} (h : request.Proper) :
    request.subcommand.level.operandOk request.operand = true := by
  cases request with
  | read tool source extended =>
    simp [Request.subcommand, Subcommand.level, Request.operand, toolNamed?_toolWord]
  | _ => simpa [Request.subcommand, Subcommand.level, Request.operand, Request.Proper] using h

theorem request?_spelled (request : Request) :
    request.subcommand.request? (innerScan request.options request.operand) request.operand =
      some request := by
  cases request with
  | parse file extended => cases extended <;> rfl
  | transpile file => rfl
  | analyze file extended => cases extended <;> rfl
  | read tool source extended =>
    rw [Request.subcommand, Subcommand.request?, Request.operand, toolNamed?_toolWord]
    cases source <;> cases extended <;> rfl

/-- The slots of a subcommand that was read are its own. -/
theorem slot_of_mem_innerScan {request : Request} {slot : Slot}
    (h : slot ∈ (innerScan request.options request.operand).settled.map (·.1)) :
    slot = .source ∨ slot = .extended ∨ slot = .operand := by
  have hswitch : ∀ extended, slot ∈ (switch? "extended" .extended extended).map (·.entry.1) →
      slot = .extended := by
    intro extended hmem
    cases extended with
    | false => cases hmem
    | true => exact List.mem_singleton.mp hmem
  rw [innerScan, List.map_append, List.mem_append, List.map_map] at h
  rcases h with hmem | hmem
  · cases request with
    | parse file extended => exact .inr (.inl (hswitch extended hmem))
    | transpile file => cases hmem
    | analyze file extended => exact .inr (.inl (hswitch extended hmem))
    | read tool source extended =>
      rw [Request.options, List.map_append, List.mem_append] at hmem
      rcases hmem with hmem | hmem
      · cases source with
        | none => cases hmem
        | some path => exact .inl (List.mem_singleton.mp hmem)
      · exact .inr (.inl (hswitch extended hmem))
  · exact .inr (.inr (List.mem_singleton.mp hmem))

theorem parse_spell {a : Arguments} (h : a.Proper) : parse a.spell = .ok a := by
  have hslots : (a.outerOptions.map Named.slot).Nodup := by
    obtain ⟨config, json, verbose, request⟩ := a
    cases config <;> cases json <;> cases verbose <;> simp [outerOptions, switch?, path?]
  have hnodup : (a.request.options.map Named.slot ++ [Slot.operand]).Nodup := by
    obtain ⟨config, json, verbose, request⟩ := a
    cases request with
    | parse file extended => cases extended <;> simp [Request.options, switch?]
    | transpile file => simp [Request.options]
    | analyze file extended => cases extended <;> simp [Request.options, switch?]
    | read tool source extended =>
      cases source <;> cases extended <;> simp [Request.options, switch?, path?]
  have habsent : ∀ slot, slot ≠ .source → slot ≠ .extended → slot ≠ .operand →
      slot ∉ (innerScan a.request.options a.request.operand).settled.map (·.1) := by
    intro slot hsource hextended hoperand hmem
    rcases slot_of_mem_innerScan hmem with heq | heq | heq
    · exact hsource heq
    · exact hextended heq
    · exact hoperand heq
  rw [spell, parse_spelled (fits_outerOptions h) hslots (fits_options h.request) hnodup
    (operandOk_operand h.request) (request?_spelled a.request),
    Scan.value?_eq_none (habsent .config (by decide) (by decide) (by decide)),
    Scan.has_eq_false (habsent .json (by decide) (by decide) (by decide)),
    Scan.has_eq_false (habsent .verbose (by decide) (by decide) (by decide))]
  obtain ⟨config, json, verbose, request⟩ := a
  cases config <;> cases json <;> cases verbose <;> rfl

/-- **What a command line can ask for** is exactly what is proper. -/
theorem exists_parse_iff {a : Arguments} : (∃ args, parse args = .ok a) ↔ a.Proper :=
  ⟨fun ⟨_, hargs⟩ => proper_of_parse hargs, fun h => ⟨a.spell, parse_spell h⟩⟩

end Arguments

end TlaDigest
