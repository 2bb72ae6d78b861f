import Blueprints.CommandLine.Program
import Blueprints.Pattern.Basic
import Blueprints.Proofs.Inputs

/-!
# Runs

A run either fails, and then tells why and reports nothing, or it reports every source in order, and
its exit code tells whether all of them matched.  The main statement is `every_line_reported`.
-/

namespace Blueprints

/-! ### Rules files -/

namespace Files

def Holds (files : Files) (path t : Text) : Prop :=
  ∃ bytes, files.opening path = .ok (.ok bytes) ∧ Sources.decode bytes = .ok t

/-- The file cannot be opened or read, or it holds no text. -/
def Unreadable (files : Files) (path cause : Text) : Prop :=
  files.opening path = .error cause ∨ files.opening path = .ok (.error cause) ∨
    ∃ bytes, files.opening path = .ok (.ok bytes) ∧ Sources.decode bytes = .error cause

theorem holds_iff {files : Files} {path t : Text} :
    files.Holds path t ↔ ((files.opening path).bind id).bind Sources.decode = .ok t := by
  rw [Holds]
  cases files.opening path with
  | error cause => simp [Except.bind]
  | ok content => cases content <;> simp [Except.bind]

theorem unreadable_iff {files : Files} {path cause : Text} :
    files.Unreadable path cause ↔
      ((files.opening path).bind id).bind Sources.decode = .error cause := by
  rw [Unreadable]
  cases files.opening path with
  | error cause => simp [Except.bind]
  | ok content => cases content <;> simp [Except.bind]

end Files

namespace Options

inductive RulesFail (o : Options) (files : Files) : Failure → Prop
  | notRead {path cause : Text} (hrules : o.rules = some path)
      (hfile : files.Unreadable path cause) : RulesFail o files (.rulesNotRead path cause)
  | refused {path t : Text} {e : RuleError} (hrules : o.rules = some path)
      (hfile : files.Holds path t) (herror : RuleFile.read t = .error e) :
      RulesFail o files (.rulesRefused path e)

/-- The rules file gives settings; without one there are none. -/
inductive RulesGive (o : Options) (files : Files) : List Setting → Prop
  | none (hrules : o.rules = none) : RulesGive o files []
  | file {path t : Text} {f : RuleFile} (hrules : o.rules = some path)
      (hfile : files.Holds path t) (hread : RuleFile.read t = .ok f) : RulesGive o files f.settings

theorem readRules_of_holds {files : Files} {path t : Text} (h : files.Holds path t) :
    readRules files path = (RuleFile.read t).mapError (.rulesRefused path) := by
  rw [readRules, Files.holds_iff.1 h]
  rfl

theorem readRules_of_unreadable {files : Files} {path cause : Text}
    (h : files.Unreadable path cause) : readRules files path = .error (.rulesNotRead path cause) := by
  rw [readRules, Files.unreadable_iff.1 h]
  rfl

theorem ruleSettings_of_rulesGive {o : Options} {files : Files} {l : List Setting}
    (h : o.RulesGive files l) : o.ruleSettings files = .ok l := by
  cases h with
  | none hrules => rw [ruleSettings, hrules]
  | file hrules hfile hread =>
    simp only [ruleSettings, hrules, readRules_of_holds hfile, hread]
    rfl

theorem ruleSettings_of_rulesFail {o : Options} {files : Files} {f : Failure}
    (h : o.RulesFail files f) : o.ruleSettings files = .error f := by
  cases h with
  | notRead hrules hfile =>
    simp only [ruleSettings, hrules, readRules_of_unreadable hfile]
    rfl
  | refused hrules hfile herror =>
    simp only [ruleSettings, hrules, readRules_of_holds hfile, herror]
    rfl

theorem rulesGive_or_rulesFail (o : Options) (files : Files) :
    (∃ l, o.RulesGive files l) ∨ ∃ f, o.RulesFail files f := by
  cases hrules : o.rules with
  | none => exact .inl ⟨[], .none hrules⟩
  | some path =>
    cases hcontent : ((files.opening path).bind id).bind Sources.decode with
    | error cause => exact .inr ⟨_, .notRead hrules (Files.unreadable_iff.2 hcontent)⟩
    | ok t =>
      have hfile := Files.holds_iff.2 hcontent
      cases hread : RuleFile.read t with
      | error e => exact .inr ⟨_, .refused hrules hfile hread⟩
      | ok f => exact .inl ⟨_, .file hrules hfile hread⟩

end Options

namespace Program

variable {P : Type} [PatternLanguage P]

/-! ### What a run comes to -/

/-- The extractor that settings make, those of the rules file first. -/
def extractor? (P : Type) [PatternLanguage P] (o : Options) (rules : List Setting) :
    Except BlueprintError (Extractor P) :=
  ((({} : Builder).setAll (rules ++ o.settings)).build (P := P)).outcome

/-- The failure of a run: the rules file comes first, then the settings and the blueprints, and then
the first input that cannot be read. -/
inductive FailsWith (P : Type) [PatternLanguage P] (o : Options) (files : Files) : Failure → Prop
  | rules {f : Failure} (hrules : o.RulesFail files f) : FailsWith P o files f
  | blueprint {rules : List Setting} {e : BlueprintError} (hrules : o.RulesGive files rules)
      (hbuild : extractor? P o rules = .error e) : FailsWith P o files (.blueprint e)
  | source {rules : List Setting} {x : Extractor P} {e : SourceError}
      (hrules : o.RulesGive files rules) (hbuild : extractor? P o rules = .ok x)
      (hinputs : Sources.FirstUnread files [] (Sources.orStandard o.inputs) e) :
      FailsWith P o files (.source e)

/-- A run that gets an extractor and all its sources. -/
structure Ready (o : Options) (files : Files) (x : Extractor P) (sources : List Text) : Prop where
  extractor : ∃ rules, o.RulesGive files rules ∧ extractor? P o rules = .ok x
  inputs : ∃ pieces, Sources.AllRead files [] (Sources.orStandard o.inputs) pieces ∧
    sources = pieces.flatten

theorem compile_of_rulesGive {o : Options} {files : Files} {rules : List Setting}
    (h : o.RulesGive files rules) :
    (compile (P := P) o files).2 = (extractor? P o rules).mapError .blueprint := by
  have hsettings := Options.ruleSettings_of_rulesGive h
  simp only [compile, Options.builder, hsettings, Except.map, extractor?, Builder.setAll_append]

theorem compile_eq_ok {o : Options} {files : Files} {rules : List Setting} {x : Extractor P}
    (h : o.RulesGive files rules) (hbuild : extractor? P o rules = .ok x) :
    (compile o files).2 = .ok x := by
  rw [compile_of_rulesGive h, hbuild]
  rfl

theorem compile_eq_error {o : Options} {files : Files} {rules : List Setting}
    {e : BlueprintError} (h : o.RulesGive files rules) (hbuild : extractor? P o rules = .error e) :
    (compile (P := P) o files).2 = .error (.blueprint e) := by
  rw [compile_of_rulesGive h, hbuild]
  rfl

theorem compile_of_rulesFail {o : Options} {files : Files} {f : Failure}
    (h : o.RulesFail files f) : (compile (P := P) o files).2 = .error f := by
  have hsettings := Options.ruleSettings_of_rulesFail h
  simp only [compile, Options.builder, hsettings, Except.map]

theorem failsWith_or_ready (P : Type) [PatternLanguage P] (o : Options) (files : Files) :
    (∃ f, FailsWith P o files f) ∨
      ∃ (x : Extractor P) (sources : List Text), Ready o files x sources := by
  rcases o.rulesGive_or_rulesFail files with ⟨rules, hrules⟩ | ⟨f, hrules⟩
  · cases hbuild : extractor? P o rules with
    | error e => exact .inl ⟨_, .blueprint hrules hbuild⟩
    | ok x =>
      cases hread : Sources.read files o.inputs with
      | error e => exact .inl ⟨_, .source hrules hbuild (Sources.read_eq_error_iff.1 hread)⟩
      | ok sources =>
        exact .inr ⟨x, sources, ⟨rules, hrules, hbuild⟩, Sources.read_eq_ok_iff.1 hread⟩
  · exact .inl ⟨f, .rules hrules⟩

/-! ### Messages -/

theorem getLast?_admitted (filter : LogFilter) (messages : List Message) {m : Message}
    (h : admitted filter [m] = [m]) : (admitted filter (messages ++ [m])).getLast? = some m := by
  have happend : admitted filter (messages ++ [m]) = admitted filter messages ++ [m] := by
    rw [admitted, List.filter_append]
    exact congrArg _ h
  rw [happend, List.getLast?_concat]

theorem runWith_eq (collect : Collector) (o : Options) (color : Bool) (env : Environment)
    {outcome : Outcome} (h : runAll collect P o color env.files = outcome) :
    runWith collect P o color env = { outcome with
      messages := admitted (LogFilter.choose env.logDirectives o.verbosity) outcome.messages } := by
  rw [← h]
  rfl

/-! ### Failing runs -/

theorem runAll_of_failsWith (collect : Collector) {o : Options} (color : Bool) {files : Files}
    {f : Failure} (h : FailsWith P o files f) :
    ∃ before, runAll collect P o color files = ⟨failureCode, [], before ++ [.failure f]⟩ := by
  cases h with
  | rules hrules =>
    have hcompile := compile_of_rulesFail (P := P) hrules
    simp only [runAll, hcompile]
    exact ⟨_, rfl⟩
  | blueprint hrules hbuild =>
    have hcompile := compile_eq_error hrules hbuild
    simp only [runAll, hcompile]
    exact ⟨_, rfl⟩
  | source hrules hbuild hinputs =>
    have hcompile := compile_eq_ok hrules hbuild
    have hread := Sources.read_eq_error_iff.2 hinputs
    simp only [runAll, hcompile, hread]
    exact ⟨_, rfl⟩

theorem runWith_of_failsWith (collect : Collector) {o : Options} (color : Bool)
    {env : Environment} {f : Failure} (h : FailsWith P o env.files f) :
    (runWith collect P o color env).exitCode = 2 ∧
      (runWith collect P o color env).report = [] ∧
      (runWith collect P o color env).messages.getLast? = some (.failure f) := by
  obtain ⟨before, hrun⟩ := runAll_of_failsWith collect color h
  rw [runWith_eq collect o color env hrun]
  exact ⟨rfl, rfl, getLast?_admitted _ before rfl⟩

/-! ### Runs over all sources -/

structure Reports (o : Options) (color : Bool) (x : Extractor P) (sources : List Text)
    (outcome : Outcome) : Prop where
  report : outcome.report =
    (sources.filter fun s => !o.matchesOnly || (x.extract o.contextMap s).isSome).flatMap fun s =>
      LineResult.line o.format color ⟨s, x.attempt o.contextMap s⟩
  exitCode : outcome.exitCode =
    if ∀ s ∈ sources, (x.extract o.contextMap s).isSome = true then 0 else 1
  summary : o.format = .text → ∃ r : Results,
    outcome.messages.getLast? = some (.summary r) ∧ r.total = sources.length ∧
      r.matched = (sources.countP fun s => (x.extract o.contextMap s).isSome) ∧
      r.matched + r.unmatched = r.total

theorem allMatched_run (x : Extractor P) (context : Option Context) (sources : List Text) :
    (x.run context sources).allMatched = true ↔
      ∀ s ∈ sources, (x.extract context s).isSome = true := by
  simp only [Extractor.run, Results.allMatched, List.all_map, List.all_eq_true]
  rfl

theorem matched_run (x : Extractor P) (context : Option Context) (sources : List Text) :
    (x.run context sources).matched =
      sources.countP fun s => (x.extract context s).isSome := by
  simp only [Extractor.run, Results.matched, List.countP_map]
  rfl

theorem report_run (x : Extractor P) (context : Option Context) (sources : List Text)
    (format : Format) (color matchesOnly : Bool) :
    (x.run context sources).report format color matchesOnly =
      (sources.filter fun s => !matchesOnly || (x.extract context s).isSome).flatMap fun s =>
        LineResult.line format color ⟨s, x.attempt context s⟩ := by
  simp only [Extractor.run, Results.report, List.filter_map, List.flatMap_map]
  rfl

theorem runAll_of_ready (collect : Collector) {o : Options} (color : Bool) {files : Files}
    {x : Extractor P} {sources : List Text} (h : Ready o files x sources) :
    ∃ before, runAll collect P o color files = finish collect o color x sources before := by
  obtain ⟨rules, hrules, hbuild⟩ := h.extractor
  have hcompile := compile_eq_ok hrules hbuild
  have hread := Sources.read_eq_ok_iff.2 h.inputs
  simp only [runAll, hcompile, hread]
  exact ⟨_, rfl⟩

theorem runWith_of_ready {collect : Collector} (hcollect : collect.KeepsOrder) {o : Options}
    (color : Bool) {env : Environment} {x : Extractor P} {sources : List Text}
    (h : Ready o env.files x sources) :
    Reports o color x sources (runWith collect P o color env) := by
  obtain ⟨before, hrun⟩ := runAll_of_ready collect color h
  have hresults := Extractor.runWith_eq_run hcollect o.sequential x o.contextMap sources
  rw [runWith_eq collect o color env hrun]
  simp only [finish, hresults]
  refine ⟨report_run x o.contextMap sources o.format color o.matchesOnly, ?_, fun hformat => ?_⟩
  · simp only [allMatched_run]
  · refine ⟨x.run o.contextMap sources, ?_, ?_, matched_run x o.contextMap sources,
      Results.matched_add_unmatched _⟩
    · simp only [hformat]
      exact getLast?_admitted _ _ rfl
    · simp [Results.total, Extractor.run]

/-! ### What options cannot change -/

theorem view_runAll_congr {β : Type} (view : Outcome → β) (collect : Collector) {o o' : Options}
    (color : Bool) {files : Files} (hcompile : compile (P := P) o' files = compile o files)
    (hinputs : o'.inputs = o.inputs)
    (hfinish : ∀ (x : Extractor P) sources before, view (finish collect o' color x sources before) =
      view (finish collect o color x sources before)) :
    view (runAll collect P o' color files) = view (runAll collect P o color files) := by
  simp only [runAll, hcompile, hinputs]
  cases (compile (P := P) o files).2 with
  | error f => rfl
  | ok x =>
    cases Sources.read files o.inputs with
    | error e => rfl
    | ok sources => exact hfinish x sources _

theorem exitCode_withForm {collect : Collector} (hcollect : collect.KeepsOrder) (o : Options)
    (color : Bool) (env : Environment) (format : Format) (matchesOnly sequential : Bool) :
    (runWith collect P { o with
      format := format, matchesOnly := matchesOnly, sequential := sequential } color env).exitCode =
      (runWith collect P o color env).exitCode := by
  refine view_runAll_congr (·.exitCode) collect color rfl rfl fun x sources before => ?_
  simp only [finish, Extractor.runWith_eq_run hcollect]
  rfl

theorem report_withSequential {collect : Collector} (hcollect : collect.KeepsOrder) (o : Options)
    (color : Bool) (env : Environment) (sequential : Bool) :
    (runWith collect P { o with sequential := sequential } color env).report =
      (runWith collect P o color env).report := by
  refine view_runAll_congr (·.report) collect color rfl rfl fun x sources before => ?_
  simp only [finish, Extractor.runWith_eq_run hcollect]
  rfl

end Program

/-- A run fails, reports nothing and ends with what failed, or it gets an extractor and all its
sources, reports what becomes of each of them in their order, and its exit code tells whether all of
them matched.  The form of the report, leaving out what did not match, and taking the sources apart
one after the other do not change the exit code, and the last does not change the report. -/
theorem every_line_reported {P : Type} [PatternLanguage P] {collect : Collector}
    (hcollect : collect.KeepsOrder) (o : Options) (color : Bool) (env : Environment) :
    ((∃ f, Program.FailsWith P o env.files f) ∨
      ∃ (x : Extractor P) (sources : List Text), Program.Ready o env.files x sources) ∧
    (∀ f, Program.FailsWith P o env.files f →
      (Program.runWith collect P o color env).exitCode = 2 ∧
      (Program.runWith collect P o color env).report = [] ∧
      (Program.runWith collect P o color env).messages.getLast? = some (.failure f)) ∧
    (∀ (x : Extractor P) (sources : List Text), Program.Ready o env.files x sources →
      Program.Reports o color x sources (Program.runWith collect P o color env)) ∧
    (∀ (format : Format) (matchesOnly sequential : Bool),
      (Program.runWith collect P { o with
        format := format, matchesOnly := matchesOnly, sequential := sequential } color env).exitCode =
        (Program.runWith collect P o color env).exitCode) ∧
    ∀ sequential : Bool,
      (Program.runWith collect P { o with sequential := sequential } color env).report =
        (Program.runWith collect P o color env).report :=
  ⟨Program.failsWith_or_ready P o env.files,
    fun _ h => Program.runWith_of_failsWith collect color h,
    fun _ _ h => Program.runWith_of_ready hcollect color h,
    Program.exitCode_withForm hcollect o color env,
    Program.report_withSequential hcollect o color env⟩

/-- Takes the two halves of the sources apart at the same time. -/
def Collector.halves : Collector := fun takeApart sources =>
  (sources.take (sources.length / 2)).map takeApart ++
    (sources.drop (sources.length / 2)).map takeApart

theorem Collector.halves_keepsOrder : Collector.halves.KeepsOrder := by
  intro takeApart sources place
  rw [halves, ← List.map_append, List.take_append_drop, List.getElem?_map]

/-- One file, and a standard input whose last line has no end. -/
def twoInputs : Files where
  opening path := if path = ['f'] then .ok (.ok ("ad\n".toUTF8)) else .error []
  standardInput := .ok "ab\nc".toUTF8

/-- The same file, and a standard input that cannot be read. -/
def unreadableInput : Files :=
  { twoInputs with standardInput := .error (.ofString "Is a directory (os error 21)") }

def matchingA : Options where
  inputs := [['-'], ['f'], ['-']]
  blueprints := [.ofString "a$\x7b\x7bx\x7d\x7d"]
  matchesOnly := true

/-- The first input matches in part; the second one fails in another run, and the first one in a
third. -/
theorem every_line_reported_two_inputs :
    (Program.runWith Collector.halves Pattern matchingA false ⟨twoInputs, none⟩).exitCode = 1 ∧
    (Program.runWith Collector.halves Pattern matchingA false ⟨twoInputs, none⟩).report =
      .ofString "✓ a  x=b\n✓ a  x=d\n" ∧
    (∃ r, (Program.runWith Collector.halves Pattern matchingA false
        ⟨twoInputs, none⟩).messages.getLast? = some (.summary r) ∧
      r.total = 3 ∧ r.matched = 2 ∧ r.unmatched = 1) ∧
    (Program.runWith Collector.halves Pattern { matchingA with inputs := [['-'], ['g'], ['f']] }
      false ⟨twoInputs, none⟩).exitCode = 2 ∧
    (Program.runWith Collector.halves Pattern { matchingA with inputs := [['-'], ['g'], ['f']] }
      false ⟨twoInputs, none⟩).report = [] ∧
    (Program.runWith Collector.halves Pattern matchingA false ⟨unreadableInput, none⟩).exitCode = 2 ∧
    (Program.runWith Collector.halves Pattern matchingA false ⟨unreadableInput, none⟩).report = [] ∧
    (Program.runWith Collector.halves Pattern matchingA false
      ⟨unreadableInput, none⟩).messages.getLast? =
        some (.failure (.source (.notRead (.ofString "Is a directory (os error 21)")))) := by
  let x : Extractor Pattern := .single
    ⟨.ofString "a$\x7b\x7bx\x7d\x7d", [.literal ['a'], .placeholder (.rest ['x'])], {}⟩
  have hread : Sources.read twoInputs [['-'], ['f'], ['-']] =
      .ok [['a', 'b'], ['c'], ['a', 'd']] := rfl
  have hmissing : Sources.read twoInputs [['-'], ['g'], ['f']] =
      .error (.notOpened ['g'] []) := rfl
  have hunread : Sources.read unreadableInput [['-'], ['f'], ['-']] =
      .error (.notRead (.ofString "Is a directory (os error 21)")) := rfl
  have hbuild : ∀ inputs,
      Program.extractor? Pattern { matchingA with inputs := inputs } [] = .ok x := by
    intro inputs
    cbv
  have hready : Program.Ready matchingA twoInputs x [['a', 'b'], ['c'], ['a', 'd']] :=
    ⟨⟨[], .none rfl, hbuild _⟩, Sources.read_eq_ok_iff.1 hread⟩
  have hfails : Program.FailsWith Pattern { matchingA with inputs := [['-'], ['g'], ['f']] }
      twoInputs (.source (.notOpened ['g'] [])) :=
    .source (.none rfl) (hbuild _) (Sources.read_eq_error_iff.1 hmissing)
  have hfails' : Program.FailsWith Pattern matchingA unreadableInput
      (.source (.notRead (.ofString "Is a directory (os error 21)"))) :=
    .source (.none rfl) (hbuild _) (Sources.read_eq_error_iff.1 hunread)
  obtain ⟨-, -, hreports, -, -⟩ := every_line_reported (P := Pattern) Collector.halves_keepsOrder
    matchingA false ⟨twoInputs, none⟩
  obtain ⟨-, hfailed, -, -, -⟩ := every_line_reported (P := Pattern) Collector.halves_keepsOrder
    { matchingA with inputs := [['-'], ['g'], ['f']] } false ⟨twoInputs, none⟩
  obtain ⟨-, hfailed', -, -, -⟩ := every_line_reported (P := Pattern) Collector.halves_keepsOrder
    matchingA false ⟨unreadableInput, none⟩
  obtain ⟨hreport, hexit, hsummary⟩ := hreports x _ hready
  obtain ⟨hcode, hnothing, -⟩ := hfailed _ hfails
  obtain ⟨r, hr, htotal, hmatched, hcounts⟩ := hsummary rfl
  have hthree : r.total = 3 := htotal
  have htwo : r.matched = 2 := by
    rw [hmatched]
    decide
  refine ⟨?_, ?_, ⟨r, hr, hthree, htwo, by omega⟩, hcode, hnothing, hfailed' _ hfails'⟩
  · rw [hexit]
    decide
  · rw [hreport]
    decide

end Blueprints
