import Blueprints.Rules.RuleFile

/-!
# Settings of rules files

Of several directives for one setting the last counts; skipped names and blueprints add up.  What a
file says is therefore one configuration, whatever the order of its directives.
-/

namespace Blueprints

/-! ### The last value -/

theorem getLastD_filterMap_cons {α β : Type} (given : α → Option β) (a : α) (l : List α) (b : β) :
    ((a :: l).filterMap given).getLastD b = (l.filterMap given).getLastD ((given a).getD b) := by
  cases h : given a with
  | none => rw [List.filterMap_cons_none h, Option.getD_none]
  | some c => rw [List.filterMap_cons_some h, List.getLastD_cons, Option.getD_some]

theorem getLast?_filterMap_cons_or {α β : Type} (given : α → Option β) (a : α) (l : List α)
    (o : Option β) :
    ((a :: l).filterMap given).getLast?.or o =
      (l.filterMap given).getLast?.or ((given a).or o) := by
  cases h : given a with
  | none => rw [List.filterMap_cons_none h, Option.none_or]
  | some c =>
    rw [List.filterMap_cons_some h, List.getLast?_cons]
    cases (l.filterMap given).getLast? <;> rfl

/-! ### What one directive says -/

namespace Directive

def chars? : Directive → Option DelimiterChars
  | delimiters c => some c
  | _ => none

def skippedNames : Directive → List Text
  | skip names => names
  | _ => []

def contextKey? : Directive → Option Text
  | contextKey key => some key
  | _ => none

def attachKey? : Directive → Option Text
  | attachKey key => some key
  | _ => none

def failOnRemainder? : Directive → Option Bool
  | failOnRemainder on => some on
  | _ => none

def strict? : Directive → Option Bool
  | strict on => some on
  | _ => none

end Directive

/-! ### What a file says -/

namespace RuleFile

/-- The delimiters that hold in the end, which may still clash. -/
def chars (f : RuleFile) : DelimiterChars :=
  (f.directives.filterMap Directive.chars?).getLastD Delimiters.standard.chars

def config (f : RuleFile) (delimiters : Delimiters) : Config where
  delimiters := delimiters
  failOnRemainder := (f.directives.filterMap Directive.failOnRemainder?).getLastD false
  skipped := .ofNames (f.directives.flatMap Directive.skippedNames)
  contextKey := (f.directives.filterMap Directive.contextKey?).getLast?
  attachKey := (f.directives.filterMap Directive.attachKey?).getLast?
  strict := (f.directives.filterMap Directive.strict?).getLastD false

/-- A key that counts in the end is empty, or one of the names to skip. -/
def GivesEmptyName (f : RuleFile) : Prop :=
  (f.directives.filterMap Directive.contextKey?).getLast? = some [] ∨
    (f.directives.filterMap Directive.attachKey?).getLast? = some [] ∨
      ∃ names, .skip names ∈ f.directives ∧ [] ∈ names

end RuleFile

namespace Builder

theorem setAll_skip (b : Builder) (names : List Text) :
    b.setAll (names.map .skip) = { b with skipped := names.foldl NameSet.add b.skipped } := by
  induction names generalizing b with
  | nil => rfl
  | cons name names ih => exact ih (b.set (.skip name))

theorem setAll_blueprint (b : Builder) (ts : List Text) :
    b.setAll (ts.map .blueprint) = { b with blueprints := b.blueprints ++ ts } := by
  induction ts generalizing b with
  | nil => simp [setAll]
  | cons t ts ih =>
    have h := ih (b.set (.blueprint t))
    simpa [setAll, set] using h

def GivesEmptyName (b : Builder) : Prop :=
  b.contextKey = some [] ∨ b.attachKey = some [] ∨ b.skipped.contains [] = true

def config (b : Builder) (delimiters : Delimiters) : Config where
  delimiters := delimiters
  failOnRemainder := b.failOnRemainder
  skipped := b.skipped
  contextKey := b.contextKey
  attachKey := b.attachKey
  strict := b.strict

theorem config?_eq_ok_iff {b : Builder} {cfg : Config} :
    b.config? = .ok cfg ↔
      ∃ h : b.chars.toText.Nodup, ¬ b.GivesEmptyName ∧ cfg = b.config ⟨b.chars, h⟩ := by
  unfold config? Delimiters.ofChars? GivesEmptyName
  by_cases hdistinct : b.chars.toText.Nodup
  · by_cases hempty : b.contextKey = some [] ∨ b.attachKey = some [] ∨ b.skipped.contains [] = true
    · simp [hdistinct, hempty]
    · simp only [hdistinct, hempty, dite_true, if_false, not_false_eq_true, true_and,
        Except.ok.injEq, exists_true_left]
      exact eq_comm
  · simp [hdistinct]

/-- Clashing delimiters are reported before empty names. -/
theorem config?_eq_error_iff {b : Builder} {e : BlueprintError} :
    b.config? = .error e ↔
      (¬ b.chars.toText.Nodup ∧ e = .clashingDelimiters b.chars) ∨
        (b.chars.toText.Nodup ∧ b.GivesEmptyName ∧ e = .emptyName) := by
  unfold config? Delimiters.ofChars? GivesEmptyName
  by_cases hdistinct : b.chars.toText.Nodup
  · by_cases hempty : b.contextKey = some [] ∨ b.attachKey = some [] ∨ b.skipped.contains [] = true
    · simp only [hdistinct, hempty, dite_true, if_true, Except.error.injEq, not_true_eq_false,
        false_and, true_and, false_or]
      exact eq_comm
    · simp [hdistinct, hempty]
  · simp only [hdistinct, dite_false, Except.error.injEq, not_false_eq_true, true_and, false_and,
      or_false]
    exact eq_comm

theorem build_of_config?_error (P : Type) [PatternLanguage P] {b : Builder} {e : BlueprintError}
    (h : b.config? = .error e) : b.build (P := P) = .fail e := by
  rw [build, h]

theorem build_of_config?_ok (P : Type) [PatternLanguage P] {b : Builder} {cfg : Config}
    (h : b.config? = .ok cfg) : b.build (P := P) = Extractor.compile cfg b.blueprints := by
  rw [build, h]

theorem build_eq (P : Type) [PatternLanguage P] (b : Builder) :
    (¬ b.chars.toText.Nodup → b.build (P := P) = .fail (.clashingDelimiters b.chars)) ∧
    ∀ h : b.chars.toText.Nodup,
      (b.GivesEmptyName → b.build (P := P) = .fail .emptyName) ∧
      (¬ b.GivesEmptyName →
        b.build (P := P) = Extractor.compile (b.config ⟨b.chars, h⟩) b.blueprints) := by
  refine ⟨fun hclash => ?_, fun h => ⟨fun hempty => ?_, fun hempty => ?_⟩⟩
  · exact build_of_config?_error P (config?_eq_error_iff.2 (.inl ⟨hclash, rfl⟩))
  · exact build_of_config?_error P (config?_eq_error_iff.2 (.inr ⟨h, hempty, rfl⟩))
  · exact build_of_config?_ok P (config?_eq_ok_iff.2 ⟨h, hempty, rfl⟩)

def follow (b : Builder) (d : Directive) : Builder := b.setAll d.settings

theorem follow_eq (b : Builder) (d : Directive) :
    b.follow d = { b with
      chars := d.chars?.getD b.chars
      skipped := d.skippedNames.foldl NameSet.add b.skipped
      contextKey := d.contextKey?.or b.contextKey
      attachKey := d.attachKey?.or b.attachKey
      failOnRemainder := d.failOnRemainder?.getD b.failOnRemainder
      strict := d.strict?.getD b.strict } := by
  cases d with
  | skip names => exact setAll_skip b names
  | _ => rfl

/-- Of several directives for one setting the last counts, and names to skip add up. -/
theorem foldl_follow (b : Builder) (ds : List Directive) :
    ds.foldl follow b = { b with
      chars := (ds.filterMap Directive.chars?).getLastD b.chars
      skipped := (ds.flatMap Directive.skippedNames).foldl NameSet.add b.skipped
      contextKey := (ds.filterMap Directive.contextKey?).getLast?.or b.contextKey
      attachKey := (ds.filterMap Directive.attachKey?).getLast?.or b.attachKey
      failOnRemainder := (ds.filterMap Directive.failOnRemainder?).getLastD b.failOnRemainder
      strict := (ds.filterMap Directive.strict?).getLastD b.strict } := by
  induction ds generalizing b with
  | nil => rfl
  | cons d ds ih =>
    rw [List.foldl_cons, ih, follow_eq]
    simp only [getLastD_filterMap_cons, getLast?_filterMap_cons_or, List.flatMap_cons,
      List.foldl_append]

theorem setAll_settings (f : RuleFile) :
    ({} : Builder).setAll f.settings = {
      blueprints := f.blueprints
      chars := f.chars
      skipped := .ofNames (f.directives.flatMap Directive.skippedNames)
      contextKey := (f.directives.filterMap Directive.contextKey?).getLast?
      attachKey := (f.directives.filterMap Directive.attachKey?).getLast?
      failOnRemainder := (f.directives.filterMap Directive.failOnRemainder?).getLastD false
      strict := (f.directives.filterMap Directive.strict?).getLastD false } := by
  have hdirectives : ({} : Builder).setAll (f.directives.flatMap Directive.settings) =
      f.directives.foldl follow {} := List.foldl_flatMap ..
  rw [RuleFile.settings, setAll_append, setAll_blueprint, hdirectives, foldl_follow]
  simp only [Option.or_none, List.nil_append]
  rfl

end Builder

namespace RuleFile

theorem mem_skippedNames {f : RuleFile} {name : Text} :
    name ∈ f.directives.flatMap Directive.skippedNames ↔
      ∃ names, .skip names ∈ f.directives ∧ name ∈ names := by
  rw [List.mem_flatMap]
  constructor
  · intro h
    obtain ⟨d, hd, hname⟩ := h
    cases d with
    | skip names => exact ⟨names, hd, hname⟩
    | _ => cases hname
  · intro h
    obtain ⟨names, hnames, hname⟩ := h
    exact ⟨.skip names, hnames, hname⟩

theorem contains_config (f : RuleFile) (delimiters : Delimiters) (name : Text) :
    (f.config delimiters).skipped.contains name = true ↔
      ∃ names, .skip names ∈ f.directives ∧ name ∈ names := by
  rw [config, NameSet.contains_ofNames, mem_skippedNames]

theorem build_settings {P : Type} [PatternLanguage P] (f : RuleFile) :
    (¬ f.chars.toText.Nodup →
      (({} : Builder).setAll f.settings).build (P := P) = .fail (.clashingDelimiters f.chars)) ∧
    ∀ h : f.chars.toText.Nodup,
      (f.GivesEmptyName → (({} : Builder).setAll f.settings).build (P := P) = .fail .emptyName) ∧
      (¬ f.GivesEmptyName → (({} : Builder).setAll f.settings).build =
        Extractor.compile (P := P) (f.config ⟨f.chars, h⟩) f.blueprints) := by
  have hname : NameMap.contains (NameSet.ofNames (f.directives.flatMap Directive.skippedNames)) [] =
      true ↔ ∃ names, .skip names ∈ f.directives ∧ [] ∈ names := by
    rw [NameSet.contains_ofNames, mem_skippedNames]
  have hbuild := Builder.build_eq P (({} : Builder).setAll f.settings)
  rw [Builder.setAll_settings] at hbuild ⊢
  rw [GivesEmptyName, ← hname]
  exact hbuild

end RuleFile

end Blueprints
