import Blueprints.Pattern.Basic
import Blueprints.Proofs.Settings

/-!
# Collected settings

What a builder holds in the end are the values that were set last and all names and blueprints that
were added.  How they were set, and what held on the way, leaves no trace.  The main statement is
`builder_keeps_what_was_set`.
-/

namespace Blueprints

namespace Setting

/-! ### What one setting says -/

def start? : Setting → Option Char
  | start c => some c
  | _ => none

def opening? : Setting → Option Char
  | opening c => some c
  | _ => none

def separator? : Setting → Option Char
  | separator c => some c
  | _ => none

def closing? : Setting → Option Char
  | closing c => some c
  | _ => none

def contextKey? : Setting → Option Text
  | contextKey key => some key
  | _ => none

def attachKey? : Setting → Option Text
  | attachKey key => some key
  | _ => none

def failOnRemainder? : Setting → Option Bool
  | failOnRemainder on => some on
  | _ => none

def strict? : Setting → Option Bool
  | strict on => some on
  | _ => none

def skippedNames : Setting → List Text
  | skip name => [name]
  | skipAll names => names
  | _ => []

def texts : Setting → List Text
  | blueprint t => [t]
  | blueprints ts => ts
  | _ => []

/-- A setting gives another value to what an earlier one set. -/
inductive Overrides : Setting → Setting → Prop
  | start (c d : Char) : Overrides (start c) (start d)
  | opening (c d : Char) : Overrides (opening c) (opening d)
  | separator (c d : Char) : Overrides (separator c) (separator d)
  | closing (c d : Char) : Overrides (closing c) (closing d)
  | contextKey (key old : Text) : Overrides (contextKey key) (contextKey old)
  | attachKey (key old : Text) : Overrides (attachKey key) (attachKey old)
  | failOnRemainder (on old : Bool) : Overrides (failOnRemainder on) (failOnRemainder old)
  | strict (on old : Bool) : Overrides (strict on) (strict old)

/-! ### What settings say in the end -/

/-- The delimiters that hold in the end, which may still clash. -/
def lastChars (l : List Setting) : DelimiterChars where
  start := (l.filterMap start?).getLastD Delimiters.standard.start
  opening := (l.filterMap opening?).getLastD Delimiters.standard.opening
  separator := (l.filterMap separator?).getLastD Delimiters.standard.separator
  closing := (l.filterMap closing?).getLastD Delimiters.standard.closing

def lastConfig (l : List Setting) (delimiters : Delimiters) : Config where
  delimiters := delimiters
  failOnRemainder := (l.filterMap failOnRemainder?).getLastD false
  skipped := .ofNames (l.flatMap skippedNames)
  contextKey := (l.filterMap contextKey?).getLast?
  attachKey := (l.filterMap attachKey?).getLast?
  strict := (l.filterMap strict?).getLastD false

/-- A key that counts in the end is empty, or one of the names to skip. -/
def GiveEmptyName (l : List Setting) : Prop :=
  (l.filterMap contextKey?).getLast? = some [] ∨ (l.filterMap attachKey?).getLast? = some [] ∨
    [] ∈ l.flatMap skippedNames

/-- Two lists of settings say the same in the end: the last values are equal, and so are the names
to skip and the blueprints in their order. -/
structure Agree (l l' : List Setting) : Prop where
  chars : lastChars l = lastChars l'
  contextKey : (l.filterMap contextKey?).getLast? = (l'.filterMap contextKey?).getLast?
  attachKey : (l.filterMap attachKey?).getLast? = (l'.filterMap attachKey?).getLast?
  failOnRemainder : (l.filterMap failOnRemainder?).getLastD false =
    (l'.filterMap failOnRemainder?).getLastD false
  strict : (l.filterMap strict?).getLastD false = (l'.filterMap strict?).getLastD false
  skipped : ∀ name, name ∈ l.flatMap skippedNames ↔ name ∈ l'.flatMap skippedNames
  texts : l.flatMap texts = l'.flatMap texts

/-! ### Values that are set again -/

section Overridden

variable (before : List Setting) {passing after : List Setting}

/-- Of two values the later counts, so one that is set again could as well have been left out. -/
theorem getLast?_filterMap_overridden {β : Type} (given : Setting → Option β)
    (hgiven : ∀ {s old}, Overrides s old → given s = none → given old = none)
    (h : ∀ old ∈ passing, ∃ s ∈ after, Overrides s old) :
    ((before ++ passing ++ after).filterMap given).getLast? =
      ((before ++ after).filterMap given).getLast? := by
  simp only [List.filterMap_append, List.getLast?_append]
  -- a later value hides the passing ones; without any there is nothing that could override them
  cases hafter : (after.filterMap given).getLast? with
  | some value => rfl
  | none =>
    have hnone : ∀ s ∈ after, given s = none := by
      rwa [List.getLast?_eq_none_iff, List.filterMap_eq_nil_iff] at hafter
    have hpassing : passing.filterMap given = [] := by
      rw [List.filterMap_eq_nil_iff]
      intro old hold
      obtain ⟨s, hs, hover⟩ := h old hold
      exact hgiven hover (hnone s hs)
    rw [hpassing, List.getLast?_nil, Option.none_or]

theorem getLastD_filterMap_overridden {β : Type} (given : Setting → Option β)
    (hgiven : ∀ {s old}, Overrides s old → given s = none → given old = none)
    (h : ∀ old ∈ passing, ∃ s ∈ after, Overrides s old) (value : β) :
    ((before ++ passing ++ after).filterMap given).getLastD value =
      ((before ++ after).filterMap given).getLastD value := by
  rw [List.getLastD_eq_getLast?, List.getLastD_eq_getLast?,
    getLast?_filterMap_overridden before given hgiven h]

theorem flatMap_overridden (given : Setting → List Text)
    (hgiven : ∀ {s old}, Overrides s old → given old = [])
    (h : ∀ old ∈ passing, ∃ s ∈ after, Overrides s old) :
    (before ++ passing ++ after).flatMap given = (before ++ after).flatMap given := by
  have hpassing : passing.flatMap given = [] := by
    rw [List.flatMap_eq_nil_iff]
    intro old hold
    obtain ⟨s, -, hover⟩ := h old hold
    exact hgiven hover
  rw [List.flatMap_append, List.flatMap_append, hpassing, List.append_nil, List.flatMap_append]

theorem agree_of_overridden (h : ∀ old ∈ passing, ∃ s ∈ after, Overrides s old) :
    Agree (before ++ passing ++ after) (before ++ after) where
  chars := by
    have hstart := getLastD_filterMap_overridden before start?
      (fun hover hnone => by cases hover <;> trivial) h
    have hopening := getLastD_filterMap_overridden before opening?
      (fun hover hnone => by cases hover <;> trivial) h
    have hseparator := getLastD_filterMap_overridden before separator?
      (fun hover hnone => by cases hover <;> trivial) h
    have hclosing := getLastD_filterMap_overridden before closing?
      (fun hover hnone => by cases hover <;> trivial) h
    simp only [lastChars, hstart, hopening, hseparator, hclosing]
  contextKey := getLast?_filterMap_overridden before contextKey?
    (fun hover hnone => by cases hover <;> trivial) h
  attachKey := getLast?_filterMap_overridden before attachKey?
    (fun hover hnone => by cases hover <;> trivial) h
  failOnRemainder := getLastD_filterMap_overridden before failOnRemainder?
    (fun hover hnone => by cases hover <;> trivial) h false
  strict := getLastD_filterMap_overridden before strict?
    (fun hover hnone => by cases hover <;> trivial) h false
  skipped := by
    intro name
    rw [flatMap_overridden before skippedNames (fun hover => by cases hover <;> rfl) h]
  texts := flatMap_overridden before Setting.texts (fun hover => by cases hover <;> rfl) h

end Overridden

end Setting

namespace Builder

theorem set_eq (b : Builder) (s : Setting) :
    b.set s = {
      blueprints := b.blueprints ++ s.texts
      chars := {
        start := s.start?.getD b.chars.start
        opening := s.opening?.getD b.chars.opening
        separator := s.separator?.getD b.chars.separator
        closing := s.closing?.getD b.chars.closing }
      skipped := s.skippedNames.foldl NameSet.add b.skipped
      contextKey := s.contextKey?.or b.contextKey
      attachKey := s.attachKey?.or b.attachKey
      failOnRemainder := s.failOnRemainder?.getD b.failOnRemainder
      strict := s.strict?.getD b.strict } := by
  have hnone : b.blueprints ++ [] = b.blueprints := List.append_nil _
  cases s with
  | blueprint t => rfl
  | blueprints ts => rfl
  | _ =>
    simp only [Setting.texts, hnone]
    rfl

theorem setAll_eq (b : Builder) (l : List Setting) :
    b.setAll l = {
      blueprints := b.blueprints ++ l.flatMap Setting.texts
      chars := {
        start := (l.filterMap Setting.start?).getLastD b.chars.start
        opening := (l.filterMap Setting.opening?).getLastD b.chars.opening
        separator := (l.filterMap Setting.separator?).getLastD b.chars.separator
        closing := (l.filterMap Setting.closing?).getLastD b.chars.closing }
      skipped := (l.flatMap Setting.skippedNames).foldl NameSet.add b.skipped
      contextKey := (l.filterMap Setting.contextKey?).getLast?.or b.contextKey
      attachKey := (l.filterMap Setting.attachKey?).getLast?.or b.attachKey
      failOnRemainder := (l.filterMap Setting.failOnRemainder?).getLastD b.failOnRemainder
      strict := (l.filterMap Setting.strict?).getLastD b.strict } := by
  induction l generalizing b with
  | nil => simp [setAll]
  | cons s l ih =>
    have hcons : b.setAll (s :: l) = (b.set s).setAll l := rfl
    rw [hcons, ih, set_eq]
    simp only [getLastD_filterMap_cons, getLast?_filterMap_cons_or, List.flatMap_cons,
      List.foldl_append, List.append_assoc]

theorem setAll_standard (l : List Setting) :
    ({} : Builder).setAll l = {
      blueprints := l.flatMap Setting.texts
      chars := Setting.lastChars l
      skipped := .ofNames (l.flatMap Setting.skippedNames)
      contextKey := (l.filterMap Setting.contextKey?).getLast?
      attachKey := (l.filterMap Setting.attachKey?).getLast?
      failOnRemainder := (l.filterMap Setting.failOnRemainder?).getLastD false
      strict := (l.filterMap Setting.strict?).getLastD false } := by
  rw [setAll_eq]
  simp only [Option.or_none, List.nil_append]
  rfl

theorem givesEmptyName_setAll (l : List Setting) :
    (({} : Builder).setAll l).GivesEmptyName ↔ Setting.GiveEmptyName l := by
  rw [setAll_standard, GivesEmptyName, Setting.GiveEmptyName, NameSet.contains_ofNames]

theorem setAll_eq_of_agree {l l' : List Setting} (h : Setting.Agree l l') :
    ({} : Builder).setAll l = ({} : Builder).setAll l' := by
  have hskipped : NameSet.ofNames (l.flatMap Setting.skippedNames) =
      NameSet.ofNames (l'.flatMap Setting.skippedNames) := by
    apply NameSet.ext_contains
    intro name
    rw [NameSet.contains_ofNames, NameSet.contains_ofNames]
    exact h.skipped name
  rw [setAll_standard, setAll_standard, hskipped, h.chars, h.contextKey, h.attachKey,
    h.failOnRemainder, h.strict, h.texts]

end Builder

/-- A builder checks and keeps the values that were set last, and all names and blueprints that were
added: settings that agree in these give the same builder, and what is set again, clashing or not,
leaves no trace. -/
theorem builder_keeps_what_was_set (P : Type) [PatternLanguage P] :
    (∀ settings : List Setting,
      let b := ({} : Builder).setAll settings
      let chars := Setting.lastChars settings
      (∀ e, b.config? = .error e ↔
        (¬ chars.toText.Nodup ∧ e = .clashingDelimiters chars) ∨
          (chars.toText.Nodup ∧ Setting.GiveEmptyName settings ∧ e = .emptyName)) ∧
      (∀ cfg, b.config? = .ok cfg ↔
        ∃ h : chars.toText.Nodup,
          ¬ Setting.GiveEmptyName settings ∧ cfg = Setting.lastConfig settings ⟨chars, h⟩) ∧
      (∀ cfg, b.config? = .ok cfg →
        cfg.delimiters.chars.toText.Nodup ∧
        ∀ name, cfg.skipped.contains name = true ↔ ∃ s ∈ settings, name ∈ s.skippedNames) ∧
      (∀ e, b.config? = .error e → b.build (P := P) = .fail e) ∧
      (∀ cfg, b.config? = .ok cfg →
        b.build (P := P) = Extractor.compile cfg (settings.flatMap Setting.texts))) ∧
    (∀ settings settings' : List Setting, Setting.Agree settings settings' →
      ({} : Builder).setAll settings = ({} : Builder).setAll settings') ∧
    (∀ before passing after : List Setting,
      (∀ old ∈ passing, ∃ s ∈ after, Setting.Overrides s old) →
      ({} : Builder).setAll (before ++ passing ++ after) =
        ({} : Builder).setAll (before ++ after)) := by
  refine ⟨?_, ?_, ?_⟩
  · intro settings b chars
    have hchars : b.chars = chars := by
      simp only [b, chars, Builder.setAll_standard]
    have hempty : b.GivesEmptyName ↔ Setting.GiveEmptyName settings :=
      Builder.givesEmptyName_setAll settings
    have hok : ∀ cfg, b.config? = .ok cfg ↔ ∃ h : chars.toText.Nodup,
        ¬ Setting.GiveEmptyName settings ∧ cfg = Setting.lastConfig settings ⟨chars, h⟩ := by
      intro cfg
      have hcfg : b.config? = .ok cfg ↔ ∃ h : b.chars.toText.Nodup,
          ¬ b.GivesEmptyName ∧ cfg = b.config ⟨b.chars, h⟩ := Builder.config?_eq_ok_iff
      rw [hempty] at hcfg
      simp only [b, Builder.setAll_standard] at hcfg ⊢
      exact hcfg
    refine ⟨?_, hok, ?_, ?_, ?_⟩
    · intro e
      rw [Builder.config?_eq_error_iff, hchars, hempty]
    · intro cfg hcfg
      obtain ⟨hdistinct, -, rfl⟩ := (hok cfg).1 hcfg
      refine ⟨hdistinct, fun name => ?_⟩
      rw [Setting.lastConfig, NameSet.contains_ofNames, List.mem_flatMap]
    · intro e he
      exact Builder.build_of_config?_error P he
    · intro cfg hcfg
      have htexts : b.blueprints = settings.flatMap Setting.texts := by
        simp only [b, Builder.setAll_standard]
      rw [← htexts]
      exact Builder.build_of_config?_ok P hcfg
  · intro settings settings' h
    exact Builder.setAll_eq_of_agree h
  · intro before passing after h
    exact Builder.setAll_eq_of_agree (Setting.agree_of_overridden before h)

namespace Setting

/-- A separator that clashes with the start, and an empty key. -/
def detour : List Setting := [.separator '$', .contextKey []]

def direct : List Setting :=
  [.blueprint ['a'], .separator ';', .skipAll [['y'], ['x']], .contextKey ['k'], .blueprint ['b']]

def summary : List Setting :=
  [.contextKey ['k'], .blueprints [['a'], ['b']], .skip ['x'], .skip ['y'], .separator ';']

end Setting

theorem builder_keeps_what_was_set_after_detour :
    (({} : Builder).setAll Setting.detour).config? =
      .error (.clashingDelimiters ⟨'$', '\x7b', '$', '\x7d'⟩) ∧
    (({} : Builder).setAll [.skipAll [['n'], []]]).config? = .error .emptyName ∧
    ({} : Builder).setAll ([.skip ['x']] ++ Setting.detour ++ Setting.direct) =
      ({} : Builder).setAll ([.skip ['x']] ++ Setting.direct) ∧
    ({} : Builder).setAll ([.skip ['x']] ++ Setting.direct) = ({} : Builder).setAll Setting.summary ∧
    ∃ cfg, (({} : Builder).setAll Setting.summary).config? = .ok cfg ∧
      cfg.delimiters.chars = ⟨'$', '\x7b', ';', '\x7d'⟩ ∧
      cfg.skipped.contains ['y'] = true ∧
      (({} : Builder).setAll Setting.summary).build (P := Pattern) =
        Extractor.compile cfg [['a'], ['b']] := by
  obtain ⟨hchecks, hagree, hoverridden⟩ := builder_keeps_what_was_set Pattern
  obtain ⟨hclashing, -⟩ := hchecks Setting.detour
  obtain ⟨hempty, -⟩ := hchecks [.skipAll [['n'], []]]
  obtain ⟨-, hok, hcontains, -, hbuild⟩ := hchecks Setting.summary
  have hdistinct : (Setting.lastChars Setting.summary).toText.Nodup := by decide
  have hnames : ¬ Setting.GiveEmptyName Setting.summary := by
    unfold Setting.GiveEmptyName
    decide
  have hcfg := (hok _).2 ⟨hdistinct, hnames, rfl⟩
  have hdetour : ∀ old ∈ Setting.detour, ∃ s ∈ Setting.direct, Setting.Overrides s old := by
    intro old hold
    simp only [Setting.detour, List.mem_cons, List.not_mem_nil, or_false] at hold
    rcases hold with rfl | rfl
    · exact ⟨.separator ';', by decide, .separator ';' '$'⟩
    · exact ⟨.contextKey ['k'], by decide, .contextKey ['k'] []⟩
  have hsummary : Setting.Agree ([.skip ['x']] ++ Setting.direct) Setting.summary := by
    refine ⟨rfl, rfl, rfl, rfl, rfl, ?_, rfl⟩
    intro name
    simp [Setting.direct, Setting.summary, Setting.skippedNames, or_comm]
  refine ⟨(hclashing _).2 (.inl ⟨by decide, rfl⟩), (hempty _).2 (.inr ⟨by decide, ?_, rfl⟩),
    hoverridden _ _ _ hdetour, hagree _ _ hsummary, _, hcfg, rfl, ?_, hbuild _ hcfg⟩
  · exact .inr (.inr (by decide))
  · exact ((hcontains _ hcfg).2 _).2 ⟨.skip ['y'], by decide, by decide⟩

end Blueprints
