import Blueprints.Pattern.Basic
import Blueprints.Proofs.GivenArguments
import Blueprints.Proofs.RuleFiles
import Blueprints.Proofs.Runs
import Blueprints.Proofs.Settings

/-!
# Precedence

The settings of a rules file and of a command line make one builder.  What the command line gives
wins, blueprints and names to skip add up, and a switch of the command line can only put a setting
on.  The main statement is `command_line_wins_over_rules`.
-/

namespace Blueprints

/-! ### Rules files -/

/-- The rules file at a path, if there is one; without a path nothing is said. -/
inductive Files.HoldsRules (files : Files) : Option Text → RuleFile → Prop
  | none : HoldsRules files none {}
  | file {path t : Text} {f : RuleFile} (hfile : files.Holds path t)
    (hread : RuleFile.read t = .ok f) : HoldsRules files (some path) f

theorem Files.HoldsRules.rulesGive {files : Files} {o : Options} {f : RuleFile}
    (h : files.HoldsRules o.rules f) : o.RulesGive files f.settings := by
  cases hrules : o.rules with
  | none =>
    rw [hrules] at h
    cases h
    exact .none hrules
  | some path =>
    rw [hrules] at h
    cases h with
    | file hfile hread => exact .file hrules hfile hread

/-! ### Builders -/

namespace Builder

/-- The builder that is left when a rules file and then a command line have been followed. -/
structure Combines (b : Builder) (given : List Given) (f : RuleFile) : Prop where
  blueprints : b.blueprints = f.blueprints ++ Given.valuesOf .blueprint given
  delimiters : b.chars.toText = (Given.valuesOf .delimiters given).getLastD f.chars.toText
  contextKey : b.contextKey = (Given.valuesOf .contextKey given).getLast?.or
    (f.directives.filterMap Directive.contextKey?).getLast?
  attachKey : b.attachKey = (Given.valuesOf .attachKey given).getLast?.or
    (f.directives.filterMap Directive.attachKey?).getLast?
  skipped : ∀ name, b.skipped.contains name = true ↔
    (∃ names, .skip names ∈ f.directives ∧ name ∈ names) ∨ name ∈ Given.valuesOf .skip given
  failOnRemainder : b.failOnRemainder = if ⟨.failOnRemainder, none⟩ ∈ given then true
    else (f.directives.filterMap Directive.failOnRemainder?).getLastD false
  strict : b.strict = if ⟨.strict, none⟩ ∈ given then true
    else (f.directives.filterMap Directive.strict?).getLastD false

section

variable (b : Builder)

theorem setAll_delimiters (c? : Option DelimiterChars) :
    b.setAll ((c?.map Directive.delimiters).toList.flatMap Directive.settings) =
      { b with chars := c?.getD b.chars } := by
  cases c? <;> rfl

theorem setAll_contextKey (key? : Option Text) :
    b.setAll (key?.map .contextKey).toList = { b with contextKey := key?.or b.contextKey } := by
  cases key? <;> rfl

theorem setAll_attachKey (key? : Option Text) :
    b.setAll (key?.map .attachKey).toList = { b with attachKey := key?.or b.attachKey } := by
  cases key? <;> rfl

theorem setAll_failOnRemainder (on : Bool) :
    b.setAll (if on then [.failOnRemainder true] else []) =
      { b with failOnRemainder := on || b.failOnRemainder } := by
  cases on <;> rfl

theorem setAll_strict (on : Bool) :
    b.setAll (if on then [.strict true] else []) = { b with strict := on || b.strict } := by
  cases on <;> rfl

theorem setAll_options (o : Options) :
    b.setAll o.settings = { b with
      blueprints := b.blueprints ++ o.blueprints
      chars := o.delimiters.getD b.chars
      skipped := o.skip.foldl NameSet.add b.skipped
      contextKey := o.contextKey.or b.contextKey
      attachKey := o.attachKey.or b.attachKey
      failOnRemainder := o.failOnRemainder || b.failOnRemainder
      strict := o.strict || b.strict } := by
  unfold Options.settings
  simp only [setAll_append, setAll_blueprint, setAll_skip, setAll_delimiters, setAll_contextKey,
    setAll_attachKey, setAll_failOnRemainder, setAll_strict]

end

variable {words : List Text} {o : Options} {f : RuleFile}

/-- What is given on the command line is in the options, so it wins over what the file says. -/
theorem combines_of_read (h : Options.read words = .ok o) :
    ((({} : Builder).setAll f.settings).setAll o.settings).Combines
      (Given.ofWords none words) f := by
  have hgathers := Options.gathers_of_read h
  rw [setAll_settings, setAll_options]
  constructor
  case blueprints =>
    have hblueprints : o.blueprints = Given.valuesOf .blueprint (Given.ofWords none words) :=
      hgathers.blueprints
    rw [hblueprints]
  case delimiters =>
    have hdelimiters : o.delimiters.map DelimiterChars.toText =
        (Given.valuesOf .delimiters (Given.ofWords none words)).getLast? :=
      hgathers.delimiters.trans Option.or_none
    show (o.delimiters.getD f.chars).toText = _
    rw [List.getLastD_eq_getLast?, ← hdelimiters, Option.getD_map]
  case contextKey =>
    have hkey : o.contextKey = (Given.valuesOf .contextKey (Given.ofWords none words)).getLast? :=
      hgathers.contextKey.trans Option.or_none
    rw [hkey]
  case attachKey =>
    have hkey : o.attachKey = (Given.valuesOf .attachKey (Given.ofWords none words)).getLast? :=
      hgathers.attachKey.trans Option.or_none
    rw [hkey]
  case skipped =>
    intro name
    have hskip : o.skip = Given.valuesOf .skip (Given.ofWords none words) := hgathers.skip
    rw [NameSet.contains_foldl_add, NameSet.contains_ofNames, RuleFile.mem_skippedNames, hskip,
      or_comm]
  case failOnRemainder =>
    have hswitch : o.failOnRemainder =
        (Given.ofWords none words).contains ⟨.failOnRemainder, none⟩ := hgathers.failOnRemainder
    show (o.failOnRemainder || _) = _
    rw [hswitch, List.contains_eq_mem]
    split <;> simp [*]
  case strict =>
    have hswitch : o.strict = (Given.ofWords none words).contains ⟨.strict, none⟩ :=
      hgathers.strict
    show (o.strict || _) = _
    rw [hswitch, List.contains_eq_mem]
    split <;> simp [*]

end Builder

/-! ### Values of the context -/

theorem Options.contextMap_get? (o : Options) (key : Text) :
    o.contextMap.bind (·.get? key) = NameMap.lookup key o.context.reverse := by
  unfold contextMap
  cases o.context with
  | nil => rfl
  | cons p pairs => exact NameMap.get?_ofList (p :: pairs) key

section

variable {args : List Text} {pairs : List (Text × Text)}

theorem eq_map_of_readPair (h : args.map Argument.readPair = pairs.map .ok) :
    args = pairs.map (fun p => p.1 ++ '=' :: p.2) ∧ ∀ p ∈ pairs, '=' ∉ p.1 ∧ p.1 ≠ [] := by
  induction args generalizing pairs with
  | nil =>
    cases pairs with
    | nil => exact ⟨rfl, nofun⟩
    | cons p pairs => cases h
  | cons arg args ih =>
    cases pairs with
    | nil => cases h
    | cons p pairs =>
      obtain ⟨harg, hargs⟩ := List.cons.inj h
      obtain ⟨key, value⟩ := p
      obtain ⟨rfl, hkey⟩ := Argument.readPair_eq_ok_iff.1 harg
      obtain ⟨rfl, hkeys⟩ := ih hargs
      exact ⟨rfl, List.forall_mem_cons.2 ⟨hkey, hkeys⟩⟩

theorem pair_inj {key value key' value' : Text} (hkey : '=' ∉ key) (hkey' : '=' ∉ key')
    (h : key ++ '=' :: value = key' ++ '=' :: value') : key = key' ∧ value = value' := by
  have hcut : Text.cut? '=' (key ++ '=' :: value) = some (key, value) :=
    Text.cut?_eq_some_iff.2 ⟨rfl, hkey⟩
  have hcut' := Text.cut?_eq_some_iff.2 ⟨h, hkey'⟩
  rw [hcut'] at hcut
  cases hcut
  exact ⟨rfl, rfl⟩

theorem lookup_pairs_eq_some_iff (h : args.map Argument.readPair = pairs.map .ok)
    (key value : Text) :
    NameMap.lookup key pairs.reverse = some value ↔
      '=' ∉ key ∧ key ≠ [] ∧ ∃ before after, args = before ++ (key ++ '=' :: value) :: after ∧
        ∀ later, key ++ '=' :: later ∉ after := by
  obtain ⟨rfl, hkeys⟩ := eq_map_of_readPair h
  rw [NameMap.lookup_reverse_eq_some_iff]
  constructor
  · intro hlast
    obtain ⟨before, after, rfl, hafter⟩ := hlast
    obtain ⟨hkey, hne⟩ := hkeys (key, value) (by simp)
    refine ⟨hkey, hne, _, _, List.map_append.trans (congrArg _ List.map_cons), ?_⟩
    intro later hmem
    obtain ⟨p, hp, heq⟩ := List.mem_map.1 hmem
    have hkey' := (hkeys p (by simp [hp])).1
    -- a later argument with these characters in front has the same key, being cut at the first sign
    obtain ⟨rfl, -⟩ := pair_inj hkey hkey' heq.symm
    exact hafter p.2 hp
  · intro hlast
    obtain ⟨hkey, -, before, after, hargs, hafter⟩ := hlast
    obtain ⟨front, back, rfl, rfl, hback⟩ := List.map_eq_append_iff.1 hargs
    obtain ⟨p, back, rfl, hp, rfl⟩ := List.map_eq_cons_iff.1 hback
    obtain ⟨hsame, hvalue⟩ := pair_inj (hkeys p (by simp)).1 hkey hp
    refine ⟨front, back, ?_, fun later hmem => hafter later ?_⟩
    · rw [← hsame, ← hvalue]
    · exact List.mem_map.2 ⟨_, hmem, rfl⟩

end

/-- A command line that is accepted and a rules file that can be read make one builder.  The extractor
is compiled from it; delimiters count and are checked only as they are in the end, names after them,
and blueprints last.  The context has, for each key, the value that the last argument for it gives. -/
theorem command_line_wins_over_rules (P : Type) [PatternLanguage P] {words : List Text}
    {o : Options} {files : Files} {f : RuleFile} (hread : Options.read words = .ok o)
    (hrules : files.HoldsRules
      (Given.valuesOf .rules (Given.ofWords none words)).getLast? f) :
    ∃ b : Builder, o.builder files = .ok b ∧ b.Combines (Given.ofWords none words) f ∧
      Program.compile o files = ((b.build (P := P)).notes,
        (b.build (P := P)).outcome.mapError .blueprint) ∧
      (¬ b.chars.toText.Nodup → b.build (P := P) = .fail (.clashingDelimiters b.chars)) ∧
      (∀ h : b.chars.toText.Nodup,
        (b.GivesEmptyName → b.build (P := P) = .fail .emptyName) ∧
        (¬ b.GivesEmptyName →
          b.build (P := P) = Extractor.compile (b.config ⟨b.chars, h⟩) b.blueprints)) ∧
      (∀ arg ∈ Given.valuesOf .context (Given.ofWords none words),
        ∃ key value, arg = key ++ '=' :: value ∧ '=' ∉ key ∧ key ≠ []) ∧
      ∀ key value, o.contextMap.bind (·.get? key) = some value ↔
        '=' ∉ key ∧ key ≠ [] ∧ ∃ before after,
          Given.valuesOf .context (Given.ofWords none words) =
            before ++ (key ++ '=' :: value) :: after ∧
          ∀ later, key ++ '=' :: later ∉ after := by
  have hgathers := Options.gathers_of_read hread
  have hpath : o.rules = (Given.valuesOf .rules (Given.ofWords none words)).getLast? :=
    hgathers.rules.trans Option.or_none
  rw [← hpath] at hrules
  let b : Builder := (({} : Builder).setAll f.settings).setAll o.settings
  have hbuilder : o.builder files = .ok b := by
    rw [Options.builder, Options.ruleSettings_of_rulesGive hrules.rulesGive]
    rfl
  have hcompile : Program.compile o files = ((b.build (P := P)).notes,
      (b.build (P := P)).outcome.mapError .blueprint) := by
    simp only [Program.compile, hbuilder]
  obtain ⟨hclash, hbuild⟩ := Builder.build_eq P b
  obtain ⟨pairs, hpairs, hargs⟩ := hgathers.context
  refine ⟨b, hbuilder, Builder.combines_of_read hread, hcompile, hclash, hbuild, ?_, ?_⟩
  · intro arg harg
    obtain ⟨heq, hkeys⟩ := eq_map_of_readPair hargs
    rw [heq] at harg
    obtain ⟨p, hp, rfl⟩ := List.mem_map.1 harg
    exact ⟨p.1, p.2, rfl, hkeys p hp⟩
  · intro key value
    have hcontext : o.context = pairs := hpairs
    rw [Options.contextMap_get?, hcontext]
    exact lookup_pairs_eq_some_iff hargs key value

/-- A file whose delimiters clash, and which puts one switch on and another one on and off. -/
def clashingRules : RuleFile where
  directives := [.delimiters ⟨'-', '-', '-', '-'⟩, .skip [['s']], .strict true,
    .failOnRemainder true, .failOnRemainder false]
  blueprints := [['a']]

def repairingWords : List Text :=
  [.ofString "-rf", .ofString "-b", .ofString "#@@y^^", .ofString "--delimiters=#@|^",
    .ofString "-ck=1", .ofString "--context", .ofString "k=2=3", .ofString "-s", .ofString "x"]

theorem command_line_wins_over_rules_repaired :
    ∃ (o : Options) (b : Builder), Options.read repairingWords = .ok o ∧
      o.builder ⟨fun _ => .ok (.ok clashingRules.print.utf8Encode), .ok .empty⟩ = .ok b ∧
      ¬ clashingRules.chars.toText.Nodup ∧ b.chars = ⟨'#', '@', '|', '^'⟩ ∧
      b.blueprints = [['a'], Text.ofString "#@@y^^"] ∧ b.skipped.contains ['s'] = true ∧
      b.skipped.contains ['x'] = true ∧ b.strict = true ∧ b.failOnRemainder = false ∧
      (∃ h, b.build (P := Pattern) = Extractor.compile (b.config ⟨b.chars, h⟩) b.blueprints) ∧
      o.contextMap.bind (·.get? ['k']) = some (Text.ofString "2=3") := by
  let o : Options := {
    blueprints := [Text.ofString "#@@y^^"]
    rules := some ['f']
    context := [(['k'], ['1']), (['k'], Text.ofString "2=3")]
    skip := [['x']]
    delimiters := some ⟨'#', '@', '|', '^'⟩ }
  let files : Files := ⟨fun _ => .ok (.ok clashingRules.print.utf8Encode), .ok .empty⟩
  have hread : Options.read repairingWords = .ok o := rfl
  have hprintable : clashingRules.Printable := by decide +kernel
  have hrules : files.HoldsRules (some ['f']) clashingRules :=
    .file ⟨_, rfl, Sources.decode_utf8Encode _⟩ (RuleFile.read_print hprintable)
  obtain ⟨b, hbuilder, hcombines, -, -, hbuild, -, hcontext⟩ :=
    command_line_wins_over_rules Pattern hread hrules
  have hchars : b.chars = ⟨'#', '@', '|', '^'⟩ := by
    have htext : b.chars.toText = Text.ofString "#@|^" := hcombines.delimiters
    exact Option.some.inj (congrArg DelimiterChars.ofText? htext)
  have hdistinct : b.chars.toText.Nodup := by
    rw [hchars]
    decide
  have hempty : ¬ b.GivesEmptyName := by
    have hcontextKey : b.contextKey = none := hcombines.contextKey
    have hattachKey : b.attachKey = none := hcombines.attachKey
    have hskip : Given.valuesOf .skip (Given.ofWords none repairingWords) = [['x']] := rfl
    unfold Builder.GivesEmptyName
    rw [hcontextKey, hattachKey, hcombines.skipped, hskip]
    simp [clashingRules]
  refine ⟨o, b, hread, hbuilder, by decide, hchars, hcombines.blueprints,
    (hcombines.skipped ['s']).2 (.inl ⟨[['s']], by decide, by decide⟩),
    (hcombines.skipped ['x']).2 (.inr (by decide +kernel)), ?_, ?_,
    ⟨hdistinct, (hbuild hdistinct).2 hempty⟩, ?_⟩
  · rw [hcombines.strict]
    decide +kernel
  · rw [hcombines.failOnRemainder]
    decide +kernel
  · exact (hcontext ['k'] (Text.ofString "2=3")).2
      ⟨by decide, by decide, [Text.ofString "k=1"], [], rfl, nofun⟩

end Blueprints
