import Blueprints.Proofs.Settings
import Blueprints.Proofs.RuleGrammar
import Blueprints.Pattern.Basic

/-!
# Printed rules files

A list of directives and blueprints can be written to a file and read back, whatever delimiters and
names occur in it.  The file is then as good as the settings themselves: the main statement is
`printed_rules_keep_settings`.
-/

namespace Blueprints

/-! ### Values -/

/-- Values that can be written on a line. -/
def Directive.Printable : Directive → Prop
  | .delimiters c => ∀ x ∈ c.toText, Text.isBlank x = false
  | .skip names => names ≠ [] ∧ ∀ name ∈ names, IsName name
  | .contextKey key => IsName key
  | .attachKey key => IsName key
  | .failOnRemainder _ => True
  | .strict _ => True

instance : (d : Directive) → Decidable d.Printable
  | .delimiters c => List.decidableBAll (fun x => Text.isBlank x = false) c.toText
  | .skip names => inferInstanceAs (Decidable (names ≠ [] ∧ ∀ name ∈ names, IsName name))
  | .contextKey key => inferInstanceAs (Decidable (IsName key))
  | .attachKey key => inferInstanceAs (Decidable (IsName key))
  | .failOnRemainder _ => .isTrue trivial
  | .strict _ => .isTrue trivial

/-! ### Directives -/

theorem Directive.nameList_joinWith {names : List Text} (hne : names ≠ [])
    (hnames : ∀ name ∈ names, IsName name) :
    NameList names (Text.joinWith [',', ' '] names) := by
  induction names with
  | nil => exact absurd rfl hne
  | cons name more ih =>
    obtain ⟨hname, hmore⟩ := List.forall_mem_cons.1 hnames
    cases more with
    | nil =>
      rw [Text.joinWith_singleton]
      exact .one hname
    | cons next more =>
      have hlist := ih (List.cons_ne_nil next more) hmore
      have hjoin : Text.joinWith [',', ' '] (name :: next :: more) =
          name ++ [] ++ ',' :: ([' '] ++ Text.joinWith [',', ' '] (next :: more)) := by
        simp [Text.joinWith_cons_cons]
      rw [hjoin]
      exact .more hname (by simp [IsSpaces]) (by simp [IsSpaces, Text.isSpace]) hlist

theorem Directive.Printable.hasValue {d : Directive} (h : d.Printable) : d.HasValue d.value := by
  cases d with
  | delimiters c =>
    have hspace : IsSpaces [' '] := by simp [IsSpaces, Text.isSpace]
    exact .delimiters h hspace hspace hspace
  | skip names => exact .skip (nameList_joinWith h.1 h.2)
  | contextKey name => exact .contextKey h
  | attachKey name => exact .attachKey h
  | failOnRemainder on => exact .failOnRemainder on
  | strict on => exact .strict on

theorem Directive.key_not_blank (d : Directive) :
    d.key ≠ [] ∧ ∀ c ∈ d.key, Text.isBlank c = false ∧ isKeyChar c = true := by
  have hkeys : ∀ k ∈ ["delimiters", "skip", "context-key", "attach-key", "fail-on-remainder",
      "strict"], Text.ofString k ≠ [] ∧
        ((Text.ofString k).all fun c => !Text.isBlank c && isKeyChar c) = true := by
    decide +kernel
  have hkey : d.key ≠ [] ∧ (d.key.all fun c => !Text.isBlank c && isKeyChar c) = true := by
    cases d <;> exact hkeys _ (by simp)
  refine ⟨hkey.1, fun c hc => ?_⟩
  simpa using List.all_eq_true.1 hkey.2 c hc

theorem Directive.print_framed {d : Directive} (h : d.Printable) : d.print.Framed := by
  have hkey : d.key.Framed :=
    Text.framed_of_not_blank d.key_not_blank.1 fun c hc => (d.key_not_blank.2 c hc).1
  exact hkey.append [':', ' '] h.hasValue.framed

theorem Directive.Printable.spells {d : Directive} (h : d.Printable) : d.Spells d.print := by
  have hprint : d.print = d.key ++ ([] ++ ':' :: ([' '] ++ d.value)) := by simp [print]
  refine ⟨d.value, h.hasValue, ?_⟩
  rw [(print_framed h).trim_eq]
  exact {
    key_ne := d.key_not_blank.1
    keyChar := fun c hc => (d.key_not_blank.2 c hc).2
    value_head := head?_not_space h.hasValue.framed
    eq := ⟨[], [' '], by simp [IsSpaces], by simp [IsSpaces, Text.isSpace], hprint⟩ }

theorem Text.newline_not_mem_of_not_blank {t : Text} (h : ∀ c ∈ t, Text.isBlank c = false) :
    '\n' ∉ t := by
  intro hmem
  have hblank : Text.isBlank '\n' = true := by decide +kernel
  rw [h '\n' hmem] at hblank
  cases hblank

theorem IsName.newline_not_mem {t : Text} (h : IsName t) : '\n' ∉ t :=
  Text.newline_not_mem_of_not_blank fun c hc => (h.2 c hc).1

theorem newline_not_mem_switch (on : Bool) : '\n' ∉ Directive.switch on :=
  Text.newline_not_mem_of_not_blank (Directive.switch_not_blank on).2

theorem Directive.newline_not_mem_value {d : Directive} (h : d.Printable) : '\n' ∉ d.value := by
  intro hmem
  cases d with
  | delimiters c =>
    rcases Text.mem_joinWith hmem with hspace | ⟨piece, hpiece, hc⟩
    · simp at hspace
    · obtain ⟨x, hx, rfl⟩ := List.mem_map.1 hpiece
      have hnot : '\n' ∉ c.toText := Text.newline_not_mem_of_not_blank h
      rw [List.mem_singleton] at hc
      exact hnot (hc ▸ hx)
  | skip names =>
    rcases Text.mem_joinWith hmem with hcomma | ⟨name, hname, hc⟩
    · simp at hcomma
    · exact (h.2 name hname).newline_not_mem hc
  | contextKey name => exact IsName.newline_not_mem h hmem
  | attachKey name => exact IsName.newline_not_mem h hmem
  | failOnRemainder on => exact newline_not_mem_switch on hmem
  | strict on => exact newline_not_mem_switch on hmem

theorem Directive.newline_not_mem_print {d : Directive} (h : d.Printable) : '\n' ∉ d.print := by
  have hkey : '\n' ∉ d.key :=
    Text.newline_not_mem_of_not_blank fun c hc => (d.key_not_blank.2 c hc).1
  simp [print, hkey, newline_not_mem_value h]

/-! ### Files -/

/-- A blueprint that a file can hold: one line that is neither blank nor a comment. -/
structure IsBlueprintLine (t : Text) : Prop where
  newline_not_mem : '\n' ∉ t
  not_return : t.getLast? ≠ some '\r'
  not_blank : t.trimFront ≠ []
  not_sharp : t.trimFront ≠ ['#']
  not_remark : ¬ ['#', ' '] <+: t.trimFront

instance (t : Text) : Decidable (IsBlueprintLine t) :=
  decidable_of_iff ('\n' ∉ t ∧ t.getLast? ≠ some '\r' ∧ t.trimFront ≠ [] ∧ t.trimFront ≠ ['#'] ∧
    ¬ ['#', ' '] <+: t.trimFront)
    ⟨fun ⟨h, h', h'', h₃, h₄⟩ => ⟨h, h', h'', h₃, h₄⟩,
      fun h => ⟨h.newline_not_mem, h.not_return, h.not_blank, h.not_sharp, h.not_remark⟩⟩

structure RuleFile.Printable (f : RuleFile) : Prop where
  directives : ∀ d ∈ f.directives, d.Printable
  blueprints : ∀ t ∈ f.blueprints, IsBlueprintLine t

instance (f : RuleFile) : Decidable f.Printable :=
  decidable_of_iff ((∀ d ∈ f.directives, d.Printable) ∧ ∀ t ∈ f.blueprints, IsBlueprintLine t)
    ⟨fun ⟨h, h'⟩ => ⟨h, h'⟩, fun h => ⟨h.directives, h.blueprints⟩⟩

namespace RuleFile

theorem isComment_eq_false {t : Text} (h : IsBlueprintLine t) : isComment t = false := by
  have hblank := h.not_blank
  have hsharp := h.not_sharp
  have hremark := h.not_remark
  unfold isComment
  split
  · contradiction
  · contradiction
  · rename_i rest heq
    rw [heq] at hremark
    exact absurd ⟨rest, rfl⟩ hremark
  · rfl

theorem readBody_eq_self {ts : List Text} (h : ∀ t ∈ ts, IsBlueprintLine t) : readBody ts = ts := by
  refine List.filter_eq_self.2 fun t ht => ?_
  simp [isComment_eq_false (h t ht)]

theorem lines_print {f : RuleFile} (h : f.Printable) :
    f.print.lines = f.directives.map Directive.print ++ ['-', '-', '-'] :: f.blueprints := by
  have hlines : ∀ line ∈ f.directives.map Directive.print ++ [['-', '-', '-']] ++ f.blueprints,
      '\n' ∉ line ∧ line.getLast? ≠ some '\r' := by
    intro line hline
    simp only [List.mem_append, List.mem_map, List.mem_singleton] at hline
    rcases hline with (⟨d, hd, hline⟩ | hline) | hline
    · have hd' := h.directives d hd
      obtain ⟨c, hc, hblank⟩ := (Directive.print_framed hd').back
      rw [← hline]
      refine ⟨Directive.newline_not_mem_print hd', fun hreturn => ?_⟩
      rw [hc, Option.some.injEq] at hreturn
      rw [hreturn] at hblank
      exact absurd hblank (by decide +kernel)
    · rw [hline]
      decide
    · exact ⟨(h.blueprints line hline).newline_not_mem, (h.blueprints line hline).not_return⟩
  rw [print, Text.lines_flatMap (fun l hl => (hlines l hl).1) fun l hl => (hlines l hl).2,
    List.append_assoc, List.singleton_append]

theorem header_print {ds : List Directive} (h : ∀ d ∈ ds, d.Printable) :
    Header (ds.map Directive.print) ds := by
  induction ds with
  | nil => exact .nil
  | cons d ds ih =>
    obtain ⟨hd, hds⟩ := List.forall_mem_cons.1 h
    exact .entry (isEntry_of_spells hd.spells) hd.spells (ih hds)

theorem divided_print {f : RuleFile} (h : f.Printable) :
    Divided f.print.lines (f.directives.map Directive.print) f.blueprints := by
  refine ⟨⟨['-', '-', '-'], by decide +kernel, lines_print h⟩, fun line hline => ?_⟩
  obtain ⟨d, hd, rfl⟩ := List.mem_map.1 hline
  exact not_divider_of_spells (h.directives d hd).spells

theorem read_print {f : RuleFile} (h : f.Printable) : read f.print = .ok f :=
  (read_eq_ok_iff (divided_print h)).2
    ⟨header_print h.directives, (readBody_eq_self h.blueprints).symm⟩

end RuleFile

theorem RuleFile.Printable.not_givesEmptyName {f : RuleFile} (h : f.Printable) :
    ¬ f.GivesEmptyName := by
  intro hempty
  rcases hempty with hkey | hkey | ⟨names, hnames, hname⟩
  · obtain ⟨d, hd, hd'⟩ := List.mem_filterMap.1 (List.mem_of_getLast? hkey)
    cases d <;> cases hd'
    exact (h.directives _ hd).1 rfl
  · obtain ⟨d, hd, hd'⟩ := List.mem_filterMap.1 (List.mem_of_getLast? hkey)
    cases d <;> cases hd'
    exact (h.directives _ hd).1 rfl
  · exact ((h.directives _ hnames).2 [] hname).1 rfl

/-- A file that is printed from directives and blueprints gives back exactly these.  They say what
the extractor is: it is compiled from the blueprints under the configuration in which the last
directive for a setting counts and names to skip add up, unless the delimiters clash or, that
checked, a name is empty. -/
theorem printed_rules_keep_settings {P : Type} [PatternLanguage P] (f : RuleFile) :
    (f.Printable → RuleFile.read f.print = .ok f ∧ ¬ f.GivesEmptyName) ∧
    (¬ f.chars.toText.Nodup →
      (({} : Builder).setAll f.settings).build (P := P) = .fail (.clashingDelimiters f.chars)) ∧
    ∀ h : f.chars.toText.Nodup,
      (∀ name, (f.config ⟨f.chars, h⟩).skipped.contains name = true ↔
        ∃ names, .skip names ∈ f.directives ∧ name ∈ names) ∧
      (f.GivesEmptyName → (({} : Builder).setAll f.settings).build (P := P) = .fail .emptyName) ∧
      (¬ f.GivesEmptyName → (({} : Builder).setAll f.settings).build =
        Extractor.compile (P := P) (f.config ⟨f.chars, h⟩) f.blueprints) := by
  obtain ⟨hclash, hbuild⟩ := f.build_settings (P := P)
  refine ⟨fun h => ⟨RuleFile.read_print h, h.not_givesEmptyName⟩, hclash, fun h => ?_⟩
  obtain ⟨hempty, hcompile⟩ := hbuild h
  exact ⟨f.contains_config ⟨f.chars, h⟩, hempty, hcompile⟩

/-- Repeated directives, and names, delimiters and blueprints that look like directives, comments and
dividers. -/
def trickyRules : RuleFile where
  directives := [.delimiters ⟨'-', '-', '-', '-'⟩, .skip [.ofString "#a", .ofString "b:"],
    .contextKey (.ofString "strict:"), .strict true, .delimiters ⟨'#', '@', ':', '-'⟩,
    .skip [.ofString "#a"], .contextKey (.ofString "---"), .strict false]
  blueprints := [.ofString "---", .ofString "#@@x--", .ofString "strict: true"]

theorem printed_rules_keep_settings_tricky :
    RuleFile.read trickyRules.print = .ok trickyRules ∧
    (({} : Builder).setAll trickyRules.settings).build =
      Extractor.compile (P := Pattern) {
        delimiters := { chars := ⟨'#', '@', ':', '-'⟩ }
        skipped := .ofNames [.ofString "#a", .ofString "b:"]
        contextKey := some (.ofString "---") }
        [.ofString "---", .ofString "#@@x--", .ofString "strict: true"] := by
  have hprintable : trickyRules.Printable := by decide +kernel
  obtain ⟨hread, -, hbuild⟩ := printed_rules_keep_settings (P := Pattern) trickyRules
  obtain ⟨-, -, hcompile⟩ := hbuild (by decide)
  exact ⟨(hread hprintable).1, hcompile (hread hprintable).2⟩

end Blueprints
