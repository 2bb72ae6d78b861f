import Blueprints.Proofs.Comparison
import Blueprints.Proofs.Segmentation

/-!
# Skipped names

A skipped name is not captured: its values stay in the extracted text, at the places of their
components.  Nothing else changes, neither what compiles nor what matches.  The main statement is
`skipping_moves_values_inline`.
-/

namespace Blueprints

variable {P : Type} [PatternLanguage P]

/-- The value a component has on a drain, if its name is among the given ones. -/
def Component.namedValue (names : NameSet) (drain : Text) : Component P → Text
  | .placeholder (.matched (some name) m) => if names.contains name then m.found drain else []
  | .placeholder (.rest name) => if names.contains name then drain else []
  | _ => []

section

variable (cfg : Config) (names : NameSet) (context : Option Context)

theorem contains_empty (name : Text) : (NameMap.empty : NameSet).contains name = false := rfl

theorem Component.contribution_skipping (c : Component P) (drain : Text) :
    c.contribution { cfg with skipped := names } context drain =
      c.contribution { cfg with skipped := .empty } context drain ++ c.namedValue names drain := by
  cases c with
  | literal t => exact (List.append_nil t).symm
  | placeholder spec =>
    cases spec with
    | matched name m => cases name <;> simp [contribution, namedValue, contains_empty]
    | rest name => simp [contribution, namedValue, contains_empty]
    | context key => exact (List.append_nil _).symm
    | attach value => exact (List.append_nil _).symm

theorem Component.captured_skipping (c : Component P) (drain : Text) :
    c.captured { cfg with skipped := names } drain =
      (c.captured { cfg with skipped := .empty } drain).filter
        fun entry => !names.contains entry.1 := by
  cases c with
  | literal t => rfl
  | placeholder spec =>
    cases spec with
    | matched name m =>
      cases name with
      | none => rfl
      | some name => cases hn : names.contains name <;> simp [captured, contains_empty, hn]
    | rest name => cases hn : names.contains name <;> simp [captured, contains_empty, hn]
    | context key => rfl
    | attach value => rfl

theorem capturedEntries_skipping (cs : List (Component P)) (chunks : List Text) (rest : Text) :
    capturedEntries { cfg with skipped := names } cs chunks rest =
      (capturedEntries { cfg with skipped := .empty } cs chunks rest).filter
        fun entry => !names.contains entry.1 := by
  simp only [capturedEntries, Component.captured_skipping cfg names, List.filter_flatMap]

theorem outcome_compile_skipping (t : Text) :
    (Blueprint.compile (P := P) { cfg with skipped := names } t).outcome =
      (Blueprint.compile cfg t).outcome.map fun b =>
        { b with config := { cfg with skipped := names } } :=
  Blueprint.outcome_compile_congr cfg { cfg with skipped := names } rfl (fun _ => rfl) t

end

/-- What skipping names does to an extraction. -/
structure MovesInline (cfg : Config) (context : Option Context) (names : NameSet)
    (cs : List (Component P)) (source : Text) (plain skipping : Extraction) : Prop where
  captures_eq : skipping.captures = plain.captures.filter fun name => !names.contains name
  inserted : ∃ chunks rest, Split cs source chunks rest ∧
    plain.extracted = contributions cfg context cs chunks rest ++ rest ∧
    skipping.extracted =
      contributionsWith cfg context (Component.namedValue names) cs chunks rest ++ rest ∧
    skipping.extracted.length = plain.extracted.length +
      (insertions (Component.namedValue names) cs chunks rest).flatten.length
  sublist : plain.extracted.Sublist skipping.extracted

theorem movesInline_of_split (cfg : Config) (context : Option Context) (names : NameSet)
    (t : Text) {cs : List (Component P)} {source rest : Text} {chunks : List Text}
    (h : Split cs source chunks rest) :
    MovesInline { cfg with skipped := .empty } context names cs source
      (Blueprint.resultOf ⟨t, cs, { cfg with skipped := .empty }⟩ context chunks rest)
      (Blueprint.resultOf ⟨t, cs, { cfg with skipped := names }⟩ context chunks rest) := by
  have hextracted : contributions { cfg with skipped := names } context cs chunks rest =
      contributionsWith { cfg with skipped := .empty } context (Component.namedValue names) cs
        chunks rest :=
    contributions_eq_contributionsWith cs chunks rest
      (Component.contribution_skipping cfg names context)
  have hsublist := contributions_sublist { cfg with skipped := .empty } context
    (Component.namedValue names) cs chunks rest
  have hlength := length_contributionsWith { cfg with skipped := .empty } context
    (Component.namedValue names) cs chunks rest
  refine ⟨?_, ⟨chunks, rest, h, rfl, ?_, ?_⟩, ?_⟩
  · simp only [Blueprint.resultOf, capturedEntries_skipping cfg names, NameMap.filter_ofList]
  · simp only [Blueprint.resultOf, hextracted]
  · simp only [Blueprint.resultOf, hextracted, List.length_append, hlength]
    omega
  · simp only [Blueprint.resultOf, hextracted]
    exact hsublist.append (.refl rest)

/-- Whether names are skipped changes nothing for compiling and matching.  On a match their values
leave the captures and stand in the extracted text where their components are. -/
theorem skipping_moves_values_inline (cfg : Config) (names : NameSet) (t : Text) :
    (∃ e, (Blueprint.compile (P := P) { cfg with skipped := .empty } t).outcome = .error e ∧
      (Blueprint.compile (P := P) { cfg with skipped := names } t).outcome = .error e) ∨
    ∃ b b' : Blueprint P,
      (Blueprint.compile { cfg with skipped := .empty } t).outcome = .ok b ∧
      (Blueprint.compile { cfg with skipped := names } t).outcome = .ok b' ∧
      b'.components = b.components ∧
      ∀ (context : Option Context) (source : Text),
        (∃ miss, b.extract context source = .error miss ∧
          b'.extract context source = .error miss) ∨
        ∃ plain skipping, b.extract context source = .ok plain ∧
          b'.extract context source = .ok skipping ∧
          MovesInline b.config context names b.components source plain skipping := by
  have hcompile := outcome_compile_skipping (P := P) { cfg with skipped := .empty } names t
  rw [hcompile, Blueprint.outcome_compile]
  cases (Component.ofText (P := P) { cfg with skipped := .empty } t).outcome with
  | error e => exact .inl ⟨e, rfl, rfl⟩
  | ok cs =>
    refine .inr ⟨_, _, rfl, rfl, rfl, fun context source => ?_⟩
    rcases Blueprint.extract_compared ⟨t, cs, { cfg with skipped := .empty }⟩
      ⟨t, cs, { cfg with skipped := names }⟩ rfl rfl context context source with
      hmiss | ⟨chunks, rest, hsplit, hplain, hskipping⟩
    · exact .inl hmiss
    · exact .inr ⟨_, _, hplain, hskipping, movesInline_of_split cfg context names t hsplit⟩

end Blueprints
