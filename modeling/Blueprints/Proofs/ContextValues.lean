import Blueprints.Proofs.Choice
import Blueprints.Proofs.Comparison
import Blueprints.Pattern.Basic

/-!
# Values of the context

A context decides which texts are inserted for the placeholders of the context, and nothing else:
neither what matches, nor which blueprint does, nor what is captured.  The main statement is
`context_changes_inserted_text_only`.
-/

namespace Blueprints

variable {P : Type} [PatternLanguage P]

/-- What a context inserts at the place of a component. -/
def Component.contextValue (context : Option Context) (_ : Text) : Component P → Text
  | .placeholder (.context key) => (context.bind (·.get? key)).getD []
  | _ => []

theorem Component.contribution_context (cfg : Config) (context : Option Context) (c : Component P)
    (drain : Text) :
    c.contribution cfg context drain =
      c.contribution cfg none drain ++ c.contextValue context drain := by
  cases c with
  | literal t => exact (List.append_nil t).symm
  | placeholder spec =>
    cases spec with
    | matched name m => cases name <;> exact (List.append_nil _).symm
    | rest name => exact (List.append_nil _).symm
    | context key => rfl
    | attach value => exact (List.append_nil value).symm

theorem Component.contribution_congr (cfg : Config) {context context' : Option Context}
    {c : Component P} (drain : Text)
    (h : ∀ key, c = .placeholder (.context key) →
      context'.bind (·.get? key) = context.bind (·.get? key)) :
    c.contribution cfg context' drain = c.contribution cfg context drain := by
  rw [contribution_context cfg context', contribution_context cfg context]
  have hvalue : c.contextValue context' drain = c.contextValue context drain := by
    cases c with
    | literal t => rfl
    | placeholder spec =>
      cases spec with
      | context key => rw [contextValue, h key rfl, contextValue]
      | matched name m => rfl
      | rest name => rfl
      | attach value => rfl
  rw [hvalue]

/-! ### One blueprint -/

namespace Blueprint

variable (b : Blueprint P) (context context' : Option Context) (source : Text)

theorem extract_two_contexts :
    (∃ miss, b.extract context source = .error miss ∧ b.extract context' source = .error miss) ∨
    ∃ chunks rest, Split b.components source chunks rest ∧
      b.extract context source = .ok (b.resultOf context chunks rest) ∧
      b.extract context' source = .ok (b.resultOf context' chunks rest) :=
  b.extract_compared b rfl rfl context context' source

theorem extract_eq_error_of_context {miss : Miss} (h : b.extract context source = .error miss) :
    b.extract context' source = .error miss := by
  rcases b.extract_two_contexts context context' source with
    ⟨miss', hmiss, hmiss'⟩ | ⟨chunks, rest, -, he, -⟩
  · rw [h] at hmiss
    rw [hmiss', Except.error.inj hmiss]
  · rw [h] at he
    cases he

theorem extract_context_congr
    (h : ∀ key, .placeholder (.context key) ∈ b.components →
      context'.bind (·.get? key) = context.bind (·.get? key)) :
    b.extract context' source = b.extract context source := by
  rcases b.extract_two_contexts context context' source with
    ⟨miss, hmiss, hmiss'⟩ | ⟨chunks, rest, -, he, he'⟩
  · rw [hmiss, hmiss']
  · have hcontributions : contributions b.config context' b.components chunks rest =
        contributions b.config context b.components chunks rest := by
      apply contributions_congr
      intro c hc drain
      apply Component.contribution_congr
      rintro key rfl
      exact h key hc
    rw [he, he', resultOf, resultOf, hcontributions]

end Blueprint

/-! ### The winning blueprint -/

section

variable {context : Option Context} {source : Text} {bs : List (Blueprint P)} {place : Nat}
  {b : Blueprint P} {e : Extraction}

theorem Wins.of_context (h : Wins context source bs place b e) (context' : Option Context) :
    ∃ chunks rest, Split b.components source chunks rest ∧ e = b.resultOf context chunks rest ∧
      Wins context' source bs place b (b.resultOf context' chunks rest) := by
  have hmisses : ∀ (earlier : Nat) (b' : Blueprint P), earlier < place → bs[earlier]? = some b' →
      ∃ miss, b'.extract context' source = .error miss := by
    intro earlier b' hlt hb'
    obtain ⟨miss, hmiss⟩ := h.misses earlier b' hlt hb'
    exact ⟨miss, b'.extract_eq_error_of_context context context' source hmiss⟩
  obtain ⟨chunks, rest, hsplit, he, he'⟩ := b.extract_compared_of_ok b rfl rfl context' h.extract_eq
  exact ⟨chunks, rest, hsplit, he, h.at_place, he', hmisses⟩

end

/-- Whether a source matches, which blueprint wins and what it captures does not depend on the
context.  The extracted text is the one without a context, with the values of the context inserted
at the placeholders that ask for them. -/
theorem context_changes_inserted_text_only (x : Extractor P) (source : Text) :
    (∀ context context' : Option Context,
      (x.extract context source = none ∧ x.extract context' source = none) ∨
      ∃ place b e e', x.extract context source = some e ∧ x.extract context' source = some e' ∧
        Wins context source x.blueprints place b e ∧
        Wins context' source x.blueprints place b e' ∧
        e'.captures = e.captures ∧
        ((∀ key, .placeholder (.context key) ∈ b.components →
          context'.bind (·.get? key) = context.bind (·.get? key)) →
            e'.extracted = e.extracted)) ∧
    (∀ (context : Option Context) (e : Extraction), x.extract context source = some e →
      ∃ place b plain chunks rest, x.extract none source = some plain ∧
        Wins context source x.blueprints place b e ∧
        Wins none source x.blueprints place b plain ∧
        Split b.components source chunks rest ∧
        plain.extracted = contributions b.config none b.components chunks rest ++ rest ∧
        e.extracted = contributionsWith b.config none (Component.contextValue context)
          b.components chunks rest ++ rest) ∧
    x.attempt none source = x.attempt (some .empty) source := by
  refine ⟨fun context context' => ?_, fun context e hx => ?_, ?_⟩
  · cases hx : x.extract context source with
    | none =>
      have hmisses := (Extractor.result_eq_none_iff context source x.blueprints).1 hx
      refine .inl ⟨rfl, (Extractor.result_eq_none_iff context' source x.blueprints).2 ?_⟩
      intro b hb
      obtain ⟨miss, hmiss⟩ := hmisses b hb
      exact ⟨miss, b.extract_eq_error_of_context context context' source hmiss⟩
    | some e =>
      obtain ⟨place, b, hwins⟩ := (Extractor.result_eq_some_iff context source x.blueprints e).1 hx
      obtain ⟨chunks, rest, -, rfl, hwins'⟩ := hwins.of_context context'
      have hx' := (Extractor.result_eq_some_iff context' source x.blueprints _).2
        ⟨place, b, hwins'⟩
      refine .inr ⟨place, b, _, _, rfl, hx', hwins, hwins', rfl, fun hkeys => ?_⟩
      have heq := b.extract_context_congr context context' source hkeys
      rw [hwins.extract_eq, hwins'.extract_eq] at heq
      rw [Except.ok.inj heq]
  · obtain ⟨place, b, hwins⟩ := (Extractor.result_eq_some_iff context source x.blueprints e).1 hx
    obtain ⟨chunks, rest, hsplit, rfl, hplain⟩ := hwins.of_context none
    have hx' := (Extractor.result_eq_some_iff none source x.blueprints _).2 ⟨place, b, hplain⟩
    refine ⟨place, b, _, chunks, rest, hx', hwins, hplain, hsplit, rfl, ?_⟩
    have hcontributions := contributions_eq_contributionsWith b.components chunks rest
      (Component.contribution_context b.config context)
    simp only [Blueprint.resultOf, hcontributions]
  · have hextract : ∀ b ∈ x.blueprints,
        b.extract none source = b.extract (some .empty) source :=
      fun b _ => b.extract_context_congr (some .empty) none source fun key _ => rfl
    have hattempt := Extractor.attemptAll_map_congr (some .empty) source none id x.blueprints
      (fun _ _ => rfl) hextract
    rwa [List.map_id] at hattempt

/-- Two blueprints, of which the second one asks for a value of the context. -/
def keyedExtractor : Extractor Pattern :=
  .bulk [
    { text := .ofString "a"
      components := [.literal ['a']]
      config := { contextKey := some ['c', 't', 'x'] } },
    { text := .ofString "b$\x7b\x7bctx:k\x7d\x7d"
      components := [.literal ['b'], .placeholder (.context ['k'])]
      config := { contextKey := some ['c', 't', 'x'] } }]

/-- The second blueprint wins with a value as well as without one. -/
theorem context_changes_inserted_text_only_of_second :
    keyedExtractor.extract none ['b', 'c'] = some ⟨['b', 'c'], .empty⟩ ∧
    keyedExtractor.extract (some (.ofList [(['k'], ['v'])])) ['b', 'c'] =
      some ⟨['b', 'v', 'c'], .empty⟩ ∧
    ∃ place b, Wins none ['b', 'c'] keyedExtractor.blueprints place b ⟨['b', 'c'], .empty⟩ ∧
      Wins (some (.ofList [(['k'], ['v'])])) ['b', 'c'] keyedExtractor.blueprints place b
        ⟨['b', 'v', 'c'], .empty⟩ := by
  have hplain : keyedExtractor.extract none ['b', 'c'] = some ⟨['b', 'c'], .empty⟩ := by decide
  have hvalue : keyedExtractor.extract (some (.ofList [(['k'], ['v'])])) ['b', 'c'] =
      some ⟨['b', 'v', 'c'], .empty⟩ := by decide
  obtain ⟨place, b, plain, -, -, hplain', hwins, hwins', -⟩ :=
    (context_changes_inserted_text_only keyedExtractor ['b', 'c']).2.1 _ _ hvalue
  rw [hplain, Option.some.injEq] at hplain'
  subst hplain'
  exact ⟨hplain, hvalue, place, b, hwins', hwins⟩

end Blueprints
