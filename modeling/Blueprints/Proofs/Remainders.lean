import Blueprints.Proofs.Choice
import Blueprints.Proofs.Comparison
import Blueprints.Proofs.Faults
import Blueprints.Proofs.Rendering
import Blueprints.Pattern.Basic

/-!
# Remainders

A configuration may take a rest of the source that no component consumed for a miss.  That turns
matches into misses and changes nothing else; in a list of blueprints a later one may win then.  The
main statement is `remainders_only_refuse`.
-/

namespace Blueprints

variable {P : Type} [PatternLanguage P]

/-! ### One blueprint -/

theorem Split.rest_eq_nil {front : List (Component P)} {name source rest : Text}
    {chunks : List Text} (h : Split (front ++ [.placeholder (.rest name)]) source chunks rest) :
    rest = [] := by
  induction front generalizing source chunks with
  | nil =>
    obtain ⟨chunk, later, drain, -, hsource, hconsumes, hlast⟩ := Split.cons_iff.1 h
    have hchunk : chunk = source := hconsumes.1
    have hdrain : drain = rest := (Split.nil_iff.1 hlast).2
    rw [hchunk] at hsource
    rw [← hdrain]
    exact List.self_eq_append_right.1 hsource
  | cons c front ih =>
    obtain ⟨-, later, drain, -, -, -, hlater⟩ := Split.cons_iff.1 h
    exact ih hlater

/-- Either nothing is left over and both configurations agree, or a remainder makes the difference. -/
theorem equal_or_leftover (cfg : Config) (t : Text) (cs : List (Component P))
    (context : Option Context) (source : Text) :
    (Blueprint.extract ⟨t, cs, { cfg with failOnRemainder := true }⟩ context source =
        Blueprint.extract ⟨t, cs, { cfg with failOnRemainder := false }⟩ context source ∧
      ∀ chunks rest, Split cs source chunks rest → rest = []) ∨
    ∃ chunks rest e, Split cs source chunks rest ∧ rest ≠ [] ∧
      Blueprint.extract ⟨t, cs, { cfg with failOnRemainder := false }⟩ context source = .ok e ∧
      Blueprint.extract ⟨t, cs, { cfg with failOnRemainder := true }⟩ context source =
        .error (.leftover rest) := by
  let refusing : Blueprint P := ⟨t, cs, { cfg with failOnRemainder := true }⟩
  let admitting : Blueprint P := ⟨t, cs, { cfg with failOnRemainder := false }⟩
  by_cases hsplit : ∃ chunks rest, Split cs source chunks rest
  · obtain ⟨chunks, rest, hsplit⟩ := hsplit
    have hadmitting := admitting.extract_of_split context hsplit
    have hrefusing := refusing.extract_of_split context hsplit
    cases rest with
    | nil =>
      refine .inl ⟨hrefusing.trans hadmitting.symm, fun chunks' rest' hsplit' => ?_⟩
      exact (hsplit'.unique hsplit).2
    | cons c rest =>
      exact .inr ⟨chunks, c :: rest, _, hsplit, List.cons_ne_nil c rest, hadmitting, hrefusing⟩
  · have hno : ∀ chunks rest, ¬ Split cs source chunks rest :=
      fun chunks rest h => hsplit ⟨chunks, rest, h⟩
    obtain ⟨position, drain, hstuck, hstuck'⟩ :=
      refusing.extract_of_not_split admitting rfl context context hno
    exact .inl ⟨hstuck.trans hstuck'.symm, fun chunks rest h => absurd h (hno chunks rest)⟩

/-- What it does to one blueprint to take a remainder for a miss. -/
structure RefusesRemainders (context : Option Context) (source : Text)
    (refusing admitting : Blueprint P) : Prop where
  match_of_match : ∀ e, refusing.extract context source = .ok e →
    admitting.extract context source = .ok e
  miss_of_miss : ∀ miss, admitting.extract context source = .error miss →
    refusing.extract context source = .error miss
  lost_iff :
    (∃ e miss, admitting.extract context source = .ok e ∧
      refusing.extract context source = .error miss) ↔
    ∃ chunks rest, Split admitting.components source chunks rest ∧ rest ≠ [] ∧ rest <:+ source
  eq_of_endsWithRest : EndsWithRest admitting.components →
    refusing.extract context source = admitting.extract context source

theorem refusesRemainders (cfg : Config) (t : Text) (cs : List (Component P))
    (context : Option Context) (source : Text) :
    RefusesRemainders context source ⟨t, cs, { cfg with failOnRemainder := true }⟩
      ⟨t, cs, { cfg with failOnRemainder := false }⟩ := by
  rcases equal_or_leftover cfg t cs context source with
    ⟨heq, hnothing⟩ | ⟨chunks, rest, e, hsplit, hrest, hmatch, hlost⟩
  · refine ⟨fun e he => heq ▸ he, fun miss hmiss => heq ▸ hmiss, ⟨?_, ?_⟩, fun _ => heq⟩
    · intro h
      obtain ⟨e, miss, he, hmiss⟩ := h
      rw [heq, he] at hmiss
      cases hmiss
    · intro h
      obtain ⟨chunks, rest, hsplit, hrest, -⟩ := h
      exact absurd (hnothing chunks rest hsplit) hrest
  · have hsuffix : rest <:+ source := ⟨chunks.flatten, hsplit.source_eq.symm⟩
    refine ⟨fun e' he' => ?_, fun miss hmiss => ?_, ⟨fun _ => ?_, fun _ => ?_⟩, fun hends => ?_⟩
    · rw [hlost] at he'
      cases he'
    · rw [hmatch] at hmiss
      cases hmiss
    · exact ⟨chunks, rest, hsplit, hrest, hsuffix⟩
    · exact ⟨e, _, hmatch, hlost⟩
    · obtain ⟨front, name, hcs⟩ := hends
      have hcs' : cs = front ++ [.placeholder (.rest name)] := hcs
      rw [hcs'] at hsplit
      exact absurd hsplit.rest_eq_nil hrest

/-! ### Lists of blueprints -/

theorem outcome_compile_remainders (cfg : Config) (refuses : Bool) (ts : List Text) :
    (Extractor.compile (P := P) { cfg with failOnRemainder := refuses } ts).outcome =
      (Extractor.compile cfg ts).outcome.map
        (Extractor.withConfig { cfg with failOnRemainder := refuses }) :=
  Extractor.outcome_compile_congr cfg { cfg with failOnRemainder := refuses } rfl (fun _ => rfl) ts

omit [PatternLanguage P] in
theorem blueprint_at_place (cfg : Config) (x : Extractor P) (place : Nat) :
    (x.withConfig cfg).blueprints[place]? =
      x.blueprints[place]?.map fun b => { b with config := cfg } := by
  rw [Extractor.blueprints_withConfig, List.getElem?_map]

theorem refusesRemainders_at_place (cfg : Config) (x : Extractor P) (context : Option Context)
    (source : Text) {place : Nat} {b b' : Blueprint P}
    (hb : (x.withConfig { cfg with failOnRemainder := true }).blueprints[place]? = some b)
    (hb' : (x.withConfig { cfg with failOnRemainder := false }).blueprints[place]? = some b') :
    RefusesRemainders context source b b' := by
  rw [blueprint_at_place] at hb hb'
  obtain ⟨original, hplace, rfl⟩ := Option.map_eq_some_iff.1 hb
  rw [hplace] at hb'
  cases hb'
  exact refusesRemainders cfg original.text original.components context source

/-- Where a blueprint wins in spite of the refusal, no later one wins without it. -/
theorem exists_wins_admitting (cfg : Config) (x : Extractor P) {context : Option Context}
    {source : Text} {place : Nat} {b : Blueprint P} {e : Extraction}
    (h : Wins context source (x.withConfig { cfg with failOnRemainder := true }).blueprints place
      b e) :
    ∃ place' b' e', place' ≤ place ∧
      Wins context source (x.withConfig { cfg with failOnRemainder := false }).blueprints place'
        b' e' := by
  have hb := h.at_place
  rw [blueprint_at_place] at hb
  obtain ⟨original, hplace, -⟩ := Option.map_eq_some_iff.1 hb
  have hb' : (x.withConfig { cfg with failOnRemainder := false }).blueprints[place]? =
      some { original with config := { cfg with failOnRemainder := false } } := by
    rw [blueprint_at_place, hplace, Option.map_some]
  have hrefuses := refusesRemainders_at_place cfg x context source h.at_place hb'
  exact exists_wins_of_match hb' (hrefuses.match_of_match e h.extract_eq)

/-- To take a remainder for a miss changes nothing for compiling and turns some matches into misses.
It loses exactly the matches that leave something over, so none of a blueprint that ends with a
placeholder for the rest.  Where a list of blueprints still matches, it matches without the refusal
too, and no later blueprint wins then. -/
theorem remainders_only_refuse (cfg : Config) (ts : List Text) :
    (∃ e, (Extractor.compile (P := P) { cfg with failOnRemainder := true } ts).outcome = .error e ∧
      (Extractor.compile (P := P) { cfg with failOnRemainder := false } ts).outcome = .error e) ∨
    ∃ refusing admitting : Extractor P,
      (Extractor.compile { cfg with failOnRemainder := true } ts).outcome = .ok refusing ∧
      (Extractor.compile { cfg with failOnRemainder := false } ts).outcome = .ok admitting ∧
      refusing.blueprints.map (·.components) = admitting.blueprints.map (·.components) ∧
      (∀ (place : Nat) (b b' : Blueprint P), refusing.blueprints[place]? = some b →
        admitting.blueprints[place]? = some b' →
        ∀ context source, RefusesRemainders context source b b') ∧
      ∀ context source e, refusing.extract context source = some e →
        ∃ place b place' b' e', Wins context source refusing.blueprints place b e ∧
          admitting.extract context source = some e' ∧
          Wins context source admitting.blueprints place' b' e' ∧ place' ≤ place := by
  rw [outcome_compile_remainders cfg true, outcome_compile_remainders cfg false]
  cases (Extractor.compile (P := P) cfg ts).outcome with
  | error e => exact .inl ⟨e, rfl, rfl⟩
  | ok x =>
    refine .inr ⟨_, _, rfl, rfl, ?_, ?_, ?_⟩
    · simp only [Extractor.blueprints_withConfig, List.map_map, Function.comp_def]
    · intro place b b' hb hb' context source
      exact refusesRemainders_at_place cfg x context source hb hb'
    · intro context source e he
      obtain ⟨place, b, hwins⟩ := (Extractor.result_eq_some_iff context source _ e).1 he
      obtain ⟨place', b', e', hle, hwins'⟩ := exists_wins_admitting cfg x hwins
      have hresult := (Extractor.result_eq_some_iff context source _ e').2 ⟨place', b', hwins'⟩
      exact ⟨place, b, place', b', e', hwins, hresult, hwins', hle⟩

/-- A literal, and the same literal with a placeholder for the rest. -/
def shortAndLong : List Text := [.ofString "a", .ofString "a$\x7b\x7bx\x7d\x7d"]

/-- The literal wins where its remainder is admitted, and the placeholder behind it otherwise. -/
theorem remainders_only_refuse_short :
    ∃ refusing admitting : Extractor Pattern,
      (Extractor.compile { failOnRemainder := true } shortAndLong).outcome = .ok refusing ∧
      (Extractor.compile { failOnRemainder := false } shortAndLong).outcome = .ok admitting ∧
      refusing.extract none ['a', 'b'] = some ⟨['a'], .ofList [(['x'], ['b'])]⟩ ∧
      admitting.extract none ['a', 'b'] = some ⟨['a', 'b'], .empty⟩ ∧
      ∃ place b place' b', place' ≤ place ∧
        Wins none ['a', 'b'] refusing.blueprints place b ⟨['a'], .ofList [(['x'], ['b'])]⟩ ∧
        Wins none ['a', 'b'] admitting.blueprints place' b' ⟨['a', 'b'], .empty⟩ := by
  let refusing : Extractor Pattern := .bulk [
    ⟨.ofString "a", [.literal ['a']], { failOnRemainder := true }⟩,
    ⟨.ofString "a$\x7b\x7bx\x7d\x7d", [.literal ['a'], .placeholder (.rest ['x'])],
      { failOnRemainder := true }⟩]
  let admitting : Extractor Pattern := refusing.withConfig { failOnRemainder := false }
  have hrefusing : (Extractor.compile { failOnRemainder := true } shortAndLong).outcome =
      .ok refusing := by cbv
  have hadmitting : (Extractor.compile { failOnRemainder := false } shortAndLong).outcome =
      .ok admitting := by cbv
  have hlong : refusing.extract none ['a', 'b'] = some ⟨['a'], .ofList [(['x'], ['b'])]⟩ := by
    decide
  have hshort : admitting.extract none ['a', 'b'] = some ⟨['a', 'b'], .empty⟩ := by decide
  rcases remainders_only_refuse (P := Pattern) {} shortAndLong with
    ⟨e, he, -⟩ | ⟨x, y, hx, hy, -, -, hwinner⟩
  · rw [hrefusing] at he
    cases he
  · rw [hrefusing, Except.ok.injEq] at hx
    rw [hadmitting, Except.ok.injEq] at hy
    subst hx hy
    obtain ⟨place, b, place', b', e', hwins, he', hwins', hle⟩ := hwinner none ['a', 'b'] _ hlong
    rw [hshort, Option.some.injEq] at he'
    subst he'
    exact ⟨refusing, admitting, hrefusing, hadmitting, hlong, hshort, place, b, place', b', hle,
      hwins, hwins'⟩

end Blueprints
