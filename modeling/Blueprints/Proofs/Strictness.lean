import Mathlib
import Blueprints.Proofs.Choice
import Blueprints.Proofs.Classification
import Blueprints.Proofs.Comparison
import Blueprints.Proofs.Faults
import Blueprints.Pattern.Basic

/-!
# Strict configurations

A strict configuration refuses some placeholders that another one reads as a placeholder for the
rest or as a literal, and differs in nothing else.  The main statement is `strict_refuses_more`.
-/

namespace Blueprints

/-- What only a strict configuration refuses: a separator with nothing behind it, and a pattern that
is none and does not belong to a mark. -/
inductive StrictOnly (P : Type) [PatternLanguage P] (cfg : Config) :
    (body : Text) → BlueprintError → Prop
  | emptyPattern {name : Text} : Placeholder.IsPart cfg.delimiters name →
    StrictOnly P cfg (name ++ [cfg.delimiters.separator]) (.emptyPattern name)
  | refusedPattern {name t message : Text} : cfg.delimiters.separator ∉ name →
    (name ≠ [] → cfg.contextKey ≠ some name ∧ cfg.attachKey ≠ some name) →
    Placeholder.IsPart cfg.delimiters t → Placeholder.isPlain t = false →
    PatternLanguage.read (P := P) t = .error message →
    StrictOnly P cfg (name ++ cfg.delimiters.separator :: t) (.refusedPattern t message)

def PlaceholderAt (d : Delimiters) (ts : List Text) (place : Place) (body : Text) : Prop :=
  ∃ t, ts[place.text]? = some t ∧ (Segment.ofText d t)[place.segment]? = some (.placeholder body)

variable {P : Type} [PatternLanguage P] {cfg : Config}

/-! ### Bodies -/

namespace Placeholder

section

variable {name t message : Text}

theorem classify_name_separator_strict (h : IsPart cfg.delimiters name) :
    (classify (P := P) { cfg with strict := true } (name ++ [cfg.delimiters.separator])).outcome =
      .error (.emptyPattern name) := by
  have hs := Text.splitOn_eq_pair_iff.2 ⟨h.2, List.not_mem_nil, rfl⟩
  cases name with
  | nil => exact absurd rfl h.1
  | cons c name =>
    rw [List.cons_append] at hs ⊢
    simp only [classify, hs, if_true]
    rfl

/-- A part that no mark stands in front of goes to the matcher. -/
theorem classify_matched (hname : cfg.delimiters.separator ∉ name)
    (hmark : name ≠ [] → cfg.contextKey ≠ some name ∧ cfg.attachKey ≠ some name)
    (ht : IsPart cfg.delimiters t) :
    ∃ name', ∀ strict, classify (P := P) { cfg with strict := strict }
      (name ++ cfg.delimiters.separator :: t) =
        (do pure (.matched name' (← matcher { cfg with strict := strict } t))) := by
  cases name with
  | nil => exact ⟨none, fun strict => classify_separator ht⟩
  | cons c name =>
    obtain ⟨hcontext, hattach⟩ := hmark (List.cons_ne_nil c name)
    refine ⟨some (c :: name), fun strict => ?_⟩
    have hpair : classify (P := P) { cfg with strict := strict }
        (c :: name ++ cfg.delimiters.separator :: t) = _ :=
      classify_pair ⟨List.cons_ne_nil c name, hname⟩ ht
    rw [hpair, if_neg hcontext, if_neg hattach]

theorem matcher_refused (cfg : Config) (hplain : isPlain t = false)
    (hread : PatternLanguage.read (P := P) t = .error message) :
    (matcher (P := P) { cfg with strict := true } t).outcome =
        .error (.refusedPattern t message) ∧
      (matcher (P := P) { cfg with strict := false } t).outcome = .ok (.literal t) := by
  simp only [matcher, hplain, hread]
  exact ⟨rfl, rfl⟩

theorem matcher_strict_eq
    (h : isPlain t = false → ∀ message, PatternLanguage.read (P := P) t ≠ .error message) :
    matcher (P := P) { cfg with strict := true } t = matcher { cfg with strict := false } t := by
  unfold matcher
  cases hplain : isPlain t with
  | true => rfl
  | false =>
    cases hread : PatternLanguage.read (P := P) t with
    | ok p => rfl
    | error message => exact absurd hread (h hplain message)

end

section

variable {body : Text} {e : BlueprintError}

theorem outcome_of_strictOnly (h : StrictOnly P cfg body e) :
    (classify (P := P) { cfg with strict := true } body).outcome = .error e ∧
      ∃ spec : Placeholder P, (classify { cfg with strict := false } body).outcome = .ok spec := by
  cases h with
  | @emptyPattern name hname =>
    have hlenient : classify (P := P) { cfg with strict := false }
        (name ++ [cfg.delimiters.separator]) = pure (.rest name) :=
      classify_name_separator hname rfl
    refine ⟨classify_name_separator_strict hname, .rest name, ?_⟩
    rw [hlenient, Noted.outcome_pure]
  | @refusedPattern name t message hname hmark ht hplain hread =>
    obtain ⟨name', hclassify⟩ := classify_matched (P := P) hname hmark ht
    obtain ⟨hstrict, hlenient⟩ := matcher_refused (P := P) cfg hplain hread
    refine ⟨?_, .matched name' (.literal t), ?_⟩
    · rw [hclassify, Noted.outcome_bind, hstrict]
      rfl
    · rw [hclassify, Noted.outcome_bind, hlenient]
      rfl

/-- Any other body is read alike by both kinds of configurations. -/
theorem classify_strict_eq (h : ∀ e, ¬ StrictOnly P cfg body e) :
    classify (P := P) { cfg with strict := true } body =
      classify { cfg with strict := false } body := by
  cases body with
  | nil => rfl
  | cons c body =>
    cases hs : Text.splitOn cfg.delimiters.separator (c :: body) with
    | nil => simp only [classify, hs]
    | cons name pieces =>
      rcases pieces with _ | ⟨t, _ | ⟨t', more⟩⟩
      · simp only [classify, hs]
      · obtain ⟨hname, ht, hbody⟩ := Text.splitOn_eq_pair_iff.1 hs
        by_cases hempty : t = []
        · subst hempty
          cases name with
          | nil => simp only [classify, hs]
          | cons a name =>
            rw [hbody] at h
            exact absurd (.emptyPattern ⟨List.cons_ne_nil a name, hname⟩) (h _)
        · have hpart : IsPart cfg.delimiters t := ⟨hempty, ht⟩
          by_cases hmark : name ≠ [] → cfg.contextKey ≠ some name ∧ cfg.attachKey ≠ some name
          · have hmatcher : matcher (P := P) { cfg with strict := true } t =
                matcher { cfg with strict := false } t := by
              apply matcher_strict_eq
              intro hplain message hread
              rw [hbody] at h
              exact h _ (.refusedPattern hname hmark hpart hplain hread)
            obtain ⟨name', hclassify⟩ := classify_matched (P := P) hname hmark hpart
            rw [hbody, hclassify, hclassify, hmatcher]
          · -- a mark stands in front, so that the matcher is not asked
            have hne : name ≠ [] := fun hnil => hmark fun hne => absurd hnil hne
            have hpair : ∀ strict, classify (P := P) { cfg with strict := strict }
                (name ++ cfg.delimiters.separator :: t) = _ :=
              fun strict => classify_pair ⟨hne, hname⟩ hpart
            rw [hbody, hpair, hpair]
            by_cases hcontext : cfg.contextKey = some name
            · rw [if_pos hcontext, if_pos hcontext]
            · have hattach : cfg.attachKey = some name :=
                Decidable.byContradiction fun hattach => hmark fun _ => ⟨hcontext, hattach⟩
              rw [if_neg hcontext, if_neg hcontext, if_pos hattach, if_pos hattach]
      · simp only [classify, hs]

theorem classify_of_strict {spec : Placeholder P}
    (h : (classify { cfg with strict := true } body).outcome = .ok spec) :
    (classify { cfg with strict := false } body).outcome = .ok spec := by
  by_cases honly : ∃ e, StrictOnly P cfg body e
  · obtain ⟨e, honly⟩ := honly
    rw [(outcome_of_strictOnly honly).1] at h
    cases h
  · rwa [← classify_strict_eq fun e he => honly ⟨e, he⟩]

end

end Placeholder

/-! ### Faults -/

section

variable {ts : List Text} {place : Place} {body : Text} {e : BlueprintError}

theorem PlaceholderAt.faultAt (h : PlaceholderAt cfg.delimiters ts place body)
    (honly : StrictOnly P cfg body e) : FaultAt P { cfg with strict := true } ts place e := by
  obtain ⟨t, ht, hs⟩ := h
  exact ⟨t, ht, _, hs, .refused (Placeholder.outcome_of_strictOnly honly).1⟩

theorem FaultAt.strict (h : FaultAt P { cfg with strict := false } ts place e) :
    ∃ e', FaultAt P { cfg with strict := true } ts place e' := by
  obtain ⟨t, ht, s, hs, hfault⟩ := h
  rcases fault_or_readAs (P := P) { cfg with strict := true } _ s _ with ⟨e', hfault'⟩ | ⟨c, hread⟩
  · exact ⟨e', t, ht, s, hs, hfault'⟩
  · have hread' := hread.of_lenience _ { cfg with strict := false } fun _ _ =>
      Placeholder.classify_of_strict
    exact absurd hfault hread'.not_fault

/-- What is at fault for a strict configuration is at fault in any case, or only a strict one
refuses it. -/
theorem FaultAt.lenient_or_strictOnly (h : FaultAt P { cfg with strict := true } ts place e) :
    FaultAt P { cfg with strict := false } ts place e ∨
      ∃ body, PlaceholderAt cfg.delimiters ts place body ∧ StrictOnly P cfg body e := by
  obtain ⟨t, ht, s, hs, hfault⟩ := h
  cases hfault with
  | notClosed => exact .inl ⟨t, ht, _, hs, .notClosed⟩
  | textAfterRest hrest hmore =>
    have hrest' := Placeholder.classify_of_strict hrest
    exact .inl ⟨t, ht, _, hs, .textAfterRest hrest' hmore⟩
  | @refused body _ _ he =>
    by_cases honly : ∃ e', StrictOnly P cfg body e'
    · obtain ⟨e', honly⟩ := honly
      have he' := (Placeholder.outcome_of_strictOnly honly).1
      rw [he, Except.error.injEq] at he'
      subst he'
      exact .inr ⟨body, ⟨t, ht, hs⟩, honly⟩
    · rw [Placeholder.classify_strict_eq fun e' he' => honly ⟨e', he'⟩] at he
      exact .inl ⟨t, ht, _, hs, .refused he⟩

theorem FirstFault.lenient (h : FirstFault P { cfg with strict := true } ts place e)
    (hfault : FaultAt P { cfg with strict := false } ts place e) :
    FirstFault P { cfg with strict := false } ts place e := by
  refine ⟨hfault, fun place' e' hfault' => ?_⟩
  obtain ⟨e'', hstrict⟩ := hfault'.strict
  exact h.first place' e'' hstrict

end

/-! ### Lists of texts -/

def Extractor.components (x : Extractor P) : List (List (Component P)) :=
  x.blueprints.map (·.components)

theorem Blueprint.extract_strict (b : Blueprint P) (strict : Bool) (context : Option Context)
    (source : Text) :
    Blueprint.extract { b with config := { b.config with strict := strict } } context source =
      b.extract context source := by
  rcases b.extract_compared { b with config := { b.config with strict := strict } } rfl rfl context
    context source with ⟨miss, hmiss, hmiss'⟩ | ⟨chunks, rest, -, he, he'⟩
  · rw [hmiss, hmiss']
  · rw [he, he']
    rfl

theorem Extractor.compile_of_strict {ts : List Text} {x : Extractor P}
    (h : (compile { cfg with strict := true } ts).outcome = .ok x) :
    ∃ x', (compile { cfg with strict := false } ts).outcome = .ok x' ∧
      x'.components = x.components ∧
      ∀ context source, x'.attempt context source = x.attempt context source := by
  have hts : ts ≠ [] := by
    rintro rfl
    cases h
  have hall := compile_eq_ok hts h
  have hlenient := compileAll_of_lenience { cfg with strict := true } { cfg with strict := false }
    rfl (fun _ _ => Placeholder.classify_of_strict) hall
  obtain ⟨x', hx', hblueprints⟩ := exists_compile_eq_ok hts hlenient
  refine ⟨x', hx', ?_, fun context source => ?_⟩
  · rw [components, hblueprints, List.map_map]
    rfl
  · rw [attempt, hblueprints]
    apply attemptAll_map_congr context source context
    · intro b _
      rfl
    · intro b hb
      have hconfig := config_of_compileAll hall b hb
      have hstrict := b.extract_strict false context source
      rwa [hconfig] at hstrict

/-- A strict configuration compiles less, and what it compiles it compiles to the same.  Where it
makes a difference it fails at the first placeholder that only a strict configuration refuses, which
does not stand behind the one where another configuration fails. -/
theorem strict_refuses_more (cfg : Config) (ts : List Text) :
    (∀ x : Extractor P, (Extractor.compile { cfg with strict := true } ts).outcome = .ok x →
      ∃ x', (Extractor.compile { cfg with strict := false } ts).outcome = .ok x' ∧
        x'.components = x.components ∧
        ∀ context source, x'.attempt context source = x.attempt context source) ∧
    (∀ e, (Extractor.compile (P := P) { cfg with strict := false } ts).outcome = .error e →
      ∃ e', (Extractor.compile (P := P) { cfg with strict := true } ts).outcome = .error e') ∧
    ((Extractor.compile (P := P) { cfg with strict := true } ts).outcome.map
        Extractor.components ≠
      (Extractor.compile (P := P) { cfg with strict := false } ts).outcome.map
        Extractor.components →
      ∃ place body e,
        (Extractor.compile (P := P) { cfg with strict := true } ts).outcome = .error e ∧
        ((∃ name, e = .emptyPattern name) ∨
          ∃ t message, PatternLanguage.read (P := P) t = .error message ∧
            e = .refusedPattern t message) ∧
        FirstFault P { cfg with strict := true } ts place e ∧
        PlaceholderAt cfg.delimiters ts place body ∧ StrictOnly P cfg body e ∧
        (∀ place' body' e', PlaceholderAt cfg.delimiters ts place' body' →
          StrictOnly P cfg body' e' → ¬ place'.Before place) ∧
        ∀ e', (Extractor.compile (P := P) { cfg with strict := false } ts).outcome = .error e' →
          ∃ place', FirstFault P { cfg with strict := false } ts place' e' ∧
            ¬ place'.Before place) := by
  refine ⟨fun x => Extractor.compile_of_strict, fun e he => ?_, fun hdiffer => ?_⟩
  · cases hstrict : (Extractor.compile (P := P) { cfg with strict := true } ts).outcome with
    | error e' => exact ⟨e', rfl⟩
    | ok x =>
      obtain ⟨x', hx', -⟩ := Extractor.compile_of_strict hstrict
      rw [he] at hx'
      cases hx'
  · have hts : ts ≠ [] := by
      rintro rfl
      exact hdiffer rfl
    cases hstrict : (Extractor.compile (P := P) { cfg with strict := true } ts).outcome with
    | ok x =>
      obtain ⟨x', hx', hcomponents, -⟩ := Extractor.compile_of_strict hstrict
      rw [hstrict, hx', Except.map, Except.map, hcomponents] at hdiffer
      exact absurd rfl hdiffer
    | error e =>
      obtain ⟨place, hfirst⟩ :=
        exists_firstFault_of_error ((Extractor.compile_eq_error_iff hts).1 hstrict)
      rcases hfirst.fault.lenient_or_strictOnly with hfault | ⟨body, hbody, honly⟩
      · -- a fault of both configurations that is first for the strict one is first for the other
        have hlenient := (Extractor.compile_eq_error_iff hts).2 (hfirst.lenient hfault).outcome_eq
        rw [hstrict, hlenient] at hdiffer
        exact absurd rfl hdiffer
      · refine ⟨place, body, e, rfl, ?_, hfirst, hbody, honly, ?_, ?_⟩
        · cases honly with
          | emptyPattern => exact .inl ⟨_, rfl⟩
          | refusedPattern _ _ _ _ hread => exact .inr ⟨_, _, hread, rfl⟩
        · intro place' body' e' hbody' honly'
          exact hfirst.first place' e' (hbody'.faultAt honly')
        · intro e' he'
          obtain ⟨place', hfirst'⟩ :=
            exists_firstFault_of_error ((Extractor.compile_eq_error_iff hts).1 he')
          obtain ⟨e'', hfault''⟩ := hfirst'.fault.strict
          exact ⟨place', hfirst', hfirst.first place' e'' hfault''⟩

/-- A bracket that is no pattern, and a placeholder for the rest with a text behind it. -/
def bracketText : Text := .ofString "$\x7b\x7bx:[\x7d\x7d$\x7b\x7by:\x7d\x7dz"

/-- Both kinds of configurations fail here, a strict one at the bracket and the other one behind
it. -/
theorem strict_refuses_more_at_bracket :
    (Extractor.compile (P := Pattern) { strict := true } [bracketText]).outcome =
      .error (.refusedPattern ['['] Pattern.unreadable) ∧
    (Extractor.compile (P := Pattern) { strict := false } [bracketText]).outcome =
      .error (.textAfterRest ['y']) ∧
    ∃ place place', ¬ place'.Before place ∧
      FirstFault Pattern { strict := true } [bracketText] place
        (.refusedPattern ['['] Pattern.unreadable) ∧
      FirstFault Pattern { strict := false } [bracketText] place' (.textAfterRest ['y']) := by
  have hstrict : (Extractor.compile (P := Pattern) { strict := true } [bracketText]).outcome =
      .error (.refusedPattern ['['] Pattern.unreadable) := by cbv
  have hlenient : (Extractor.compile (P := Pattern) { strict := false } [bracketText]).outcome =
      .error (.textAfterRest ['y']) := by cbv
  have hdiffer := (strict_refuses_more (P := Pattern) {} [bracketText]).2.2
  rw [hstrict, hlenient] at hdiffer
  obtain ⟨place, -, e, he, -, hfirst, -, -, -, hlater⟩ := hdiffer (by simp [Except.map])
  cases he
  obtain ⟨place', hfirst', hbefore⟩ := hlater _ rfl
  exact ⟨hstrict, hlenient, place, place', hbefore, hfirst, hfirst'⟩

end Blueprints
