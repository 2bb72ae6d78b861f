import Blueprints.Proofs.Acceptance
import Blueprints.Proofs.Consumption
import Blueprints.Pattern.Basic

/-!
# Prefix tests

A blueprint without patterns asks of a source only that it begins with a fixed text: what its
components strip off, one after the other.  A placeholder for the rest asks for one more character.
The main statement is `pattern_free_is_prefix_test`.
-/

namespace Blueprints

variable {P : Type}

namespace Component

def PatternFree : Component P → Prop
  | .placeholder (.matched _ (.pattern _)) => False
  | _ => True

def IsRest (c : Component P) : Prop := ∃ name, c = .placeholder (.rest name)

/-- The text that a component without a pattern strips off every source; a placeholder for the rest
strips off whatever there is. -/
def stripped : Component P → Text
  | .literal t => t
  | .placeholder (.matched _ (.literal t)) => t
  | _ => []

theorem patternFree_of_mem_ofLiteral (t : Text) :
    ∀ c ∈ ofLiteral (P := P) t, c.PatternFree ∧ ¬ c.IsRest := by
  intro c hc
  cases t with
  | nil => cases hc
  | cons a t =>
    rw [List.mem_singleton.1 hc]
    refine ⟨trivial, fun hisRest => ?_⟩
    obtain ⟨name, hname⟩ := hisRest
    cases hname

theorem flatMap_stripped_ofLiteral (t : Text) :
    (ofLiteral (P := P) t).flatMap stripped = t := by
  cases t with
  | nil => rfl
  | cons a t => exact List.flatMap_singleton _ _

end Component

/-- The progress behind components that do not look at the source, with the given drain. -/
def Progress.behind [PatternLanguage P] (p : Progress) (cfg : Config) (context : Option Context)
    (cs : List (Component P)) (remainder drain : Text) : Progress where
  drain := drain
  extracted := p.extracted ++ cs.flatMap (·.contribution cfg context remainder)
  captures := p.captures.insertAll (cs.flatMap (·.captured cfg remainder))

variable [PatternLanguage P] {cfg : Config} {context : Option Context} {p q : Progress}

theorem Progress.behind_nil (remainder drain : Text) :
    p.behind (P := P) cfg context [] remainder drain = { p with drain := drain } := by
  simp [behind, NameMap.insertAll]

theorem Progress.behind_behind (cs cs' : List (Component P)) (remainder drain drain' : Text) :
    (p.behind cfg context cs remainder drain).behind cfg context cs' remainder drain' =
      p.behind cfg context (cs ++ cs') remainder drain' := by
  simp only [behind, List.flatMap_append, List.append_assoc, NameMap.insertAll_append]

/-! ### One component -/

namespace Component

variable {c : Component P}

/-- Only a pattern or a placeholder for the rest looks at the source. -/
theorem PatternFree.fixed (cfg : Config) (context : Option Context) (drain remainder : Text)
    (hfree : c.PatternFree) (hrest : ¬ c.IsRest) :
    (∀ chunk, c.Consumes drain chunk ↔ chunk = c.stripped) ∧
      c.contribution cfg context drain = c.contribution cfg context remainder ∧
      c.captured cfg drain = c.captured cfg remainder := by
  cases c with
  | literal t => exact ⟨fun _ => Iff.rfl, rfl, rfl⟩
  | placeholder spec =>
    cases spec with
    | matched name m =>
      cases m with
      | pattern p => exact absurd hfree id
      | literal t => cases name <;> exact ⟨fun _ => Iff.rfl, rfl, rfl⟩
    | rest name => exact absurd ⟨name, rfl⟩ hrest
    | context key => exact ⟨fun _ => Iff.rfl, rfl, rfl⟩
    | attach value => exact ⟨fun _ => Iff.rfl, rfl, rfl⟩

theorem PatternFree.next?_eq_some_iff (hfree : c.PatternFree) (hrest : ¬ c.IsRest)
    (remainder : Text) :
    c.next? cfg context p = some q ↔
      p.drain = c.stripped ++ q.drain ∧ q = p.behind cfg context [c] remainder q.drain := by
  -- the remainder is free here; it matters to a placeholder for the rest that comes later
  obtain ⟨hconsumes, hcontribution, hcaptured⟩ :=
    hfree.fixed cfg context p.drain remainder hrest
  obtain ⟨drain, extracted, captures⟩ := q
  rw [Component.next?_eq_some_iff, hcontribution, hcaptured]
  simp only [Progress.behind, List.flatMap_singleton, Progress.mk.injEq, true_and, hconsumes]
  constructor
  · intro h
    obtain ⟨chunk, hdrain, rfl, hresult⟩ := h
    exact ⟨hdrain, hresult⟩
  · intro h
    exact ⟨c.stripped, h.1, rfl, h.2⟩

theorem next?_rest_eq_some_iff (name : Text) :
    (placeholder (P := P) (.rest name)).next? cfg context p = some q ↔
      p.drain ≠ [] ∧ q = p.behind (P := P) cfg context [.placeholder (.rest name)] p.drain [] := by
  obtain ⟨drain, extracted, captures⟩ := q
  rw [Component.next?_eq_some_iff]
  simp only [Progress.behind, List.flatMap_singleton, Progress.mk.injEq, Consumes]
  constructor
  · intro h
    obtain ⟨chunk, hdrain, hall, hresult⟩ := h
    obtain ⟨rfl, hne⟩ := hall
    exact ⟨hne, List.self_eq_append_right.1 hdrain, hresult⟩
  · intro h
    obtain ⟨hne, rfl, hresult⟩ := h
    exact ⟨p.drain, (List.append_nil p.drain).symm, ⟨rfl, hne⟩, hresult⟩

/-! ### All components -/

variable {cs front : List (Component P)}

theorem through_eq_some_iff_stripped (hfree : ∀ c ∈ cs, c.PatternFree)
    (hrest : ∀ c ∈ cs, ¬ c.IsRest) (remainder : Text) :
    through cfg context cs p = some q ↔
      p.drain = cs.flatMap stripped ++ q.drain ∧
        q = p.behind cfg context cs remainder q.drain := by
  induction cs generalizing p with
  | nil =>
    rw [Progress.behind_nil]
    constructor
    · intro h
      obtain rfl : p = q := Option.some.inj h
      exact ⟨rfl, rfl⟩
    · intro h
      obtain ⟨hdrain, hq⟩ := h
      have hsame : q.drain = p.drain := hdrain.symm
      rw [hsame] at hq
      exact congrArg some hq.symm
  | cons c cs ih =>
    obtain ⟨hc, hcs⟩ := List.forall_mem_cons.1 hfree
    obtain ⟨hc', hcs'⟩ := List.forall_mem_cons.1 hrest
    rw [through_cons, Option.bind_eq_some_iff]
    constructor
    · intro h
      obtain ⟨r, hr, hlater⟩ := h
      obtain ⟨hdrain, hr⟩ := (hc.next?_eq_some_iff hc' remainder).1 hr
      obtain ⟨hdrain', hq⟩ := (ih hcs hcs').1 hlater
      refine ⟨?_, ?_⟩
      · rw [hdrain, hdrain', List.flatMap_cons, List.append_assoc]
      · rw [hr, Progress.behind_behind] at hq
        exact hq
    · intro h
      obtain ⟨hdrain, hq⟩ := h
      let r := p.behind cfg context [c] remainder (cs.flatMap stripped ++ q.drain)
      have hr : c.next? cfg context p = some r := by
        apply (hc.next?_eq_some_iff hc' remainder).2
        refine ⟨?_, rfl⟩
        rw [hdrain, List.flatMap_cons, List.append_assoc]
        rfl
      have hq' : q = r.behind cfg context cs remainder q.drain := by
        rw [Progress.behind_behind]
        exact hq
      exact ⟨r, hr, (ih hcs hcs').2 ⟨rfl, hq'⟩⟩

theorem through_rest_eq_some_iff (name : Text) (hfree : ∀ c ∈ front, c.PatternFree)
    (hrest : ∀ c ∈ front, ¬ c.IsRest) :
    through cfg context (front ++ [.placeholder (.rest name)]) p = some q ↔
      ∃ remainder, remainder ≠ [] ∧ p.drain = front.flatMap stripped ++ remainder ∧
        q = p.behind cfg context (front ++ [.placeholder (.rest name)]) remainder [] := by
  rw [through_append, Option.bind_eq_some_iff]
  constructor
  · intro h
    obtain ⟨r, hr, hlast⟩ := h
    rw [through_cons, Option.bind_eq_some_iff] at hlast
    obtain ⟨q', hvisit, hq'⟩ := hlast
    obtain rfl : q' = q := Option.some.inj hq'
    obtain ⟨hne, hq⟩ := (next?_rest_eq_some_iff name).1 hvisit
    obtain ⟨hdrain, hr⟩ := (through_eq_some_iff_stripped hfree hrest r.drain).1 hr
    refine ⟨r.drain, hne, hdrain, ?_⟩
    rw [hq, ← Progress.behind_behind front _ r.drain r.drain, ← hr]
  · intro h
    obtain ⟨remainder, hne, hdrain, hq⟩ := h
    let r := p.behind cfg context front remainder remainder
    have hr : through cfg context front p = some r :=
      (through_eq_some_iff_stripped hfree hrest remainder).2 ⟨hdrain, rfl⟩
    rw [← Progress.behind_behind front _ remainder remainder] at hq
    refine ⟨r, hr, ?_⟩
    rw [through_cons, (next?_rest_eq_some_iff name).2 ⟨hne, hq⟩]
    rfl

end Component

/-! ### Blueprints -/

theorem Progress.behind_ofLiteral (t remainder drain : Text) :
    p.behind cfg context (Component.ofLiteral (P := P) t) remainder drain =
      ⟨drain, p.extracted ++ t, p.captures⟩ := by
  cases t with
  | nil => simp [behind, Component.ofLiteral, NameMap.insertAll]
  | cons a t =>
    simp [behind, Component.ofLiteral, Component.contribution, Component.captured,
      NameMap.insertAll]

theorem Accepts.rest_at_end {t : Text} {cs : List (Component P)} (h : Accepts cfg t cs) :
    (∀ c ∈ cs, ¬ c.IsRest) ∨
      ∃ front name, cs = front ++ [.placeholder (.rest name)] ∧ ∀ c ∈ front, ¬ c.IsRest := by
  have hliteral : ∀ (t : Text), ∀ c ∈ Component.ofLiteral (P := P) t, ¬ c.IsRest :=
    fun t c hc => (Component.patternFree_of_mem_ofLiteral t c hc).2
  induction h with
  | literal _ => exact .inl (hliteral _)
  | @placeholder before body rest spec cs _ _ _ _ hlast hrest ih =>
    by_cases hspec : ∃ name, spec = .rest name
    · obtain ⟨name, rfl⟩ := hspec
      rw [hlast name rfl] at hrest
      rw [hrest.components_eq_nil]
      exact .inr ⟨Component.ofLiteral before, name, rfl, hliteral before⟩
    · have hlead : ∀ c ∈ Component.ofLiteral before ++ [.placeholder spec], ¬ c.IsRest := by
        intro c hc hisRest
        rcases List.mem_append.1 hc with hc | hc
        · exact hliteral before c hc hisRest
        · obtain ⟨name, rfl⟩ := hisRest
          cases List.mem_singleton.1 hc
          exact hspec ⟨name, rfl⟩
      rw [List.append_cons]
      rcases ih with hno | ⟨front, name, rfl, hfront⟩
      · exact .inl (List.forall_mem_append.2 ⟨hlead, hno⟩)
      · rw [← List.append_assoc]
        exact .inr ⟨_, name, rfl, List.forall_mem_append.2 ⟨hlead, hfront⟩⟩

namespace Blueprint

def stripped (b : Blueprint P) : Text := b.components.flatMap Component.stripped

/-- The result for a source of which `remainder` is left behind what is stripped off; `kept` is what
is left of that in the end. -/
structure StripsTo (b : Blueprint P) (context : Option Context) (source remainder kept : Text)
    (e : Extraction) : Prop where
  source_eq : source = b.stripped ++ remainder
  extracted_eq :
    e.extracted = b.components.flatMap (·.contribution b.config context remainder) ++ kept
  captures_eq : ∀ name, e.captures.get? name =
    NameMap.lookup name (b.components.flatMap (·.captured b.config remainder)).reverse

variable {b : Blueprint P} {source : Text} {e : Extraction}

theorem stripsTo_iff {remainder kept : Text} :
    b.StripsTo context source remainder kept e ↔
      source = b.stripped ++ remainder ∧
        e = ⟨b.components.flatMap (·.contribution b.config context remainder) ++ kept,
          .ofList (b.components.flatMap (·.captured b.config remainder))⟩ := by
  obtain ⟨extracted, captures⟩ := e
  rw [Extraction.mk.injEq]
  constructor
  · intro h
    refine ⟨h.source_eq, h.extracted_eq, NameMap.ext_get? fun name => ?_⟩
    rw [NameMap.get?_ofList]
    exact h.captures_eq name
  · intro h
    obtain ⟨hsource, hextracted, hcaptures⟩ := h
    refine ⟨hsource, hextracted, fun name => ?_⟩
    rw [← NameMap.get?_ofList, ← hcaptures]

theorem extract_eq_ok_iff_stripsTo (hfree : ∀ c ∈ b.components, c.PatternFree)
    (hrest : ∀ c ∈ b.components, ¬ c.IsRest) :
    b.extract context source = .ok e ↔
      ∃ remainder, (b.config.failOnRemainder = true → remainder = []) ∧
        b.StripsTo context source remainder remainder e := by
  simp only [extract_eq_ok_iff_through, stripsTo_iff]
  constructor
  · intro h
    obtain ⟨q, hq, hremainder, he⟩ := h
    obtain ⟨hdrain, hq'⟩ := (Component.through_eq_some_iff_stripped hfree hrest q.drain).1 hq
    refine ⟨q.drain, hremainder, hdrain, ?_⟩
    rw [he, hq']
    rfl
  · intro h
    obtain ⟨remainder, hremainder, hsource, he⟩ := h
    let p : Progress := { drain := source }
    let q := p.behind b.config context b.components remainder remainder
    have hq : Component.through b.config context b.components p = some q :=
      (Component.through_eq_some_iff_stripped hfree hrest remainder).2 ⟨hsource, rfl⟩
    exact ⟨q, hq, hremainder, he⟩

theorem extract_eq_ok_iff_stripsTo_rest {front : List (Component P)} {name : Text}
    (hcs : b.components = front ++ [.placeholder (.rest name)])
    (hfree : ∀ c ∈ front, c.PatternFree) (hrest : ∀ c ∈ front, ¬ c.IsRest) :
    b.extract context source = .ok e ↔
      ∃ remainder, remainder ≠ [] ∧ b.StripsTo context source remainder [] e := by
  have hstripped : b.stripped = front.flatMap Component.stripped := by
    simp [stripped, hcs, Component.stripped]
  simp only [extract_eq_ok_iff_through, stripsTo_iff, hstripped, hcs,
    Component.through_rest_eq_some_iff name hfree hrest]
  constructor
  · intro h
    obtain ⟨q, ⟨remainder, hne, hdrain, hq⟩, -, he⟩ := h
    refine ⟨remainder, hne, hdrain, ?_⟩
    rw [he, hq]
    rfl
  · intro h
    obtain ⟨remainder, hne, hsource, he⟩ := h
    exact ⟨_, ⟨remainder, hne, hsource, rfl⟩, fun _ => rfl, he⟩

theorem matches_iff_prefix (hfree : ∀ c ∈ b.components, c.PatternFree)
    (hrest : ∀ c ∈ b.components, ¬ c.IsRest) :
    (∃ e, b.extract context source = .ok e) ↔
      if b.config.failOnRemainder then source = b.stripped else b.stripped <+: source := by
  simp only [extract_eq_ok_iff_stripsTo hfree hrest, stripsTo_iff]
  cases b.config.failOnRemainder with
  | true =>
    simp only [if_true, forall_const]
    constructor
    · intro h
      obtain ⟨e, remainder, rfl, hsource, -⟩ := h
      rw [hsource, List.append_nil]
    · intro h
      exact ⟨_, [], rfl, h.trans (List.append_nil _).symm, rfl⟩
  | false =>
    simp only [Bool.false_eq_true, if_false, false_implies, true_and]
    constructor
    · intro h
      obtain ⟨e, remainder, hsource, -⟩ := h
      exact ⟨remainder, hsource.symm⟩
    · intro h
      obtain ⟨remainder, hsource⟩ := h
      exact ⟨_, remainder, hsource.symm, rfl⟩

theorem matches_iff_proper_prefix {front : List (Component P)} {name : Text}
    (hcs : b.components = front ++ [.placeholder (.rest name)])
    (hfree : ∀ c ∈ front, c.PatternFree) (hrest : ∀ c ∈ front, ¬ c.IsRest) :
    (∃ e, b.extract context source = .ok e) ↔ b.stripped <+: source ∧ b.stripped ≠ source := by
  simp only [extract_eq_ok_iff_stripsTo_rest hcs hfree hrest, stripsTo_iff]
  constructor
  · intro h
    obtain ⟨e, remainder, hne, rfl, -⟩ := h
    exact ⟨⟨remainder, rfl⟩, fun heq => hne (List.self_eq_append_right.1 heq)⟩
  · intro h
    obtain ⟨⟨remainder, rfl⟩, hproper⟩ := h
    have hne : remainder ≠ [] := by
      intro hnil
      exact hproper (List.self_eq_append_right.2 hnil)
    exact ⟨_, remainder, hne, rfl, rfl⟩

end Blueprint

/-- A blueprint without patterns is a prefix test, and what it makes of a source that passes is in
the source behind the prefix.  A text without an opener compiles to such a blueprint: the text itself
is the prefix, and the source stays as it is. -/
theorem pattern_free_is_prefix_test (cfg : Config) (t : Text) :
    (∀ b : Blueprint P, (Blueprint.compile cfg t).outcome = .ok b →
      (∀ c ∈ b.components, c.PatternFree) →
      ((∀ c ∈ b.components, ¬ c.IsRest) → ∀ (context : Option Context) (source : Text),
        ((∃ e, b.extract context source = .ok e) ↔
          if cfg.failOnRemainder then source = b.stripped else b.stripped <+: source) ∧
        ∀ e, b.extract context source = .ok e →
          ∃ remainder, b.StripsTo context source remainder remainder e) ∧
      ((∃ c ∈ b.components, c.IsRest) → ∀ (context : Option Context) (source : Text),
        ((∃ e, b.extract context source = .ok e) ↔
          b.stripped <+: source ∧ b.stripped ≠ source) ∧
        ∀ e, b.extract context source = .ok e →
          ∃ remainder, b.StripsTo context source remainder [] e)) ∧
    (¬ cfg.delimiters.opener <:+: t →
      ∃ b : Blueprint P, (Blueprint.compile cfg t).outcome = .ok b ∧
        (∀ c ∈ b.components, c.PatternFree ∧ ¬ c.IsRest) ∧ b.stripped = t ∧
        ∀ (context : Option Context) (source : Text) (e : Extraction),
          b.extract context source = .ok e → e = ⟨source, .empty⟩) := by
  refine ⟨fun b h hfree => ?_, fun hopener => ?_⟩
  · obtain ⟨cs, haccepts, rfl⟩ := compile_eq_ok_iff_accepts.1 h
    refine ⟨fun hrest context source => ⟨?_, fun e he => ?_⟩, fun hends context source => ?_⟩
    · exact Blueprint.matches_iff_prefix hfree hrest
    · obtain ⟨remainder, -, hstrips⟩ := (Blueprint.extract_eq_ok_iff_stripsTo hfree hrest).1 he
      exact ⟨remainder, hstrips⟩
    · rcases haccepts.rest_at_end with hno | ⟨front, name, rfl, hfront⟩
      · obtain ⟨c, hc, hisRest⟩ := hends
        exact absurd hisRest (hno c hc)
      · have hfree' : ∀ c ∈ front, c.PatternFree :=
          fun c hc => hfree c (List.mem_append_left _ hc)
        refine ⟨Blueprint.matches_iff_proper_prefix rfl hfree' hfront, fun e he => ?_⟩
        obtain ⟨remainder, -, hstrips⟩ :=
          (Blueprint.extract_eq_ok_iff_stripsTo_rest rfl hfree' hfront).1 he
        exact ⟨remainder, hstrips⟩
  · let b : Blueprint P := ⟨t, Component.ofLiteral t, cfg⟩
    have hcompile : (Blueprint.compile cfg t).outcome = .ok b :=
      compile_eq_ok_iff_accepts.2 ⟨_, .literal hopener, rfl⟩
    have hliteral := Component.patternFree_of_mem_ofLiteral (P := P) t
    refine ⟨b, hcompile, hliteral, Component.flatMap_stripped_ofLiteral t, ?_⟩
    intro context source e he
    obtain ⟨q, hq, -, rfl⟩ := Blueprint.extract_eq_ok_iff_through.1 he
    obtain ⟨hsource, hq⟩ := (Component.through_eq_some_iff_stripped
      (fun c hc => (hliteral c hc).1) (fun c hc => (hliteral c hc).2) []).1 hq
    rw [Component.flatMap_stripped_ofLiteral] at hsource
    rw [Progress.behind_ofLiteral] at hq
    rw [hq]
    exact congrArg (Extraction.mk · .empty) hsource.symm

/-- A skipped value, two values of one name, and a value of the context. -/
def repeatedName : Blueprint Pattern where
  text := .ofString "a$\x7b\x7bs:7\x7d\x7d$\x7b\x7bk:1\x7d\x7d$\x7b\x7bc:q\x7d\x7d$\x7b\x7bk\x7d\x7d"
  components := [.literal ['a'], .placeholder (.matched (some ['s']) (.literal ['7'])),
    .placeholder (.matched (some ['k']) (.literal ['1'])), .placeholder (.context ['q']),
    .placeholder (.rest ['k'])]
  config := { contextKey := some ['c'], skipped := .ofNames [['s']], failOnRemainder := true }

theorem pattern_free_is_prefix_test_repeated_name :
    (Blueprint.compile repeatedName.config repeatedName.text).outcome = .ok repeatedName ∧
    repeatedName.stripped = Text.ofString "a71" ∧
    (¬ ∃ e, repeatedName.extract none (Text.ofString "a71") = .ok e) ∧
    (∃ e, repeatedName.extract (some (.ofList [(['q'], ['v'])])) (Text.ofString "a71z") = .ok e ∧
      e.extracted = Text.ofString "a7v" ∧ e.captures.get? ['k'] = some ['z']) ∧
    ∃ b : Blueprint Pattern, (Blueprint.compile {} (Text.ofString "$\x7ba")).outcome = .ok b ∧
      b.stripped = Text.ofString "$\x7ba" := by
  have hcompile : (Blueprint.compile repeatedName.config repeatedName.text).outcome =
      .ok repeatedName := by with_unfolding_all rfl
  have hfree : ∀ c ∈ repeatedName.components, c.PatternFree := by
    simp [repeatedName, Component.PatternFree]
  have hends : ∃ c ∈ repeatedName.components, c.IsRest :=
    ⟨.placeholder (.rest ['k']), by simp [repeatedName], ['k'], rfl⟩
  have htest := ((pattern_free_is_prefix_test repeatedName.config repeatedName.text).1
    repeatedName hcompile hfree).2 hends
  have hopener : ¬ Delimiters.standard.opener <:+: Text.ofString "$\x7ba" := by decide
  obtain ⟨b, hb, -, hstripped, -⟩ :=
    (pattern_free_is_prefix_test (P := Pattern) {} (Text.ofString "$\x7ba")).2 hopener
  refine ⟨hcompile, rfl, ?_, ?_, b, hb, hstripped⟩
  · rw [(htest none _).1]
    exact fun h => h.2 rfl
  · obtain ⟨e, he⟩ := (htest (some (.ofList [(['q'], ['v'])])) (Text.ofString "a71z")).1.2
      ⟨⟨['z'], rfl⟩, by decide⟩
    obtain ⟨remainder, hstrips⟩ := (htest _ _).2 e he
    have hremainder : remainder = ['z'] :=
      List.append_cancel_left (hstrips.source_eq.symm.trans rfl)
    subst hremainder
    exact ⟨e, he, hstrips.extracted_eq, hstrips.captures_eq ['k']⟩

end Blueprints
