import Mathlib
import Blueprints.Proofs.Skipping
import Blueprints.Pattern.Basic

/-!
# Putting captures back

Of a blueprint of literals and names only, the captures put back between the literals are as long as
the source.  They are the source itself if every pattern was found where the search for it began.
The main statement is `reinserted_captures_rebuild_source`.
-/

namespace Blueprints

variable {P : Type}

namespace Component

def name? : Component P → Option Text
  | literal _ => none
  | placeholder spec => spec.name?

def isLiteralOrNamed : Component P → Bool
  | literal _ => true
  | placeholder spec => spec.name?.isSome

def literalText : Component P → Text
  | literal t => t
  | placeholder _ => []

/-- The text at the place of a component, with captures put back. -/
def reinserted? (captures : NameMap Text) : Component P → Option Text
  | literal t => some t
  | placeholder spec => spec.name?.bind captures.get?

end Component

def names (cs : List (Component P)) : List Text := cs.filterMap Component.name?

def literals (cs : List (Component P)) : Text := cs.flatMap Component.literalText

/-- Components with captures put back; nothing if one is missing. -/
def reinsert? (captures : NameMap Text) : List (Component P) → Option Text
  | [] => some []
  | c :: cs => do
    let t ← c.reinserted? captures
    let more ← reinsert? captures cs
    pure (t ++ more)

variable [PatternLanguage P]

/-- The text a component stands for on a drain. -/
def Component.value (drain : Text) : Component P → Text
  | .literal t => t
  | .placeholder (.matched _ m) => m.found drain
  | .placeholder (.rest _) => drain
  | .placeholder (.context _) => []
  | .placeholder (.attach _) => []

def values (cs : List (Component P)) (chunks : List Text) (rest : Text) : Text :=
  (cs.zip (drains rest chunks)).flatMap fun (c, drain) => c.value drain

/-! ### Values and chunks -/

section

variable {c : Component P} {drain chunk : Text}

/-- A value is as long as the chunk that is taken for it. -/
theorem Component.Consumes.length_value (h : c.Consumes drain chunk) :
    (c.value drain).length = chunk.length := by
  cases c with
  | literal t => exact congrArg List.length (Eq.symm h)
  | placeholder spec =>
    cases spec with
    | matched name m =>
      cases m with
      | literal t => exact congrArg List.length (Eq.symm h)
      | pattern p =>
        obtain ⟨v, hv, rfl⟩ := h
        have hle : v.length ≤ drain.length := (PatternLanguage.find_infix hv).length_le
        simp only [value, Matcher.found, hv, Option.getD_some, List.length_take]
        omega
    | rest name => exact congrArg List.length h.1.symm
    | context key => exact congrArg List.length (Eq.symm h)
    | attach value => exact congrArg List.length (Eq.symm h)

theorem Component.Consumes.value_eq_iff (h : c.Consumes drain chunk) :
    c.value drain = chunk ↔ ∀ name p v, c = .placeholder (.matched name (.pattern p)) →
      PatternLanguage.find p drain = some v → v = drain.take v.length := by
  by_cases hpattern : ∃ name p, c = .placeholder (.matched name (.pattern p))
  · obtain ⟨name, p, rfl⟩ := hpattern
    obtain ⟨v, hv, rfl⟩ := h
    have hvalue : (Component.placeholder (.matched name (.pattern p))).value drain = v := by
      simp only [value, Matcher.found, hv, Option.getD_some]
    rw [hvalue]
    constructor
    · rintro heq name' p' v' hc hv'
      cases hc
      rw [hv, Option.some.injEq] at hv'
      rwa [← hv']
    · intro hfront
      exact hfront name p v rfl hv
  · have hvalue : c.value drain = chunk := by
      cases c with
      | literal t => exact Eq.symm h
      | placeholder spec =>
        cases spec with
        | matched name m =>
          cases m with
          | literal t => exact Eq.symm h
          | pattern p => exact absurd ⟨name, p, rfl⟩ hpattern
        | rest name => exact h.1.symm
        | context key => exact Eq.symm h
        | attach value => exact Eq.symm h
    refine ⟨fun _ name p v hc _ => ?_, fun _ => hvalue⟩
    exact absurd ⟨name, p, hc⟩ hpattern

end

namespace Split

variable {cs : List (Component P)} {source rest : Text} {chunks : List Text}

theorem length_drains (rest : Text) (chunks : List Text) :
    (drains rest chunks).length = chunks.length := by
  induction chunks with
  | nil => rfl
  | cons chunk chunks ih => rw [drains, List.length_cons, List.length_cons, ih]

theorem length_zip (h : Split cs source chunks rest) : cs.length = (drains rest chunks).length := by
  rw [length_drains, h.length_eq]

theorem length_values (h : Split cs source chunks rest) :
    (values cs chunks rest ++ rest).length = source.length := by
  induction cs generalizing source chunks with
  | nil =>
    obtain ⟨rfl, rfl⟩ := nil_iff.1 h
    rfl
  | cons c cs ih =>
    obtain ⟨chunk, later, drain, rfl, hsource, hconsumes, hlater⟩ := cons_iff.1 h
    have hvalues : values (c :: cs) (chunk :: later) rest =
        c.value source ++ values cs later rest := by
      rw [h.source_eq]
      rfl
    have hvalue := hconsumes.length_value
    have hrest := ih hlater
    rw [hvalues, hsource]
    rw [hsource] at hvalue
    simp only [List.length_append] at hrest ⊢
    omega

theorem values_eq_iff (h : Split cs source chunks rest) :
    values cs chunks rest ++ rest = source ↔
      ∀ name p drain v,
        (Component.placeholder (.matched name (.pattern p)), drain) ∈ cs.zip (drains rest chunks) →
        PatternLanguage.find p drain = some v → v = drain.take v.length := by
  induction cs generalizing source chunks with
  | nil =>
    obtain ⟨rfl, rfl⟩ := nil_iff.1 h
    refine ⟨fun _ name p drain v hmem => ?_, fun _ => rfl⟩
    cases hmem
  | cons c cs ih =>
    obtain ⟨chunk, later, drain, rfl, hsource, hconsumes, hlater⟩ := cons_iff.1 h
    have hzip : (c :: cs).zip (drains rest (chunk :: later)) =
        (c, source) :: cs.zip (drains rest later) := by
      rw [h.source_eq]
      rfl
    have hvalues : values (c :: cs) (chunk :: later) rest =
        c.value source ++ values cs later rest := by
      rw [values, hzip]
      rfl
    -- equal lengths keep a difference of one value from being made up for by the next
    have hsplit : values (c :: cs) (chunk :: later) rest ++ rest = source ↔
        c.value source = chunk ∧ values cs later rest ++ rest = drain := by
      rw [hvalues, List.append_assoc]
      constructor
      · intro heq
        exact List.append_inj (heq.trans hsource) hconsumes.length_value
      · rintro ⟨hvalue, hrest⟩
        rw [hvalue, hrest, hsource]
    rw [hsplit, hconsumes.value_eq_iff, ih hlater, hzip]
    constructor
    · rintro ⟨hfirst, hrest⟩ name p d v hmem hv
      rcases List.mem_cons.1 hmem with heq | hmem
      · obtain ⟨hc, rfl⟩ := Prod.mk.inj heq
        exact hfirst name p v hc.symm hv
      · exact hrest name p d v hmem hv
    · intro hall
      refine ⟨fun name p v hc hv => ?_, fun name p d v hmem hv => ?_⟩
      · exact hall name p source v (by rw [hc]; exact List.mem_cons_self) hv
      · exact hall name p d v (List.mem_cons_of_mem _ hmem) hv

end Split

/-! ### Values and results -/

theorem flatMap_zip_fst {α β : Type} {l : List α} {ds : List Text} (h : l.length = ds.length)
    (f : α → List β) : (l.zip ds).flatMap (fun a => f a.1) = l.flatMap f := by
  have hmap : (l.zip ds).map Prod.fst = l := List.map_fst_zip (Nat.le_of_eq h)
  calc (l.zip ds).flatMap (fun a => f a.1)
      = ((l.zip ds).map Prod.fst).flatMap f := (List.flatMap_map ..).symm
    _ = l.flatMap f := by rw [hmap]

section

variable {cfg : Config} {c : Component P} {drain : Text}

theorem Component.contribution_of_skipped (context : Option Context)
    (hshape : c.isLiteralOrNamed = true)
    (hskipped : ∀ name, c.name? = some name → cfg.skipped.contains name = true) :
    c.contribution cfg context drain = c.value drain := by
  cases c with
  | literal t => rfl
  | placeholder spec =>
    cases spec with
    | matched name m =>
      cases name with
      | none => cases hshape
      | some name => simp only [contribution, value, hskipped name rfl, if_true]
    | rest name => simp only [contribution, value, hskipped name rfl, if_true]
    | context key => cases hshape
    | attach value => cases hshape

theorem Component.contribution_of_not_skipped (context : Option Context)
    (hshape : c.isLiteralOrNamed = true)
    (hskipped : ∀ name, c.name? = some name → cfg.skipped.contains name = false) :
    c.contribution cfg context drain = c.literalText := by
  cases c with
  | literal t => rfl
  | placeholder spec =>
    cases spec with
    | matched name m =>
      cases name with
      | none => cases hshape
      | some name => simp [contribution, literalText, hskipped name rfl]
    | rest name => simp [contribution, literalText, hskipped name rfl]
    | context key => cases hshape
    | attach value => cases hshape

theorem Component.captured_of_not_skipped
    (hskipped : ∀ name, c.name? = some name → cfg.skipped.contains name = false) :
    c.captured cfg drain = (c.name?.map fun name => (name, c.value drain)).toList := by
  cases c with
  | literal t => rfl
  | placeholder spec =>
    cases spec with
    | matched name m =>
      cases name with
      | none => rfl
      | some name => simp [captured, name?, Placeholder.name?, value, hskipped name rfl]
    | rest name => simp [captured, name?, Placeholder.name?, value, hskipped name rfl]
    | context key => rfl
    | attach value => rfl

end

theorem contributions_of_skipped (cfg : Config) {cs : List (Component P)} (chunks : List Text)
    (rest : Text) (context : Option Context) (hshape : ∀ c ∈ cs, c.isLiteralOrNamed = true)
    (hskipped : ∀ name ∈ names cs, cfg.skipped.contains name = true) :
    contributions cfg context cs chunks rest = values cs chunks rest := by
  apply flatMap_zip_congr
  intro c hc drain
  apply Component.contribution_of_skipped context (hshape c hc)
  intro name hname
  exact hskipped name (List.mem_filterMap.2 ⟨c, hc, hname⟩)

section

variable {cfg : Config} {cs : List (Component P)} {source rest : Text} {chunks : List Text}
  (hskipped : ∀ name ∈ names cs, cfg.skipped.contains name = false)
include hskipped

theorem contributions_of_not_skipped (context : Option Context) (h : Split cs source chunks rest)
    (hshape : ∀ c ∈ cs, c.isLiteralOrNamed = true) :
    contributions cfg context cs chunks rest = literals cs := by
  have hpieces : contributions cfg context cs chunks rest =
      (cs.zip (drains rest chunks)).flatMap fun a => a.1.literalText := by
    apply flatMap_zip_congr
    intro c hc drain
    apply Component.contribution_of_not_skipped context (hshape c hc)
    intro name hname
    exact hskipped name (List.mem_filterMap.2 ⟨c, hc, hname⟩)
  rw [hpieces, flatMap_zip_fst h.length_zip]
  rfl

theorem capturedEntries_of_not_skipped :
    capturedEntries cfg cs chunks rest = (cs.zip (drains rest chunks)).flatMap fun a =>
      (a.1.name?.map fun name => (name, a.1.value a.2)).toList := by
  apply flatMap_zip_congr
  intro c hc drain
  apply Component.captured_of_not_skipped
  intro name hname
  exact hskipped name (List.mem_filterMap.2 ⟨c, hc, hname⟩)

/-- Where no name comes twice, every component finds its value among the captures. -/
theorem get?_capturedEntries (h : Split cs source chunks rest) (hdistinct : (names cs).Nodup)
    {c : Component P} {drain name : Text} (hmem : (c, drain) ∈ cs.zip (drains rest chunks))
    (hname : c.name? = some name) :
    (NameMap.ofList (capturedEntries cfg cs chunks rest)).get? name = some (c.value drain) := by
  rw [capturedEntries_of_not_skipped hskipped]
  apply NameMap.get?_ofList_of_mem
  · have hkeys : ∀ a : Component P × Text,
        (a.1.name?.map fun name => (name, a.1.value a.2)).toList.map (·.1) =
          a.1.name?.toList := by
      intro a
      cases a.1.name? <;> rfl
    have hfilter : cs.flatMap (fun c => c.name?.toList) = names cs :=
      (List.filterMap_eq_flatMap_toList ..).symm
    rw [List.map_flatMap]
    simp only [hkeys]
    rw [flatMap_zip_fst h.length_zip fun c => c.name?.toList, hfilter]
    exact hdistinct
  · refine List.mem_flatMap.2 ⟨(c, drain), hmem, ?_⟩
    rw [hname]
    exact List.mem_cons_self

end

theorem reinsert?_eq_some {captures : NameMap Text} {cs : List (Component P)} {ds : List Text}
    (hlength : cs.length = ds.length)
    (h : ∀ c drain, (c, drain) ∈ cs.zip ds → c.reinserted? captures = some (c.value drain)) :
    reinsert? captures cs = some ((cs.zip ds).flatMap fun (c, drain) => c.value drain) := by
  induction cs generalizing ds with
  | nil => rfl
  | cons c cs ih =>
    cases ds with
    | nil => cases hlength
    | cons d ds =>
      have hlater := ih (Nat.succ.inj hlength) fun c' drain hmem =>
        h c' drain (List.mem_cons_of_mem _ hmem)
      rw [reinsert?, h c d List.mem_cons_self, hlater]
      rfl

theorem Component.reinserted?_eq_some {captures : NameMap Text} {c : Component P} {drain : Text}
    (hshape : c.isLiteralOrNamed = true)
    (h : ∀ name, c.name? = some name → captures.get? name = some (c.value drain)) :
    c.reinserted? captures = some (c.value drain) := by
  cases c with
  | literal t => rfl
  | placeholder spec =>
    obtain ⟨name, hname⟩ := Option.isSome_iff_exists.1 hshape
    rw [reinserted?, hname]
    exact h name hname

theorem Blueprint.config_of_compile {cfg : Config} {t : Text} {b : Blueprint P}
    (h : (compile cfg t).outcome = .ok b) : b.config = cfg := by
  rw [outcome_compile] at h
  cases hcs : (Component.ofText (P := P) cfg t).outcome with
  | error e =>
    rw [hcs] at h
    cases h
  | ok cs =>
    rw [hcs] at h
    cases h
    rfl

/-- The captures of a blueprint of literals and distinct names, put back between the literals and
followed by what was left over, are as long as the source.  They are the source if every pattern was
found in front, and they are what is extracted when all names are skipped. -/
theorem reinserted_captures_rebuild_source (cfg : Config) (t : Text) (b : Blueprint P)
    (hcompile : (Blueprint.compile cfg t).outcome = .ok b)
    (hshape : ∀ c ∈ b.components, c.isLiteralOrNamed = true)
    (hdistinct : (names b.components).Nodup)
    (hskipped : ∀ name ∈ names b.components, cfg.skipped.contains name = false)
    (context : Option Context) (source : Text) (e : Extraction)
    (hmatch : b.extract context source = .ok e) :
    ∃ woven tail chunks rest, e.extracted = literals b.components ++ tail ∧
      reinsert? e.captures b.components = some woven ∧
      (woven ++ tail).length = source.length ∧
      Split b.components source chunks rest ∧
      (woven ++ tail = source ↔ ∀ name p drain v,
        (Component.placeholder (.matched (some name) (.pattern p)), drain) ∈
          b.components.zip (drains rest chunks) →
        PatternLanguage.find p drain = some v → v = drain.take v.length) ∧
      ∀ all : NameSet, (∀ name ∈ names b.components, all.contains name = true) →
        ∃ b' e', (Blueprint.compile (P := P) { cfg with skipped := all } t).outcome = .ok b' ∧
          b'.extract context source = .ok e' ∧ e'.extracted = woven ++ tail := by
  obtain rfl := Blueprint.config_of_compile hcompile
  obtain ⟨chunks, rest, hsplit, rfl, -⟩ := b.extract_compared_of_ok b rfl rfl context hmatch
  refine ⟨values b.components chunks rest, rest, chunks, rest, ?_, ?_, hsplit.length_values, hsplit,
    ?_, ?_⟩
  · have hliterals := contributions_of_not_skipped hskipped context hsplit hshape
    simp only [Blueprint.resultOf, hliterals]
  · apply reinsert?_eq_some hsplit.length_zip
    intro c drain hmem
    apply Component.reinserted?_eq_some (hshape c (List.of_mem_zip hmem).1)
    intro name hname
    exact get?_capturedEntries hskipped hsplit hdistinct hmem hname
  · rw [hsplit.values_eq_iff]
    constructor
    · intro hfront name p drain v hmem hv
      exact hfront (some name) p drain v hmem hv
    · intro hfront name p drain v hmem hv
      cases name with
      | none =>
        have hnamed := hshape _ (List.of_mem_zip hmem).1
        cases hnamed
      | some name => exact hfront name p drain v hmem hv
  · intro all hall
    have hcompile' : (Blueprint.compile (P := P) { b.config with skipped := all } t).outcome =
        .ok { b with config := { b.config with skipped := all } } := by
      rw [outcome_compile_skipping, hcompile]
      rfl
    -- with other names skipped the source is split alike, and values come out with the literals
    obtain ⟨chunks', rest', hsplit', -, he'⟩ := b.extract_compared_of_ok
      { b with config := { b.config with skipped := all } } rfl rfl context hmatch
    obtain ⟨rfl, rfl⟩ := hsplit.unique hsplit'
    refine ⟨_, _, hcompile', he', ?_⟩
    have hvalues := contributions_of_skipped { b.config with skipped := all } chunks rest context
      hshape hall
    simp only [Blueprint.resultOf, hvalues]

/-- A blueprint with one letter, which may be found behind the front of its drain. -/
def letterBlueprint : Blueprint Pattern where
  text := .ofString "a.$\x7b\x7bx:[a-z]\x7d\x7dq$\x7b\x7br\x7d\x7d"
  components := [
    .literal ['a', '.'],
    .placeholder (.matched (some ['x']) (.pattern
      { text := .ofString "[a-z]"
        kind := .regular
        search := .lockstep ⟨#[.accept, .chars ⟨#[97, 123]⟩ 0], 1⟩ })),
    .literal ['q'],
    .placeholder (.rest ['r'])]
  config := {}

/-- What is put back is as long as the source and differs from it: the pattern takes the digit off
the front and yields the letter behind it. -/
theorem reinserted_captures_found_behind_front :
    (Blueprint.compile {} letterBlueprint.text).outcome = .ok letterBlueprint ∧
    (names letterBlueprint.components).Nodup ∧
    ∃ e woven tail, letterBlueprint.extract none (.ofString "a.7qz") = .ok e ∧
      e.extracted = literals letterBlueprint.components ++ tail ∧
      reinsert? e.captures letterBlueprint.components = some woven ∧
      (woven ++ tail).length = (Text.ofString "a.7qz").length ∧
      woven ++ tail = Text.ofString "a.qqz" := by
  have hcompile : (Blueprint.compile {} letterBlueprint.text).outcome = .ok letterBlueprint := by
    cbv
  have hdistinct : (names letterBlueprint.components).Nodup := by decide
  have hmatch : letterBlueprint.extract none (.ofString "a.7qz") =
      .ok ⟨['a', '.', 'q'], .ofList [(['x'], ['q']), (['r'], ['z'])]⟩ := by with_unfolding_all rfl
  obtain ⟨woven, tail, -, -, hextracted, hwoven, hlength, -⟩ :=
    reinserted_captures_rebuild_source {} letterBlueprint.text letterBlueprint hcompile (by decide)
      hdistinct (by decide) none (.ofString "a.7qz") _ hmatch
  refine ⟨hcompile, hdistinct, _, woven, tail, hmatch, hextracted, hwoven, hlength, ?_⟩
  have htail : tail = [] := List.self_eq_append_right.1 hextracted
  have hvalue : woven = ['a', '.', 'q', 'q', 'z'] := (Option.some.inj hwoven).symm
  rw [htail, hvalue]
  rfl

end Blueprints
