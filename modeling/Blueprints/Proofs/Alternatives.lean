import Blueprints.Proofs.Choice
import Blueprints.Proofs.Faults
import Blueprints.Pattern.Basic

/-!
# Alternatives

A list of texts compiles if each text compiles on its own.  Its result for a source is that of the
first text that matches on its own, so a list behaves as its texts do one after the other.  The main
statement is `alternatives_are_ordered_choice`.
-/

namespace Blueprints

variable {P : Type} [PatternLanguage P]

/-! ### Errors of one text -/

theorem Placeholder.matcher_ne_noBlueprint (cfg : Config) (t : Text) :
    (matcher (P := P) cfg t).outcome ≠ .error .noBlueprint := by
  unfold matcher
  intro h
  split at h
  · cases h
  · split at h
    · cases h
    · split at h <;> cases h

theorem Placeholder.classify_ne_noBlueprint (cfg : Config) (body : Text) :
    (classify (P := P) cfg body).outcome ≠ .error .noBlueprint := by
  have hmatched : ∀ (name : Option Text) (t : Text),
      (do pure (.matched name (← matcher cfg t)) : Noted (Placeholder P)).outcome ≠
        .error .noBlueprint := by
    intro name t h
    rw [Noted.outcome_bind] at h
    cases hm : (matcher (P := P) cfg t).outcome with
    | error e =>
      rw [hm, Except.bind, Except.error.injEq] at h
      rw [h] at hm
      exact matcher_ne_noBlueprint cfg t hm
    | ok m =>
      rw [hm] at h
      cases h
  unfold classify
  intro h
  split at h
  · cases h
  · split at h
    · cases h
    · cases h
    · split at h <;> cases h
    · exact hmatched none _ h
    · split at h
      · cases h
      · split at h
        · cases h
        · exact hmatched (some _) _ h
    · cases h

theorem Blueprint.compile_ne_noBlueprint (cfg : Config) (t : Text) :
    (compile (P := P) cfg t).outcome ≠ .error .noBlueprint := by
  intro h
  rw [compile_eq_error_iff, Component.ofText_eq_ofSegments] at h
  obtain ⟨i, ⟨s, -, hfault⟩, -⟩ := exists_faultIn_of_error h
  cases hfault with
  | refused he => exact Placeholder.classify_ne_noBlueprint cfg _ he

/-! ### Texts on their own -/

/-- What a text that is compiled on its own makes of a source; nothing if it does not compile. -/
def resultAlone (P : Type) [PatternLanguage P] (cfg : Config) (context : Option Context)
    (source : Text) (t : Text) : Option Extraction :=
  (Blueprint.compile (P := P) cfg t).outcome.toOption.bind fun b =>
    (b.extract context source).toOption

/-! ### First hits -/

theorem findSome?_of_filter {α β : Type} (f : α → Option β) (marked : List (α × Bool))
    (h : ∀ a, (a, false) ∈ marked → f a = none) :
    ((marked.filter (·.2)).map (·.1)).findSome? f = (marked.map (·.1)).findSome? f := by
  induction marked with
  | nil => rfl
  | cons entry marked ih =>
    obtain ⟨a, stays⟩ := entry
    have hmore := ih fun a' ha' => h a' (List.mem_cons_of_mem _ ha')
    cases stays with
    | true => simp only [List.filter_cons_of_pos, List.map_cons, List.findSome?_cons, hmore]
    | false =>
      have ha : f a = none := h a List.mem_cons_self
      simp [ha, hmore]

/-- Where there is one hit at most, the order does not count. -/
theorem findSome?_of_perm {α β : Type} {f : α → Option β} {l l' : List α} (hperm : l.Perm l')
    (hone : l.countP (fun a => (f a).isSome) ≤ 1) : l'.findSome? f = l.findSome? f := by
  have hhits := hperm.filterMap f
  rw [← List.length_filterMap_eq_countP] at hone
  rw [← List.head?_filterMap, ← List.head?_filterMap]
  cases hl : l.filterMap f with
  | nil =>
    rw [hl] at hhits
    rw [hhits.symm.eq_nil]
  | cons b more =>
    rw [hl] at hhits hone
    have hmore : more = [] := by
      rw [List.length_cons] at hone
      exact List.length_eq_zero_iff.1 (by omega)
    rw [hmore] at hhits
    rw [List.perm_singleton.1 hhits.symm]
    rfl

/-! ### Lists of texts -/

namespace Extractor

section

variable {cfg : Config} {ts : List Text} {x : Extractor P}

theorem ne_nil_of_compile (h : (compile cfg ts).outcome = .ok x) : ts ≠ [] := by
  intro hnil
  rw [hnil] at h
  cases h

theorem map_blueprints_of_compile (h : (compile cfg ts).outcome = .ok x) :
    x.blueprints.map .ok = ts.map fun t => (Blueprint.compile cfg t).outcome :=
  compileAll_eq_ok_iff.1 (compile_eq_ok (ne_nil_of_compile h) h)

theorem compile_eq_error_iff_first (hts : ts ≠ []) (e : BlueprintError) :
    (compile (P := P) cfg ts).outcome = .error e ↔
      ∃ before t after, ts = before ++ t :: after ∧
        (∀ t' ∈ before, ∃ b, (Blueprint.compile (P := P) cfg t').outcome = .ok b) ∧
        (Blueprint.compile (P := P) cfg t).outcome = .error e := by
  rw [compile_eq_error_iff hts, compileAll_eq_error_iff]

theorem compile_eq_noBlueprint_iff :
    (compile (P := P) cfg ts).outcome = .error .noBlueprint ↔ ts = [] := by
  constructor
  · intro h
    by_cases hts : ts = []
    · exact hts
    · obtain ⟨-, t, -, -, -, he⟩ := (compile_eq_error_iff_first hts _).1 h
      exact absurd he (Blueprint.compile_ne_noBlueprint cfg t)
  · intro h
    rw [h]
    rfl

/-- An extractor tries the texts it is compiled from one after the other. -/
theorem extract_of_compile (h : (compile cfg ts).outcome = .ok x) (context : Option Context)
    (source : Text) :
    x.extract context source = ts.findSome? (resultAlone P cfg context source) := by
  have hblueprints := map_blueprints_of_compile h
  have halone : resultAlone P cfg context source =
      (fun r : Except BlueprintError (Blueprint P) =>
        r.toOption.bind fun b => (b.extract context source).toOption) ∘
      fun t => (Blueprint.compile cfg t).outcome := rfl
  rw [extract, attempt, result_eq_findSome?, halone, ← List.findSome?_map, ← hblueprints,
    List.findSome?_map]
  rfl

theorem exists_single_of_compile {t : Text} (h : (compile cfg [t]).outcome = .ok x) :
    ∃ b, x = .single b ∧ (compileAll cfg [t]).outcome = .ok [b] ∧
      ∀ context source, x.extract context source = (b.extract context source).toOption ∧
        (bulk [b]).attempt context source = x.attempt context source := by
  have hall := compile_eq_ok (ne_nil_of_compile h) h
  rw [compile, Noted.outcome_bind] at h
  cases hb : (Blueprint.compile (P := P) cfg t).outcome with
  | error e =>
    rw [hb] at h
    cases h
  | ok b =>
    rw [hb] at h
    cases h
    refine ⟨b, rfl, hall, fun context source => ⟨?_, rfl⟩⟩
    rw [extract, attempt, result_eq_findSome?]
    simp [blueprints]

theorem exists_compile_append {us : List Text} {y : Extractor P}
    (hx : (compile cfg ts).outcome = .ok x) (hy : (compile cfg us).outcome = .ok y) :
    ∃ z : Extractor P, (compile cfg (ts ++ us)).outcome = .ok z ∧
      ∀ context source,
        z.extract context source = (x.extract context source).or (y.extract context source) := by
  have hall : (compileAll cfg (ts ++ us)).outcome = .ok (x.blueprints ++ y.blueprints) := by
    rw [compileAll_eq_ok_iff, List.map_append, List.map_append, map_blueprints_of_compile hx,
      map_blueprints_of_compile hy]
  have hne : ts ++ us ≠ [] := List.append_ne_nil_of_left_ne_nil (ne_nil_of_compile hx) us
  obtain ⟨z, hz, -⟩ := exists_compile_eq_ok hne hall
  refine ⟨z, hz, fun context source => ?_⟩
  rw [extract_of_compile hz, extract_of_compile hx, extract_of_compile hy, List.findSome?_append]

theorem extract_append_of_match {us : List Text} {z : Extractor P}
    (hx : (compile cfg ts).outcome = .ok x) (hz : (compile cfg (ts ++ us)).outcome = .ok z)
    {context : Option Context} {source : Text} {e : Extraction}
    (h : x.extract context source = some e) : z.extract context source = some e := by
  rw [extract_of_compile hx] at h
  rw [extract_of_compile hz, List.findSome?_append, h, Option.some_or]

theorem exists_compile_of_subset (h : (compile cfg ts).outcome = .ok x) {us : List Text}
    (hne : us ≠ []) (hsubset : us ⊆ ts) : ∃ y : Extractor P, (compile cfg us).outcome = .ok y := by
  cases hus : (compile (P := P) cfg us).outcome with
  | ok y => exact ⟨y, rfl⟩
  | error e =>
    obtain ⟨before, t, after, heq, -, he⟩ := (compile_eq_error_iff_first hne e).1 hus
    have ht : t ∈ ts := hsubset (by simp [heq])
    have hmem : (Blueprint.compile (P := P) cfg t).outcome ∈ x.blueprints.map .ok := by
      rw [map_blueprints_of_compile h]
      exact List.mem_map_of_mem ht
    obtain ⟨b, -, hb⟩ := List.mem_map.1 hmem
    rw [he] at hb
    cases hb

theorem exists_compile_kept {marked : List (Text × Bool)}
    (h : (compile cfg (marked.map (·.1))).outcome = .ok x) (hne : marked.filter (·.2) ≠ []) :
    ∃ y : Extractor P, (compile cfg ((marked.filter (·.2)).map (·.1))).outcome = .ok y ∧
      ∀ context source,
        (∀ t, (t, false) ∈ marked → resultAlone P cfg context source t = none) →
        y.extract context source = x.extract context source := by
  have hne' : (marked.filter (·.2)).map (·.1) ≠ [] := by simpa using hne
  have hsubset : (marked.filter (·.2)).map (·.1) ⊆ marked.map (·.1) :=
    List.map_subset _ List.filter_sublist.subset
  obtain ⟨y, hy⟩ := exists_compile_of_subset h hne' hsubset
  refine ⟨y, hy, fun context source hmiss => ?_⟩
  rw [extract_of_compile hy, extract_of_compile h]
  exact findSome?_of_filter _ marked hmiss

theorem exists_compile_perm {us : List Text} (h : (compile cfg ts).outcome = .ok x)
    (hperm : ts.Perm us) :
    ∃ y : Extractor P, (compile cfg us).outcome = .ok y ∧
      ∀ context source,
        ts.countP (fun t => (resultAlone P cfg context source t).isSome) ≤ 1 →
        y.extract context source = x.extract context source := by
  have hne : us ≠ [] := by
    intro hnil
    rw [hnil] at hperm
    exact ne_nil_of_compile h hperm.eq_nil
  obtain ⟨y, hy⟩ := exists_compile_of_subset h hne hperm.symm.subset
  refine ⟨y, hy, fun context source hone => ?_⟩
  rw [extract_of_compile hy, extract_of_compile h]
  exact findSome?_of_perm hperm hone

end

end Extractor

/-- A list of texts compiles if it is not empty and each text compiles on its own, and the first text
that does not gives the error.  Its result is that of the first text that matches on its own.  So one
text alone behaves as a list of one, texts put behind others never change a match, and neither
dropping texts that miss nor a new order of texts of which one matches at most changes a result. -/
theorem alternatives_are_ordered_choice (cfg : Config) (ts : List Text) :
    ((Extractor.compile (P := P) cfg ts).outcome = .error .noBlueprint ↔ ts = []) ∧
    (ts ≠ [] → ∀ e, (Extractor.compile (P := P) cfg ts).outcome = .error e ↔
      ∃ before t after, ts = before ++ t :: after ∧
        (∀ t' ∈ before, ∃ b, (Blueprint.compile (P := P) cfg t').outcome = .ok b) ∧
        (Blueprint.compile (P := P) cfg t).outcome = .error e) ∧
    ∀ x : Extractor P, (Extractor.compile cfg ts).outcome = .ok x →
      x.blueprints.map .ok = ts.map (fun t => (Blueprint.compile cfg t).outcome) ∧
      (∀ context source,
        (∀ e, x.extract context source = some e ↔
          ∃ before t after, ts = before ++ t :: after ∧
            (∀ t' ∈ before, resultAlone P cfg context source t' = none) ∧
            resultAlone P cfg context source t = some e) ∧
        (x.extract context source = none ↔
          ∀ t ∈ ts, resultAlone P cfg context source t = none)) ∧
      (∀ t, ts = [t] → ∃ b, x = .single b ∧ (Extractor.compileAll cfg ts).outcome = .ok [b] ∧
        ∀ context source, x.extract context source = (b.extract context source).toOption ∧
          (Extractor.bulk [b]).attempt context source = x.attempt context source) ∧
      (∀ us (y : Extractor P), (Extractor.compile cfg us).outcome = .ok y →
        ∃ z : Extractor P, (Extractor.compile cfg (ts ++ us)).outcome = .ok z ∧
          ∀ context source,
            z.extract context source = (x.extract context source).or (y.extract context source)) ∧
      (∀ us (z : Extractor P), (Extractor.compile cfg (ts ++ us)).outcome = .ok z →
        ∀ context source e, x.extract context source = some e →
          z.extract context source = some e) ∧
      (∀ marked : List (Text × Bool), ts = marked.map (·.1) → marked.filter (·.2) ≠ [] →
        ∃ y : Extractor P,
          (Extractor.compile cfg ((marked.filter (·.2)).map (·.1))).outcome = .ok y ∧
          ∀ context source,
            (∀ t, (t, false) ∈ marked → resultAlone P cfg context source t = none) →
            y.extract context source = x.extract context source) ∧
      (∀ us, ts.Perm us → ∃ y : Extractor P, (Extractor.compile cfg us).outcome = .ok y ∧
        ∀ context source,
          ts.countP (fun t => (resultAlone P cfg context source t).isSome) ≤ 1 →
          y.extract context source = x.extract context source) := by
  refine ⟨Extractor.compile_eq_noBlueprint_iff, Extractor.compile_eq_error_iff_first,
    fun x hx => ?_⟩
  have hextract := Extractor.extract_of_compile hx
  refine ⟨Extractor.map_blueprints_of_compile hx, fun context source => ⟨fun e => ?_, ?_⟩,
    ?_, ?_, ?_, ?_, ?_⟩
  · rw [hextract, List.findSome?_eq_some_iff]
    simp only [and_comm]
  · rw [hextract, List.findSome?_eq_none_iff]
  · intro t ht
    rw [ht] at hx ⊢
    exact Extractor.exists_single_of_compile hx
  · intro us y hy
    exact Extractor.exists_compile_append hx hy
  · intro us z hz context source e he
    exact Extractor.extract_append_of_match hx hz he
  · intro marked hmarked hstay
    rw [hmarked] at hx
    exact Extractor.exists_compile_kept hx hstay
  · intro us hperm
    exact Extractor.exists_compile_perm hx hperm

/-- Of two texts the second one matches, in either order. -/
theorem alternatives_are_ordered_choice_second :
    ∃ x y : Extractor Pattern,
      (Extractor.compile {} [['a'], ['b']]).outcome = .ok x ∧
      (Extractor.compile {} [['b'], ['a']]).outcome = .ok y ∧
      resultAlone Pattern {} none ['b', 'c'] ['a'] = none ∧
      x.extract none ['b', 'c'] = some ⟨['b', 'c'], .empty⟩ ∧
      y.extract none ['b', 'c'] = some ⟨['b', 'c'], .empty⟩ := by
  have hx : (Extractor.compile (P := Pattern) {} [['a'], ['b']]).outcome =
      .ok (.bulk [⟨['a'], [.literal ['a']], {}⟩, ⟨['b'], [.literal ['b']], {}⟩]) := by cbv
  have hfirst : resultAlone Pattern {} none ['b', 'c'] ['a'] = none := by with_unfolding_all rfl
  have hsecond : resultAlone Pattern {} none ['b', 'c'] ['b'] = some ⟨['b', 'c'], .empty⟩ := by
    with_unfolding_all rfl
  obtain ⟨-, hresult, -, -, -, -, hperm⟩ :=
    (alternatives_are_ordered_choice (P := Pattern) {} [['a'], ['b']]).2.2 _ hx
  obtain ⟨y, hy, horder⟩ := hperm _ (.swap ['b'] ['a'] [])
  have hmatch := ((hresult none ['b', 'c']).1 _).2 ⟨[['a']], ['b'], [], rfl, by simp [hfirst], hsecond⟩
  have hone : ([['a'], ['b']] : List Text).countP
      (fun t => (resultAlone Pattern {} none ['b', 'c'] t).isSome) ≤ 1 := by
    simp [hfirst, hsecond]
  exact ⟨_, y, hx, hy, hfirst, hmatch, (horder none ['b', 'c'] hone).trans hmatch⟩

end Blueprints
