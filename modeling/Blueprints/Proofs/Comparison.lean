import Blueprints.Proofs.Consumption

/-!
# Comparing runs over one source

What is left of a source behind each component depends on the components and on the source alone.
So two runs that differ in their configuration or in their context get stuck at the same place, or
they split the source into the same chunks: `extract_compared`.
-/

namespace Blueprints

variable {P : Type} [PatternLanguage P]

/-! ### Drains -/

namespace Component

theorem map_drain_next?_eq_some_iff (cfg : Config) (context : Option Context) (c : Component P)
    (p : Progress) (d : Text) :
    (c.next? cfg context p).map (·.drain) = some d ↔
      ∃ chunk, p.drain = chunk ++ d ∧ c.Consumes p.drain chunk := by
  rw [Option.map_eq_some_iff]
  constructor
  · rintro ⟨q, hq, rfl⟩
    obtain ⟨chunk, hd, hconsumes, -⟩ := (next?_eq_some_iff cfg context c p q).1 hq
    exact ⟨chunk, hd, hconsumes⟩
  · rintro ⟨chunk, hd, hconsumes⟩
    have hvisit := (next?_eq_some_iff cfg context c p ⟨d, _, _⟩).2 ⟨chunk, hd, hconsumes, rfl, rfl⟩
    exact ⟨_, hvisit, rfl⟩

section

variable (cfg cfg' : Config) (context context' : Option Context) (p p' : Progress)

theorem map_drain_next?_congr (c : Component P) (h : p'.drain = p.drain) :
    (c.next? cfg' context' p').map (·.drain) = (c.next? cfg context p).map (·.drain) := by
  apply Option.ext
  intro d
  rw [map_drain_next?_eq_some_iff, map_drain_next?_eq_some_iff, h]

theorem map_drain_visitAll_congr (n : Nat) (cs : List (Component P)) (h : p'.drain = p.drain) :
    (visitAll cfg' context' n cs p').map (·.drain) =
      (visitAll cfg context n cs p).map (·.drain) := by
  -- the runs put out different texts, so the induction is over any two with the same drain
  induction cs generalizing n p p' with
  | nil =>
    simp only [visitAll, Except.map]
    rw [h]
  | cons c cs ih =>
    have hstep := map_drain_next?_congr cfg cfg' context context' p p' c h
    simp only [visitAll_cons]
    cases hv : c.next? cfg context p with
    | none =>
      have hv' : c.next? cfg' context' p' = none := by
        rw [hv] at hstep
        exact Option.map_eq_none_iff.1 hstep
      simp only [hv', Except.map]
      rw [h]
    | some q =>
      have hq : ∃ q', c.next? cfg' context' p' = some q' ∧ q'.drain = q.drain := by
        rw [hv] at hstep
        exact Option.map_eq_some_iff.1 hstep
      obtain ⟨q', hv', hdrain⟩ := hq
      simp only [hv']
      exact ih q q' (n + 1) hdrain

end

theorem stuck_of_visitAll {cfg : Config} {context : Option Context} {n : Nat}
    {cs : List (Component P)} {p : Progress} {miss : Miss}
    (h : visitAll cfg context n cs p = .error miss) :
    ∃ position drain, miss = .stuck position drain := by
  induction cs generalizing n p with
  | nil => cases h
  | cons c cs ih =>
    rw [visitAll_cons] at h
    split at h
    · cases h
      exact ⟨n, p.drain, rfl⟩
    · exact ih h

end Component

/-! ### Texts with insertions -/

omit [PatternLanguage P] in
theorem flatMap_zip_congr {α : Type} {cs : List (Component P)} (ds : List Text)
    {f g : Component P × Text → List α} (h : ∀ c ∈ cs, ∀ drain, f (c, drain) = g (c, drain)) :
    (cs.zip ds).flatMap f = (cs.zip ds).flatMap g := by
  rw [List.flatMap_def, List.flatMap_def]
  apply congrArg List.flatten
  apply List.map_congr_left
  intro a ha
  exact h a.1 (List.of_mem_zip ha).1 a.2

theorem contributions_congr {cfg cfg' : Config} {context context' : Option Context}
    {cs : List (Component P)} (chunks : List Text) (rest : Text)
    (h : ∀ c ∈ cs, ∀ drain,
      c.contribution cfg' context' drain = c.contribution cfg context drain) :
    contributions cfg' context' cs chunks rest = contributions cfg context cs chunks rest :=
  flatMap_zip_congr (drains rest chunks) h

/-- What components add to the extracted text, with a text inserted at the place of each. -/
def contributionsWith (cfg : Config) (context : Option Context)
    (inserted : Text → Component P → Text) (cs : List (Component P)) (chunks : List Text)
    (rest : Text) : Text :=
  (cs.zip (drains rest chunks)).flatMap fun (c, drain) =>
    c.contribution cfg context drain ++ inserted drain c

def insertions (inserted : Text → Component P → Text) (cs : List (Component P))
    (chunks : List Text) (rest : Text) : List Text :=
  (cs.zip (drains rest chunks)).map fun (c, drain) => inserted drain c

section

variable (cfg : Config) (context : Option Context) (inserted : Text → Component P → Text)
  (cs : List (Component P)) (chunks : List Text) (rest : Text)

theorem contributions_sublist :
    (contributions cfg context cs chunks rest).Sublist
      (contributionsWith cfg context inserted cs chunks rest) := by
  unfold contributions contributionsWith
  induction cs.zip (drains rest chunks) with
  | nil => exact .slnil
  | cons a l ih =>
    simp only [List.flatMap_cons]
    exact (List.sublist_append_left _ _).append ih

theorem length_contributionsWith :
    (contributionsWith cfg context inserted cs chunks rest).length =
      (contributions cfg context cs chunks rest).length +
        (insertions inserted cs chunks rest).flatten.length := by
  unfold contributions contributionsWith insertions
  induction cs.zip (drains rest chunks) with
  | nil => rfl
  | cons a l ih =>
    simp only [List.flatMap_cons, List.map_cons, List.flatten_cons, List.length_append] at ih ⊢
    omega

variable {cfg context inserted}

theorem contributions_eq_contributionsWith {cfg' : Config} {context' : Option Context}
    (h : ∀ (c : Component P) (drain : Text),
      c.contribution cfg' context' drain = c.contribution cfg context drain ++ inserted drain c) :
    contributions cfg' context' cs chunks rest =
      contributionsWith cfg context inserted cs chunks rest := by
  simp only [contributions, contributionsWith, h]

end

/-! ### Whole runs -/

namespace Blueprint

def resultOf (b : Blueprint P) (context : Option Context) (chunks : List Text) (rest : Text) :
    Extraction where
  extracted := contributions b.config context b.components chunks rest ++ rest
  captures := .ofList (capturedEntries b.config b.components chunks rest)

def outcomeOf (b : Blueprint P) (context : Option Context) (chunks : List Text) (rest : Text) :
    Except Miss Extraction :=
  if b.config.failOnRemainder && !rest.isEmpty then .error (.leftover rest)
  else .ok (b.resultOf context chunks rest)

theorem extract_of_split (b : Blueprint P) (context : Option Context) {source rest : Text}
    {chunks : List Text} (h : Split b.components source chunks rest) :
    b.extract context source = b.outcomeOf context chunks rest := by
  have hvisit : Component.visitAll b.config context 0 b.components { drain := source } =
      .ok ⟨rest, contributions b.config context b.components chunks rest,
        .ofList (capturedEntries b.config b.components chunks rest)⟩ :=
    (Component.visitAll_eq_ok_iff b.config context 0 b.components _ _).2 ⟨chunks, h, rfl, rfl⟩
  simp only [extract, hvisit]
  rfl

/-- A source that does not split gets stuck, at a place that the components decide. -/
theorem extract_of_not_split (b b' : Blueprint P) (hcs : b'.components = b.components)
    (context context' : Option Context) {source : Text}
    (h : ∀ chunks rest, ¬ Split b.components source chunks rest) :
    ∃ position drain, b.extract context source = .error (.stuck position drain) ∧
      b'.extract context' source = .error (.stuck position drain) := by
  have hdrain := Component.map_drain_visitAll_congr b.config b'.config context context'
    { drain := source } { drain := source } 0 b.components rfl
  cases hv : Component.visitAll b.config context 0 b.components { drain := source } with
  | ok q =>
    obtain ⟨chunks, hsplit, -⟩ := (Component.visitAll_eq_ok_iff _ _ _ _ _ q).1 hv
    exact absurd hsplit (h chunks q.drain)
  | error miss =>
    obtain ⟨position, drain, rfl⟩ := Component.stuck_of_visitAll hv
    rw [hv] at hdrain
    have hv' : Component.visitAll b'.config context' 0 b'.components { drain := source } =
        .error (.stuck position drain) := by
      rw [hcs]
      cases hv' : Component.visitAll b'.config context' 0 b.components { drain := source } with
      | ok q' =>
        rw [hv'] at hdrain
        cases hdrain
      | error miss' =>
        rw [hv'] at hdrain
        rw [Except.error.inj hdrain]
    exact ⟨position, drain, by simp only [extract, hv], by simp only [extract, hv']⟩

/-- Two runs of the same components over a source miss it for the same reason, or they split it in
the same way. -/
theorem extract_compared (b b' : Blueprint P) (hcs : b'.components = b.components)
    (hrem : b'.config.failOnRemainder = b.config.failOnRemainder)
    (context context' : Option Context) (source : Text) :
    (∃ miss, b.extract context source = .error miss ∧
      b'.extract context' source = .error miss) ∨
    ∃ chunks rest, Split b.components source chunks rest ∧
      b.extract context source = .ok (b.resultOf context chunks rest) ∧
      b'.extract context' source = .ok (b'.resultOf context' chunks rest) := by
  by_cases hsplit : ∃ chunks rest, Split b.components source chunks rest
  · obtain ⟨chunks, rest, hsplit⟩ := hsplit
    have hsplit' : Split b'.components source chunks rest := hcs ▸ hsplit
    rw [b.extract_of_split context hsplit, b'.extract_of_split context' hsplit', outcomeOf,
      outcomeOf, hrem]
    split
    · exact .inl ⟨_, rfl, rfl⟩
    · exact .inr ⟨chunks, rest, hsplit, rfl, rfl⟩
  · have hno : ∀ chunks rest, ¬ Split b.components source chunks rest :=
      fun chunks rest h => hsplit ⟨chunks, rest, h⟩
    obtain ⟨position, drain, he, he'⟩ := b.extract_of_not_split b' hcs context context' hno
    exact .inl ⟨_, he, he'⟩

theorem extract_compared_of_ok (b b' : Blueprint P) (hcs : b'.components = b.components)
    (hrem : b'.config.failOnRemainder = b.config.failOnRemainder)
    {context : Option Context} (context' : Option Context) {source : Text} {e : Extraction}
    (h : b.extract context source = .ok e) :
    ∃ chunks rest, Split b.components source chunks rest ∧ e = b.resultOf context chunks rest ∧
      b'.extract context' source = .ok (b'.resultOf context' chunks rest) := by
  rcases extract_compared b b' hcs hrem context context' source with
    ⟨miss, hmiss, -⟩ | ⟨chunks, rest, hsplit, he, he'⟩
  · rw [h] at hmiss
    cases hmiss
  · rw [h] at he
    exact ⟨chunks, rest, hsplit, Except.ok.inj he, he'⟩

end Blueprint

end Blueprints
