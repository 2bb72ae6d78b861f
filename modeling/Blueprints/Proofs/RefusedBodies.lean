import Blueprints.Proofs.Strictness

/-!
# Refused bodies

Every body either stands for a placeholder or is refused, and which of the two, and why it is refused,
can be told from its text.  The main statement is `classify_inverts_body`.
-/

namespace Blueprints

/-- Why a body stands for nothing. -/
inductive Refuses (P : Type) [PatternLanguage P] (cfg : Config) : (body : Text) → BlueprintError → Prop
  | empty : Refuses P cfg [] .emptyPlaceholder
  | loneSeparator : Refuses P cfg [cfg.delimiters.separator] .emptyPlaceholder
  | manySeparators {body : Text} : 2 ≤ body.count cfg.delimiters.separator →
    Refuses P cfg body (.manySeparators body)
  | strict {body : Text} {e : BlueprintError} : cfg.strict = true → StrictOnly P cfg body e →
    Refuses P cfg body e

namespace Placeholder

variable {P : Type} [PatternLanguage P] {cfg : Config} {body : Text}

theorem outcome_of_many_separators (h : 2 ≤ body.count cfg.delimiters.separator) :
    (classify (P := P) cfg body).outcome = .error (.manySeparators body) := by
  have hlength := Text.length_splitOn cfg.delimiters.separator body
  cases body with
  | nil => simp at h
  | cons c body =>
    cases hs : Text.splitOn cfg.delimiters.separator (c :: body) with
    | nil => exact absurd hs (Text.splitOn_ne_nil _ _)
    | cons name pieces =>
      rw [hs] at hlength
      rcases pieces with _ | ⟨t, _ | ⟨t', more⟩⟩
      · simp only [List.length_singleton] at hlength
        omega
      · simp only [List.length_cons, List.length_nil] at hlength
        omega
      · simp only [classify, hs]
        rfl

theorem outcome_of_refuses {e : BlueprintError} (h : Refuses P cfg body e) :
    (classify (P := P) cfg body).outcome = .error e := by
  cases h with
  | empty => rfl
  | loneSeparator =>
    have hs : Text.splitOn cfg.delimiters.separator [cfg.delimiters.separator] = [[], []] :=
      Text.splitOn_eq_pair_iff.2 ⟨List.not_mem_nil, List.not_mem_nil, rfl⟩
    simp only [classify, hs]
    rfl
  | manySeparators hcount => exact outcome_of_many_separators hcount
  | strict hstrict honly =>
    have hcfg : { cfg with strict := true } = cfg := by rw [← hstrict]
    have herror := (outcome_of_strictOnly honly).1
    rwa [hcfg] at herror

theorem parts_of_count_le (hne : body ≠ []) (hlone : body ≠ [cfg.delimiters.separator])
    (hcount : body.count cfg.delimiters.separator < 2) :
    IsPart cfg.delimiters body ∨
      (∃ name, IsPart cfg.delimiters name ∧ body = name ++ [cfg.delimiters.separator]) ∨
      ∃ name t, cfg.delimiters.separator ∉ name ∧ IsPart cfg.delimiters t ∧
        body = name ++ cfg.delimiters.separator :: t := by
  by_cases hsep : cfg.delimiters.separator ∈ body
  · obtain ⟨name, t, rfl⟩ := List.append_of_mem hsep
    rw [List.count_append, List.count_cons_self] at hcount
    have hname : cfg.delimiters.separator ∉ name := List.count_eq_zero.1 (by omega)
    have ht : cfg.delimiters.separator ∉ t := List.count_eq_zero.1 (by omega)
    by_cases hnil : t = []
    · subst hnil
      have hname' : name ≠ [] := by
        intro hnil
        rw [hnil] at hlone
        exact hlone rfl
      exact .inr (.inl ⟨name, ⟨hname', hname⟩, rfl⟩)
    · exact .inr (.inr ⟨name, t, hname, ⟨hnil, ht⟩, rfl⟩)
  · exact .inl ⟨hne, hsep⟩

theorem exists_of_lenient_matcher (hstrict : cfg.strict = false) (t : Text) :
    ∃ m, (matcher (P := P) cfg t).outcome = .ok m := by
  unfold matcher
  split
  · exact ⟨_, rfl⟩
  · split
    · exact ⟨_, rfl⟩
    · rw [hstrict]
      exact ⟨_, rfl⟩

theorem exists_of_lenient (hstrict : cfg.strict = false) (hne : body ≠ [])
    (hlone : body ≠ [cfg.delimiters.separator])
    (hcount : body.count cfg.delimiters.separator < 2) :
    ∃ spec : Placeholder P, (classify cfg body).outcome = .ok spec := by
  rcases parts_of_count_le hne hlone hcount with
    hpart | ⟨name, hname, rfl⟩ | ⟨name, t, hname, ht, rfl⟩
  · exact ⟨.rest body, by rw [classify_name hpart, Noted.outcome_pure]⟩
  · exact ⟨.rest name, by rw [classify_name_separator hname hstrict, Noted.outcome_pure]⟩
  · obtain ⟨m, hm⟩ := exists_of_lenient_matcher (P := P) hstrict t
    by_cases hnil : name = []
    · refine ⟨.matched none m, ?_⟩
      rw [hnil, List.nil_append, classify_separator ht, Noted.outcome_bind, hm]
      rfl
    · rw [classify_pair ⟨hnil, hname⟩ ht]
      split
      · exact ⟨.context t, Noted.outcome_pure _⟩
      · split
        · exact ⟨.attach t, Noted.outcome_pure _⟩
        · refine ⟨.matched (some name) m, ?_⟩
          rw [Noted.outcome_bind, hm]
          rfl

theorem exists_of_not_refuses (h : ∀ e, ¬ Refuses P cfg body e) :
    ∃ spec : Placeholder P, (classify cfg body).outcome = .ok spec := by
  have hne : body ≠ [] := by
    intro hnil
    rw [hnil] at h
    exact h _ .empty
  have hlone : body ≠ [cfg.delimiters.separator] := by
    intro hlone
    rw [hlone] at h
    exact h _ .loneSeparator
  have hcount : body.count cfg.delimiters.separator < 2 := by
    have hmany := h (.manySeparators body)
    exact Nat.lt_of_not_le fun hle => hmany (.manySeparators hle)
  obtain ⟨spec, hspec⟩ : ∃ spec : Placeholder P,
      (classify { cfg with strict := false } body).outcome = .ok spec :=
    exists_of_lenient rfl hne hlone hcount
  cases hstrict : cfg.strict with
  | false =>
    have hcfg : { cfg with strict := false } = cfg := by rw [← hstrict]
    rw [hcfg] at hspec
    exact ⟨spec, hspec⟩
  | true =>
    -- a strict configuration reads the body like another one
    have hcfg : { cfg with strict := true } = cfg := by rw [← hstrict]
    rw [← classify_strict_eq fun e honly => h e (.strict hstrict honly), hcfg] at hspec
    exact ⟨spec, hspec⟩

theorem outcome_classify_eq_error_iff {e : BlueprintError} :
    (classify (P := P) cfg body).outcome = .error e ↔ Refuses P cfg body e := by
  constructor
  · intro h
    by_cases hrefuses : ∃ e', Refuses P cfg body e'
    · obtain ⟨e', he'⟩ := hrefuses
      rw [outcome_of_refuses he'] at h
      cases h
      exact he'
    · obtain ⟨spec, hspec⟩ := exists_of_not_refuses fun e' he' => hrefuses ⟨e', he'⟩
      rw [hspec] at h
      cases h
  · exact outcome_of_refuses

/-- A body stands for a placeholder exactly if the placeholder is admissible and the body is a way to
write it.  Any other body is refused, for one of the reasons there are and with no other error. -/
theorem classify_inverts_body (P : Type) [PatternLanguage P] (cfg : Config) (body : Text) :
    (∀ spec : Placeholder P, (classify cfg body).outcome = .ok spec ↔
      spec.Admissible cfg ∧ (body = spec.body cfg ∨ LenientBody cfg body spec)) ∧
    ∀ e, (classify (P := P) cfg body).outcome = .error e ↔ Refuses P cfg body e :=
  ⟨fun _ => outcome_classify_eq_ok_iff, fun _ => outcome_classify_eq_error_iff⟩

end Placeholder

end Blueprints
