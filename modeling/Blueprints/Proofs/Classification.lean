import Blueprints.Placeholder

/-!
# Classification

Which bodies stand for a placeholder.  Every placeholder has one way to be written, its `body`, and
a placeholder for the rest a second one, with a separator behind its name.  The main statement is
`outcome_classify_eq_ok_iff`.
-/

namespace Blueprints

variable {P : Type} [PatternLanguage P]

namespace Matcher

def text : Matcher P → Text
  | pattern p => PatternLanguage.source p
  | literal t => t

/-- Is a matcher what its text is read as?  A text of letters and digits is never a pattern. -/
def ReadBack (cfg : Config) : Matcher P → Prop
  | pattern p =>
    Placeholder.isPlain (PatternLanguage.source p) = false ∧
      PatternLanguage.read (PatternLanguage.source p) = .ok p
  | literal t =>
    Placeholder.isPlain t = true ∨
      (cfg.strict = false ∧ ∃ message, PatternLanguage.read (P := P) t = .error message)

end Matcher

namespace Placeholder

/-- Can a text stand on one side of a separator? -/
def IsPart (d : Delimiters) (t : Text) : Prop := t ≠ [] ∧ d.separator ∉ t

/-- What a body can stand for: the parts of the body are parts, and a name that marks something else
is not taken for a name. -/
def Admissible (cfg : Config) : Placeholder P → Prop
  | matched none m => IsPart cfg.delimiters m.text ∧ m.ReadBack cfg
  | matched (some name) m =>
    IsPart cfg.delimiters name ∧ cfg.contextKey ≠ some name ∧ cfg.attachKey ≠ some name ∧
      IsPart cfg.delimiters m.text ∧ m.ReadBack cfg
  | rest name => IsPart cfg.delimiters name
  | context key =>
    (∃ mark, cfg.contextKey = some mark ∧ IsPart cfg.delimiters mark) ∧ IsPart cfg.delimiters key
  | attach value =>
    (∃ mark, cfg.attachKey = some mark ∧ cfg.contextKey ≠ some mark ∧
      IsPart cfg.delimiters mark) ∧ IsPart cfg.delimiters value

def body (cfg : Config) : Placeholder P → Text
  | matched name m => name.getD [] ++ cfg.delimiters.separator :: m.text
  | rest name => name
  | context key => cfg.contextKey.getD [] ++ cfg.delimiters.separator :: key
  | attach value => cfg.attachKey.getD [] ++ cfg.delimiters.separator :: value

/-- Is a body another way to write a placeholder for the rest? -/
def LenientBody (cfg : Config) (body : Text) (spec : Placeholder P) : Prop :=
  cfg.strict = false ∧ ∃ name, spec = .rest name ∧ body = name ++ [cfg.delimiters.separator]

/-! ### Matchers -/

theorem readBack_of_matcher {cfg : Config} {t : Text} {m : Matcher P}
    (h : (matcher cfg t).outcome = .ok m) : m.text = t ∧ m.ReadBack cfg := by
  unfold matcher at h
  by_cases hp : isPlain t = true
  · rw [if_pos hp] at h
    cases h
    exact ⟨rfl, .inl hp⟩
  · rw [if_neg hp] at h
    cases hr : PatternLanguage.read (P := P) t with
    | ok p =>
      rw [hr] at h
      cases h
      have hs := PatternLanguage.source_of_read hr
      exact ⟨hs, by simpa [hs] using hp, by rw [hs, hr]⟩
    | error message =>
      rw [hr] at h
      cases hstrict : cfg.strict with
      | true =>
        simp only [hstrict, if_true] at h
        cases h
      | false =>
        simp only [hstrict] at h
        cases h
        exact ⟨rfl, .inr ⟨hstrict, message, hr⟩⟩

theorem outcome_matcher_text {cfg : Config} {m : Matcher P} (h : m.ReadBack cfg) :
    (matcher cfg m.text).outcome = .ok m := by
  cases m with
  | pattern p =>
    show (matcher cfg (PatternLanguage.source p)).outcome = _
    rw [matcher, if_neg (by simp [h.1]), h.2]
    rfl
  | literal t =>
    show (matcher cfg t).outcome = _
    rcases h with h | ⟨hstrict, message, hr⟩
    · rw [matcher, if_pos h]
      rfl
    · by_cases hp : isPlain t = true
      · rw [matcher, if_pos hp]
        rfl
      · rw [matcher, if_neg hp, hr]
        simp only [hstrict]
        rfl

/-! ### Bodies -/

theorem outcome_map_matcher_eq_ok_iff {cfg : Config} {t : Text} {name : Option Text}
    {spec : Placeholder P} :
    (do pure (.matched name (← matcher cfg t)) : Noted (Placeholder P)).outcome = .ok spec ↔
      ∃ m, spec = .matched name m ∧ m.text = t ∧ m.ReadBack cfg := by
  rw [Noted.outcome_bind]
  constructor
  · intro h
    cases hm : (matcher (P := P) cfg t).outcome with
    | error e =>
      rw [hm] at h
      cases h
    | ok m =>
      rw [hm] at h
      cases h
      exact ⟨m, rfl, readBack_of_matcher hm⟩
  · rintro ⟨m, rfl, rfl, h⟩
    rw [outcome_matcher_text h]
    rfl

theorem admissible_of_classify {cfg : Config} {body : Text} {spec : Placeholder P}
    (h : (classify cfg body).outcome = .ok spec) :
    spec.Admissible cfg ∧ (body = spec.body cfg ∨ LenientBody cfg body spec) := by
  unfold classify at h
  split at h
  · cases h
  · rename_i hne
    split at h
    · rename_i name hs
      obtain ⟨hname, rfl⟩ := Text.splitOn_eq_singleton_iff.1 hs
      cases h
      exact ⟨⟨hne, hname⟩, .inl rfl⟩
    · cases h
    · rename_i name hnil hs
      obtain ⟨hname, -, rfl⟩ := Text.splitOn_eq_pair_iff.1 hs
      cases hstrict : cfg.strict with
      | true =>
        simp only [hstrict, if_true] at h
        cases h
      | false =>
        simp only [hstrict] at h
        cases h
        exact ⟨⟨hnil, hname⟩, .inr ⟨hstrict, name, rfl, rfl⟩⟩
    · rename_i t ht hs
      obtain ⟨-, hsep, rfl⟩ := Text.splitOn_eq_pair_iff.1 hs
      obtain ⟨m, rfl, rfl, hm⟩ := outcome_map_matcher_eq_ok_iff.1 h
      exact ⟨⟨⟨ht, hsep⟩, hm⟩, .inl rfl⟩
    · rename_i name t _ ht hempty hs
      obtain ⟨hsep, hsep', rfl⟩ := Text.splitOn_eq_pair_iff.1 hs
      have hname : IsPart cfg.delimiters name := ⟨hempty, hsep⟩
      split at h
      · rename_i hkey
        cases h
        exact ⟨⟨⟨name, hkey, hname⟩, ⟨ht, hsep'⟩⟩, .inl (by simp [body, hkey])⟩
      · rename_i hkey
        split at h
        · rename_i hattach
          cases h
          exact ⟨⟨⟨name, hattach, hkey, hname⟩, ⟨ht, hsep'⟩⟩, .inl (by simp [body, hattach])⟩
        · rename_i hattach
          obtain ⟨m, rfl, rfl, hm⟩ := outcome_map_matcher_eq_ok_iff.1 h
          exact ⟨⟨hname, hkey, hattach, ⟨ht, hsep'⟩, hm⟩, .inl rfl⟩
    · cases h

section Bodies

variable {cfg : Config} {name t : Text}

theorem classify_name (h : IsPart cfg.delimiters name) :
    classify (P := P) cfg name = pure (.rest name) := by
  have hs := Text.splitOn_eq_singleton_iff.2 ⟨h.2, rfl⟩
  cases name with
  | nil => exact absurd rfl h.1
  | cons c name => simp only [classify, hs]

theorem classify_name_separator (h : IsPart cfg.delimiters name) (hstrict : cfg.strict = false) :
    classify (P := P) cfg (name ++ [cfg.delimiters.separator]) = pure (.rest name) := by
  have hs := Text.splitOn_eq_pair_iff.2 ⟨h.2, List.not_mem_nil, rfl⟩
  cases name with
  | nil => exact absurd rfl h.1
  | cons c name =>
    rw [List.cons_append] at hs ⊢
    simp [classify, hs, hstrict]

theorem classify_separator (h : IsPart cfg.delimiters t) :
    classify (P := P) cfg (cfg.delimiters.separator :: t) =
      (do pure (.matched none (← matcher cfg t))) := by
  have hs : Text.splitOn cfg.delimiters.separator (cfg.delimiters.separator :: t) = [[], t] :=
    Text.splitOn_eq_pair_iff.2 ⟨List.not_mem_nil, h.2, rfl⟩
  cases t with
  | nil => exact absurd rfl h.1
  | cons c t => simp only [classify, hs]

theorem classify_pair (hname : IsPart cfg.delimiters name) (ht : IsPart cfg.delimiters t) :
    classify (P := P) cfg (name ++ cfg.delimiters.separator :: t) =
      if cfg.contextKey = some name then pure (.context t)
      else if cfg.attachKey = some name then pure (.attach t)
      else (do pure (.matched (some name) (← matcher cfg t))) := by
  have hs := Text.splitOn_eq_pair_iff.2 ⟨hname.2, ht.2, rfl⟩
  cases name with
  | nil => exact absurd rfl hname.1
  | cons c name =>
    cases t with
    | nil => exact absurd rfl ht.1
    | cons d t =>
      rw [List.cons_append] at hs ⊢
      simp only [classify, hs]

end Bodies

theorem outcome_classify_body {cfg : Config} {spec : Placeholder P} (h : spec.Admissible cfg) :
    (classify cfg (spec.body cfg)).outcome = .ok spec := by
  cases spec with
  | matched name m =>
    cases name with
    | none =>
      rw [body, Option.getD_none, List.nil_append, classify_separator h.1]
      exact outcome_map_matcher_eq_ok_iff.2 ⟨m, rfl, rfl, h.2⟩
    | some name =>
      obtain ⟨hname, hkey, hattach, ht, hm⟩ := h
      rw [body, Option.getD_some, classify_pair hname ht, if_neg hkey, if_neg hattach]
      exact outcome_map_matcher_eq_ok_iff.2 ⟨m, rfl, rfl, hm⟩
  | rest name => rw [body, classify_name h, Noted.outcome_pure]
  | context key =>
    obtain ⟨⟨mark, hkey, hmark⟩, hpart⟩ := h
    rw [body, hkey, Option.getD_some, classify_pair hmark hpart, if_pos hkey, Noted.outcome_pure]
  | attach value =>
    obtain ⟨⟨mark, hattach, hkey, hmark⟩, hpart⟩ := h
    rw [body, hattach, Option.getD_some, classify_pair hmark hpart, if_neg hkey, if_pos hattach,
      Noted.outcome_pure]

/-- A body stands for a placeholder exactly if the placeholder is admissible and the body is one of
the ways to write it. -/
theorem outcome_classify_eq_ok_iff {cfg : Config} {body : Text} {spec : Placeholder P} :
    (classify cfg body).outcome = .ok spec ↔
      spec.Admissible cfg ∧ (body = spec.body cfg ∨ LenientBody cfg body spec) := by
  refine ⟨admissible_of_classify, ?_⟩
  rintro ⟨h, rfl | ⟨hstrict, name, rfl, rfl⟩⟩
  · exact outcome_classify_body h
  · rw [classify_name_separator h hstrict, Noted.outcome_pure]

end Placeholder

end Blueprints
