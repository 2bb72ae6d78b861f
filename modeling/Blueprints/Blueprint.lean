import Blueprints.Cursor

/-!
# Blueprints

A blueprint is a text with its components and the configuration under which it was compiled.
-/

namespace Blueprints

def Component.isPlaceholder {P : Type} : Component P → Bool
  | literal _ => false
  | placeholder _ => true

/-- A compiled blueprint. -/
structure Blueprint (P : Type) where
  text : Text
  components : List (Component P)
  config : Config

namespace Blueprint

variable {P : Type}

def placeholderCount (b : Blueprint P) : Nat := b.components.countP Component.isPlaceholder

def compile [PatternLanguage P] (cfg : Config) (t : Text) : Noted (Blueprint P) := do
  let components ← Component.ofText cfg t
  let b : Blueprint P := ⟨t, components, cfg⟩
  Noted.note (.compiled t components.length b.placeholderCount)
  pure b

theorem outcome_compile [PatternLanguage P] (cfg : Config) (t : Text) :
    (compile (P := P) cfg t).outcome =
      (Component.ofText cfg t).outcome.map fun components => ⟨t, components, cfg⟩ := by
  simp only [compile, Noted.outcome_bind]
  cases (Component.ofText (P := P) cfg t).outcome <;> rfl

theorem compile_eq_ok_iff [PatternLanguage P] {cfg : Config} {t : Text} {b : Blueprint P} :
    (compile cfg t).outcome = .ok b ↔
      ∃ components, (Component.ofText cfg t).outcome = .ok components ∧ b = ⟨t, components, cfg⟩ := by
  rw [outcome_compile]
  cases (Component.ofText (P := P) cfg t).outcome with
  | error e => simp [Except.map]
  | ok components => simp [Except.map, eq_comm]

theorem compile_eq_error_iff [PatternLanguage P] {cfg : Config} {t : Text} {e : BlueprintError} :
    (compile (P := P) cfg t).outcome = .error e ↔
      (Component.ofText (P := P) cfg t).outcome = .error e := by
  rw [outcome_compile]
  cases (Component.ofText (P := P) cfg t).outcome <;> simp [Except.map]

end Blueprint

end Blueprints
