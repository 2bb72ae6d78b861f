import Blueprints.BlueprintError

/-!
# Compiling with notes

Compiling either fails with an error or gives a result; in both cases it leaves notes on what
happened on the way, in order.
-/

namespace Blueprints

inductive Note
  /-- A text that is no pattern, for the reason in a message, will be matched as it is. -/
  | matchedLiterally (pattern message : Text)
  | compiled (blueprint : Text) (components placeholders : Nat)
deriving Repr, DecidableEq

/-- An outcome with the notes left on the way to it. -/
structure Noted (α : Type) where
  notes : List Note
  outcome : Except BlueprintError α

namespace Noted

variable {α β : Type}

def fail (e : BlueprintError) : Noted α := ⟨[], .error e⟩

def note (n : Note) : Noted Unit := ⟨[n], .ok ()⟩

/-- Goes on with the result; after a failure nothing more happens. -/
def andThen (x : Noted α) (f : α → Noted β) : Noted β :=
  match x.outcome with
  | .error e => ⟨x.notes, .error e⟩
  | .ok a => ⟨x.notes ++ (f a).notes, (f a).outcome⟩

instance : Monad Noted where
  pure a := ⟨[], .ok a⟩
  bind := andThen

theorem bind_eq (x : Noted α) (f : α → Noted β) : x >>= f = x.andThen f := rfl

theorem outcome_bind (x : Noted α) (f : α → Noted β) :
    (x >>= f).outcome = x.outcome.bind fun a => (f a).outcome := by
  obtain ⟨notes, outcome⟩ := x
  cases outcome <;> rfl

theorem andThen_pure (x : Noted α) : (x.andThen fun a => ⟨[], .ok a⟩) = x := by
  obtain ⟨notes, outcome⟩ := x
  cases outcome <;> simp [andThen]

theorem pure_andThen (a : α) (f : α → Noted β) : andThen ⟨[], .ok a⟩ f = f a := by
  simp [andThen]

theorem andThen_assoc {γ : Type} (x : Noted α) (f : α → Noted β) (g : β → Noted γ) :
    (x.andThen f).andThen g = x.andThen fun a => (f a).andThen g := by
  obtain ⟨notes, outcome⟩ := x
  cases outcome with
  | error e => rfl
  | ok a => cases h : (f a).outcome <;> simp [andThen, h]

instance : LawfulMonad Noted := .mk' Noted andThen_pure pure_andThen andThen_assoc

theorem fail_bind (e : BlueprintError) (f : α → Noted β) : fail e >>= f = fail e := rfl

theorem outcome_pure (a : α) : (pure a : Noted α).outcome = .ok a := rfl

theorem map_map_outcome {γ : Type} (f : α → β) (g : β → γ) (r : Except BlueprintError α) :
    (r.map f).map g = r.map fun a => g (f a) := by
  cases r <;> rfl

end Noted

end Blueprints
