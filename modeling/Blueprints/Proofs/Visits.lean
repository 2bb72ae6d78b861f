import Blueprints.Extraction

/-!
# Visits

A visit that fails leaves the progress as it was, as whatever can fail comes before the first change.
So a component is a partial function on progresses (`Component.visit_on`), and an extraction that gets
stuck tells the drain that the components in front of the place have left (`visitAll_cons`).
-/

namespace Blueprints

namespace Visit

variable {α β : Type}

theorem on_drain_bind (f : Text → Visit β) (p : Progress) : (drain >>= f).on p = (f p.drain).on p :=
  rfl

/-- What comes before a failure is not undone. -/
theorem on_bind (x : Visit α) (f : α → Visit β) (p : Progress) :
    (x >>= f).on p =
      match x.on p with
      | (none, q) => (none, q)
      | (some a, q) => (f a).on q := by
  simp only [on, OptionT.run_bind, Option.elimM, StateT.run_bind, Id.run_bind]
  rcases (StateT.run x.run p).run with ⟨_ | a, q⟩ <;> rfl

theorem strip_on (lead : Text) (p : Progress) :
    (strip lead).on p =
      match Text.after? lead p.drain with
      | none => (none, p)
      | some rest => (some (), { p with drain := rest }) := by
  rw [strip, on_drain_bind]
  cases Text.after? lead p.drain <;> rfl

end Visit

variable {P : Type} [PatternLanguage P]

/-- What a matcher yields on a drain, and what it leaves. -/
def Matcher.take? (m : Matcher P) (drain : Text) : Option (Text × Text) :=
  match m with
  | .pattern p => (PatternLanguage.find p drain).map fun found => (found, drain.drop found.length)
  | .literal t => (Text.after? t drain).map fun rest => (t, rest)

theorem Matcher.visit_on (m : Matcher P) (p : Progress) :
    m.visit.on p =
      match m.take? p.drain with
      | none => (none, p)
      | some (value, rest) => (some value, { p with drain := rest }) := by
  cases m with
  | pattern pattern =>
    rw [visit, Visit.on_drain_bind, take?]
    cases PatternLanguage.find pattern p.drain <;> rfl
  | literal t =>
    rw [visit, Visit.on_bind, Visit.strip_on, take?]
    cases Text.after? t p.drain <;> rfl

namespace Component

/-- The progress behind a component, if the component can go on. -/
def next? (cfg : Config) (context : Option Context) (p : Progress) : Component P → Option Progress
  | .literal t => (Text.after? t p.drain).map fun rest => { p with drain := rest }.emit t
  | .placeholder (.matched name m) =>
    (m.take? p.drain).map fun (value, drain) =>
      let p := { p with drain := drain }
      match name with
      | some name => p.record cfg name value
      | none => p
  | .placeholder (.rest name) =>
    if p.drain.isEmpty then none
    else some ({ p with drain := [] }.record cfg name p.drain)
  | .placeholder (.context key) =>
    match context.bind (·.get? key) with
    | some value => some (p.emit value)
    | none => some p
  | .placeholder (.attach value) => some (p.emit value)

section

variable (cfg : Config) (context : Option Context)

/-- A component that cannot go on leaves the progress as it was. -/
theorem visit_on (c : Component P) (p : Progress) :
    (c.visit cfg context).on p =
      match c.next? cfg context p with
      | none => (none, p)
      | some q => (some (), q) := by
  cases c with
  | literal t =>
    rw [visit, Visit.on_bind, Visit.strip_on, next?]
    cases Text.after? t p.drain <;> rfl
  | placeholder spec =>
    cases spec with
    | matched name m =>
      rw [visit, Placeholder.visit, Visit.on_bind, Matcher.visit_on, next?]
      cases m.take? p.drain with
      | none => rfl
      | some taken => cases name <;> rfl
    | rest name =>
      rw [visit, Placeholder.visit, Visit.on_drain_bind, next?]
      by_cases hempty : p.drain.isEmpty = true
      · simp only [hempty, if_true]
        rfl
      · simp only [hempty]
        rfl
    | context key =>
      rw [visit, Placeholder.visit, next?]
      cases context.bind (·.get? key) <;> rfl
    | attach value => rfl

theorem visitAll_cons (n : Nat) (c : Component P) (cs : List (Component P)) (p : Progress) :
    visitAll cfg context n (c :: cs) p =
      match c.next? cfg context p with
      | none => .error (.stuck n p.drain)
      | some q => visitAll cfg context (n + 1) cs q := by
  rw [visitAll, visit_on]
  cases c.next? cfg context p <;> rfl

end

end Component

end Blueprints
