import Blueprints.Placeholder

/-!
# Cursors

A cursor walks over the characters of a blueprint from the left.  It knows where the literal or the
body that it is in starts, and copies that text only when it ends.  The first error wins.
-/

namespace Blueprints

/-- A step of a compiled blueprint. -/
inductive Component (P : Type)
  | literal (text : Text)
  | placeholder (spec : Placeholder P)
deriving DecidableEq

/-- How far the characters of a blueprint are read; places count characters. -/
structure Cursor (P : Type) where
  index : Nat := 0
  literalStart : Nat := 0
  bodyStart? : Option Nat := none
  /-- The name of the placeholder before this place, if that one takes the rest. -/
  rest? : Option Text := none
  components : List (Component P) := []

namespace Cursor

variable {P : Type}

def slice (chars : Array Char) (start stop : Nat) : Text := (chars.extract start stop).toList

/-- The byte offset of a place. -/
def offset (chars : Array Char) (i : Nat) : Nat := Text.byteLength (slice chars 0 i)

def opensAt (d : Delimiters) (chars : Array Char) (i : Nat) : Bool :=
  if h : i + 2 < chars.size then
    chars[i] == d.start && chars[i + 1] == d.opening && chars[i + 2] == d.opening
  else false

/-- Does a closer stand at a place, with no third closing character behind it?  So a body may end
with a closing character of its own. -/
def closesAt (d : Delimiters) (chars : Array Char) (i : Nat) : Bool :=
  if h : i + 1 < chars.size then
    chars[i] == d.closing && chars[i + 1] == d.closing && chars[i + 2]? != some d.closing
  else false

def advanced (c : Cursor P) : Cursor P := { c with index := c.index + 1 }

/-- Ends the literal at an opener and enters the body behind it. -/
def opened (chars : Array Char) (c : Cursor P) : Cursor P :=
  { c with
    index := c.index + 3
    bodyStart? := some (c.index + 3)
    components :=
      if c.literalStart < c.index then
        c.components ++ [.literal (slice chars c.literalStart c.index)]
      else c.components }

/-- Leaves the body at a closer; a literal starts behind it. -/
def closed (spec : Placeholder P) (c : Cursor P) : Cursor P where
  index := c.index + 2
  literalStart := c.index + 2
  rest? := spec.restName?
  components := c.components ++ [.placeholder spec]

variable [PatternLanguage P]

def step (cfg : Config) (chars : Array Char) (c : Cursor P) : Noted (Cursor P) :=
  match c.rest?, c.bodyStart? with
  | some name, _ => .fail (.textAfterRest name)
  | none, none =>
    if opensAt cfg.delimiters chars c.index then pure (c.opened chars) else pure c.advanced
  | none, some start =>
    if closesAt cfg.delimiters chars c.index then do
      let spec ← Placeholder.classify cfg (slice chars start c.index)
      pure (c.closed spec)
    else pure c.advanced

theorem index_lt_of_step {cfg : Config} {chars : Array Char} {c c' : Cursor P}
    (h : (step cfg chars c).outcome = .ok c') : c.index < c'.index := by
  unfold step at h
  split at h
  · cases h
  · split at h <;> cases h <;> simp [opened, advanced]
  · split at h
    · rw [Noted.outcome_bind] at h
      cases hs : (Placeholder.classify (P := P) cfg (slice chars _ c.index)).outcome with
      | error e => rw [hs] at h; cases h
      | ok spec =>
        rw [hs] at h
        cases h
        simp [closed]
    · cases h
      simp [advanced]

def run (cfg : Config) (chars : Array Char) (c : Cursor P) : Noted (Cursor P) :=
  if c.index < chars.size then
    let next := step cfg chars c
    match _h : next.outcome with
    | .error e => ⟨next.notes, .error e⟩
    | .ok c' =>
      let later := run cfg chars c'
      ⟨next.notes ++ later.notes, later.outcome⟩
  else pure c
termination_by chars.size - c.index
decreasing_by
  have := index_lt_of_step _h
  omega

theorem run_eq (cfg : Config) (chars : Array Char) (c : Cursor P) :
    run cfg chars c =
      if c.index < chars.size then step cfg chars c >>= run cfg chars else pure c := by
  rw [run, Noted.bind_eq]
  by_cases hc : c.index < chars.size
  · simp only [hc, if_true]
    unfold Noted.andThen
    split <;> rename_i h <;> split <;> rename_i h' <;> rw [h] at h' <;> cases h' <;> rfl
  · simp only [hc, if_false]

/-- What is read at the end: the open placeholder is an error, a pending literal a component. -/
def finish (chars : Array Char) (c : Cursor P) : Noted (List (Component P)) :=
  match c.bodyStart? with
  | some start => .fail (.notClosed (offset chars (start - 3)))
  | none =>
    if c.literalStart < chars.size then
      pure (c.components ++ [.literal (slice chars c.literalStart chars.size)])
    else pure c.components

end Cursor

def Component.ofText {P : Type} [PatternLanguage P] (cfg : Config) (t : Text) :
    Noted (List (Component P)) := do
  let c ← Cursor.run cfg t.toArray {}
  c.finish t.toArray

end Blueprints
