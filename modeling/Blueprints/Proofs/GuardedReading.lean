import Blueprints.Blueprint
import Blueprints.Proofs.ByteOffsets

/-!
# Guarded reading

Compiling once more, with nothing taken for granted: characters are read by their numbers, literals
and bodies are cut out between byte offsets, the opener of an open placeholder is found by going back
three characters, and the loop has one turn for each character.  As the places of a cursor keep their
order (`Cursor.Reached.sound`), none of this traps, and the result is the same (`Guarded.compile_eq`).
-/

namespace Blueprints

variable {P : Type}

/-! ### Where cursors come to -/

namespace Cursor

/-- The places of a cursor are within the text and in order, and an open body stands behind an
opener. -/
structure Sound (chars : Array Char) (c : Cursor P) : Prop where
  index_le : c.index ≤ chars.size
  literalStart_le : c.literalStart ≤ c.index
  bodyStart_le : ∀ start, c.bodyStart? = some start → 3 ≤ start ∧ start ≤ c.index

section

variable {chars : Array Char} {c : Cursor P}

theorem Sound.start (chars : Array Char) : Sound chars ({} : Cursor P) where
  index_le := Nat.zero_le _
  literalStart_le := Nat.le_refl _
  bodyStart_le := by
    intro start h
    cases h

theorem Sound.advanced (hc : c.Sound chars) (hlt : c.index < chars.size) :
    c.advanced.Sound chars where
  index_le := hlt
  literalStart_le := Nat.le_succ_of_le hc.literalStart_le
  bodyStart_le := by
    intro start h
    obtain ⟨hopener, hle⟩ := hc.bodyStart_le start h
    exact ⟨hopener, Nat.le_succ_of_le hle⟩

theorem Sound.opened (hc : c.Sound chars) (hlt : c.index + 2 < chars.size) :
    (c.opened chars).Sound chars where
  index_le := hlt
  literalStart_le := Nat.le_add_right_of_le hc.literalStart_le
  bodyStart_le := by
    intro start h
    cases h
    exact ⟨Nat.le_add_left 3 c.index, Nat.le_refl _⟩

theorem Sound.closed (spec : Placeholder P) (hlt : c.index + 1 < chars.size) :
    (c.closed spec).Sound chars where
  index_le := hlt
  literalStart_le := Nat.le_refl _
  bodyStart_le := by
    intro start h
    cases h

theorem lt_of_opensAt {d : Delimiters} {i : Nat} (h : opensAt d chars i = true) :
    i + 2 < chars.size := by
  unfold opensAt at h
  split at h
  · assumption
  · cases h

theorem lt_of_closesAt {d : Delimiters} {i : Nat} (h : closesAt d chars i = true) :
    i + 1 < chars.size := by
  unfold closesAt at h
  split at h
  · assumption
  · cases h

end

section

variable [PatternLanguage P] {cfg : Config} {chars : Array Char} {c c' : Cursor P}

theorem step_eq_ok_cases (h : (step cfg chars c).outcome = .ok c') :
    c.rest? = none ∧
      (c' = c.advanced ∨
        (c.bodyStart? = none ∧ opensAt cfg.delimiters chars c.index = true ∧
          c' = c.opened chars) ∨
        ∃ start spec, c.bodyStart? = some start ∧
          closesAt cfg.delimiters chars c.index = true ∧
          (Placeholder.classify cfg (slice chars start c.index)).outcome = .ok spec ∧
          c' = c.closed spec) := by
  unfold step at h
  split at h
  · cases h
  · rename_i hrest hbody
    refine ⟨hrest, ?_⟩
    split at h
    · rename_i hopens
      cases h
      exact .inr (.inl ⟨hbody, hopens, rfl⟩)
    · cases h
      exact .inl rfl
  · rename_i start hrest hbody
    refine ⟨hrest, ?_⟩
    split at h
    · rename_i hcloses
      rw [Noted.outcome_bind] at h
      cases hspec : (Placeholder.classify (P := P) cfg (slice chars start c.index)).outcome with
      | error e =>
        rw [hspec] at h
        cases h
      | ok spec =>
        rw [hspec] at h
        cases h
        exact .inr (.inr ⟨start, spec, hbody, hcloses, hspec, rfl⟩)
    · cases h
      exact .inl rfl

theorem Sound.step (hc : c.Sound chars) (hlt : c.index < chars.size)
    (h : (c.step cfg chars).outcome = .ok c') : c'.Sound chars := by
  obtain ⟨-, rfl | ⟨-, hopens, rfl⟩ | ⟨_, spec, -, hcloses, -, rfl⟩⟩ := step_eq_ok_cases h
  · exact hc.advanced hlt
  · exact hc.opened (lt_of_opensAt hopens)
  · exact Sound.closed spec (lt_of_closesAt hcloses)

inductive Reached (cfg : Config) (chars : Array Char) : Cursor P → Prop
  | start : Reached cfg chars {}
  | next {c c' : Cursor P} (hc : Reached cfg chars c) (hlt : c.index < chars.size)
      (h : (c.step cfg chars).outcome = .ok c') : Reached cfg chars c'

theorem Reached.atEnd (hc : Reached cfg chars c) (h : (run cfg chars c).outcome = .ok c') :
    Reached cfg chars c' := by
  fun_induction run cfg chars c with
  | case1 c hlt next e he => cases h
  | case2 c hlt next c₁ hstep later ih => exact ih (hc.next hlt hstep) h
  | case3 c hend =>
    cases h
    exact hc

theorem Reached.sound (h : Reached cfg chars c) : c.Sound chars := by
  induction h with
  | start => exact Sound.start chars
  | next _ hlt h ih => exact ih.step hlt h

end

/-! ### Characters by number, texts by offset -/

theorem slice_toArray (t : Text) (start stop : Nat) :
    slice t.toArray start stop = t.slice start stop := by
  simp [slice, Text.slice, List.extract_eq_take_drop]

theorem offset_toArray (t : Text) (i : Nat) : offset t.toArray i = t.byteOffset i := by
  rw [offset, slice_toArray, Text.byteOffset_eq]
  rfl

end Cursor

namespace Guarded

/-! ### Openers and closers -/

def isAt (t : Text) (i : Nat) (c : Char) : Guarded Bool := (t.charAt i).map (· == c)

/-- Two tests; the second is made only if the first holds. -/
def both (first second : Guarded Bool) : Guarded Bool :=
  first.bind fun holds => if holds then second else .ok false

def opensAt (d : Delimiters) (t : Text) (i : Nat) : Guarded Bool :=
  if i + 2 < t.length then
    both (isAt t i d.start) (both (isAt t (i + 1) d.opening) (isAt t (i + 2) d.opening))
  else .ok false

def closesAt (d : Delimiters) (t : Text) (i : Nat) : Guarded Bool :=
  if i + 1 < t.length then
    both (isAt t i d.closing)
      (both (isAt t (i + 1) d.closing) (.ok (t[i + 2]? != some d.closing)))
  else .ok false

theorem isAt_eq {t : Text} {i : Nat} (h : i < t.length) (c : Char) :
    isAt t i c = .ok (t[i] == c) := by
  rw [isAt, Text.charAt_eq h]
  rfl

theorem both_eq (a b : Bool) : both (.ok a) (.ok b) = .ok (a && b) := by
  cases a <;> rfl

theorem opensAt_eq (d : Delimiters) (t : Text) (i : Nat) :
    opensAt d t i = .ok (Cursor.opensAt d t.toArray i) := by
  by_cases h : i + 2 < t.length
  · have h₀ : i < t.length := by omega
    have h₁ : i + 1 < t.length := by omega
    simp [opensAt, Cursor.opensAt, h, isAt_eq h, isAt_eq h₀, isAt_eq h₁, both_eq, Bool.and_assoc]
  · simp [opensAt, Cursor.opensAt, h]

theorem closesAt_eq (d : Delimiters) (t : Text) (i : Nat) :
    closesAt d t i = .ok (Cursor.closesAt d t.toArray i) := by
  by_cases h : i + 1 < t.length
  · have h₀ : i < t.length := by omega
    simp [closesAt, Cursor.closesAt, h, isAt_eq h, isAt_eq h₀, both_eq, Bool.and_assoc]
  · simp [closesAt, Cursor.closesAt, h]

/-! ### Literals and the end -/

def opened (t : Text) (c : Cursor P) : Guarded (Cursor P) := do
  let inside := { c with index := c.index + 3, bodyStart? := some (c.index + 3) }
  if c.literalStart < c.index then
    let text ← t.sliceBytes (t.byteOffset c.literalStart) (t.byteOffset c.index)
    pure { inside with components := c.components ++ [.literal text] }
  else pure inside

theorem opened_eq (t : Text) (c : Cursor P) : opened t c = .ok (c.opened t.toArray) := by
  by_cases h : c.literalStart < c.index
  · rw [opened, Cursor.opened, if_pos h, if_pos h, Text.sliceBytes_byteOffset t (Nat.le_of_lt h),
      Cursor.slice_toArray]
    rfl
  · rw [opened, Cursor.opened, if_neg h, if_neg h]
    rfl

def finish (t : Text) (c : Cursor P) : Guarded (Noted (List (Component P))) :=
  match c.bodyStart? with
  | some start => do
    let opener ← sub start 3
    pure (.fail (.notClosed (t.byteOffset opener)))
  | none =>
    if c.literalStart < t.length then do
      let text ← t.sliceBytes (t.byteOffset c.literalStart) t.byteLength
      pure (pure (c.components ++ [.literal text]))
    else pure (pure c.components)

theorem finish_eq {t : Text} {c : Cursor P} (hc : c.Sound t.toArray) :
    finish t c = .ok (c.finish t.toArray) := by
  cases hstart : c.bodyStart? with
  | some start =>
    have hopener := sub_eq (hc.bodyStart_le start hstart).1
    simp only [finish, Cursor.finish, hstart, hopener, Cursor.offset_toArray]
    rfl
  | none =>
    have hrest : t.slice c.literalStart t.length = t.drop c.literalStart := by
      rw [Text.slice, ← List.length_drop, List.take_length]
    simp only [finish, Cursor.finish, hstart, Text.sliceBytes_from, Cursor.slice_toArray,
      List.size_toArray, hrest]
    split <;> rfl

/-! ### The loop -/

def andThen {α β : Type} (x : Noted α) (f : α → Guarded (Noted β)) : Guarded (Noted β) :=
  match x.outcome with
  | .error e => .ok ⟨x.notes, .error e⟩
  | .ok a => (f a).map fun y => ⟨x.notes ++ y.notes, y.outcome⟩

theorem andThen_eq {α β : Type} {x : Noted α} {f : α → Guarded (Noted β)} {g : α → Noted β}
    (h : ∀ a, x.outcome = .ok a → f a = .ok (g a)) : andThen x f = .ok (x >>= g) := by
  rw [Noted.bind_eq, andThen, Noted.andThen]
  cases hx : x.outcome with
  | error e => rfl
  | ok a =>
    simp only [h a hx]
    rfl

section

variable [PatternLanguage P]

def step (cfg : Config) (t : Text) (c : Cursor P) : Guarded (Noted (Cursor P)) :=
  match c.rest?, c.bodyStart? with
  | some name, _ => .ok (.fail (.textAfterRest name))
  | none, none => do
    if ← opensAt cfg.delimiters t c.index then
      let inside ← opened t c
      pure (pure inside)
    else pure (pure c.advanced)
  | none, some start => do
    if ← closesAt cfg.delimiters t c.index then
      let body ← t.sliceBytes (t.byteOffset start) (t.byteOffset c.index)
      pure do
        let spec ← Placeholder.classify cfg body
        pure (c.closed spec)
    else pure (pure c.advanced)

/-- Reads to the end within a number of turns. -/
def run (cfg : Config) (t : Text) : (turns : Nat) → Cursor P → Guarded (Noted (Cursor P))
  | 0, c => if c.index < t.length then .error .endless else .ok (pure c)
  | turns + 1, c =>
    if c.index < t.length then do
      let next ← step cfg t c
      andThen next (run cfg t turns)
    else .ok (pure c)

def compile (cfg : Config) (t : Text) : Guarded (Noted (Blueprint P)) := do
  let last ← run cfg t t.length {}
  let components ← andThen last (finish t)
  pure do
    let components ← components
    let b : Blueprint P := ⟨t, components, cfg⟩
    Noted.note (.compiled t components.length b.placeholderCount)
    pure b

theorem step_eq {cfg : Config} {t : Text} {c : Cursor P} (hc : c.Sound t.toArray) :
    step cfg t c = .ok (c.step cfg t.toArray) := by
  cases hrest : c.rest? with
  | some name => simp only [step, Cursor.step, hrest]
  | none =>
    cases hstart : c.bodyStart? with
    | none =>
      simp only [step, Cursor.step, hrest, hstart, opensAt_eq, opened_eq]
      cases Cursor.opensAt cfg.delimiters t.toArray c.index <;> rfl
    | some start =>
      have hbody := Text.sliceBytes_byteOffset t (hc.bodyStart_le start hstart).2
      simp only [step, Cursor.step, hrest, hstart, closesAt_eq, hbody, Cursor.slice_toArray]
      cases Cursor.closesAt cfg.delimiters t.toArray c.index <;> rfl

/-- A turn for each character that is left is enough, as every step passes over one at least. -/
theorem run_eq {cfg : Config} {t : Text} {turns : Nat} {c : Cursor P} (hc : c.Sound t.toArray)
    (hturns : t.length ≤ c.index + turns) :
    run cfg t turns c = .ok (c.run cfg t.toArray) := by
  induction turns generalizing c with
  | zero =>
    have hend : ¬ c.index < t.length := Nat.not_lt.2 hturns
    have hend' : ¬ c.index < t.toArray.size := hend
    rw [run, if_neg hend, Cursor.run_eq, if_neg hend']
  | succ turns ih =>
    rw [run, Cursor.run_eq]
    by_cases hlt : c.index < t.length
    · have hlt' : c.index < t.toArray.size := hlt
      rw [if_pos hlt, if_pos hlt', step_eq hc]
      refine andThen_eq fun c' h => ih (hc.step hlt' h) ?_
      -- One turn less, but one character less at least.
      have hadvances := Cursor.index_lt_of_step h
      omega
    · have hend' : ¬ c.index < t.toArray.size := hlt
      rw [if_neg hlt, if_neg hend']

theorem compile_eq (cfg : Config) (t : Text) :
    compile (P := P) cfg t = .ok (Blueprint.compile cfg t) := by
  have hstart : Cursor.Sound t.toArray ({} : Cursor P) := Cursor.Sound.start t.toArray
  have hrun : run cfg t t.length ({} : Cursor P) = .ok (Cursor.run cfg t.toArray {}) :=
    run_eq hstart (Nat.le_add_left _ _)
  have hfinish : andThen (Cursor.run cfg t.toArray {}) (finish (P := P) t) =
      .ok (Component.ofText cfg t) :=
    andThen_eq fun c hc => finish_eq (Cursor.Reached.start.atEnd hc).sound
  simp only [compile, hrun, ok_bind, hfinish]
  rfl

end

end Guarded

end Blueprints
