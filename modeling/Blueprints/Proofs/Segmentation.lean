import Blueprints.Blueprint
import Blueprints.Segment

/-!
# Reading by segments

The cursor decides at every character whether something opens or closes there.  Read as a whole it
does nothing else than taking the text apart into segments and turning each of them into a
component: the main statement is `ofText_eq_ofSegments`, with notes and errors included.
-/

namespace Blueprints

variable {P : Type}

namespace Component

def ofLiteral (t : Text) : List (Component P) := if t.isEmpty then [] else [.literal t]

/-- The components of segments that start at a byte offset. -/
def ofSegments [PatternLanguage P] (cfg : Config) :
    (offset : Nat) → List Segment → Noted (List (Component P))
  | _, [] => pure []
  | offset, .literal t :: more => do
    let components ← ofSegments cfg (offset + t.byteLength) more
    pure (.literal t :: components)
  | offset, .placeholder body :: more => do
    let spec ← Placeholder.classify cfg body
    match spec.restName?, more with
    | some name, _ :: _ => .fail (.textAfterRest name)
    | _, _ => do
      let width := (cfg.delimiters.enclose body).byteLength
      let components ← ofSegments cfg (offset + width) more
      pure (.placeholder spec :: components)
  | offset, .unclosed _ :: _ => .fail (.notClosed offset)

theorem ofSegments_ofLiteral_append [PatternLanguage P] (cfg : Config) (offset : Nat) (t : Text)
    (more : List Segment) :
    ofSegments (P := P) cfg offset (Segment.ofLiteral t ++ more) =
      ofSegments cfg (offset + t.byteLength) more >>= fun cs => pure (ofLiteral t ++ cs) := by
  cases t with
  | nil => simp [Segment.ofLiteral, ofLiteral, Text.byteLength]
  | cons c t => simp [Segment.ofLiteral, ofLiteral, ofSegments]

theorem ofSegments_ofLiteral [PatternLanguage P] (cfg : Config) (offset : Nat) (t : Text) :
    ofSegments (P := P) cfg offset (Segment.ofLiteral t) = pure (ofLiteral t) := by
  have h := ofSegments_ofLiteral_append (P := P) cfg offset t []
  rw [List.append_nil] at h
  rw [h]
  simp [ofSegments]

section Outcomes

variable [PatternLanguage P] {cfg : Config} {offset : Nat} {before body : Text}
  {more : List Segment}

theorem outcome_ofSegments_append (cfg : Config) (offset : Nat) (before : Text)
    (more : List Segment) :
    (ofSegments (P := P) cfg offset (Segment.ofLiteral before ++ more)).outcome =
      (ofSegments cfg (offset + before.byteLength) more).outcome.map (ofLiteral before ++ ·) := by
  rw [ofSegments_ofLiteral_append, Noted.outcome_bind]
  cases (ofSegments (P := P) cfg (offset + before.byteLength) more).outcome <;> rfl

theorem outcome_ofSegments_refused {e : BlueprintError}
    (h : (Placeholder.classify (P := P) cfg body).outcome = .error e) :
    (ofSegments (P := P) cfg offset (.placeholder body :: more)).outcome = .error e := by
  rw [ofSegments, Noted.outcome_bind, h]
  rfl

theorem outcome_ofSegments_textAfterRest {name : Text}
    (h : (Placeholder.classify (P := P) cfg body).outcome = .ok (.rest name)) (hm : more ≠ []) :
    (ofSegments (P := P) cfg offset (.placeholder body :: more)).outcome =
      .error (.textAfterRest name) := by
  obtain ⟨s, more, rfl⟩ := List.exists_cons_of_ne_nil hm
  rw [ofSegments, Noted.outcome_bind, h]
  rfl

theorem outcome_ofSegments_placeholder {spec : Placeholder P}
    (h : (Placeholder.classify cfg body).outcome = .ok spec)
    (hm : ∀ name, spec = .rest name → more = []) :
    (ofSegments cfg offset (.placeholder body :: more)).outcome =
      (ofSegments cfg (offset + (cfg.delimiters.enclose body).byteLength) more).outcome.map
        (.placeholder spec :: ·) := by
  have hmap : ∀ x : Noted (List (Component P)),
      (x >>= fun cs => pure (.placeholder spec :: cs)).outcome =
        x.outcome.map (.placeholder spec :: ·) := by
    intro x
    rw [Noted.outcome_bind]
    cases x.outcome <;> rfl
  rw [ofSegments, Noted.outcome_bind, h]
  cases hn : spec.restName? with
  | none => simp only [Except.bind, hn, hmap]
  | some name =>
    rw [hm name (Placeholder.restName?_eq_some_iff.1 hn)]
    simp only [Except.bind, hn, hmap]

end Outcomes

end Component

namespace Cursor

/-! ### Places -/

theorem slice_middle (front middle back : Text) :
    slice (front ++ middle ++ back).toArray front.length (front.length + middle.length) =
      middle := by
  simp [slice, List.extract_eq_take_drop]

theorem offset_front (front back : Text) :
    offset (front ++ back).toArray front.length = Text.byteLength front := by
  simp [offset, slice]

theorem opensAt_iff (d : Delimiters) (front tail : Text) :
    opensAt d (front ++ tail).toArray front.length = true ↔ ∃ rest, tail = d.opener ++ rest := by
  have hend : ¬ front.length + 2 < front.length := by omega
  rcases tail with _ | ⟨a, _ | ⟨b, _ | ⟨c, rest⟩⟩⟩ <;>
    simp [opensAt, Delimiters.opener, and_assoc, hend]

theorem closesAt_iff (d : Delimiters) (front tail : Text) :
    closesAt d (front ++ tail).toArray front.length = true ↔
      ∃ rest, tail = d.closer ++ rest ∧ rest.head? ≠ some d.closing := by
  have hend : ¬ front.length + 1 < front.length := by omega
  rcases tail with _ | ⟨a, _ | ⟨b, _ | ⟨c, rest⟩⟩⟩ <;>
    simp [closesAt, Delimiters.closer, and_assoc, hend]

/-! ### Cursors between two characters -/

/-- The cursor behind `lead`, which belongs to a literal that starts behind `front`. -/
def inLiteral (components : List (Component P)) (front lead : Text) : Cursor P where
  index := front.length + lead.length
  literalStart := front.length
  components := components

/-- The cursor behind `lead`, which belongs to a body that starts behind `front`. -/
def inBody (components : List (Component P)) (literalStart : Nat) (front lead : Text) :
    Cursor P where
  index := front.length + lead.length
  literalStart := literalStart
  bodyStart? := some front.length
  components := components

/-- The cursor behind a placeholder with which `front` ends. -/
def behind (components : List (Component P)) (front : Text) (spec : Placeholder P) : Cursor P where
  index := front.length
  literalStart := front.length
  rest? := spec.restName?
  components := components ++ [.placeholder spec]

theorem advanced_inLiteral (cs : List (Component P)) (front lead : Text) (c : Char) :
    (inLiteral cs front lead).advanced = inLiteral cs front (lead ++ [c]) := by
  simp [inLiteral, advanced, Nat.add_assoc]

theorem advanced_inBody (cs : List (Component P)) (n : Nat) (front lead : Text) (c : Char) :
    (inBody cs n front lead).advanced = inBody cs n front (lead ++ [c]) := by
  simp [inBody, advanced, Nat.add_assoc]

theorem opened_inLiteral (cs : List (Component P)) (d : Delimiters) (front lead rest : Text) :
    (inLiteral cs front lead).opened (front ++ lead ++ rest).toArray =
      inBody (cs ++ Component.ofLiteral lead) front.length (front ++ lead ++ d.opener) [] := by
  have hs := slice_middle front lead rest
  cases lead with
  | nil => simp [inLiteral, inBody, opened, Component.ofLiteral, Delimiters.opener]
  | cons c lead =>
    simp only [inLiteral, inBody, opened, hs]
    simp [Component.ofLiteral, Delimiters.opener, Nat.add_assoc]

theorem closed_inBody (spec : Placeholder P) (cs : List (Component P)) (n : Nat) (d : Delimiters)
    (front lead : Text) :
    (inBody cs n front lead).closed spec = behind cs (front ++ lead ++ d.closer) spec := by
  simp [inBody, closed, behind, Delimiters.closer, Nat.add_assoc]

theorem behind_eq_inLiteral (cs : List (Component P)) (front : Text) (spec : Placeholder P)
    (h : spec.restName? = none) :
    behind cs front spec = inLiteral (cs ++ [.placeholder spec]) front [] := by
  simp [behind, inLiteral, h]

theorem finish_inLiteral {t front lead : Text} (cs : List (Component P)) (ht : t = front ++ lead) :
    finish t.toArray (inLiteral cs front lead) = pure (cs ++ Component.ofLiteral lead) := by
  have hs := slice_middle front lead []
  rw [List.append_nil, ← ht] at hs
  cases lead with
  | nil => simp [finish, inLiteral, ht, Component.ofLiteral]
  | cons c lead =>
    have hsize : t.toArray.size = front.length + (c :: lead).length := by simp [ht]
    simp only [finish, inLiteral, hsize, hs]
    simp [Component.ofLiteral]

theorem finish_inBody {t front rest : Text} (cs : List (Component P)) (n : Nat) (d : Delimiters)
    (lead : Text) (ht : t = front ++ d.opener ++ rest) :
    finish t.toArray (inBody cs n (front ++ d.opener) lead) =
      .fail (.notClosed front.byteLength) := by
  have hn : (front ++ d.opener).length - 3 = front.length := by simp [Delimiters.opener]
  simp only [finish, inBody, hn]
  rw [ht, List.append_assoc, offset_front]

variable [PatternLanguage P] {cfg : Config} {t front lead rest : Text}

theorem run_of_lt {chars : Array Char} {c : Cursor P} (h : c.index < chars.size) :
    run cfg chars c = step cfg chars c >>= run cfg chars := by
  rw [run_eq]
  simp only [h, if_true]

theorem run_at_end {chars : Array Char} {c : Cursor P} (h : c.index = chars.size) :
    run cfg chars c = pure c := by
  rw [run_eq]
  simp [h]

theorem step_at_opener (cs : List (Component P))
    (ht : t = front ++ lead ++ (cfg.delimiters.opener ++ rest)) :
    step cfg t.toArray (inLiteral cs front lead) =
      pure (inBody (cs ++ Component.ofLiteral lead) front.length
        (front ++ lead ++ cfg.delimiters.opener) []) := by
  have hopen : opensAt cfg.delimiters t.toArray (front.length + lead.length) = true := by
    rw [ht, ← List.length_append]
    exact (opensAt_iff _ _ _).2 ⟨rest, rfl⟩
  have hc := opened_inLiteral cs cfg.delimiters front lead (cfg.delimiters.opener ++ rest)
  rw [← ht] at hc
  rw [← hc]
  simp [step, inLiteral, hopen]

theorem step_in_literal {c : Char} {tail : Text} (cs : List (Component P))
    (ht : t = front ++ lead ++ (c :: tail))
    (h : Text.after? cfg.delimiters.opener (c :: tail) = none) :
    step cfg t.toArray (inLiteral cs front lead) = pure (inLiteral cs front (lead ++ [c])) := by
  have hopen : ¬ opensAt cfg.delimiters t.toArray (front.length + lead.length) = true := by
    rw [ht, ← List.length_append, opensAt_iff]
    rintro ⟨rest, hr⟩
    rw [Text.after?_eq_some_iff.2 hr] at h
    cases h
  rw [← advanced_inLiteral]
  simp [step, inLiteral, hopen]

theorem step_at_closer (cs : List (Component P)) (n : Nat)
    (ht : t = front ++ lead ++ (cfg.delimiters.closer ++ rest))
    (hr : rest.head? ≠ some cfg.delimiters.closing) :
    step cfg t.toArray (inBody cs n front lead) =
      Placeholder.classify cfg lead >>= fun spec =>
        pure (behind cs (front ++ lead ++ cfg.delimiters.closer) spec) := by
  have hclose : closesAt cfg.delimiters t.toArray (front.length + lead.length) = true := by
    rw [ht, ← List.length_append]
    exact (closesAt_iff _ _ _).2 ⟨rest, rfl, hr⟩
  have hs := slice_middle front lead (cfg.delimiters.closer ++ rest)
  rw [← ht] at hs
  simp only [← closed_inBody _ cs n]
  simp [step, inBody, hclose, hs]

theorem step_in_body {c : Char} {tail : Text} (cs : List (Component P)) (n : Nat)
    (ht : t = front ++ lead ++ (c :: tail))
    (h : Segment.afterCloser? cfg.delimiters (c :: tail) = none) :
    step cfg t.toArray (inBody cs n front lead) = pure (inBody cs n front (lead ++ [c])) := by
  have hclose : ¬ closesAt cfg.delimiters t.toArray (front.length + lead.length) = true := by
    rw [ht, ← List.length_append, closesAt_iff]
    rintro ⟨rest, hr⟩
    rw [Segment.afterCloser?_eq_some_iff.2 hr] at h
    cases h
  rw [← advanced_inBody]
  simp [step, inBody, hclose]

/-! ### Runs -/

theorem run_to_opener {tail before inside : Text} (cs : List (Component P))
    (ht : t = front ++ lead ++ tail)
    (hs : Segment.splitOpener? cfg.delimiters tail = some (before, inside)) :
    run cfg t.toArray (inLiteral cs front lead) =
      run cfg t.toArray (inBody (cs ++ Component.ofLiteral (lead ++ before)) front.length
        (front ++ lead ++ before ++ cfg.delimiters.opener) []) := by
  induction tail generalizing lead before with
  | nil => cases hs
  | cons c tail ih =>
    rw [run_of_lt (by simp [ht, inLiteral])]
    rcases Segment.splitFirst?_cons hs with ⟨rfl, hr⟩ | ⟨b, rfl, hb, hno⟩
    · rw [Text.append_of_after? hr] at ht
      rw [step_at_opener cs ht, pure_bind, List.append_nil, List.append_nil]
    · rw [step_in_literal cs ht hno, pure_bind, ih (by simp [ht]) hb]
      simp

theorem run_without_opener {tail : Text} (cs : List (Component P))
    (ht : t = front ++ lead ++ tail) (hs : Segment.splitOpener? cfg.delimiters tail = none) :
    run cfg t.toArray (inLiteral cs front lead) = pure (inLiteral cs front (lead ++ tail)) := by
  induction tail generalizing lead with
  | nil => rw [run_at_end (by simp [ht, inLiteral]), List.append_nil]
  | cons c tail ih =>
    obtain ⟨hno, hb⟩ := Segment.splitFirst?_cons_eq_none.1 hs
    rw [run_of_lt (by simp [ht, inLiteral]), step_in_literal cs ht hno, pure_bind,
      ih (by simp [ht]) hb, List.append_assoc, List.singleton_append]

theorem run_to_closer {tail body : Text} (cs : List (Component P)) (n : Nat)
    (ht : t = front ++ lead ++ tail)
    (hs : Segment.splitCloser? cfg.delimiters tail = some (body, rest)) :
    run cfg t.toArray (inBody cs n front lead) =
      Placeholder.classify cfg (lead ++ body) >>= fun spec =>
        run cfg t.toArray (behind cs (front ++ lead ++ body ++ cfg.delimiters.closer) spec) := by
  induction tail generalizing lead body with
  | nil => cases hs
  | cons c tail ih =>
    rw [run_of_lt (by simp [ht, inBody])]
    rcases Segment.splitFirst?_cons hs with ⟨rfl, hr⟩ | ⟨b, rfl, hb, hno⟩
    · obtain ⟨hr, hne⟩ := Segment.afterCloser?_eq_some_iff.1 hr
      rw [hr] at ht
      rw [step_at_closer cs n ht hne, bind_assoc, List.append_nil, List.append_nil]
      simp
    · rw [step_in_body cs n ht hno, pure_bind, ih (by simp [ht]) hb]
      simp

theorem run_without_closer {tail : Text} (cs : List (Component P)) (n : Nat)
    (ht : t = front ++ lead ++ tail) (hs : Segment.splitCloser? cfg.delimiters tail = none) :
    run cfg t.toArray (inBody cs n front lead) = pure (inBody cs n front (lead ++ tail)) := by
  induction tail generalizing lead with
  | nil => rw [run_at_end (by simp [ht, inBody]), List.append_nil]
  | cons c tail ih =>
    obtain ⟨hno, hb⟩ := Segment.splitFirst?_cons_eq_none.1 hs
    rw [run_of_lt (by simp [ht, inBody]), step_in_body cs n ht hno, pure_bind,
      ih (by simp [ht]) hb, List.append_assoc, List.singleton_append]

theorem read_behind_rest {tail name : Text} {spec : Placeholder P} (cs : List (Component P))
    (ht : t = front ++ tail) (hn : spec.restName? = some name) :
    run cfg t.toArray (behind cs front spec) >>= finish t.toArray =
      if tail = [] then pure (cs ++ [.placeholder spec]) else .fail (.textAfterRest name) := by
  cases tail with
  | nil =>
    rw [run_at_end (by simp [ht, behind]), pure_bind]
    simp [finish, behind, ht]
  | cons c tail =>
    have hstep : step cfg t.toArray (behind cs front spec) = .fail (.textAfterRest name) := by
      simp [step, behind, hn]
    rw [run_of_lt (by simp [ht, behind]), hstep]
    rfl

end Cursor

/-! ### The whole text -/

variable [PatternLanguage P] (cfg : Config)

/-- The cursor reads the components of the segments, wherever a literal may start. -/
theorem Cursor.read_from {t : Text} (cs : List (Component P)) (front tail : Text)
    (ht : t = front ++ tail) :
    (run cfg t.toArray (inLiteral cs front []) >>= finish t.toArray) =
      Component.ofSegments cfg front.byteLength (Segment.ofText cfg.delimiters tail) >>=
        fun more => pure (cs ++ more) := by
  have ht₁ : t = front ++ [] ++ tail := by rw [ht, List.append_nil]
  fun_induction Segment.ofText cfg.delimiters tail generalizing cs front with
  | case1 tail ho =>
    rw [run_without_opener cs ht₁ ho, pure_bind, List.nil_append, finish_inLiteral cs ht,
      Component.ofSegments_ofLiteral, pure_bind]
  | case2 tail before inside ho hc =>
    have ht₂ : t = front ++ before ++ cfg.delimiters.opener ++ [] ++ inside := by
      rw [ht, Segment.eq_of_splitOpener? ho]
      simp
    rw [run_to_opener cs ht₁ ho, List.append_nil, run_without_closer _ _ ht₂ hc, pure_bind,
      finish_inBody _ _ _ _ (by simpa using ht₂), Component.ofSegments_ofLiteral_append]
    simp only [Component.ofSegments, Noted.fail_bind, Text.byteLength_append]
  | case3 tail before inside ho body rest hc ih =>
    have ht₂ : t = front ++ before ++ cfg.delimiters.opener ++ [] ++ inside := by
      rw [ht, Segment.eq_of_splitOpener? ho]
      simp
    have ht₃ : t = front ++ before ++ cfg.delimiters.enclose body ++ rest := by
      rw [ht₂, Segment.eq_of_splitCloser? hc]
      simp [Delimiters.enclose]
    have hwidth : (front ++ before ++ cfg.delimiters.enclose body).byteLength =
        front.byteLength + before.byteLength + (cfg.delimiters.enclose body).byteLength := by
      simp only [Text.byteLength_append]
    have hfront : front ++ before ++ cfg.delimiters.opener ++ [] ++ body ++ cfg.delimiters.closer =
        front ++ before ++ cfg.delimiters.enclose body := by simp [Delimiters.enclose]
    rw [run_to_opener cs ht₁ ho, List.append_nil, run_to_closer _ _ ht₂ hc,
      Component.ofSegments_ofLiteral_append]
    simp only [Component.ofSegments, bind_assoc, pure_bind, List.nil_append]
    refine bind_congr fun spec => ?_
    rw [hfront]
    cases hn : spec.restName? with
    | none =>
      rw [behind_eq_inLiteral _ _ _ hn, ih _ _ ht₃ (by rw [ht₃, List.append_nil]), hwidth]
      simp
    | some name =>
      rw [read_behind_rest _ ht₃ hn]
      cases rest with
      | nil => simp [Segment.ofText_eq_nil_iff.2, Component.ofSegments]
      | cons c rest =>
        obtain ⟨s, more, hs⟩ := List.exists_cons_of_ne_nil
          (mt Segment.ofText_eq_nil_iff.1 (List.cons_ne_nil c rest))
        rw [hs]
        rfl

/-- Reading with a cursor is reading by segments. -/
theorem Component.ofText_eq_ofSegments (t : Text) :
    Component.ofText (P := P) cfg t =
      Component.ofSegments cfg 0 (Segment.ofText cfg.delimiters t) := by
  have h := Cursor.read_from (P := P) cfg [] [] t rfl
  have hstart : Cursor.inLiteral (P := P) [] [] [] = {} := rfl
  rw [hstart] at h
  simpa [Component.ofText, Text.byteLength] using h

/-! ### Two configurations -/

section Congruence

variable (cfg cfg' : Config) (hd : cfg'.delimiters = cfg.delimiters)
  (hc : ∀ body, Placeholder.classify (P := P) cfg' body = Placeholder.classify cfg body)
include hd hc

theorem Component.ofSegments_congr (offset : Nat) (segments : List Segment) :
    ofSegments (P := P) cfg' offset segments = ofSegments cfg offset segments := by
  induction segments generalizing offset with
  | nil => rfl
  | cons s more ih =>
    cases s with
    | literal t => simp only [ofSegments, ih]
    | placeholder body => simp only [ofSegments, hc, hd, ih]
    | unclosed rest => rfl

theorem Blueprint.outcome_compile_congr (t : Text) :
    (compile (P := P) cfg' t).outcome =
      (compile cfg t).outcome.map fun b => { b with config := cfg' } := by
  have hcomponents : Component.ofText (P := P) cfg' t = Component.ofText cfg t := by
    rw [Component.ofText_eq_ofSegments, Component.ofText_eq_ofSegments, hd,
      Component.ofSegments_congr cfg cfg' hd hc]
  rw [outcome_compile, outcome_compile, hcomponents, Noted.map_map_outcome]

end Congruence

end Blueprints
