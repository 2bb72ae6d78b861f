import Blueprints.Delimiters

/-!
# Segments

The text of a blueprint falls into literals and placeholders.  A placeholder opens at the leftmost
opener; it closes with the last two characters of the first run of two or more closing characters, so
that a body may end with closing characters of its own.  The spellings of the segments, put
together, are the text again.
-/

namespace Blueprints

/-- A part of the text of a blueprint. -/
inductive Segment
  | literal (text : Text)
  | placeholder (body : Text)
  /-- A placeholder without an end, with everything after its opener. -/
  | unclosed (rest : Text)
deriving Repr, DecidableEq

namespace Segment

/-- Splits at the leftmost place where `stop` finds something; `stop` gives what follows that. -/
def splitFirst? (stop : Text → Option Text) : Text → Option (Text × Text)
  | [] => none
  | c :: t =>
    match stop (c :: t) with
    | some rest => some ([], rest)
    | none => (splitFirst? stop t).map fun (before, rest) => (c :: before, rest)

theorem splitFirst?_cons {stop : Text → Option Text} {c : Char} {t before rest : Text}
    (h : splitFirst? stop (c :: t) = some (before, rest)) :
    (before = [] ∧ stop (c :: t) = some rest) ∨
      ∃ b, before = c :: b ∧ splitFirst? stop t = some (b, rest) ∧ stop (c :: t) = none := by
  simp only [splitFirst?] at h
  split at h
  · rename_i r hr
    cases h
    exact .inl ⟨rfl, hr⟩
  · rename_i hr
    obtain ⟨⟨b, r⟩, hb, he⟩ := Option.map_eq_some_iff.1 h
    cases he
    exact .inr ⟨b, rfl, hb, hr⟩

theorem splitFirst?_cons_eq_none {stop : Text → Option Text} {c : Char} {t : Text} :
    splitFirst? stop (c :: t) = none ↔ stop (c :: t) = none ∧ splitFirst? stop t = none := by
  simp only [splitFirst?]
  split
  · rename_i r hr
    simp [hr]
  · rename_i hr
    simp [hr]

theorem splitFirst?_eq_some_iff {stop : Text → Option Text} {t before rest : Text} :
    splitFirst? stop t = some (before, rest) ↔
      ∃ u, t = before ++ u ∧ u ≠ [] ∧ stop u = some rest ∧
        ∀ b v, t = b ++ v → b.length < before.length → stop v = none := by
  induction t generalizing before with
  | nil =>
    constructor
    · intro h
      cases h
    · rintro ⟨u, ht, hu, -⟩
      exact absurd (List.append_eq_nil_iff.1 ht.symm).2 hu
  | cons c t ih =>
    constructor
    · intro h
      rcases splitFirst?_cons h with ⟨rfl, hs⟩ | ⟨b, rfl, hb, hs⟩
      · exact ⟨c :: t, rfl, by simp, hs, fun b v _ hlt => absurd hlt (Nat.not_lt_zero _)⟩
      · obtain ⟨u, ht, hu, hstop, hmin⟩ := ih.1 hb
        refine ⟨u, by rw [ht, List.cons_append], hu, hstop, fun b' v hv hlt => ?_⟩
        cases b' with
        | nil => rwa [← show c :: t = v from hv]
        | cons a b' =>
          rw [List.cons_append, List.cons.injEq] at hv
          exact hmin b' v hv.2 (by simpa using hlt)
    · rintro ⟨u, ht, hu, hstop, hmin⟩
      cases before with
      | nil =>
        have hu' : c :: t = u := ht
        simp [splitFirst?, hu', hstop]
      | cons a b =>
        rw [List.cons_append, List.cons.injEq] at ht
        obtain ⟨rfl, ht⟩ := ht
        have hnone : stop (c :: t) = none := hmin [] (c :: t) rfl (by simp)
        have hb : splitFirst? stop t = some (b, rest) :=
          ih.2 ⟨u, ht, hu, hstop, fun b' v hv hlt =>
            hmin (c :: b') v (by rw [hv, List.cons_append]) (by simpa using hlt)⟩
        simp [splitFirst?, hnone, hb]

theorem splitFirst?_eq_none_iff {stop : Text → Option Text} {t : Text} :
    splitFirst? stop t = none ↔ ∀ b v, t = b ++ v → v ≠ [] → stop v = none := by
  induction t with
  | nil =>
    refine ⟨fun _ b v hv hne => ?_, fun _ => rfl⟩
    exact absurd (List.append_eq_nil_iff.1 hv.symm).2 hne
  | cons c t ih =>
    rw [splitFirst?_cons_eq_none, ih]
    constructor
    · rintro ⟨hs, ht⟩ b v hv hne
      cases b with
      | nil => rwa [← show c :: t = v from hv]
      | cons a b =>
        rw [List.cons_append, List.cons.injEq] at hv
        exact ht b v hv.2 hne
    · intro h
      exact ⟨h [] (c :: t) rfl (by simp),
        fun b v hv hne => h (c :: b) v (by rw [hv, List.cons_append]) hne⟩

/-- What follows a closer at the front, unless that is a third closing character. -/
def afterCloser? (d : Delimiters) (t : Text) : Option Text :=
  (Text.after? d.closer t).filter fun rest => rest.head? ≠ some d.closing

theorem afterCloser?_eq_some_iff {d : Delimiters} {t rest : Text} :
    afterCloser? d t = some rest ↔ t = d.closer ++ rest ∧ rest.head? ≠ some d.closing := by
  simp [afterCloser?, Text.after?_eq_some_iff]

def splitOpener? (d : Delimiters) : Text → Option (Text × Text) := splitFirst? (Text.after? d.opener)

/-- Splits at the end of the first run of two or more closing characters. -/
def splitCloser? (d : Delimiters) : Text → Option (Text × Text) := splitFirst? (afterCloser? d)

theorem eq_of_splitOpener? {d : Delimiters} {t before rest : Text}
    (h : splitOpener? d t = some (before, rest)) : t = before ++ d.opener ++ rest := by
  obtain ⟨u, ht, -, hu, -⟩ := splitFirst?_eq_some_iff.1 h
  rw [ht, Text.append_of_after? hu, List.append_assoc]

theorem eq_of_splitCloser? {d : Delimiters} {t body rest : Text}
    (h : splitCloser? d t = some (body, rest)) : t = body ++ d.closer ++ rest := by
  obtain ⟨u, ht, -, hu, -⟩ := splitFirst?_eq_some_iff.1 h
  rw [ht, (afterCloser?_eq_some_iff.1 hu).1, List.append_assoc]

def ofLiteral (t : Text) : List Segment := if t.isEmpty then [] else [.literal t]

/-- The segments of a text; nothing follows an unclosed one. -/
def ofText (d : Delimiters) (t : Text) : List Segment :=
  match _ho : splitOpener? d t with
  | none => ofLiteral t
  | some (before, inside) =>
    match _hc : splitCloser? d inside with
    | none => ofLiteral before ++ [.unclosed inside]
    | some (body, rest) => ofLiteral before ++ .placeholder body :: ofText d rest
termination_by t.length
decreasing_by
  rw [eq_of_splitOpener? _ho, eq_of_splitCloser? _hc]
  simp only [List.length_append, Delimiters.opener, List.length_cons]
  omega

theorem ofText_literal {d : Delimiters} {t : Text} (ho : splitOpener? d t = none) :
    ofText d t = ofLiteral t := by
  rw [ofText]
  split
  · rfl
  · rename_i h
    rw [ho] at h
    cases h

theorem ofText_unclosed {d : Delimiters} {t before inside : Text}
    (ho : splitOpener? d t = some (before, inside)) (hc : splitCloser? d inside = none) :
    ofText d t = ofLiteral before ++ [.unclosed inside] := by
  rw [ofText]
  split <;> rename_i h <;> rw [ho] at h <;> cases h
  split
  · rfl
  · rename_i h
    rw [hc] at h
    cases h

theorem ofText_placeholder {d : Delimiters} {t before inside body rest : Text}
    (ho : splitOpener? d t = some (before, inside))
    (hc : splitCloser? d inside = some (body, rest)) :
    ofText d t = ofLiteral before ++ .placeholder body :: ofText d rest := by
  rw [ofText]
  split <;> rename_i h <;> rw [ho] at h <;> cases h
  split <;> rename_i h <;> rw [hc] at h <;> cases h
  rfl

def spell (d : Delimiters) : Segment → Text
  | literal t => t
  | placeholder body => d.enclose body
  | unclosed rest => d.opener ++ rest

theorem flatMap_spell_ofLiteral (d : Delimiters) (t : Text) :
    (ofLiteral t).flatMap (spell d) = t := by
  cases t <;> simp [ofLiteral, spell]

theorem spell_ofText (d : Delimiters) (t : Text) : (ofText d t).flatMap (spell d) = t := by
  fun_induction ofText d t with
  | case1 t ho => exact flatMap_spell_ofLiteral d t
  | case2 t before inside ho hc =>
    rw [List.flatMap_append, flatMap_spell_ofLiteral, eq_of_splitOpener? ho]
    simp [spell]
  | case3 t before inside ho body rest hc ih =>
    rw [List.flatMap_append, flatMap_spell_ofLiteral, List.flatMap_cons, ih, eq_of_splitOpener? ho,
      eq_of_splitCloser? hc]
    simp [spell, Delimiters.enclose]

theorem ofText_eq_nil_iff {d : Delimiters} {t : Text} : ofText d t = [] ↔ t = [] := by
  constructor
  · intro h
    rw [← spell_ofText d t, h]
    rfl
  · intro h
    rw [h, ofText]
    rfl

end Segment

end Blueprints
