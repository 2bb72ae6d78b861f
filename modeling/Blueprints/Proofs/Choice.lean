import Blueprints.Extractor

/-!
# Choosing a blueprint

The first blueprint that matches a source gives the result, and there is none if all of them miss.
-/

namespace Blueprints

variable {P : Type} [PatternLanguage P]

/-- The blueprint at a place matches a source, and none before it does. -/
structure Wins (context : Option Context) (source : Text) (bs : List (Blueprint P)) (place : Nat)
    (b : Blueprint P) (e : Extraction) : Prop where
  at_place : bs[place]? = some b
  extract_eq : b.extract context source = .ok e
  misses : ∀ (earlier : Nat) (b' : Blueprint P), earlier < place → bs[earlier]? = some b' →
    ∃ miss, b'.extract context source = .error miss

section

variable {context : Option Context} {source : Text} {b first : Blueprint P}
  {bs : List (Blueprint P)} {place : Nat} {e : Extraction}

theorem Wins.zero_iff : Wins context source (first :: bs) 0 b e ↔
    first = b ∧ b.extract context source = .ok e := by
  constructor
  · intro h
    exact ⟨Option.some.inj h.at_place, h.extract_eq⟩
  · rintro ⟨rfl, he⟩
    exact ⟨rfl, he, fun earlier b' hlt => absurd hlt (Nat.not_lt_zero earlier)⟩

theorem Wins.succ_iff : Wins context source (first :: bs) (place + 1) b e ↔
    (∃ miss, first.extract context source = .error miss) ∧ Wins context source bs place b e := by
  constructor
  · intro h
    have hfirst := h.misses 0 first (Nat.succ_pos place) rfl
    have hlater : ∀ (earlier : Nat) (b' : Blueprint P), earlier < place → bs[earlier]? = some b' →
        ∃ miss, b'.extract context source = .error miss := by
      intro earlier b' hlt hb'
      exact h.misses (earlier + 1) b' (by omega) hb'
    exact ⟨hfirst, h.at_place, h.extract_eq, hlater⟩
  · rintro ⟨hfirst, h⟩
    refine ⟨h.at_place, h.extract_eq, fun earlier b' hlt hb' => ?_⟩
    cases earlier with
    | zero =>
      have hb : first = b' := Option.some.inj hb'
      rwa [← hb]
    | succ earlier => exact h.misses earlier b' (by omega) hb'

theorem exists_wins_of_match (hb : bs[place]? = some b) (he : b.extract context source = .ok e) :
    ∃ place' b' e', place' ≤ place ∧ Wins context source bs place' b' e' := by
  induction bs generalizing place with
  | nil => cases hb
  | cons first bs ih =>
    cases hfirst : first.extract context source with
    | ok e' => exact ⟨0, first, e', Nat.zero_le place, Wins.zero_iff.2 ⟨rfl, hfirst⟩⟩
    | error miss =>
      cases place with
      | zero =>
        cases hb
        rw [hfirst] at he
        cases he
      | succ place =>
        obtain ⟨place', b', e', hle, hwins⟩ := ih hb
        exact ⟨place' + 1, b', e', Nat.succ_le_succ hle, Wins.succ_iff.2 ⟨⟨miss, hfirst⟩, hwins⟩⟩

end

namespace Extractor

variable (context : Option Context) (source : Text)

theorem attemptAll_of_ok {b : Blueprint P} {e : Extraction} (bs : List (Blueprint P))
    (h : b.extract context source = .ok e) :
    attemptAll context source (b :: bs) = ⟨[], some e⟩ := by
  simp only [attemptAll, h]

theorem attemptAll_of_error {b : Blueprint P} {miss : Miss} (bs : List (Blueprint P))
    (h : b.extract context source = .error miss) :
    attemptAll context source (b :: bs) =
      ⟨⟨b.text, miss⟩ :: (attemptAll context source bs).refusals,
        (attemptAll context source bs).result⟩ := by
  simp only [attemptAll, h]

theorem result_eq_some_iff (bs : List (Blueprint P)) (e : Extraction) :
    (attemptAll context source bs).result = some e ↔
      ∃ place b, Wins context source bs place b e := by
  induction bs with
  | nil =>
    constructor
    · intro h
      cases h
    · rintro ⟨place, b, h⟩
      cases h.at_place
  | cons first bs ih =>
    cases hfirst : first.extract context source with
    | ok e' =>
      rw [attemptAll_of_ok context source bs hfirst]
      constructor
      · intro h
        cases h
        exact ⟨0, first, Wins.zero_iff.2 ⟨rfl, hfirst⟩⟩
      · rintro ⟨place, b, h⟩
        cases place with
        | zero =>
          obtain ⟨rfl, he⟩ := Wins.zero_iff.1 h
          rw [hfirst] at he
          rw [Except.ok.inj he]
        | succ place =>
          obtain ⟨⟨miss, hmiss⟩, -⟩ := Wins.succ_iff.1 h
          rw [hfirst] at hmiss
          cases hmiss
    | error miss =>
      rw [attemptAll_of_error context source bs hfirst, ih]
      constructor
      · rintro ⟨place, b, h⟩
        exact ⟨place + 1, b, Wins.succ_iff.2 ⟨⟨miss, hfirst⟩, h⟩⟩
      · rintro ⟨place, b, h⟩
        cases place with
        | zero =>
          obtain ⟨rfl, he⟩ := Wins.zero_iff.1 h
          rw [hfirst] at he
          cases he
        | succ place => exact ⟨place, b, (Wins.succ_iff.1 h).2⟩

theorem result_eq_none_iff (bs : List (Blueprint P)) :
    (attemptAll context source bs).result = none ↔
      ∀ b ∈ bs, ∃ miss, b.extract context source = .error miss := by
  induction bs with
  | nil => simp [attemptAll]
  | cons first bs ih =>
    cases hfirst : first.extract context source with
    | ok e => simp [attemptAll_of_ok context source bs hfirst, hfirst]
    | error miss => simp [attemptAll_of_error context source bs hfirst, hfirst, ih]

theorem result_eq_findSome? (bs : List (Blueprint P)) :
    (attemptAll context source bs).result =
      bs.findSome? fun b => (b.extract context source).toOption := by
  induction bs with
  | nil => rfl
  | cons first bs ih =>
    rw [List.findSome?_cons]
    cases hfirst : first.extract context source with
    | ok e => simp [attemptAll_of_ok context source bs hfirst, Except.toOption]
    | error miss => simp [attemptAll_of_error context source bs hfirst, Except.toOption, ih]

theorem attemptAll_map_congr (context' : Option Context) (f : Blueprint P → Blueprint P)
    (bs : List (Blueprint P)) (htext : ∀ b ∈ bs, (f b).text = b.text)
    (hextract : ∀ b ∈ bs, (f b).extract context' source = b.extract context source) :
    attemptAll context' source (bs.map f) = attemptAll context source bs := by
  induction bs with
  | nil => rfl
  | cons b bs ih =>
    have hlater := ih (fun b' hb' => htext b' (List.mem_cons_of_mem b hb'))
      (fun b' hb' => hextract b' (List.mem_cons_of_mem b hb'))
    rw [List.map_cons, attemptAll, attemptAll, hextract b List.mem_cons_self,
      htext b List.mem_cons_self, hlater]

end Extractor

end Blueprints
