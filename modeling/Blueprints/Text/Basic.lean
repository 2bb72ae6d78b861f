/-!
# Text

Text is a list of characters.  Blueprints, sources, drains and reports are all texts, so every
cut made by this library falls between two characters.
-/

namespace Blueprints

/-- A text, first character first. -/
abbrev Text := List Char

namespace Text

/-- Number of bytes of the UTF-8 form of a text. -/
def byteLength : Text → Nat
  | [] => 0
  | c :: t => c.utf8Size + byteLength t

theorem byteLength_append (s t : Text) : byteLength (s ++ t) = byteLength s + byteLength t := by
  induction s with
  | nil => simp [byteLength]
  | cons c s ih => simp [byteLength, ih, Nat.add_assoc]

/-- What follows `lead` in a text that starts with it. -/
def after? : (lead t : Text) → Option Text
  | [], t => some t
  | _ :: _, [] => none
  | c :: lead, d :: t => if c = d then after? lead t else none

theorem after?_append (lead rest : Text) : after? lead (lead ++ rest) = some rest := by
  induction lead with
  | nil => rfl
  | cons c lead ih => simp [after?, ih]

theorem append_of_after? {lead t rest : Text} (h : after? lead t = some rest) :
    t = lead ++ rest := by
  induction lead generalizing t with
  | nil => simpa [after?] using h
  | cons c lead ih =>
    cases t with
    | nil => simp [after?] at h
    | cons d t =>
      by_cases hcd : c = d
      · simp only [after?, hcd, if_true] at h
        rw [hcd, ih h, List.cons_append]
      · simp [after?, hcd] at h

theorem after?_eq_some_iff {lead t rest : Text} :
    after? lead t = some rest ↔ t = lead ++ rest :=
  ⟨append_of_after?, fun h => h ▸ after?_append lead rest⟩

/-- Splits at the first occurrence of a character; `none` when it does not occur. -/
def cut? (c : Char) : Text → Option (Text × Text)
  | [] => none
  | d :: t => if d = c then some ([], t) else (cut? c t).map fun (a, b) => (d :: a, b)

theorem cut?_eq_some_iff {c : Char} {t before rest : Text} :
    cut? c t = some (before, rest) ↔ t = before ++ c :: rest ∧ c ∉ before := by
  induction t generalizing before with
  | nil => simp [cut?]
  | cons d t ih =>
    constructor
    · intro h
      unfold cut? at h
      split at h
      · rename_i hd
        cases h
        exact ⟨by rw [hd, List.nil_append], List.not_mem_nil⟩
      · rename_i hd
        obtain ⟨⟨before', rest'⟩, hcut, heq⟩ := Option.map_eq_some_iff.1 h
        cases heq
        obtain ⟨ht, hmem⟩ := ih.1 hcut
        exact ⟨by rw [ht, List.cons_append], by simp [hmem, Ne.symm hd]⟩
    · intro h
      obtain ⟨ht, hmem⟩ := h
      cases before with
      | nil =>
        cases ht
        simp [cut?]
      | cons a before =>
        obtain ⟨rfl, htail⟩ := List.cons.inj ht
        have hd : d ≠ c := fun hd => hmem (hd ▸ List.mem_cons_self)
        have hcut := ih.2 ⟨htail, fun hc => hmem (List.mem_cons_of_mem d hc)⟩
        simp [cut?, hd, hcut]

def splitOn (c : Char) : Text → List Text
  | [] => [[]]
  | d :: t =>
    if d = c then [] :: splitOn c t
    else match splitOn c t with
      | [] => [[d]]
      | piece :: more => (d :: piece) :: more

theorem splitOn_ne_nil (c : Char) (t : Text) : splitOn c t ≠ [] := by
  cases t with
  | nil => simp [splitOn]
  | cons d t =>
    simp only [splitOn]
    split
    · simp
    · split <;> simp

theorem splitOn_cons_of_ne {c d : Char} {t : Text} (h : d ≠ c) :
    ∃ piece more, splitOn c t = piece :: more ∧ splitOn c (d :: t) = (d :: piece) :: more := by
  obtain ⟨piece, more, hp⟩ := List.exists_cons_of_ne_nil (splitOn_ne_nil c t)
  refine ⟨piece, more, hp, ?_⟩
  simp only [splitOn, h, if_false, hp]

theorem splitOn_eq_cons_iff {c : Char} {t piece : Text} {more : List Text} :
    splitOn c t = piece :: more ↔
      c ∉ piece ∧ ((t = piece ∧ more = []) ∨ ∃ u, t = piece ++ c :: u ∧ splitOn c u = more) := by
  induction t generalizing piece with
  | nil =>
    simp only [splitOn, List.cons.injEq]
    constructor
    · rintro ⟨rfl, rfl⟩
      exact ⟨List.not_mem_nil, .inl ⟨rfl, rfl⟩⟩
    · rintro ⟨-, ⟨rfl, rfl⟩ | ⟨u, hu, -⟩⟩
      · exact ⟨rfl, rfl⟩
      · simp at hu
  | cons d t ih =>
    by_cases hd : d = c
    · subst hd
      simp only [splitOn, if_true, List.cons.injEq]
      constructor
      · rintro ⟨rfl, hm⟩
        exact ⟨List.not_mem_nil, .inr ⟨t, rfl, hm⟩⟩
      · rintro ⟨hc, ⟨rfl, -⟩ | ⟨u, hu, hm⟩⟩
        · exact absurd List.mem_cons_self hc
        · cases piece with
          | nil =>
            cases hu
            exact ⟨rfl, hm⟩
          | cons a piece =>
            obtain ⟨rfl, -⟩ := List.cons.inj hu
            exact absurd List.mem_cons_self hc
    · obtain ⟨piece', more', hp, hs⟩ := splitOn_cons_of_ne (t := t) hd
      rw [hs]
      constructor
      · rintro h
        cases h
        obtain ⟨hc, hrest⟩ := ih.1 hp
        refine ⟨by simp [hc, Ne.symm hd], hrest.imp ?_ ?_⟩
        · rintro ⟨rfl, hm⟩
          exact ⟨rfl, hm⟩
        · rintro ⟨u, rfl, hm⟩
          exact ⟨u, rfl, hm⟩
      · rintro ⟨hc, hrest⟩
        cases piece with
        | nil =>
          rcases hrest with ⟨hu, -⟩ | ⟨u, hu, -⟩
          · cases hu
          · exact absurd (List.cons.inj hu).1 hd
        | cons a piece =>
          have ha : d = a ∧ splitOn c t = piece :: more := by
            rcases hrest with ⟨hu, hm⟩ | ⟨u, hu, hm⟩
            · obtain ⟨ha, ht⟩ := List.cons.inj hu
              exact ⟨ha, ih.2 ⟨fun h => hc (List.mem_cons_of_mem _ h), .inl ⟨ht, hm⟩⟩⟩
            · obtain ⟨ha, ht⟩ := List.cons.inj hu
              exact ⟨ha, ih.2 ⟨fun h => hc (List.mem_cons_of_mem _ h), .inr ⟨u, ht, hm⟩⟩⟩
          obtain ⟨rfl, hcons⟩ := ha
          rw [hp] at hcons
          cases hcons
          rfl

theorem splitOn_eq_singleton_iff {c : Char} {t piece : Text} :
    splitOn c t = [piece] ↔ c ∉ piece ∧ t = piece := by
  rw [splitOn_eq_cons_iff]
  refine and_congr_right fun _ => ⟨?_, fun h => .inl ⟨h, rfl⟩⟩
  rintro (⟨h, -⟩ | ⟨u, -, hu⟩)
  · exact h
  · exact absurd hu (splitOn_ne_nil c u)

theorem splitOn_eq_pair_iff {c : Char} {t left right : Text} :
    splitOn c t = [left, right] ↔ c ∉ left ∧ c ∉ right ∧ t = left ++ c :: right := by
  rw [splitOn_eq_cons_iff]
  constructor
  · rintro ⟨hl, ⟨-, h⟩ | ⟨u, ht, hu⟩⟩
    · cases h
    · obtain ⟨hr, rfl⟩ := splitOn_eq_singleton_iff.1 hu
      exact ⟨hl, hr, ht⟩
  · rintro ⟨hl, hr, ht⟩
    exact ⟨hl, .inr ⟨right, ht, splitOn_eq_singleton_iff.2 ⟨hr, rfl⟩⟩⟩

theorem length_splitOn (c : Char) (t : Text) : (splitOn c t).length = t.count c + 1 := by
  induction t with
  | nil => rfl
  | cons d t ih =>
    by_cases hd : d = c
    · rw [splitOn, if_pos hd, List.length_cons, ih, hd, List.count_cons_self]
    · obtain ⟨piece, more, hpieces, hsplit⟩ := splitOn_cons_of_ne (t := t) hd
      rw [hpieces, List.length_cons] at ih
      rw [hsplit, List.length_cons, ih, List.count_cons_of_ne hd]

def joinWith (separator : Text) (pieces : List Text) : Text :=
  (pieces.intersperse separator).flatten

theorem joinWith_singleton (separator piece : Text) : joinWith separator [piece] = piece := by
  simp [joinWith]

theorem joinWith_cons_cons (separator piece next : Text) (more : List Text) :
    joinWith separator (piece :: next :: more) =
      piece ++ separator ++ joinWith separator (next :: more) := by
  simp [joinWith]

theorem mem_joinWith {separator : Text} {pieces : List Text} {c : Char}
    (h : c ∈ joinWith separator pieces) : c ∈ separator ∨ ∃ piece ∈ pieces, c ∈ piece := by
  induction pieces with
  | nil => cases h
  | cons piece pieces ih =>
    cases pieces with
    | nil =>
      rw [joinWith_singleton] at h
      exact .inr ⟨piece, List.mem_cons_self, h⟩
    | cons next more =>
      rw [joinWith_cons_cons, List.mem_append, List.mem_append] at h
      rcases h with (h | h) | h
      · exact .inr ⟨piece, List.mem_cons_self, h⟩
      · exact .inl h
      · exact (ih h).imp_right fun ⟨p, hp, hc⟩ => ⟨p, List.mem_cons_of_mem piece hp, hc⟩

/-- The part from `start` (included) to `stop` (excluded), counted in characters. -/
def slice (t : Text) (start stop : Nat) : Text := (t.drop start).take (stop - start)

theorem slice_infix (t : Text) (start stop : Nat) : slice t start stop <:+: t :=
  (List.take_prefix _ _).isInfix.trans (List.drop_suffix _ _).isInfix

/-- The longest stretch from the front whose characters satisfy `p`, and what follows it. -/
def spanWhile (p : Char → Bool) (t : Text) : Text × Text := (t.takeWhile p, t.dropWhile p)

theorem spanWhile_eq_iff {p : Char → Bool} {t lead rest : Text} :
    spanWhile p t = (lead, rest) ↔
      t = lead ++ rest ∧ (∀ c ∈ lead, p c = true) ∧ ∀ c, rest.head? = some c → p c = false := by
  rw [spanWhile, Prod.mk.injEq]
  constructor
  · intro h
    obtain ⟨rfl, rfl⟩ := h
    have hhead := List.head?_dropWhile_not p t
    refine ⟨List.takeWhile_append_dropWhile.symm, List.all_eq_true.1 List.all_takeWhile, ?_⟩
    intro c hc
    rw [hc] at hhead
    exact hhead
  · intro h
    obtain ⟨rfl, hlead, hrest⟩ := h
    rw [List.takeWhile_append_of_pos hlead, List.dropWhile_append_of_pos hlead]
    cases rest with
    | nil => simp
    | cons c rest => simp [hrest c rfl]

theorem dropWhile_eq_iff {p : Char → Bool} {t rest : Text} :
    t.dropWhile p = rest ↔
      (∀ c, rest.head? = some c → p c = false) ∧
        ∃ lead, (∀ c ∈ lead, p c = true) ∧ t = lead ++ rest := by
  constructor
  · intro h
    have hspan : spanWhile p t = (t.takeWhile p, rest) := by rw [spanWhile, h]
    obtain ⟨ht, hlead, hrest⟩ := spanWhile_eq_iff.1 hspan
    exact ⟨hrest, t.takeWhile p, hlead, ht⟩
  · intro h
    obtain ⟨hrest, lead, hlead, ht⟩ := h
    have hspan := spanWhile_eq_iff.2 ⟨ht, hlead, hrest⟩
    exact congrArg Prod.snd hspan

theorem dropWhile_both_eq_iff {p : Char → Bool} {t core : Text} :
    ((t.dropWhile p).reverse.dropWhile p).reverse = core ↔
      (∀ c, core.head? = some c → p c = false) ∧ (∀ c, core.getLast? = some c → p c = false) ∧
        ∃ lead trail, (∀ c ∈ lead, p c = true) ∧ (∀ c ∈ trail, p c = true) ∧
          t = lead ++ core ++ trail := by
  rw [List.reverse_eq_iff, dropWhile_eq_iff, List.head?_reverse]
  constructor
  · intro h
    obtain ⟨hback, trail, htrail, hdrop⟩ := h
    rw [List.reverse_eq_iff, List.reverse_append, List.reverse_reverse, dropWhile_eq_iff] at hdrop
    obtain ⟨hfront, lead, hlead, ht⟩ := hdrop
    refine ⟨fun c hc => hfront c ?_, hback, lead, trail.reverse, hlead, fun c hc => ?_, ?_⟩
    · rw [List.head?_append, hc, Option.some_or]
    · exact htrail c (List.mem_reverse.1 hc)
    · rw [ht, List.append_assoc]
  · intro h
    obtain ⟨hfront, hback, lead, trail, hlead, htrail, ht⟩ := h
    have htrail' : ∀ c ∈ trail.reverse, p c = true := fun c hc => htrail c (List.mem_reverse.1 hc)
    cases core with
    | nil =>
      have hall : t.dropWhile p = [] := by
        refine dropWhile_eq_iff.2 ⟨by simp, t, fun c hc => ?_, by simp⟩
        rw [ht, List.append_nil, List.mem_append] at hc
        exact hc.elim (hlead c) (htrail c)
      exact ⟨hback, [], by simp, by rw [hall]; rfl⟩
    | cons a core =>
      have hdrop : t.dropWhile p = a :: core ++ trail := by
        refine dropWhile_eq_iff.2 ⟨fun c hc => hfront c hc, lead, hlead, ?_⟩
        rw [ht, List.append_assoc]
      exact ⟨hback, trail.reverse, htrail', by rw [hdrop, List.reverse_append]⟩

def ofString (s : String) : Text := s.toList

def ofNat (n : Nat) : Text := Nat.toDigits 10 n

end Text

end Blueprints
