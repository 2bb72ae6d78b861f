import Blueprints.Proofs.Segmentation

/-!
# The grammar of blueprints

`Reads` says in words of the text alone what compiling it gives: where the leftmost opener stands,
which run of closing characters ends the placeholder, and which error comes first.  The main
statement is `compile_eq_iff_reads`: reading with a cursor is this grammar, on every text.
-/

namespace Blueprints

/-- The leftmost opener of a text stands between `before` and `inside`. -/
structure LeftmostOpener (d : Delimiters) (t before inside : Text) : Prop where
  eq : t = before ++ d.opener ++ inside
  leftmost : ∀ b i, t = b ++ d.opener ++ i → before.length ≤ b.length

/-- A maximal run of `n` closing characters, two at least, stands between `before` and `rest`. -/
structure ClosingRun (d : Delimiters) (t before : Text) (n : Nat) (rest : Text) : Prop where
  eq : t = before ++ List.replicate n d.closing ++ rest
  two_le : 2 ≤ n
  before_ne : before.getLast? ≠ some d.closing
  rest_ne : rest.head? ≠ some d.closing

structure FirstClosingRun (d : Delimiters) (t before : Text) (n : Nat) (rest : Text) : Prop
    extends ClosingRun d t before n rest where
  first : ∀ b m r, ClosingRun d t b m r → before.length ≤ b.length

/-! ### Openers -/

theorem splitOpener?_eq_none_iff {d : Delimiters} {t : Text} :
    Segment.splitOpener? d t = none ↔ ¬ d.opener <:+: t := by
  rw [Segment.splitOpener?, Segment.splitFirst?_eq_none_iff]
  constructor
  · rintro h ⟨b, i, ht⟩
    have hn := h b (d.opener ++ i) (by rw [← ht, List.append_assoc]) (by simp [Delimiters.opener])
    rw [Text.after?_append] at hn
    cases hn
  · intro h b v ht _
    cases hv : Text.after? d.opener v with
    | none => rfl
    | some i => exact absurd ⟨b, i, by rw [ht, Text.append_of_after? hv, List.append_assoc]⟩ h

theorem splitOpener?_eq_some_iff {d : Delimiters} {t before inside : Text} :
    Segment.splitOpener? d t = some (before, inside) ↔ LeftmostOpener d t before inside := by
  rw [Segment.splitOpener?, Segment.splitFirst?_eq_some_iff]
  constructor
  · rintro ⟨u, ht, -, hu, hmin⟩
    refine ⟨by rw [ht, Text.append_of_after? hu, List.append_assoc], fun b i hb => ?_⟩
    refine Nat.le_of_not_lt fun hlt => ?_
    have hn := hmin b (d.opener ++ i) (by rw [hb, List.append_assoc]) hlt
    rw [Text.after?_append] at hn
    cases hn
  · rintro ⟨ht, hleft⟩
    refine ⟨d.opener ++ inside, by rw [ht, List.append_assoc], by simp [Delimiters.opener],
      Text.after?_append _ _, fun b v hv hlt => ?_⟩
    cases hs : Text.after? d.opener v with
    | none => rfl
    | some i =>
      have := hleft b i (by rw [hv, Text.append_of_after? hs, List.append_assoc])
      omega

/-! ### Closers -/

theorem exists_eq_append_replicate (c : Char) (t : Text) :
    ∃ lead k, t = lead ++ List.replicate k c ∧ lead.getLast? ≠ some c := by
  induction t with
  | nil => exact ⟨[], 0, rfl, by simp⟩
  | cons a t ih =>
    obtain ⟨lead, k, rfl, hlead⟩ := ih
    cases lead with
    | nil =>
      by_cases ha : a = c
      · exact ⟨[], k + 1, by rw [ha]; rfl, by simp⟩
      · exact ⟨[a], k, rfl, by simpa using ha⟩
    | cons b lead => exact ⟨a :: b :: lead, k, rfl, by simpa using hlead⟩

/-- A run ends where another character comes. -/
theorem replicate_append_inj {c : Char} {n n' : Nat} {rest rest' : Text}
    (h : List.replicate n c ++ rest = List.replicate n' c ++ rest')
    (hr : rest.head? ≠ some c) (hr' : rest'.head? ≠ some c) : n = n' ∧ rest = rest' := by
  induction n generalizing n' with
  | zero =>
    cases n' with
    | zero => exact ⟨rfl, h⟩
    | succ n' =>
      rw [show rest = _ from h] at hr
      simp [List.replicate_succ] at hr
  | succ n ih =>
    cases n' with
    | zero =>
      rw [← show _ = rest' from h] at hr'
      simp [List.replicate_succ] at hr'
    | succ n' =>
      simp only [List.replicate_succ, List.cons_append, List.cons.injEq, true_and] at h
      obtain ⟨hn, hrest⟩ := ih h
      exact ⟨by rw [hn], hrest⟩

theorem replicate_eq_append_closer (d : Delimiters) {n : Nat} (h : 2 ≤ n) :
    List.replicate n d.closing = List.replicate (n - 2) d.closing ++ d.closer := by
  rw [show d.closer = List.replicate 2 d.closing from rfl, List.replicate_append_replicate,
    Nat.sub_add_cancel h]

/-- The place where a closing run ends, and the closer before it. -/
theorem closingRun_of_afterCloser? {d : Delimiters} {t b v rest : Text} (ht : t = b ++ v)
    (hv : Segment.afterCloser? d v = some rest) :
    ∃ lead k, b = lead ++ List.replicate k d.closing ∧ ClosingRun d t lead (k + 2) rest := by
  obtain ⟨hv, hr⟩ := Segment.afterCloser?_eq_some_iff.1 hv
  obtain ⟨lead, k, rfl, hlead⟩ := exists_eq_append_replicate d.closing b
  refine ⟨lead, k, rfl, ?_, by omega, hlead, hr⟩
  rw [ht, hv, replicate_eq_append_closer d (Nat.le_add_left 2 k)]
  simp

theorem ClosingRun.afterCloser? {d : Delimiters} {t before rest : Text} {n : Nat}
    (h : ClosingRun d t before n rest) :
    ∃ v, t = before ++ List.replicate (n - 2) d.closing ++ v ∧
      Segment.afterCloser? d v = some rest := by
  refine ⟨d.closer ++ rest, ?_, Segment.afterCloser?_eq_some_iff.2 ⟨rfl, h.rest_ne⟩⟩
  rw [h.eq, replicate_eq_append_closer d h.two_le]
  simp

theorem ClosingRun.before_le {d : Delimiters} {t before before' rest rest' : Text} {n n' : Nat}
    (h : ClosingRun d t before n rest) (h' : ClosingRun d t before' n' rest')
    (hle : before.length + n ≤ before'.length + n') : before.length ≤ before'.length := by
  refine Nat.le_of_not_lt fun hlt => h.before_ne ?_
  -- the character before the first run would belong to the second one
  have hlast : t[before.length - 1]? = before.getLast? := by
    rw [h.eq, List.append_assoc, List.getElem?_append_left (by omega), List.getLast?_eq_getElem?]
  have hrun : t[before.length - 1]? = some d.closing := by
    rw [h'.eq, List.append_assoc, List.getElem?_append_right (by omega),
      List.getElem?_append_left (by rw [List.length_replicate]; omega), List.getElem?_replicate]
    exact if_pos (by omega)
  rw [← hlast, hrun]

theorem splitCloser?_eq_none_iff {d : Delimiters} {t : Text} :
    Segment.splitCloser? d t = none ↔ ∀ b n r, ¬ ClosingRun d t b n r := by
  rw [Segment.splitCloser?, Segment.splitFirst?_eq_none_iff]
  constructor
  · intro h b n r hrun
    obtain ⟨v, ht, hv⟩ := hrun.afterCloser?
    have hne : v ≠ [] := by
      rintro rfl
      cases hv
    rw [h _ v ht hne] at hv
    cases hv
  · intro h b v ht _
    cases hv : Segment.afterCloser? d v with
    | none => rfl
    | some r =>
      obtain ⟨lead, k, -, hrun⟩ := closingRun_of_afterCloser? ht hv
      exact absurd hrun (h _ _ _)

theorem firstClosingRun_of_splitCloser? {d : Delimiters} {t body rest : Text}
    (h : Segment.splitCloser? d t = some (body, rest)) :
    ∃ lead k, body = lead ++ List.replicate k d.closing ∧
      FirstClosingRun d t lead (k + 2) rest := by
  obtain ⟨u, ht, -, hu, hmin⟩ := Segment.splitFirst?_eq_some_iff.1 h
  obtain ⟨lead, k, rfl, hrun⟩ := closingRun_of_afterCloser? ht hu
  refine ⟨lead, k, rfl, hrun, fun b m r hb => hrun.before_le hb ?_⟩
  obtain ⟨v, hv, hr⟩ := hb.afterCloser?
  have hle : (lead ++ List.replicate k d.closing).length ≤
      (b ++ List.replicate (m - 2) d.closing).length := by
    refine Nat.le_of_not_lt fun hlt => ?_
    rw [hmin _ v hv hlt] at hr
    cases hr
  have := hb.two_le
  simp only [List.length_append, List.length_replicate] at hle
  omega

theorem FirstClosingRun.splitCloser? {d : Delimiters} {t before rest : Text} {n : Nat}
    (h : FirstClosingRun d t before n rest) :
    Segment.splitCloser? d t = some (before ++ List.replicate (n - 2) d.closing, rest) := by
  cases hs : Segment.splitCloser? d t with
  | none => exact absurd h.toClosingRun (splitCloser?_eq_none_iff.1 hs _ _ _)
  | some p =>
    obtain ⟨body, rest'⟩ := p
    obtain ⟨lead, k, rfl, hrun⟩ := firstClosingRun_of_splitCloser? hs
    have hlen : before.length = lead.length :=
      Nat.le_antisymm (h.first _ _ _ hrun.toClosingRun) (hrun.first _ _ _ h.toClosingRun)
    have heq := h.eq.symm.trans hrun.eq
    rw [List.append_assoc, List.append_assoc] at heq
    obtain ⟨rfl, hruns⟩ := List.append_inj heq hlen
    obtain ⟨rfl, rfl⟩ := replicate_append_inj hruns h.rest_ne hrun.rest_ne
    rfl

/-! ### Texts -/

variable {P : Type} [PatternLanguage P]

/-- What reading the text `t` gives, when `done` was read before it. -/
inductive Reads (cfg : Config) :
    (done t : Text) → Except BlueprintError (List (Component P)) → Prop
  /-- Without an opener the text is one literal, or nothing. -/
  | literal {done t : Text} :
    ¬ cfg.delimiters.opener <:+: t → Reads cfg done t (.ok (Component.ofLiteral t))
  /-- No run of closing characters follows the leftmost opener. -/
  | unclosed {done t before inside : Text} :
    LeftmostOpener cfg.delimiters t before inside →
    (∀ lead n rest, ¬ ClosingRun cfg.delimiters inside lead n rest) →
    Reads cfg done t (.error (.notClosed (done ++ before).byteLength))
  /-- The body ends before the last two characters of the run, and says nothing sensible. -/
  | refused {done t before inside lead rest : Text} {n : Nat} {e : BlueprintError} :
    LeftmostOpener cfg.delimiters t before inside →
    FirstClosingRun cfg.delimiters inside lead n rest →
    (Placeholder.classify (P := P) cfg
      (lead ++ List.replicate (n - 2) cfg.delimiters.closing)).outcome = .error e →
    Reads cfg done t (.error e)
  | textAfterRest {done t before inside lead rest name : Text} {n : Nat} :
    LeftmostOpener cfg.delimiters t before inside →
    FirstClosingRun cfg.delimiters inside lead n rest →
    (Placeholder.classify (P := P) cfg
      (lead ++ List.replicate (n - 2) cfg.delimiters.closing)).outcome = .ok (.rest name) →
    rest ≠ [] →
    Reads cfg done t (.error (.textAfterRest name))
  /-- The literal before the opener, the placeholder, and what is read behind the run. -/
  | placeholder {done t before inside lead rest : Text} {n : Nat} {spec : Placeholder P}
    {r : Except BlueprintError (List (Component P))} :
    LeftmostOpener cfg.delimiters t before inside →
    FirstClosingRun cfg.delimiters inside lead n rest →
    (Placeholder.classify cfg
      (lead ++ List.replicate (n - 2) cfg.delimiters.closing)).outcome = .ok spec →
    (∀ name, spec = .rest name → rest = []) →
    Reads cfg (done ++ before ++ cfg.delimiters.opener ++ lead ++
      List.replicate n cfg.delimiters.closing) rest r →
    Reads cfg done t (r.map fun cs => Component.ofLiteral before ++ .placeholder spec :: cs)

theorem byteLength_behind_run (d : Delimiters) (done before lead : Text) (n : Nat) (h : 2 ≤ n) :
    (done ++ before ++ d.opener ++ lead ++ List.replicate n d.closing).byteLength =
      done.byteLength + before.byteLength +
        (d.enclose (lead ++ List.replicate (n - 2) d.closing)).byteLength := by
  rw [replicate_eq_append_closer d h]
  simp only [Text.byteLength_append, Delimiters.enclose]
  omega

/-- The segments of a text are read by the rules of the grammar. -/
theorem reads_ofSegments (cfg : Config) (done t : Text) :
    Reads (P := P) cfg done t
      (Component.ofSegments cfg done.byteLength (Segment.ofText cfg.delimiters t)).outcome := by
  fun_induction Segment.ofText cfg.delimiters t generalizing done with
  | case1 t ho =>
    rw [Component.ofSegments_ofLiteral]
    exact .literal (splitOpener?_eq_none_iff.1 ho)
  | case2 t before inside ho hc =>
    rw [Component.outcome_ofSegments_append]
    have hr : Reads (P := P) cfg done t _ :=
      .unclosed (splitOpener?_eq_some_iff.1 ho) (splitCloser?_eq_none_iff.1 hc)
    rwa [Text.byteLength_append] at hr
  | case3 t before inside ho body rest hc ih =>
    have hopen := splitOpener?_eq_some_iff.1 ho
    obtain ⟨lead, k, rfl, hrun⟩ := firstClosingRun_of_splitCloser? hc
    rw [Component.outcome_ofSegments_append]
    cases hspec : (Placeholder.classify (P := P) cfg
        (lead ++ List.replicate k cfg.delimiters.closing)).outcome with
    | error e =>
      rw [Component.outcome_ofSegments_refused hspec]
      exact .refused hopen hrun hspec
    | ok spec =>
      by_cases hrest : ∃ name, spec = .rest name ∧ rest ≠ []
      · obtain ⟨name, rfl, hne⟩ := hrest
        rw [Component.outcome_ofSegments_textAfterRest hspec (mt Segment.ofText_eq_nil_iff.1 hne)]
        exact .textAfterRest hopen hrun hspec hne
      · have hlast : ∀ name, spec = .rest name → rest = [] := by
          intro name hn
          exact Decidable.byContradiction fun hne => hrest ⟨name, hn, hne⟩
        rw [Component.outcome_ofSegments_placeholder hspec fun name hn =>
          Segment.ofText_eq_nil_iff.2 (hlast name hn)]
        have hr := ih (done ++ before ++ cfg.delimiters.opener ++ lead ++
          List.replicate (k + 2) cfg.delimiters.closing)
        rw [byteLength_behind_run cfg.delimiters done before lead (k + 2) (by omega)] at hr
        rw [Noted.map_map_outcome]
        exact .placeholder hopen hrun hspec hlast hr

/-- The grammar leaves no choice: whatever it reads is what the segments give. -/
theorem Reads.outcome_eq {cfg : Config} {done t : Text}
    {r : Except BlueprintError (List (Component P))} (h : Reads cfg done t r) :
    (Component.ofSegments cfg done.byteLength (Segment.ofText cfg.delimiters t)).outcome = r := by
  induction h with
  | literal hno =>
    rw [Segment.ofText_literal (splitOpener?_eq_none_iff.2 hno), Component.ofSegments_ofLiteral]
    rfl
  | unclosed hopen hno =>
    rw [Segment.ofText_unclosed (splitOpener?_eq_some_iff.2 hopen)
      (splitCloser?_eq_none_iff.2 hno), Component.outcome_ofSegments_append, Text.byteLength_append]
    rfl
  | refused hopen hrun hspec =>
    rw [Segment.ofText_placeholder (splitOpener?_eq_some_iff.2 hopen) hrun.splitCloser?,
      Component.outcome_ofSegments_append, Component.outcome_ofSegments_refused hspec]
    rfl
  | textAfterRest hopen hrun hspec hne =>
    rw [Segment.ofText_placeholder (splitOpener?_eq_some_iff.2 hopen) hrun.splitCloser?,
      Component.outcome_ofSegments_append, Component.outcome_ofSegments_textAfterRest hspec
        (mt Segment.ofText_eq_nil_iff.1 hne)]
    rfl
  | @placeholder done t before inside lead rest n spec r hopen hrun hspec hlast _ ih =>
    rw [Segment.ofText_placeholder (splitOpener?_eq_some_iff.2 hopen) hrun.splitCloser?,
      Component.outcome_ofSegments_append, Component.outcome_ofSegments_placeholder hspec
        fun name hn => Segment.ofText_eq_nil_iff.2 (hlast name hn)]
    rw [← byteLength_behind_run _ _ _ _ _ hrun.two_le, ih, Noted.map_map_outcome]

theorem outcome_ofText_iff_reads (cfg : Config) (t : Text)
    (r : Except BlueprintError (List (Component P))) :
    (Component.ofText cfg t).outcome = r ↔ Reads cfg [] t r := by
  rw [Component.ofText_eq_ofSegments]
  constructor
  · rintro rfl
    exact reads_ofSegments cfg [] t
  · intro h
    exact h.outcome_eq

theorem reads_of_compile {cfg : Config} {t : Text} {b : Blueprint P}
    (h : (Blueprint.compile cfg t).outcome = .ok b) : Reads cfg [] t (.ok b.components) := by
  rw [Blueprint.outcome_compile] at h
  cases hcs : (Component.ofText (P := P) cfg t).outcome with
  | error e =>
    rw [hcs] at h
    cases h
  | ok cs =>
    rw [hcs] at h
    cases h
    exact (outcome_ofText_iff_reads cfg t _).1 hcs

/-- Reading a text with a cursor, and so compiling it, is reading it by the grammar: both accept the
same texts with the same components, and report the same error for every other. -/
theorem compile_eq_iff_reads (cfg : Config) (t : Text)
    (r : Except BlueprintError (List (Component P))) :
    ((Component.ofText cfg t).outcome = r ↔ Reads cfg [] t r) ∧
      ((Blueprint.compile cfg t).outcome = (r.map fun cs => (⟨t, cs, cfg⟩ : Blueprint P)) ↔
        Reads cfg [] t r) := by
  refine ⟨outcome_ofText_iff_reads cfg t r, ?_⟩
  rw [← outcome_ofText_iff_reads, Blueprint.outcome_compile]
  constructor
  · intro h
    cases hr : (Component.ofText (P := P) cfg t).outcome <;> rw [hr] at h <;>
      cases r <;> cases h <;> rfl
  · intro h
    rw [h]

end Blueprints
