import Blueprints.Proofs.Rendering

/-!
# Canonical components

Which lists of components are what some text is compiled to.  Nothing that is written side by side
in them may open or close a placeholder before its place.  The main statement is
`compile_range_eq_canonical`.
-/

namespace Blueprints

variable {P : Type} [PatternLanguage P]

/-- Does a run of two or more closing characters come at the end of a body at most? -/
def Closable (d : Delimiters) (body : Text) : Prop :=
  ∀ c, c ≠ d.closing → ¬ d.closer ++ [c] <:+: body

namespace Component

/-- Is a component one that is read back from where it is written? -/
def Fits (cfg : Config) : Component P → Prop
  | literal t => t ≠ [] ∧ ¬ cfg.delimiters.opener <:+: t
  | placeholder spec => spec.Admissible cfg ∧ Closable cfg.delimiters (spec.body cfg)

def Joins (cfg : Config) : Component P → Component P → Prop
  | literal _, literal _ => False
  | literal _, placeholder _ => True
  | placeholder (.rest _), _ => False
  | placeholder _, literal t => t.head? ≠ some cfg.delimiters.closing
  | placeholder _, placeholder _ => True

end Component

structure Canonical (cfg : Config) (cs : List (Component P)) : Prop where
  fits : ∀ c ∈ cs, c.Fits cfg
  joins : ∀ front c c' back, cs = front ++ c :: c' :: back → c.Joins cfg c'

namespace Canonical

theorem nil (cfg : Config) : Canonical cfg ([] : List (Component P)) := by
  refine ⟨fun c hc => absurd hc List.not_mem_nil, fun front c c' back h => ?_⟩
  cases front <;> cases h

theorem cons_iff {cfg : Config} {c : Component P} {cs : List (Component P)} :
    Canonical cfg (c :: cs) ↔
      c.Fits cfg ∧ (∀ c', cs.head? = some c' → c.Joins cfg c') ∧ Canonical cfg cs := by
  constructor
  · intro h
    refine ⟨h.fits c List.mem_cons_self, fun c' hc' => ?_, ⟨fun c' hc' => ?_, ?_⟩⟩
    · cases cs with
      | nil => cases hc'
      | cons c'' cs =>
        cases hc'
        exact h.joins [] c c' cs rfl
    · exact h.fits c' (List.mem_cons_of_mem _ hc')
    · intro front c' c'' back hback
      exact h.joins (c :: front) c' c'' back (by rw [hback, List.cons_append])
  · rintro ⟨hfits, hjoins, h⟩
    refine ⟨List.forall_mem_cons.2 ⟨hfits, h.fits⟩, fun front c' c'' back hback => ?_⟩
    cases front with
    | nil =>
      obtain ⟨rfl, rfl⟩ := List.cons.inj hback
      exact hjoins c'' rfl
    | cons a front => exact h.joins front c' c'' back (List.cons.inj hback).2

end Canonical

/-! ### Junctions -/

/-- No opener begins in a text without one and ends in the opener behind it, since an opener starts
with a character that it does not have again. -/
theorem leftmostOpener_append {d : Delimiters} {t : Text} (inside : Text)
    (h : ¬ d.opener <:+: t) : LeftmostOpener d (t ++ d.opener ++ inside) t inside := by
  refine ⟨rfl, fun b i hb => Nat.le_of_not_lt fun hlt => ?_⟩
  rw [List.append_assoc, List.append_assoc] at hb
  rcases List.append_eq_append_iff.1 hb with ⟨w, hw, -⟩ | ⟨w, ht, hw⟩
  · rw [hw, List.length_append] at hlt
    omega
  · -- `w` is the part of the early opener that would lie in `t`
    cases w with
    | nil => simp [ht] at hlt
    | cons a w =>
      cases w with
      | nil =>
        have hlist := (List.cons.inj hw).2
        exact d.start_ne_opening (List.cons.inj hlist).1.symm
      | cons a' w =>
        cases w with
        | nil =>
          have hlist := (List.cons.inj (List.cons.inj hw).2).2
          exact d.start_ne_opening (List.cons.inj hlist).1.symm
        | cons a'' w =>
          simp only [Delimiters.opener, List.cons_append, List.cons.injEq] at hw
          obtain ⟨rfl, rfl, rfl, -⟩ := hw
          exact h ⟨b, w, by rw [ht]; simp [Delimiters.opener]⟩

theorem LeftmostOpener.before_no_opener {d : Delimiters} {t before inside : Text}
    (h : LeftmostOpener d t before inside) : ¬ d.opener <:+: before := by
  rintro ⟨b, i, hb⟩
  have hle := h.leftmost b (i ++ d.opener ++ inside) (by rw [h.eq, ← hb]; simp)
  rw [← hb] at hle
  simp only [Delimiters.opener, List.length_append, List.length_cons] at hle
  omega

theorem splitCloser?_append_iff {d : Delimiters} {body rest : Text} :
    Segment.splitCloser? d (body ++ d.closer ++ rest) = some (body, rest) ↔
      Closable d body ∧ rest.head? ≠ some d.closing := by
  rw [Segment.splitCloser?, Segment.splitFirst?_eq_some_iff]
  constructor
  · rintro ⟨u, hu, -, hclose, hmin⟩
    obtain ⟨-, hrest⟩ := Segment.afterCloser?_eq_some_iff.1 hclose
    refine ⟨fun c hc => ?_, hrest⟩
    rintro ⟨b, q, hbody⟩
    have hearly : Segment.afterCloser? d (d.closer ++ (c :: q ++ d.closer ++ rest)) =
        some (c :: q ++ d.closer ++ rest) :=
      Segment.afterCloser?_eq_some_iff.2 ⟨rfl, by simpa using hc⟩
    have hlt : b.length < body.length := by
      rw [← hbody]
      simp only [List.length_append, List.length_cons]
      omega
    rw [hmin b _ (by rw [← hbody]; simp) hlt] at hearly
    cases hearly
  · rintro ⟨hbody, hrest⟩
    refine ⟨d.closer ++ rest, List.append_assoc .., by simp [Delimiters.closer],
      Segment.afterCloser?_eq_some_iff.2 ⟨rfl, hrest⟩, fun b v hv hlt => ?_⟩
    cases hclose : Segment.afterCloser? d v with
    | none => rfl
    | some r =>
      obtain ⟨rfl, hr⟩ := Segment.afterCloser?_eq_some_iff.1 hclose
      rw [List.append_assoc] at hv
      rcases List.append_eq_append_iff.1 hv with ⟨w, hw, -⟩ | ⟨w, hw, hv⟩
      · rw [hw, List.length_append] at hlt
        omega
      · -- `w` is the part of the early closer that would lie in the body
        cases w with
        | nil => simp [hw] at hlt
        | cons a w =>
          cases w with
          | nil =>
            have hlist : r = d.closing :: rest := (List.cons.inj (List.cons.inj hv).2).2
            rw [hlist] at hr
            exact absurd rfl hr
          | cons a' w =>
            simp only [Delimiters.closer, List.cons_append, List.cons.injEq] at hv
            obtain ⟨rfl, rfl, rfl⟩ := hv
            cases w with
            | nil => exact absurd rfl hr
            | cons c w =>
              exact absurd ⟨b, w, by rw [hw]; simp [Delimiters.closer]⟩
                (hbody c (by simpa using hr))

/-! ### From components to a text and back -/

theorem Segment.ofText_append_opener {d : Delimiters} {t : Text} (inside : Text)
    (h : ¬ d.opener <:+: t) :
    ofText d (t ++ (d.opener ++ inside)) = ofLiteral t ++ ofText d (d.opener ++ inside) := by
  have hfar : splitOpener? d (t ++ (d.opener ++ inside)) = some (t, inside) := by
    rw [← List.append_assoc]
    exact splitOpener?_eq_some_iff.2 (leftmostOpener_append inside h)
  have hnear : splitOpener? d (d.opener ++ inside) = some ([], inside) :=
    splitOpener?_eq_some_iff.2
      (leftmostOpener_append inside (t := []) (by simp [Delimiters.opener]))
  cases hc : splitCloser? d inside with
  | none =>
    rw [ofText_unclosed hfar hc, ofText_unclosed hnear hc]
    rfl
  | some p =>
    obtain ⟨body, rest⟩ := p
    rw [ofText_placeholder hfar hc, ofText_placeholder hnear hc]
    rfl

namespace Canonical

variable {cfg : Config}

theorem head?_render_ne {spec : Placeholder P} {cs : List (Component P)}
    (h : Canonical cfg (.placeholder spec :: cs)) :
    (render cfg cs).head? ≠ some cfg.delimiters.closing := by
  obtain ⟨-, hjoins, hcs⟩ := cons_iff.1 h
  cases cs with
  | nil => simp [render]
  | cons c cs =>
    have hjoin := hjoins c rfl
    rw [render_cons]
    cases c with
    | literal t =>
      have hne : t ≠ [] := (hcs.fits _ List.mem_cons_self).1
      obtain ⟨a, t, rfl⟩ := List.exists_cons_of_ne_nil hne
      cases spec with
      | rest name => exact absurd hjoin id
      | matched name m => exact hjoin
      | context key => exact hjoin
      | attach value => exact hjoin
    | placeholder spec' =>
      intro hhead
      exact cfg.delimiters.start_ne_closing (Option.some.inj hhead)

theorem outcome_ofSegments_render {cs : List (Component P)} (h : Canonical cfg cs) (offset : Nat) :
    (Component.ofSegments cfg offset (Segment.ofText cfg.delimiters (render cfg cs))).outcome =
      .ok cs := by
  induction cs generalizing offset with
  | nil =>
    rw [show render cfg ([] : List (Component P)) = [] from rfl, Segment.ofText_eq_nil_iff.2 rfl]
    rfl
  | cons c cs ih =>
    obtain ⟨hfits, hjoins, hcs⟩ := cons_iff.1 h
    cases c with
    | literal t =>
      obtain ⟨hne, hno⟩ := hfits
      have hliteral : Component.ofLiteral (P := P) t = [.literal t] := by
        rw [Component.ofLiteral, if_neg (by simpa using hne)]
      cases cs with
      | nil =>
        rw [render_cons, show render cfg ([] : List (Component P)) = [] from rfl, List.append_nil,
          show Component.render cfg (.literal (P := P) t) = t from rfl,
          Segment.ofText_literal (splitOpener?_eq_none_iff.2 hno), Component.ofSegments_ofLiteral,
          hliteral, Noted.outcome_pure]
      | cons c' cs =>
        cases c' with
        | literal t' => exact absurd (hjoins _ rfl) id
        | placeholder spec =>
          have hopener : render cfg (.placeholder spec :: cs) = cfg.delimiters.opener ++
              (spec.body cfg ++ cfg.delimiters.closer ++ render cfg cs) := by
            rw [render_cons]
            simp [Component.render, Delimiters.enclose]
          have hrest := ih hcs (offset + t.byteLength)
          rw [hopener] at hrest
          rw [render_cons, hopener, show Component.render cfg (.literal (P := P) t) = t from rfl,
            Segment.ofText_append_opener _ hno, Component.outcome_ofSegments_append, hrest,
            hliteral]
          rfl
    | placeholder spec =>
      obtain ⟨hadmissible, hclosable⟩ := hfits
      have hopener : Segment.splitOpener? cfg.delimiters (render cfg (.placeholder spec :: cs)) =
          some ([], spec.body cfg ++ cfg.delimiters.closer ++ render cfg cs) := by
        refine splitOpener?_eq_some_iff.2 ?_
        have hleft := leftmostOpener_append (d := cfg.delimiters) (t := [])
          (spec.body cfg ++ cfg.delimiters.closer ++ render cfg cs) (by simp [Delimiters.opener])
        simpa [render_cons, Component.render, Delimiters.enclose] using hleft
      rw [Segment.ofText_placeholder hopener
        (splitCloser?_append_iff.2 ⟨hclosable, h.head?_render_ne⟩)]
      have hlast : ∀ name, spec = .rest name →
          Segment.ofText cfg.delimiters (render cfg cs) = [] := by
        rintro name rfl
        cases cs with
        | nil => exact Segment.ofText_eq_nil_iff.2 rfl
        | cons c' cs => exact absurd (hjoins c' rfl) (by cases c' <;> exact id)
      rw [show Segment.ofLiteral [] = [] from rfl, List.nil_append,
        Component.outcome_ofSegments_placeholder (Placeholder.outcome_classify_body hadmissible)
          hlast, ih hcs]
      rfl

end Canonical

theorem Closable.of_infix {d : Delimiters} {body part : Text} (h : Closable d body)
    (hpart : part <:+: body) : Closable d part :=
  fun c hc hrun => h c hc (hrun.trans hpart)

omit [PatternLanguage P] in
theorem Component.joins_of_not_rest {cfg : Config} {spec : Placeholder P} {c : Component P}
    (hspec : ∀ name, spec ≠ .rest name)
    (hc : ∀ t, c = .literal t → t.head? ≠ some cfg.delimiters.closing) :
    (Component.placeholder spec).Joins cfg c := by
  cases spec with
  | rest name => exact absurd rfl (hspec name)
  | matched name m =>
    cases c with
    | literal t => exact hc t rfl
    | placeholder spec' => trivial
  | context key =>
    cases c with
    | literal t => exact hc t rfl
    | placeholder spec' => trivial
  | attach value =>
    cases c with
    | literal t => exact hc t rfl
    | placeholder spec' => trivial

/-- What is read is canonical, and begins with what the text begins with if that is a literal. -/
theorem canonical_of_reads {cfg : Config} {done t : Text} {cs : List (Component P)}
    {r : Except BlueprintError (List (Component P))} (h : Reads cfg done t r) (hr : r = .ok cs) :
    Canonical cfg cs ∧ ∀ t', cs.head? = some (.literal t') → t'.head? = t.head? := by
  induction h generalizing cs with
  | @literal done t hno =>
    cases hr
    cases t with
    | nil => exact ⟨.nil cfg, fun t' ht' => by cases ht'⟩
    | cons a t =>
      refine ⟨Canonical.cons_iff.2 ⟨⟨List.cons_ne_nil a t, hno⟩, fun c' hc' => ?_, .nil cfg⟩,
        fun t' ht' => ?_⟩
      · cases hc'
      · cases ht'
        rfl
  | unclosed hopen hno => cases hr
  | refused hopen hrun hspec => cases hr
  | textAfterRest hopen hrun hspec hne => cases hr
  | @placeholder done t before inside lead rest n spec r hopen hrun hspec hlast hrest ih =>
    cases r with
    | error e => cases hr
    | ok cs' =>
      cases hr
      obtain ⟨hcs', hhead⟩ := ih rfl
      obtain ⟨hclosable, hrest_ne⟩ := splitCloser?_append_iff.1 (by
        have hsplit := hrun.splitCloser?
        rwa [Segment.eq_of_splitCloser? hsplit] at hsplit)
      obtain ⟨hadmissible, hbody⟩ := Placeholder.outcome_classify_eq_ok_iff.1 hspec
      have hfits : (Component.placeholder spec).Fits cfg := by
        refine ⟨hadmissible, ?_⟩
        rcases hbody with hbody | ⟨-, name, rfl, hbody⟩
        · rwa [← hbody]
        · rw [hbody] at hclosable
          exact hclosable.of_infix (List.prefix_append _ _).isInfix
      have hjoins : ∀ c', cs'.head? = some c' → (Component.placeholder spec).Joins cfg c' := by
        intro c' hc'
        refine Component.joins_of_not_rest ?_ ?_
        · rintro name rfl
          obtain rfl := hlast name rfl
          obtain rfl := Except.ok.inj hrest.eq_of_nil
          cases hc'
        · rintro t' rfl
          rwa [hhead t' hc']
      have hplaceholder := Canonical.cons_iff.2 ⟨hfits, hjoins, hcs'⟩
      cases before with
      | nil => exact ⟨hplaceholder, fun t' ht' => by cases ht'⟩
      | cons a before =>
        refine ⟨Canonical.cons_iff.2 ⟨⟨List.cons_ne_nil a before, hopen.before_no_opener⟩,
          fun c' hc' => ?_, hplaceholder⟩, fun t' ht' => ?_⟩
        · cases hc'
          trivial
        · cases ht'
          rw [hopen.eq]
          rfl

/-- Components come from compiling a text exactly if they are canonical, and then they come from
compiling what they are written as. -/
theorem compile_range_eq_canonical (cfg : Config) (cs : List (Component P)) :
    ((∃ (t : Text) (b : Blueprint P),
      (Blueprint.compile cfg t).outcome = .ok b ∧ b.components = cs) ↔ Canonical cfg cs) ∧
    (Canonical cfg cs →
      (Blueprint.compile cfg (render cfg cs)).outcome = .ok ⟨render cfg cs, cs, cfg⟩) := by
  have hback : Canonical cfg cs →
      (Blueprint.compile cfg (render cfg cs)).outcome = .ok ⟨render cfg cs, cs, cfg⟩ := by
    intro h
    rw [Blueprint.outcome_compile, Component.ofText_eq_ofSegments, h.outcome_ofSegments_render]
    rfl
  refine ⟨⟨?_, fun h => ⟨_, _, hback h, rfl⟩⟩, hback⟩
  rintro ⟨t, b, hb, rfl⟩
  exact (canonical_of_reads (reads_of_compile hb) rfl).1

end Blueprints
