import Blueprints.Proofs.Canonical

/-!
# Accepted texts

The texts that compile, without places and errors: a text is a literal, or it is a literal, a
placeholder and an accepted text behind that.  The main statement is `compile_eq_ok_iff_accepts`;
what holds of every text that compiles is an induction over `Accepts`.
-/

namespace Blueprints

variable {P : Type} [PatternLanguage P]

/-- A text that is accepted, with its components. -/
inductive Accepts (cfg : Config) : Text → List (Component P) → Prop
  | literal {t : Text} (hopener : ¬ cfg.delimiters.opener <:+: t) :
    Accepts cfg t (Component.ofLiteral t)
  | placeholder {before body rest : Text} {spec : Placeholder P} {cs : List (Component P)}
    (hopener : ¬ cfg.delimiters.opener <:+: before) (hbody : Closable cfg.delimiters body)
    (hclosed : rest.head? ≠ some cfg.delimiters.closing)
    (hspec : (Placeholder.classify cfg body).outcome = .ok spec)
    (hlast : ∀ name, spec = .rest name → rest = [])
    (hrest : Accepts cfg rest cs) :
    Accepts cfg (before ++ cfg.delimiters.enclose body ++ rest)
      (Component.ofLiteral before ++ .placeholder spec :: cs)

/-! ### The first placeholder -/

theorem splitOpener?_enclose {d : Delimiters} {before : Text} (body rest : Text)
    (h : ¬ d.opener <:+: before) :
    Segment.splitOpener? d (before ++ d.enclose body ++ rest) =
      some (before, body ++ d.closer ++ rest) := by
  have hleft := leftmostOpener_append (body ++ d.closer ++ rest) h
  have htext : before ++ d.opener ++ (body ++ d.closer ++ rest) =
      before ++ d.enclose body ++ rest := by simp [Delimiters.enclose]
  rw [htext] at hleft
  exact splitOpener?_eq_some_iff.2 hleft

theorem Segment.ofText_enclose {d : Delimiters} {before body rest : Text}
    (hopener : ¬ d.opener <:+: before) (hbody : Closable d body)
    (hclosed : rest.head? ≠ some d.closing) :
    ofText d (before ++ d.enclose body ++ rest) =
      ofLiteral before ++ .placeholder body :: ofText d rest :=
  ofText_placeholder (splitOpener?_enclose body rest hopener)
    (splitCloser?_append_iff.2 ⟨hbody, hclosed⟩)

theorem eq_enclose_of_split {d : Delimiters} {t before inside body rest : Text}
    (ho : Segment.splitOpener? d t = some (before, inside))
    (hc : Segment.splitCloser? d inside = some (body, rest)) :
    t = before ++ d.enclose body ++ rest ∧ ¬ d.opener <:+: before ∧ Closable d body ∧
      rest.head? ≠ some d.closing := by
  have hinside := Segment.eq_of_splitCloser? hc
  have ht : t = before ++ d.enclose body ++ rest := by
    rw [Segment.eq_of_splitOpener? ho, hinside]
    simp [Delimiters.enclose]
  rw [hinside] at hc
  exact ⟨ht, (splitOpener?_eq_some_iff.1 ho).before_no_opener, splitCloser?_append_iff.1 hc⟩

/-! ### Texts -/

theorem Accepts.outcome_ofSegments {cfg : Config} {t : Text} {cs : List (Component P)}
    (h : Accepts cfg t cs) (offset : Nat) :
    (Component.ofSegments cfg offset (Segment.ofText cfg.delimiters t)).outcome = .ok cs := by
  induction h generalizing offset with
  | literal hopener =>
    rw [Segment.ofText_literal (splitOpener?_eq_none_iff.2 hopener),
      Component.ofSegments_ofLiteral, Noted.outcome_pure]
  | @placeholder before body rest spec cs hopener hbody hclosed hspec hlast _ ih =>
    have hnothing : ∀ name, spec = .rest name → Segment.ofText cfg.delimiters rest = [] :=
      fun name hname => Segment.ofText_eq_nil_iff.2 (hlast name hname)
    rw [Segment.ofText_enclose hopener hbody hclosed, Component.outcome_ofSegments_append,
      Component.outcome_ofSegments_placeholder hspec hnothing, ih]
    rfl

theorem Accepts.components_eq_nil {cfg : Config} {cs : List (Component P)}
    (h : Accepts cfg [] cs) : cs = [] := by
  have houtcome := h.outcome_ofSegments 0
  rw [Segment.ofText_eq_nil_iff.2 rfl] at houtcome
  exact (Except.ok.inj houtcome).symm

theorem accepts_of_reads {cfg : Config} {done t : Text} {cs : List (Component P)}
    {r : Except BlueprintError (List (Component P))} (h : Reads cfg done t r) (hr : r = .ok cs) :
    Accepts cfg t cs := by
  induction h generalizing cs with
  | literal hno =>
    cases hr
    exact .literal hno
  | unclosed hopen hno => cases hr
  | refused hopen hrun hspec => cases hr
  | textAfterRest hopen hrun hspec hne => cases hr
  | @placeholder done t before inside lead rest n spec r hopen hrun hspec hlast _ ih =>
    obtain ⟨ht, hopener, hbody, hclosed⟩ :=
      eq_enclose_of_split (splitOpener?_eq_some_iff.2 hopen) hrun.splitCloser?
    cases r with
    | error e => cases hr
    | ok later =>
      cases hr
      have haccepts : Accepts cfg rest later := ih rfl
      rw [ht]
      exact .placeholder hopener hbody hclosed hspec hlast haccepts

/-- A text compiles exactly if it is accepted. -/
theorem compile_eq_ok_iff_accepts {cfg : Config} {t : Text} {b : Blueprint P} :
    (Blueprint.compile cfg t).outcome = .ok b ↔
      ∃ cs, Accepts cfg t cs ∧ b = ⟨t, cs, cfg⟩ := by
  constructor
  · intro h
    obtain ⟨cs, hcs, hb⟩ := Blueprint.compile_eq_ok_iff.1 h
    exact ⟨cs, accepts_of_reads ((outcome_ofText_iff_reads cfg t _).1 hcs) rfl, hb⟩
  · intro h
    obtain ⟨cs, haccepts, hb⟩ := h
    have hcs : (Component.ofText cfg t).outcome = .ok cs := by
      rw [Component.ofText_eq_ofSegments]
      exact haccepts.outcome_ofSegments 0
    exact Blueprint.compile_eq_ok_iff.2 ⟨cs, hcs, hb⟩

end Blueprints
