import Blueprints.Proofs.Acceptance
import Blueprints.Proofs.Comparison
import Blueprints.Pattern.Basic

/-!
# Other delimiters

Delimiters are only syntax.  A text that compiles is written with other delimiters that do not occur
in it: around every placeholder and between its parts the characters are exchanged, and everything
else stays, old delimiters that stand for themselves too.  The main statement is
`delimiters_are_syntax_only`.
-/

namespace Blueprints

namespace Delimiters

theorem closing_ne_separator (d : Delimiters) : d.closing ≠ d.separator := by
  intro h
  have hdistinct := d.distinct
  simp only [DelimiterChars.toText, List.nodup_cons, List.mem_singleton] at hdistinct
  exact hdistinct.2.2.1 h.symm

def exchange (d d' : Delimiters) (body : Text) : Text :=
  body.map fun c => if c = d.separator then d'.separator else c

theorem exchange_cons (d d' : Delimiters) (c : Char) (body : Text) :
    d.exchange d' (c :: body) =
      (if c = d.separator then d'.separator else c) :: d.exchange d' body := List.map_cons

end Delimiters

def Segment.respell (d d' : Delimiters) : Segment → Text
  | literal t => t
  | placeholder body => d'.enclose (d.exchange d' body)
  | unclosed rest => d'.opener ++ rest

def Text.redelimit (d d' : Delimiters) (t : Text) : Text :=
  (Segment.ofText d t).flatMap (Segment.respell d d')

variable {d d' : Delimiters} {t before body rest : Text}

/-! ### Texts -/

theorem flatMap_respell_ofLiteral (d d' : Delimiters) (t : Text) :
    (Segment.ofLiteral t).flatMap (Segment.respell d d') = t := by
  cases t with
  | nil => rfl
  | cons c t => simp [Segment.ofLiteral, Segment.respell]

theorem redelimit_literal (d' : Delimiters) (hopener : ¬ d.opener <:+: t) :
    t.redelimit d d' = t := by
  rw [Text.redelimit, Segment.ofText_literal (splitOpener?_eq_none_iff.2 hopener),
    flatMap_respell_ofLiteral]

theorem redelimit_enclose (d' : Delimiters) (hopener : ¬ d.opener <:+: before)
    (hbody : Closable d body) (hclosed : rest.head? ≠ some d.closing) :
    (before ++ d.enclose body ++ rest).redelimit d d' =
      before ++ d'.enclose (d.exchange d' body) ++ rest.redelimit d d' := by
  rw [Text.redelimit, Segment.ofText_enclose hopener hbody hclosed, List.flatMap_append,
    flatMap_respell_ofLiteral, List.flatMap_cons, ← List.append_assoc]
  rfl

/-- No character of the delimiters occurs in the text. -/
def Delimiters.Unused (d : Delimiters) (t : Text) : Prop := ∀ c ∈ d.chars.toText, c ∉ t

namespace Delimiters.Unused

theorem of_infix {part : Text} (h : d'.Unused t) (hpart : part <:+: t) : d'.Unused part := by
  intro c hc hmem
  exact h c hc (hpart.subset hmem)

theorem start_not_mem (h : d'.Unused t) : d'.start ∉ t :=
  h d'.start (by simp [DelimiterChars.toText, Delimiters.start])

theorem separator_not_mem (h : d'.Unused t) : d'.separator ∉ t :=
  h d'.separator (by simp [DelimiterChars.toText, Delimiters.separator])

theorem closing_not_mem (h : d'.Unused t) : d'.closing ∉ t :=
  h d'.closing (by simp [DelimiterChars.toText, Delimiters.closing])

theorem no_opener (h : d'.Unused t) : ¬ d'.opener <:+: t := by
  intro hoccurs
  exact h.start_not_mem (hoccurs.subset List.mem_cons_self)

theorem closable (d : Delimiters) (h : d'.Unused body) : Closable d' (d.exchange d' body) := by
  intro c hc hoccurs
  have hmem : d'.closing ∈ d.exchange d' body := hoccurs.subset (by simp [Delimiters.closer])
  obtain ⟨a, ha, heq⟩ := List.mem_map.1 hmem
  by_cases hsep : a = d.separator
  · rw [if_pos hsep] at heq
    exact d'.closing_ne_separator heq.symm
  · rw [if_neg hsep] at heq
    exact h.closing_not_mem (heq ▸ ha)

end Delimiters.Unused

/-! ### Bodies -/

theorem splitOn_exchange (d : Delimiters) (h : d'.separator ∉ body) :
    Text.splitOn d'.separator (d.exchange d' body) = Text.splitOn d.separator body := by
  induction body with
  | nil => rfl
  | cons c body ih =>
    have hne : c ≠ d'.separator := fun hc => h (hc ▸ List.mem_cons_self)
    have hbody := ih fun hmem => h (List.mem_cons_of_mem c hmem)
    rw [Delimiters.exchange_cons]
    by_cases hc : c = d.separator
    · simp only [if_pos hc, Text.splitOn, hbody, if_true]
    · simp only [if_neg hc, if_neg hne, Text.splitOn, hbody]

variable {P : Type} [PatternLanguage P] {cfg : Config} {cs : List (Component P)}
  {spec : Placeholder P}

/-- The separator is all that the delimiters say about a body. -/
theorem outcome_classify_exchange (hsep : d'.separator ∉ body)
    (h : (Placeholder.classify cfg body).outcome = .ok spec) :
    (Placeholder.classify { cfg with delimiters := d' }
      (cfg.delimiters.exchange d' body)).outcome = .ok spec := by
  have hsplit := splitOn_exchange cfg.delimiters hsep
  cases body with
  | nil => cases h
  | cons c body =>
    rw [Delimiters.exchange_cons] at hsplit ⊢
    unfold Placeholder.classify at h ⊢
    simp only [hsplit] at h ⊢
    split at h
    case h_6 =>
      -- a body with more than one separator stands for nothing
      cases h
    all_goals exact h

/-! ### Accepted texts -/

theorem Accepts.head?_redelimit (h : Accepts cfg t cs) (hunused : d'.Unused t) :
    (t.redelimit cfg.delimiters d').head? ≠ some d'.closing := by
  cases h with
  | literal hopener =>
    rw [redelimit_literal d' hopener]
    exact fun hhead => hunused.closing_not_mem (List.mem_of_mem_head? hhead)
  | @placeholder before body rest spec cs hopener hbody hclosed hspec hlast hrest =>
    rw [redelimit_enclose d' hopener hbody hclosed]
    cases before with
    | nil => exact fun hhead => d'.start_ne_closing (Option.some.inj hhead)
    | cons c before =>
      intro hhead
      have hc : c = d'.closing := Option.some.inj hhead
      exact hunused.closing_not_mem (hc ▸ List.mem_cons_self)

theorem Accepts.redelimit (h : Accepts cfg t cs) (hunused : d'.Unused t) :
    Accepts { cfg with delimiters := d' } (t.redelimit cfg.delimiters d') cs := by
  induction h with
  | literal hopener =>
    rw [redelimit_literal d' hopener]
    exact .literal hunused.no_opener
  | @placeholder before body rest spec cs hopener hbody hclosed hspec hlast hrest ih =>
    have hbefore : d'.Unused before := hunused.of_infix
      ((List.prefix_append before _).trans (List.prefix_append _ rest)).isInfix
    have hinside : d'.Unused body := hunused.of_infix
      ⟨before ++ cfg.delimiters.opener, cfg.delimiters.closer ++ rest, by simp [Delimiters.enclose]⟩
    have hbehind : d'.Unused rest := hunused.of_infix (List.suffix_append _ rest).isInfix
    rw [redelimit_enclose d' hopener hbody hclosed]
    refine .placeholder hbefore.no_opener (hinside.closable cfg.delimiters)
      (hrest.head?_redelimit hbehind)
      (outcome_classify_exchange hinside.separator_not_mem hspec) ?_ (ih hbehind)
    intro name hname
    rw [hlast name hname]
    exact redelimit_literal d' (by simp [Delimiters.opener])

/-! ### Blueprints -/

theorem Blueprint.extract_delimiters (d : Delimiters) (t t' : Text) (cs : List (Component P))
    (cfg : Config) (context : Option Context) (source : Text) :
    extract ⟨t', cs, { cfg with delimiters := d }⟩ context source =
      extract ⟨t, cs, cfg⟩ context source := by
  rcases extract_compared ⟨t, cs, cfg⟩ ⟨t', cs, { cfg with delimiters := d }⟩ rfl rfl context context
    source with ⟨miss, hmiss, hmiss'⟩ | ⟨chunks, rest, -, he, he'⟩
  · rw [hmiss, hmiss']
  · rw [he, he']
    rfl

/-- A text that compiles compiles with any other delimiters that it does not use, when it is written
with these, to the same components, and its extractions are the same. -/
theorem delimiters_are_syntax_only {b : Blueprint P}
    (h : (Blueprint.compile cfg t).outcome = .ok b) (hunused : d'.Unused t) :
    ∃ b' : Blueprint P,
      (Blueprint.compile { cfg with delimiters := d' }
        (t.redelimit cfg.delimiters d')).outcome = .ok b' ∧
      b'.components = b.components ∧
      ∀ (context : Option Context) (source : Text),
        b'.extract context source = b.extract context source := by
  obtain ⟨cs, haccepts, rfl⟩ := compile_eq_ok_iff_accepts.1 h
  have hcompile := compile_eq_ok_iff_accepts.2 ⟨cs, haccepts.redelimit hunused, rfl⟩
  exact ⟨_, hcompile, rfl, Blueprint.extract_delimiters d' t _ cs cfg⟩

/-- The quantifier of the pattern and the closer make a run of three closing characters, and a
character of the delimiters stands on either side of the placeholder. -/
def quantifierText : Text := .ofString "\x7da$\x7b\x7bx:[0-9]\x7b2\x7d\x7d\x7d$"

theorem delimiters_are_syntax_only_at_quantifier :
    ∃ b b' : Blueprint Pattern,
      (Blueprint.compile {} quantifierText).outcome = .ok b ∧
      (Blueprint.compile { delimiters := ⟨⟨'#', '@', '|', '^'⟩, by decide⟩ }
        (Text.ofString "\x7da#@@x|[0-9]\x7b2\x7d^^$")).outcome = .ok b' ∧
      b'.components = b.components ∧
      b.extract none (Text.ofString "\x7da42$") =
        .ok ⟨Text.ofString "\x7da$", .ofList [(['x'], ['4', '2'])]⟩ ∧
      b'.extract none (Text.ofString "\x7da42$") =
        .ok ⟨Text.ofString "\x7da$", .ofList [(['x'], ['4', '2'])]⟩ := by
  let other : Delimiters := ⟨⟨'#', '@', '|', '^'⟩, by decide⟩
  have hunused : other.Unused quantifierText := by
    simp [Delimiters.Unused, other, DelimiterChars.toText, quantifierText, Text.ofString]
  have hwritten : quantifierText.redelimit .standard other =
      Text.ofString "\x7da#@@x|[0-9]\x7b2\x7d^^$" := by with_unfolding_all rfl
  have hrun : (Blueprint.compile (P := Pattern) {} quantifierText).outcome.toOption.map
      (·.extract none (Text.ofString "\x7da42$")) =
      some (.ok ⟨Text.ofString "\x7da$", .ofList [(['x'], ['4', '2'])]⟩) := by with_unfolding_all rfl
  cases h : (Blueprint.compile (P := Pattern) {} quantifierText).outcome with
  | error e =>
    rw [h] at hrun
    cases hrun
  | ok b =>
    rw [h] at hrun
    have hextract := Option.some.inj hrun
    obtain ⟨b', hb', hcs, hsame⟩ := delimiters_are_syntax_only h hunused
    exact ⟨b, b', rfl, hwritten ▸ hb', hcs, hextract, (hsame none _).trans hextract⟩

end Blueprints
