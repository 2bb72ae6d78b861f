import Blueprints.Proofs.Classification
import Blueprints.Proofs.Grammar
import Blueprints.Pattern.Basic

/-!
# Rendering

Compiling loses nothing of a text: the components, written one after another, are the text again.
Only the separator behind the name of a placeholder for the rest may be gone.  The main statement is
`eq_render_of_compile`.
-/

namespace Blueprints

variable {P : Type} [PatternLanguage P]

theorem Matcher.text_eq_of_map_source_eq {m m' : Matcher P}
    (h : m.map PatternLanguage.source = m'.map PatternLanguage.source) : m.text = m'.text := by
  cases m with
  | pattern p =>
    cases m' with
    | pattern p' => exact Matcher.pattern.inj h
    | literal t' => cases h
  | literal t =>
    cases m' with
    | pattern p' => cases h
    | literal t' => exact Matcher.literal.inj h

theorem Placeholder.body_eq_of_source_eq (cfg : Config) {spec spec' : Placeholder P}
    (h : spec.source = spec'.source) : spec.body cfg = spec'.body cfg := by
  cases spec <;> cases spec' <;>
    simp only [source, map, matched.injEq, rest.injEq, context.injEq, attach.injEq,
      reduceCtorEq] at h
  case matched.matched name m name' m' =>
    rw [body, body, h.1, Matcher.text_eq_of_map_source_eq h.2]
  case rest.rest name name' => rw [h]
  case context.context key key' => rw [h]
  case attach.attach value value' => rw [h]

namespace Component

def render (cfg : Config) : Component P → Text
  | literal t => t
  | placeholder spec => cfg.delimiters.enclose (spec.body cfg)

def source : Component P → Component Text
  | literal t => .literal t
  | placeholder spec => .placeholder spec.source

theorem render_eq_of_source_eq (cfg : Config) {c c' : Component P} (h : c.source = c'.source) :
    c.render cfg = c'.render cfg := by
  cases c with
  | literal t =>
    cases c' with
    | literal t' =>
      cases h
      rfl
    | placeholder spec' => cases h
  | placeholder spec =>
    cases c' with
    | literal t' => cases h
    | placeholder spec' =>
      have hsource : spec.source = spec'.source := Component.placeholder.inj h
      rw [render, render, Placeholder.body_eq_of_source_eq cfg hsource]

end Component

def render (cfg : Config) (cs : List (Component P)) : Text := cs.flatMap (Component.render cfg)

/-- Is `long` the text `short` with a separator before the closer at its end? -/
def SeparatorInserted (d : Delimiters) (short long : Text) : Prop :=
  ∃ front, short = front ++ d.closer ∧ long = front ++ [d.separator] ++ d.closer

def EndsWithRest (cs : List (Component P)) : Prop :=
  ∃ front name, cs = front ++ [.placeholder (.rest name)]

/-- Is a text one from which components are read?  It writes them, perhaps with the one separator
that a configuration which is not strict puts up with. -/
def Writes (cfg : Config) (cs : List (Component P)) (t : Text) : Prop :=
  t = render cfg cs ∨
    (EndsWithRest cs ∧ cfg.strict = false ∧ SeparatorInserted cfg.delimiters (render cfg cs) t)

theorem render_cons (cfg : Config) (c : Component P) (cs : List (Component P)) :
    render cfg (c :: cs) = c.render cfg ++ render cfg cs := List.flatMap_cons

theorem render_ofLiteral (cfg : Config) (t : Text) :
    render cfg (Component.ofLiteral (P := P) t) = t := by
  cases t with
  | nil => rfl
  | cons c t => exact List.append_nil _

theorem render_append (cfg : Config) (cs cs' : List (Component P)) :
    render cfg (cs ++ cs') = render cfg cs ++ render cfg cs' := List.flatMap_append

theorem render_eq_of_map_source_eq (cfg : Config) {cs cs' : List (Component P)}
    (h : cs.map Component.source = cs'.map Component.source) : render cfg cs = render cfg cs' := by
  induction cs generalizing cs' with
  | nil =>
    cases cs' with
    | nil => rfl
    | cons c' cs' => cases h
  | cons c cs ih =>
    cases cs' with
    | nil => cases h
    | cons c' cs' =>
      obtain ⟨hc, hcs⟩ := List.cons.inj h
      rw [render_cons, render_cons, Component.render_eq_of_source_eq cfg hc, ih hcs]

theorem endsWithRest_of_map_source_eq {cs cs' : List (Component P)}
    (h : cs.map Component.source = cs'.map Component.source) (hends : EndsWithRest cs) :
    EndsWithRest cs' := by
  obtain ⟨front, name, rfl⟩ := hends
  rw [List.map_append] at h
  obtain ⟨front', last, rfl, -, hlast⟩ := List.map_eq_append_iff.1 h.symm
  obtain ⟨c, rfl, hc⟩ := List.map_eq_singleton_iff.1 hlast
  refine ⟨front', name, ?_⟩
  cases c with
  | literal t => cases hc
  | placeholder spec =>
    cases spec <;> cases hc
    rfl

theorem SeparatorInserted.append_left {d : Delimiters} {short long : Text} (front : Text)
    (h : SeparatorInserted d short long) :
    SeparatorInserted d (front ++ short) (front ++ long) := by
  obtain ⟨f, rfl, rfl⟩ := h
  exact ⟨front ++ f, by simp, by simp⟩

theorem SeparatorInserted.long_eq {d : Delimiters} {short long long' : Text}
    (h : SeparatorInserted d short long) (h' : SeparatorInserted d short long') : long = long' := by
  obtain ⟨f, hf, rfl⟩ := h
  obtain ⟨f', hf', rfl⟩ := h'
  rw [List.append_cancel_right (hf.symm.trans hf')]

theorem Writes.append_left {cfg : Config} {cs : List (Component P)} {t : Text}
    (front : List (Component P)) (h : Writes cfg cs t) :
    Writes cfg (front ++ cs) (render cfg front ++ t) := by
  rcases h with rfl | ⟨⟨lead, name, rfl⟩, hstrict, hins⟩
  · exact .inl (render_append cfg front cs).symm
  · refine .inr ⟨⟨front ++ lead, name, (List.append_assoc ..).symm⟩, hstrict, ?_⟩
    rw [render_append]
    exact hins.append_left _

theorem Writes.placeholder {cfg : Config} {body rest : Text} {spec : Placeholder P}
    {cs : List (Component P)} (hspec : (Placeholder.classify cfg body).outcome = .ok spec)
    (hlast : ∀ name, spec = .rest name → cs = [] ∧ rest = []) (h : Writes cfg cs rest) :
    Writes cfg (.placeholder spec :: cs) (cfg.delimiters.enclose body ++ rest) := by
  obtain ⟨-, rfl | ⟨hstrict, name, rfl, rfl⟩⟩ := Placeholder.outcome_classify_eq_ok_iff.1 hspec
  · have hw := h.append_left [.placeholder spec]
    rwa [show render cfg [.placeholder spec] = cfg.delimiters.enclose (spec.body cfg) from
      List.append_nil _] at hw
  · obtain ⟨rfl, rfl⟩ := hlast name rfl
    refine .inr ⟨⟨[], name, rfl⟩, hstrict, cfg.delimiters.opener ++ name, List.append_nil _, ?_⟩
    simp [Delimiters.enclose]

/-! ### Texts -/

theorem Reads.eq_of_nil {cfg : Config} {done : Text}
    {r : Except BlueprintError (List (Component P))} (h : Reads cfg done [] r) : r = .ok [] := by
  rw [← h.outcome_eq, Segment.ofText_eq_nil_iff.2 rfl]
  rfl

theorem writes_of_reads {cfg : Config} {done t : Text} {cs : List (Component P)}
    {r : Except BlueprintError (List (Component P))} (h : Reads cfg done t r) (hr : r = .ok cs) :
    Writes cfg cs t := by
  induction h generalizing cs with
  | literal hno =>
    cases hr
    exact .inl (render_ofLiteral cfg _).symm
  | unclosed hopen hno => cases hr
  | refused hopen hrun hspec => cases hr
  | textAfterRest hopen hrun hspec hne => cases hr
  | @placeholder done t before inside lead rest n spec r hopen hrun hspec hlast hrest ih =>
    cases r with
    | error e => cases hr
    | ok cs' =>
      cases hr
      have hnil : ∀ name, spec = .rest name → cs' = [] ∧ rest = [] := by
        intro name hname
        obtain rfl := hlast name hname
        exact ⟨Except.ok.inj hrest.eq_of_nil, rfl⟩
      have hw := (Writes.placeholder hspec hnil (ih rfl)).append_left (Component.ofLiteral before)
      rw [render_ofLiteral] at hw
      rw [hopen.eq, hrun.eq, replicate_eq_append_closer _ hrun.two_le]
      simpa [Delimiters.enclose] using hw

theorem writes_of_compile {cfg : Config} {t : Text} {b : Blueprint P}
    (h : (Blueprint.compile cfg t).outcome = .ok b) : Writes cfg b.components t :=
  writes_of_reads (reads_of_compile h) rfl

/-- A text that compiles is the rendering of its components, up to the separator behind the name of
a last placeholder.  So two texts with the same components differ by this separator at most. -/
theorem eq_render_of_compile (cfg : Config) (t : Text) (b : Blueprint P)
    (h : (Blueprint.compile cfg t).outcome = .ok b) :
    (t = render cfg b.components ∨
      (EndsWithRest b.components ∧ cfg.strict = false ∧
        SeparatorInserted cfg.delimiters (render cfg b.components) t)) ∧
    ∀ (t' : Text) (b' : Blueprint P), (Blueprint.compile cfg t').outcome = .ok b' →
      b.components.map Component.source = b'.components.map Component.source →
      t = t' ∨
        (EndsWithRest b.components ∧ cfg.strict = false ∧
          (SeparatorInserted cfg.delimiters t t' ∨ SeparatorInserted cfg.delimiters t' t)) := by
  refine ⟨writes_of_compile h, fun t' b' h' hsame => ?_⟩
  have hrender := render_eq_of_map_source_eq cfg hsame
  have hwrites' := writes_of_compile h'
  rw [Writes, ← hrender] at hwrites'
  rcases writes_of_compile h with ht | ⟨hends, hstrict, ht⟩
  · rcases hwrites' with ht' | ⟨hends', hstrict, ht'⟩
    · exact .inl (ht.trans ht'.symm)
    · exact .inr ⟨endsWithRest_of_map_source_eq hsame.symm hends', hstrict, .inl (ht ▸ ht')⟩
  · rcases hwrites' with ht' | ⟨-, -, ht'⟩
    · exact .inr ⟨hends, hstrict, .inr (ht' ▸ ht)⟩
    · exact .inl (ht.long_eq ht')

theorem eq_render_of_compile_name_separator :
    (Blueprint.compile (P := Pattern) {} (Text.ofString "x$\x7b\x7ba:\x7d\x7d")).outcome =
      .ok ⟨Text.ofString "x$\x7b\x7ba:\x7d\x7d", [.literal ['x'], .placeholder (.rest ['a'])], {}⟩ ∧
    SeparatorInserted .standard (Text.ofString "x$\x7b\x7ba\x7d\x7d")
      (Text.ofString "x$\x7b\x7ba:\x7d\x7d") := by
  have h : (Blueprint.compile (P := Pattern) {}
      (Text.ofString "x$\x7b\x7ba:\x7d\x7d")).outcome = .ok ⟨Text.ofString "x$\x7b\x7ba:\x7d\x7d",
        [.literal ['x'], .placeholder (.rest ['a'])], {}⟩ := by cbv
  refine ⟨h, ?_⟩
  rcases (eq_render_of_compile {} _ _ h).1 with heq | ⟨-, -, hins⟩
  · exact absurd heq (by decide)
  · exact hins

end Blueprints
