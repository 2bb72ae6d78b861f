import Blueprints.Proofs.Acceptance
import Blueprints.Proofs.Consumption
import Blueprints.Pattern.Basic

/-!
# Concatenation

Two texts that compile, one written behind the other, compile to their components behind one another;
two literals that meet become one.  A source is taken apart by the first text, and what that leaves
by the second.  The main statement is `blueprints_concatenate`.
-/

namespace Blueprints

variable {P : Type}

/-! ### Openers where two texts meet -/

/-- An opener begins in the first text and ends in the second. -/
def Straddles (d : Delimiters) (t t' : Text) : Prop :=
  ∃ front back, t ++ t' = front ++ d.opener ++ back ∧ front.length < t.length ∧
    t.length < front.length + d.opener.length

section

variable {d : Delimiters} {t t' : Text}

theorem Straddles.append_left (front : Text) (h : Straddles d t t') :
    Straddles d (front ++ t) t' := by
  obtain ⟨lead, back, heq, hbegin, hend⟩ := h
  refine ⟨front ++ lead, back, ?_, ?_, ?_⟩
  · rw [List.append_assoc, heq]
    simp only [List.append_assoc]
  · simp only [List.length_append]
    omega
  · simp only [List.length_append]
    omega

theorem Straddles.append_right (back : Text) (h : Straddles d t t') :
    Straddles d t (t' ++ back) := by
  obtain ⟨front, rest, heq, hbegin, hend⟩ := h
  refine ⟨front, rest ++ back, ?_, hbegin, hend⟩
  rw [← List.append_assoc, heq, List.append_assoc _ rest back]

theorem not_straddles_nil (d : Delimiters) (t' : Text) : ¬ Straddles d [] t' := by
  intro h
  obtain ⟨front, back, -, hbegin, -⟩ := h
  exact Nat.not_lt_zero _ hbegin

theorem no_opener_append (h : ¬ d.opener <:+: t) (h' : ¬ d.opener <:+: t')
    (hmeet : ¬ Straddles d t t') : ¬ d.opener <:+: t ++ t' := by
  intro hoccurs
  obtain ⟨front, back, heq⟩ := hoccurs
  have hlength : front.length + d.opener.length + back.length = t.length + t'.length := by
    rw [← List.length_append, ← List.length_append, heq, List.length_append]
  by_cases hend : front.length + d.opener.length ≤ t.length
  · have hprefix : front ++ d.opener <+: t := by
      apply List.prefix_of_prefix_length_le ⟨back, heq⟩ (List.prefix_append t t')
      rw [List.length_append]
      exact hend
    exact h ((List.suffix_append front d.opener).isInfix.trans hprefix.isInfix)
  · by_cases hbegin : front.length < t.length
    · exact hmeet ⟨front, back, heq.symm, hbegin, by omega⟩
    · have hsuffix : d.opener ++ back <:+ t' := by
        apply List.suffix_of_suffix_length_le ⟨front, ?_⟩ (List.suffix_append t t')
        · rw [List.length_append]
          omega
        · rw [← List.append_assoc]
          exact heq
      exact h' ((List.prefix_append d.opener back).isInfix.trans hsuffix.isInfix)

end

/-! ### Components behind one another -/

namespace Component

/-- Components behind others; two literals that meet become one. -/
def join : List (Component P) → List (Component P) → List (Component P)
  | [], cs' => cs'
  | [.literal t], .literal t' :: cs' => .literal (t ++ t') :: cs'
  | c :: cs, cs' => c :: join cs cs'

theorem join_ofLiteral (t t' : Text) :
    join (ofLiteral (P := P) t) (ofLiteral t') = ofLiteral (t ++ t') := by
  cases t with
  | nil => rfl
  | cons a t =>
    cases t' with
    | nil => simp [ofLiteral, join]
    | cons a' t' => rfl

theorem join_ofLiteral_placeholder (t before : Text) (spec : Placeholder P)
    (cs : List (Component P)) :
    join (ofLiteral t) (ofLiteral before ++ .placeholder spec :: cs) =
      ofLiteral (t ++ before) ++ .placeholder spec :: cs := by
  cases t with
  | nil => rfl
  | cons a t =>
    cases before with
    | nil => simp [ofLiteral, join]
    | cons a' before => rfl

theorem join_placeholder (before : Text) (spec : Placeholder P) (cs cs' : List (Component P)) :
    join (ofLiteral before ++ .placeholder spec :: cs) cs' =
      ofLiteral before ++ .placeholder spec :: join cs cs' := by
  cases before with
  | nil => rfl
  | cons a before => rfl

end Component

/-! ### Compiling -/

variable [PatternLanguage P]

/-- Nothing opens or closes anew where a text with the given components meets another. -/
structure Joinable (cfg : Config) (cs : List (Component P)) (t t' : Text) : Prop where
  not_rest : ¬ EndsWithRest cs
  closed : ∀ spec, cs.getLast? = some (.placeholder spec) →
    t'.head? ≠ some cfg.delimiters.closing
  opener : ∀ u, cs.getLast? = some (.literal u) → ¬ Straddles cfg.delimiters t t'

section

variable {cfg : Config} {t t' before body rest : Text} {spec : Placeholder P}
  {cs cs' : List (Component P)}

omit [PatternLanguage P] in
theorem getLast?_behind (front : List (Component P)) (c : Component P) {last : Component P}
    (h : cs.getLast? = some last) : (front ++ c :: cs).getLast? = some last := by
  obtain ⟨lead, rfl⟩ := List.getLast?_eq_some_iff.1 h
  exact List.getLast?_eq_some_iff.2 ⟨front ++ c :: lead, by simp⟩

omit [PatternLanguage P] in
theorem Joinable.behind
    (h : Joinable cfg (Component.ofLiteral before ++ .placeholder spec :: cs)
      (before ++ cfg.delimiters.enclose body ++ rest) t') : Joinable cfg cs rest t' := by
  refine ⟨fun hends => h.not_rest ?_, fun spec' hspec' => ?_, fun u hu hmeet => ?_⟩
  · obtain ⟨front, name, rfl⟩ := hends
    exact ⟨Component.ofLiteral before ++ .placeholder spec :: front, name, by simp⟩
  · exact h.closed spec' (getLast?_behind _ _ hspec')
  · exact h.opener u (getLast?_behind _ _ hu) (hmeet.append_left _)

theorem Accepts.append (h : Accepts cfg t cs) (h' : Accepts cfg t' cs')
    (hjoin : Joinable cfg cs t t') : Accepts cfg (t ++ t') (Component.join cs cs') := by
  -- on the first text, since the second one meets its last literal only
  induction h with
  | @literal t hopener =>
    have hmeet : ¬ Straddles cfg.delimiters t t' := by
      cases t with
      | nil => exact not_straddles_nil cfg.delimiters t'
      | cons a t => exact hjoin.opener (a :: t) rfl
    cases h' with
    | literal hopener' =>
      rw [Component.join_ofLiteral]
      exact .literal (no_opener_append hopener hopener' hmeet)
    | @placeholder before body rest spec cs' hopener' hbody hclosed hspec hlast hrest =>
      have hbefore : ¬ Straddles cfg.delimiters t before := by
        intro hmeet'
        apply hmeet
        rw [List.append_assoc]
        exact hmeet'.append_right _
      have haccepts : Accepts cfg ((t ++ before) ++ cfg.delimiters.enclose body ++ rest) _ :=
        .placeholder (no_opener_append hopener hopener' hbefore) hbody hclosed hspec hlast hrest
      rw [Component.join_ofLiteral_placeholder]
      simpa only [List.append_assoc] using haccepts
  | @placeholder before body rest spec cs hopener hbody hclosed hspec hlast hrest ih =>
    have hclosed' : (rest ++ t').head? ≠ some cfg.delimiters.closing := by
      cases rest with
      | nil =>
        obtain rfl := hrest.components_eq_nil
        exact hjoin.closed spec (by simp)
      | cons a rest => exact hclosed
    have hlast' : ∀ name, spec = .rest name → rest ++ t' = [] := by
      rintro name rfl
      obtain rfl := hlast name rfl
      obtain rfl := hrest.components_eq_nil
      exact absurd ⟨Component.ofLiteral before, name, rfl⟩ hjoin.not_rest
    rw [Component.join_placeholder, List.append_assoc]
    exact .placeholder hopener hbody hclosed' hspec hlast' (ih hjoin.behind)

end

/-! ### Extracting -/

theorem Text.after?_append_lead (t t' u : Text) :
    Text.after? (t ++ t') u = (Text.after? t u).bind (Text.after? t') := by
  apply Option.ext
  intro rest
  rw [Option.bind_eq_some_iff, Text.after?_eq_some_iff]
  constructor
  · intro h
    exact ⟨t' ++ rest, Text.after?_eq_some_iff.2 (by rw [h, List.append_assoc]),
      Text.after?_append t' rest⟩
  · intro h
    obtain ⟨u', hu, hu'⟩ := h
    rw [Text.append_of_after? hu, Text.append_of_after? hu', List.append_assoc]

namespace Component

section

variable (cfg : Config) (context : Option Context)

theorem next?_literal_append (t t' : Text) (p : Progress) :
    (literal (P := P) (t ++ t')).next? cfg context p =
      ((literal (P := P) t).next? cfg context p).bind ((literal (P := P) t').next? cfg context) := by
  simp only [next?, Text.after?_append_lead]
  cases Text.after? t p.drain with
  | none => rfl
  | some u =>
    simp only [Option.bind_some, Option.map_some, Progress.emit]
    cases Text.after? t' u with
    | none => rfl
    | some rest => simp

/-- A literal made of two is as good as both, one after the other. -/
theorem through_join (cs cs' : List (Component P)) (p : Progress) :
    through cfg context (join cs cs') p =
      (through cfg context cs p).bind (through cfg context cs') := by
  rw [← through_append]
  fun_induction join cs cs' generalizing p with
  | case1 cs' => rfl
  | case2 t t' cs' =>
    rw [through_cons, next?_literal_append, Option.bind_assoc]
    rfl
  | case3 c cs cs' hmeet ih =>
    rw [List.cons_append, through_cons, through_cons]
    cases c.next? cfg context p with
    | none => rfl
    | some q => exact ih q

end

end Component

/-- The progress `p`, and behind it what `q` has made of the drain. -/
structure Progress.Continued (p q all : Progress) : Prop where
  drain : all.drain = q.drain
  extracted : all.extracted = p.extracted ++ q.extracted
  captures : ∀ name, all.captures.get? name = (q.captures.get? name).or (p.captures.get? name)

/-- What was put out before does not count for what components make of a drain. -/
theorem Component.exists_through_of_fresh {cfg : Config} {context : Option Context}
    {cs : List (Component P)} {p q : Progress}
    (h : through cfg context cs { drain := p.drain } = some q) :
    ∃ all, through cfg context cs p = some all ∧ p.Continued q all := by
  obtain ⟨chunks, hsplit, hextracted, hcaptures⟩ := (through_eq_some_iff cfg context cs _ q).1 h
  refine ⟨⟨q.drain, p.extracted ++ contributions cfg context cs chunks q.drain,
    p.captures.insertAll (capturedEntries cfg cs chunks q.drain)⟩, ?_, rfl, ?_, fun name => ?_⟩
  · exact (through_eq_some_iff cfg context cs p _).2 ⟨chunks, hsplit, rfl, rfl⟩
  · rw [hextracted]
    rfl
  · have hempty : (NameMap.empty : NameMap Text).get? name = none := rfl
    rw [hcaptures, NameMap.get?_insertAll, NameMap.get?_insertAll, hempty, Option.or_none]

theorem Component.exists_fresh_of_through {cfg : Config} {context : Option Context}
    {cs : List (Component P)} {p all : Progress} (h : through cfg context cs p = some all) :
    ∃ q, through cfg context cs { drain := p.drain } = some q := by
  obtain ⟨chunks, hsplit, -, -⟩ := (through_eq_some_iff cfg context cs p all).1 h
  let q : Progress := ⟨all.drain, contributions cfg context cs chunks all.drain,
    .ofList (capturedEntries cfg cs chunks all.drain)⟩
  exact ⟨q, (through_eq_some_iff cfg context cs _ q).2 ⟨chunks, hsplit, rfl, rfl⟩⟩

namespace Blueprint

theorem exists_error_of_ne_ok {b : Blueprint P} {context : Option Context} {source : Text}
    (h : ∀ e, b.extract context source ≠ .ok e) :
    ∃ miss, b.extract context source = .error miss := by
  cases hresult : b.extract context source with
  | error miss => exact ⟨miss, rfl⟩
  | ok e => exact absurd hresult (h e)

section

variable {cfg : Config} {context : Option Context} {source u u' : Text}
  {cs cs' : List (Component P)}

theorem extract_join_of_stuck {miss : Miss}
    (h : Component.visitAll cfg context 0 cs { drain := source } = .error miss) :
    ∃ miss', extract ⟨u, Component.join cs cs', cfg⟩ context source = .error miss' := by
  apply exists_error_of_ne_ok
  intro e he
  obtain ⟨q, hq, -, -⟩ := extract_eq_ok_iff_through.1 he
  rw [Component.through_join] at hq
  obtain ⟨p, hp, -⟩ := Option.bind_eq_some_iff.1 hq
  rw [← Component.visitAll_eq_ok_iff_through cfg context 0, h] at hp
  cases hp

variable {p : Progress}
  (hp : Component.visitAll cfg context 0 cs { drain := source } = .ok p)

include hp

theorem extract_join_of_miss {miss : Miss}
    (hmiss : extract ⟨u', cs', cfg⟩ context p.drain = .error miss) :
    ∃ miss', extract ⟨u, Component.join cs cs', cfg⟩ context source = .error miss' := by
  rw [Component.visitAll_eq_ok_iff_through] at hp
  apply exists_error_of_ne_ok
  intro e he
  obtain ⟨all, hall, hremainder, -⟩ := extract_eq_ok_iff_through.1 he
  rw [Component.through_join, hp] at hall
  obtain ⟨q, hq⟩ := Component.exists_fresh_of_through hall
  obtain ⟨all', hall', hcontinued⟩ := Component.exists_through_of_fresh hq
  have hsame : all = all' := Option.some.inj (hall.symm.trans hall')
  have hmatch : extract ⟨u', cs', cfg⟩ context p.drain = .ok ⟨q.extracted ++ q.drain, q.captures⟩ := by
    refine extract_eq_ok_iff_through.2 ⟨q, hq, fun hrefuses => ?_, rfl⟩
    rw [← hcontinued.drain, ← hsame]
    exact hremainder hrefuses
  rw [hmiss] at hmatch
  cases hmatch

/-- What the second components make of the drain comes behind what the first ones have made. -/
theorem extract_join_of_match {e' : Extraction}
    (hmatch : extract ⟨u', cs', cfg⟩ context p.drain = .ok e') :
    ∃ e, extract ⟨u, Component.join cs cs', cfg⟩ context source = .ok e ∧
      e.extracted = p.extracted ++ e'.extracted ∧
      ∀ name, e.captures.get? name = (e'.captures.get? name).or (p.captures.get? name) := by
  rw [Component.visitAll_eq_ok_iff_through] at hp
  obtain ⟨q, hq, hremainder, rfl⟩ := extract_eq_ok_iff_through.1 hmatch
  obtain ⟨all, hall, hcontinued⟩ := Component.exists_through_of_fresh hq
  have hjoin : Component.through cfg context (Component.join cs cs') { drain := source } =
      some all := by
    rw [Component.through_join, hp]
    exact hall
  refine ⟨_, extract_eq_ok_iff_through.2 ⟨all, hjoin, fun hrefuses => ?_, rfl⟩, ?_,
    hcontinued.captures⟩
  · rw [hcontinued.drain]
    exact hremainder hrefuses
  · show all.extracted ++ all.drain = p.extracted ++ (q.extracted ++ q.drain)
    rw [hcontinued.extracted, hcontinued.drain, List.append_assoc]

end

end Blueprint

/-- Of two texts that compile, the one behind the other compiles to the components of both, with two
literals that meet joined to one, unless something opens or closes anew where they meet.  It misses a
source on which the first text gets stuck.  Otherwise the second text decides by the drain that the
first one leaves, and its result comes behind that of the first; of two values of one name its own
counts. -/
theorem blueprints_concatenate (cfg : Config) {t t' : Text} {b b' : Blueprint P}
    (h : (Blueprint.compile cfg t).outcome = .ok b)
    (h' : (Blueprint.compile cfg t').outcome = .ok b')
    (hjoin : Joinable cfg b.components t t') :
    ∃ j : Blueprint P, (Blueprint.compile cfg (t ++ t')).outcome = .ok j ∧
      j.components = Component.join b.components b'.components ∧
      ∀ (context : Option Context) (source : Text),
        (∀ miss, Component.visitAll cfg context 0 b.components { drain := source } = .error miss →
          ∃ miss', j.extract context source = .error miss') ∧
        ∀ p, Component.visitAll cfg context 0 b.components { drain := source } = .ok p →
          (∀ miss, b'.extract context p.drain = .error miss →
            ∃ miss', j.extract context source = .error miss') ∧
          ∀ e', b'.extract context p.drain = .ok e' →
            ∃ e, j.extract context source = .ok e ∧
              e.extracted = p.extracted ++ e'.extracted ∧
              ∀ name, e.captures.get? name =
                (e'.captures.get? name).or (p.captures.get? name) := by
  obtain ⟨cs, haccepts, rfl⟩ := compile_eq_ok_iff_accepts.1 h
  obtain ⟨cs', haccepts', rfl⟩ := compile_eq_ok_iff_accepts.1 h'
  have hj := compile_eq_ok_iff_accepts.2 ⟨_, haccepts.append haccepts' hjoin, rfl⟩
  refine ⟨_, hj, rfl, fun context source => ⟨fun miss hmiss => ?_, fun p hp => ⟨?_, ?_⟩⟩⟩
  · exact Blueprint.extract_join_of_stuck hmiss
  · intro miss hmiss
    exact Blueprint.extract_join_of_miss hp hmiss
  · intro e' he'
    exact Blueprint.extract_join_of_match hp he'

/-- The second text begins with one of the two characters that an opener would need behind the first,
and its value of `x` counts. -/
theorem blueprints_concatenate_at_half_opener :
    ∃ j : Blueprint Pattern,
      (Blueprint.compile {} (Text.ofString "a$\x7b\x7bx:1\x7d\x7d$" ++
        Text.ofString "\x7bb$\x7b\x7bx\x7d\x7d")).outcome = .ok j ∧
      j.components = [.literal ['a'], .placeholder (.matched (some ['x']) (.literal ['1'])),
        .literal ['$', '\x7b', 'b'], .placeholder (.rest ['x'])] ∧
      ∃ e, j.extract none (Text.ofString "a1$\x7bbcd") = .ok e ∧
        e.extracted = Text.ofString "a$\x7bb" ∧
        e.captures.get? ['x'] = some ['c', 'd'] := by
  let front : List (Component Pattern) :=
    [.literal ['a'], .placeholder (.matched (some ['x']) (.literal ['1'])), .literal ['$']]
  let back : List (Component Pattern) := [.literal ['\x7b', 'b'], .placeholder (.rest ['x'])]
  have h : (Blueprint.compile (P := Pattern) {} (Text.ofString "a$\x7b\x7bx:1\x7d\x7d$")).outcome =
      .ok ⟨Text.ofString "a$\x7b\x7bx:1\x7d\x7d$", front, {}⟩ := by with_unfolding_all rfl
  have h' : (Blueprint.compile (P := Pattern) {} (Text.ofString "\x7bb$\x7b\x7bx\x7d\x7d")).outcome =
      .ok ⟨Text.ofString "\x7bb$\x7b\x7bx\x7d\x7d", back, {}⟩ := by with_unfolding_all rfl
  have hjoin : Joinable (P := Pattern) {} front (Text.ofString "a$\x7b\x7bx:1\x7d\x7d$")
      (Text.ofString "\x7bb$\x7b\x7bx\x7d\x7d") := by
    refine ⟨fun hends => ?_, fun spec hspec => ?_, fun u _ hmeet => ?_⟩
    · obtain ⟨lead, name, hlead⟩ := hends
      have hlast : front.getLast? = some (.placeholder (.rest name)) :=
        List.getLast?_eq_some_iff.2 ⟨lead, hlead⟩
      cases hlast
    · cases hspec
    · obtain ⟨lead, back', htext, hbegin, hend⟩ := hmeet
      have hopener : ((Text.ofString "a$\x7b\x7bx:1\x7d\x7d$" ++
          Text.ofString "\x7bb$\x7b\x7bx\x7d\x7d").drop lead.length).take 3 =
          Delimiters.standard.opener := by
        rw [htext, List.append_assoc, List.drop_left]
        rfl
      have hplace : lead.length = 8 ∨ lead.length = 9 := by
        have hlength : (Text.ofString "a$\x7b\x7bx:1\x7d\x7d$").length = 10 := by decide
        have hthree : ({} : Config).delimiters.opener.length = 3 := rfl
        omega
      rcases hplace with hplace | hplace
      · rw [hplace] at hopener
        exact absurd hopener (by decide)
      · rw [hplace] at hopener
        exact absurd hopener (by decide)
  obtain ⟨j, hj, hcs, hextract⟩ := blueprints_concatenate (P := Pattern) {} h h' hjoin
  have hp : Component.visitAll {} none 0 front { drain := Text.ofString "a1$\x7bbcd" } =
      .ok ⟨Text.ofString "\x7bbcd", ['a', '$'], .ofList [(['x'], ['1'])]⟩ := rfl
  have he' : Blueprint.extract ⟨Text.ofString "\x7bb$\x7b\x7bx\x7d\x7d", back, {}⟩ none
      (Text.ofString "\x7bbcd") = .ok ⟨['\x7b', 'b'], .ofList [(['x'], ['c', 'd'])]⟩ := rfl
  obtain ⟨e, he, hextracted, hcaptures⟩ := ((hextract none _).2 _ hp).2 _ he'
  exact ⟨j, hj, hcs, e, he, hextracted, hcaptures ['x']⟩

end Blueprints
