import Blueprints.Proofs.Segmentation
import Blueprints.Extractor

/-!
# Faults

Every segment of a text is read as a component or is at fault, for a reason that does not depend on
what stands before it.  Texts compile if no segment is at fault, and the first fault is the error
otherwise.
-/

namespace Blueprints

/-- A segment of one of several texts. -/
structure Place where
  text : Nat
  segment : Nat
deriving Repr, DecidableEq

/-- Does a place come before another, in an earlier text or further left in the same one? -/
def Place.Before (a b : Place) : Prop :=
  a.text < b.text ∨ (a.text = b.text ∧ a.segment < b.segment)

theorem Place.eq_of_not_before {a b : Place} (hab : ¬ a.Before b) (hba : ¬ b.Before a) : a = b := by
  obtain ⟨text, segment⟩ := a
  obtain ⟨text', segment'⟩ := b
  simp only [Before] at hab hba
  have htext : text = text' := by omega
  have hsegment : segment = segment' := by omega
  rw [htext, hsegment]

section

variable (P : Type) [PatternLanguage P]

/-- What is wrong with a segment that starts at a byte offset and has others behind it. -/
inductive Fault (cfg : Config) : (offset : Nat) → Segment → (more : List Segment) →
    BlueprintError → Prop
  | notClosed {offset : Nat} {rest : Text} {more : List Segment} :
    Fault cfg offset (.unclosed rest) more (.notClosed offset)
  | refused {offset : Nat} {body : Text} {more : List Segment} {e : BlueprintError} :
    (Placeholder.classify (P := P) cfg body).outcome = .error e →
    Fault cfg offset (.placeholder body) more e
  | textAfterRest {offset : Nat} {body name : Text} {more : List Segment} :
    (Placeholder.classify (P := P) cfg body).outcome = .ok (.rest name) → more ≠ [] →
    Fault cfg offset (.placeholder body) more (.textAfterRest name)

/-- A segment at fault, by its number; the first segment starts at a byte offset. -/
def FaultIn (cfg : Config) (offset : Nat) (segments : List Segment) (i : Nat)
    (e : BlueprintError) : Prop :=
  ∃ s, segments[i]? = some s ∧
    Fault P cfg
      (offset + Text.byteLength ((segments.take i).flatMap (Segment.spell cfg.delimiters))) s
      (segments.drop (i + 1)) e

def FaultAt (cfg : Config) (ts : List Text) (place : Place) (e : BlueprintError) : Prop :=
  ∃ t, ts[place.text]? = some t ∧
    FaultIn P cfg 0 (Segment.ofText cfg.delimiters t) place.segment e

structure FirstFault (cfg : Config) (ts : List Text) (place : Place) (e : BlueprintError) :
    Prop where
  fault : FaultAt P cfg ts place e
  first : ∀ place' e', FaultAt P cfg ts place' e' → ¬ place'.Before place

end

variable {P : Type} [PatternLanguage P]

inductive ReadAs (cfg : Config) : Segment → (more : List Segment) → Component P → Prop
  | literal {t : Text} {more : List Segment} : ReadAs cfg (.literal t) more (.literal t)
  | placeholder {body : Text} {more : List Segment} {spec : Placeholder P} :
    (Placeholder.classify cfg body).outcome = .ok spec →
    (∀ name, spec = .rest name → more = []) →
    ReadAs cfg (.placeholder body) more (.placeholder spec)

/-! ### One segment -/

section

variable {cfg : Config} {offset : Nat} {s : Segment} {more : List Segment} {e : BlueprintError}
  {c : Component P}

theorem fault_or_readAs (cfg : Config) (offset : Nat) (s : Segment) (more : List Segment) :
    (∃ e, Fault P cfg offset s more e) ∨ ∃ c : Component P, ReadAs cfg s more c := by
  cases s with
  | literal t => exact .inr ⟨_, .literal⟩
  | unclosed rest => exact .inl ⟨_, .notClosed⟩
  | placeholder body =>
    cases hspec : (Placeholder.classify (P := P) cfg body).outcome with
    | error e => exact .inl ⟨e, .refused hspec⟩
    | ok spec =>
      by_cases hrest : ∃ name, spec = .rest name ∧ more ≠ []
      · obtain ⟨name, rfl, hmore⟩ := hrest
        exact .inl ⟨_, .textAfterRest hspec hmore⟩
      · refine .inr ⟨_, .placeholder hspec fun name hname => ?_⟩
        exact Decidable.byContradiction fun hmore => hrest ⟨name, hname, hmore⟩

theorem ReadAs.not_fault (h : ReadAs cfg s more c) : ¬ Fault P cfg offset s more e := by
  intro hfault
  cases h with
  | literal => cases hfault
  | placeholder hspec hlast =>
    cases hfault with
    | refused he =>
      rw [hspec] at he
      cases he
    | textAfterRest hrest hmore =>
      rw [hspec, Except.ok.injEq] at hrest
      exact hmore (hlast _ hrest)

theorem Fault.error_eq {e' : BlueprintError} (h : Fault P cfg offset s more e)
    (h' : Fault P cfg offset s more e') : e = e' := by
  cases h with
  | notClosed =>
    cases h'
    rfl
  | refused he =>
    cases h' with
    | refused he' =>
      rw [he] at he'
      exact Except.error.inj he'
    | textAfterRest hrest' hmore' =>
      rw [he] at hrest'
      cases hrest'
  | textAfterRest hrest hmore =>
    cases h' with
    | refused he' =>
      rw [hrest] at he'
      cases he'
    | textAfterRest hrest' hmore' =>
      rw [hrest] at hrest'
      cases hrest'
      rfl

theorem Fault.outcome_eq (h : Fault P cfg offset s more e) :
    (Component.ofSegments (P := P) cfg offset (s :: more)).outcome = .error e := by
  cases h with
  | notClosed => rfl
  | refused he => exact Component.outcome_ofSegments_refused he
  | textAfterRest hrest hmore => exact Component.outcome_ofSegments_textAfterRest hrest hmore

theorem ReadAs.outcome_eq (h : ReadAs cfg s more c) :
    (Component.ofSegments cfg offset (s :: more)).outcome =
      (Component.ofSegments cfg (offset + (s.spell cfg.delimiters).byteLength) more).outcome.map
        (c :: ·) := by
  cases h with
  | @literal t more =>
    rw [show Segment.spell cfg.delimiters (.literal t) = t from rfl, Component.ofSegments,
      Noted.outcome_bind]
    cases (Component.ofSegments (P := P) cfg (offset + t.byteLength) more).outcome <;> rfl
  | placeholder hspec hlast => exact Component.outcome_ofSegments_placeholder hspec hlast

theorem ReadAs.outcome_eq_ok_iff {cs : List (Component P)} (h : ReadAs cfg s more c) :
    (Component.ofSegments cfg offset (s :: more)).outcome = .ok cs ↔
      ∃ later, (Component.ofSegments cfg (offset + (s.spell cfg.delimiters).byteLength)
        more).outcome = .ok later ∧ cs = c :: later := by
  rw [h.outcome_eq]
  cases (Component.ofSegments (P := P) cfg (offset + (s.spell cfg.delimiters).byteLength)
      more).outcome with
  | error e => simp [Except.map]
  | ok later => simp [Except.map, eq_comm]

theorem ReadAs.outcome_eq_error_iff (h : ReadAs cfg s more c) :
    (Component.ofSegments (P := P) cfg offset (s :: more)).outcome = .error e ↔
      (Component.ofSegments (P := P) cfg (offset + (s.spell cfg.delimiters).byteLength)
        more).outcome = .error e := by
  rw [h.outcome_eq]
  cases (Component.ofSegments (P := P) cfg (offset + (s.spell cfg.delimiters).byteLength)
      more).outcome with
  | error e' => simp [Except.map]
  | ok later => simp [Except.map]

end

/-! ### One text -/

section

variable {cfg : Config} {offset : Nat} {e : BlueprintError}

theorem FaultIn.zero_iff {s : Segment} {more : List Segment} :
    FaultIn P cfg offset (s :: more) 0 e ↔ Fault P cfg offset s more e := by
  simp [FaultIn, Text.byteLength]

theorem FaultIn.succ_iff {s : Segment} {more : List Segment} {i : Nat} :
    FaultIn P cfg offset (s :: more) (i + 1) e ↔
      FaultIn P cfg (offset + (s.spell cfg.delimiters).byteLength) more i e := by
  simp [FaultIn, Text.byteLength_append, Nat.add_assoc]

theorem FaultIn.error_eq {segments : List Segment} {i : Nat} {e' : BlueprintError}
    (h : FaultIn P cfg offset segments i e) (h' : FaultIn P cfg offset segments i e') :
    e = e' := by
  obtain ⟨s, hs, hfault⟩ := h
  obtain ⟨s', hs', hfault'⟩ := h'
  rw [hs, Option.some.injEq] at hs'
  subst hs'
  exact hfault.error_eq hfault'

theorem not_faultIn_of_ok {segments : List Segment} {cs : List (Component P)}
    (h : (Component.ofSegments cfg offset segments).outcome = .ok cs) (i : Nat)
    (e : BlueprintError) : ¬ FaultIn P cfg offset segments i e := by
  induction segments generalizing offset cs i with
  | nil =>
    rintro ⟨s, hs, -⟩
    cases hs
  | cons s more ih =>
    rcases fault_or_readAs (P := P) cfg offset s more with ⟨e', hfault⟩ | ⟨c, hread⟩
    · rw [hfault.outcome_eq] at h
      cases h
    · obtain ⟨later, hmore, -⟩ := hread.outcome_eq_ok_iff.1 h
      cases i with
      | zero =>
        rw [FaultIn.zero_iff]
        exact hread.not_fault
      | succ i =>
        rw [FaultIn.succ_iff]
        exact ih hmore i

/-- Segments that are not read fail with the first fault. -/
theorem exists_faultIn_of_error {segments : List Segment}
    (h : (Component.ofSegments (P := P) cfg offset segments).outcome = .error e) :
    ∃ i, FaultIn P cfg offset segments i e ∧
      ∀ j e', FaultIn P cfg offset segments j e' → i ≤ j := by
  induction segments generalizing offset with
  | nil => cases h
  | cons s more ih =>
    rcases fault_or_readAs (P := P) cfg offset s more with ⟨e', hfault⟩ | ⟨c, hread⟩
    · rw [hfault.outcome_eq] at h
      cases h
      exact ⟨0, FaultIn.zero_iff.2 hfault, fun j _ _ => Nat.zero_le j⟩
    · obtain ⟨i, hi, hfirst⟩ := ih (hread.outcome_eq_error_iff.1 h)
      refine ⟨i + 1, FaultIn.succ_iff.2 hi, fun j e' hj => ?_⟩
      cases j with
      | zero => exact absurd (FaultIn.zero_iff.1 hj) hread.not_fault
      | succ j =>
        have hle := hfirst j e' (FaultIn.succ_iff.1 hj)
        omega

end

/-! ### Several texts -/

namespace Extractor

theorem outcome_compileAll_cons (cfg : Config) (t : Text) (more : List Text) :
    (compileAll (P := P) cfg (t :: more)).outcome =
      (Component.ofText cfg t).outcome.bind fun cs =>
        (compileAll cfg more).outcome.map (⟨t, cs, cfg⟩ :: ·) := by
  rw [compileAll, Noted.outcome_bind, Blueprint.outcome_compile]
  cases (Component.ofText (P := P) cfg t).outcome with
  | error e => rfl
  | ok cs =>
    simp only [Except.map, Except.bind, Noted.outcome_bind]
    cases (compileAll (P := P) cfg more).outcome <;> rfl

theorem compileAll_cons_eq_ok_iff {cfg : Config} {t : Text} {more : List Text}
    {bs : List (Blueprint P)} :
    (compileAll cfg (t :: more)).outcome = .ok bs ↔
      ∃ cs later, (Component.ofText cfg t).outcome = .ok cs ∧
        (compileAll cfg more).outcome = .ok later ∧ bs = ⟨t, cs, cfg⟩ :: later := by
  rw [outcome_compileAll_cons]
  cases (Component.ofText (P := P) cfg t).outcome with
  | error e => simp [Except.bind]
  | ok cs =>
    cases (compileAll (P := P) cfg more).outcome with
    | error e => simp [Except.bind, Except.map]
    | ok later => simp [Except.bind, Except.map, eq_comm]

theorem compileAll_cons_eq_error_iff {cfg : Config} {t : Text} {more : List Text}
    {e : BlueprintError} :
    (compileAll (P := P) cfg (t :: more)).outcome = .error e ↔
      (Component.ofText (P := P) cfg t).outcome = .error e ∨
        ∃ cs, (Component.ofText (P := P) cfg t).outcome = .ok cs ∧
          (compileAll (P := P) cfg more).outcome = .error e := by
  rw [outcome_compileAll_cons]
  cases (Component.ofText (P := P) cfg t).outcome with
  | error e' => simp [Except.bind]
  | ok cs => cases (compileAll (P := P) cfg more).outcome <;> simp [Except.bind, Except.map]

theorem compileAll_eq_ok_iff {cfg : Config} {ts : List Text} {bs : List (Blueprint P)} :
    (compileAll cfg ts).outcome = .ok bs ↔
      bs.map .ok = ts.map fun t => (Blueprint.compile cfg t).outcome := by
  induction ts generalizing bs with
  | nil => simp [compileAll, Noted.outcome_pure, eq_comm]
  | cons t more ih =>
    rw [compileAll_cons_eq_ok_iff, List.map_cons]
    constructor
    · intro h
      obtain ⟨cs, later, hcs, hmore, rfl⟩ := h
      have hb := Blueprint.compile_eq_ok_iff.2 ⟨cs, hcs, rfl⟩
      rw [List.map_cons, ih.1 hmore, hb]
    · intro h
      obtain ⟨b, later, rfl, hb, hlater⟩ := List.map_eq_cons_iff.1 h
      obtain ⟨cs, hcs, rfl⟩ := Blueprint.compile_eq_ok_iff.1 hb.symm
      exact ⟨cs, later, hcs, ih.2 hlater, rfl⟩

theorem compileAll_eq_error_iff {cfg : Config} {ts : List Text} {e : BlueprintError} :
    (compileAll (P := P) cfg ts).outcome = .error e ↔
      ∃ before t after, ts = before ++ t :: after ∧
        (∀ t' ∈ before, ∃ b, (Blueprint.compile (P := P) cfg t').outcome = .ok b) ∧
        (Blueprint.compile (P := P) cfg t).outcome = .error e := by
  induction ts with
  | nil => simp [compileAll, Noted.outcome_pure]
  | cons t more ih =>
    rw [compileAll_cons_eq_error_iff, ih]
    constructor
    · intro h
      rcases h with he | ⟨cs, hcs, before, t', after, rfl, hbefore, he⟩
      · exact ⟨[], t, more, rfl, by simp, Blueprint.compile_eq_error_iff.2 he⟩
      · have hb := Blueprint.compile_eq_ok_iff.2 ⟨cs, hcs, rfl⟩
        exact ⟨t :: before, t', after, rfl, List.forall_mem_cons.2 ⟨⟨_, hb⟩, hbefore⟩, he⟩
    · intro h
      obtain ⟨before, t', after, hts, hbefore, he⟩ := h
      cases before with
      | nil =>
        obtain ⟨rfl, -⟩ := List.cons.inj hts
        exact .inl (Blueprint.compile_eq_error_iff.1 he)
      | cons first before =>
        obtain ⟨rfl, hmore⟩ := List.cons.inj hts
        obtain ⟨⟨b, hb⟩, hbefore'⟩ := List.forall_mem_cons.1 hbefore
        obtain ⟨cs, hcs, -⟩ := Blueprint.compile_eq_ok_iff.1 hb
        exact .inr ⟨cs, hcs, before, t', after, hmore, hbefore', he⟩

theorem outcome_compile_blueprints (cfg : Config) {ts : List Text} (h : ts ≠ []) :
    (compile (P := P) cfg ts).outcome.map blueprints = (compileAll cfg ts).outcome := by
  cases ts with
  | nil => exact absurd rfl h
  | cons t more =>
    cases more with
    | nil =>
      rw [compile, compileAll, Noted.outcome_bind, Noted.outcome_bind]
      cases (Blueprint.compile (P := P) cfg t).outcome <;> rfl
    | cons t' more =>
      have hbulk : compile (P := P) cfg (t :: t' :: more) =
          (do pure (.bulk (← compileAll cfg (t :: t' :: more)))) := rfl
      rw [hbulk, Noted.outcome_bind]
      cases (compileAll (P := P) cfg (t :: t' :: more)).outcome <;> rfl

section

variable {cfg : Config} {ts : List Text}

theorem compile_eq_ok {x : Extractor P} (hts : ts ≠ []) (h : (compile cfg ts).outcome = .ok x) :
    (compileAll cfg ts).outcome = .ok x.blueprints := by
  rw [← outcome_compile_blueprints cfg hts, h]
  rfl

theorem exists_compile_eq_ok {bs : List (Blueprint P)} (hts : ts ≠ [])
    (h : (compileAll cfg ts).outcome = .ok bs) :
    ∃ x, (compile cfg ts).outcome = .ok x ∧ x.blueprints = bs := by
  rw [← outcome_compile_blueprints cfg hts] at h
  cases hx : (compile (P := P) cfg ts).outcome with
  | error e =>
    rw [hx] at h
    cases h
  | ok x =>
    rw [hx] at h
    exact ⟨x, rfl, Except.ok.inj h⟩

theorem compile_eq_error_iff {e : BlueprintError} (hts : ts ≠ []) :
    (compile (P := P) cfg ts).outcome = .error e ↔
      (compileAll (P := P) cfg ts).outcome = .error e := by
  rw [← outcome_compile_blueprints cfg hts]
  cases (compile (P := P) cfg ts).outcome with
  | error e' => simp [Except.map]
  | ok x => simp [Except.map]

theorem config_of_compileAll {bs : List (Blueprint P)}
    (h : (compileAll cfg ts).outcome = .ok bs) : ∀ b ∈ bs, b.config = cfg := by
  induction ts generalizing bs with
  | nil =>
    cases h
    intro b hb
    cases hb
  | cons t more ih =>
    obtain ⟨cs, later, -, hmore, rfl⟩ := compileAll_cons_eq_ok_iff.1 h
    exact List.forall_mem_cons.2 ⟨rfl, ih hmore⟩

end

end Extractor

section

variable {cfg : Config} {ts : List Text} {e : BlueprintError}

theorem FaultAt.zero_iff {t : Text} {i : Nat} :
    FaultAt P cfg (t :: ts) ⟨0, i⟩ e ↔
      FaultIn P cfg 0 (Segment.ofText cfg.delimiters t) i e := by
  simp [FaultAt]

theorem FaultAt.succ_iff {t : Text} {k i : Nat} :
    FaultAt P cfg (t :: ts) ⟨k + 1, i⟩ e ↔ FaultAt P cfg ts ⟨k, i⟩ e := by
  simp [FaultAt]

theorem not_faultAt_of_ok {bs : List (Blueprint P)}
    (h : (Extractor.compileAll cfg ts).outcome = .ok bs) (place : Place) (e : BlueprintError) :
    ¬ FaultAt P cfg ts place e := by
  obtain ⟨k, i⟩ := place
  induction ts generalizing bs k with
  | nil =>
    rintro ⟨t, ht, -⟩
    cases ht
  | cons t more ih =>
    obtain ⟨cs, later, hcs, hmore, -⟩ := Extractor.compileAll_cons_eq_ok_iff.1 h
    cases k with
    | zero =>
      rw [FaultAt.zero_iff]
      rw [Component.ofText_eq_ofSegments] at hcs
      exact not_faultIn_of_ok hcs i e
    | succ k =>
      rw [FaultAt.succ_iff]
      exact ih hmore k

theorem exists_firstFault_of_error
    (h : (Extractor.compileAll (P := P) cfg ts).outcome = .error e) :
    ∃ place, FirstFault P cfg ts place e := by
  induction ts with
  | nil => cases h
  | cons t more ih =>
    rcases Extractor.compileAll_cons_eq_error_iff.1 h with hcs | ⟨cs, hcs, hmore⟩
    · rw [Component.ofText_eq_ofSegments] at hcs
      obtain ⟨i, hi, hfirst⟩ := exists_faultIn_of_error hcs
      refine ⟨⟨0, i⟩, FaultAt.zero_iff.2 hi, fun place' e' hfault => ?_⟩
      obtain ⟨k, j⟩ := place'
      simp only [Place.Before]
      cases k with
      | zero =>
        have hle := hfirst j e' (FaultAt.zero_iff.1 hfault)
        omega
      | succ k => omega
    · rw [Component.ofText_eq_ofSegments] at hcs
      obtain ⟨⟨k, i⟩, hfault, hfirst⟩ := ih hmore
      refine ⟨⟨k + 1, i⟩, FaultAt.succ_iff.2 hfault, fun place' e' hfault' => ?_⟩
      obtain ⟨k', j⟩ := place'
      cases k' with
      | zero => exact absurd (FaultAt.zero_iff.1 hfault') (not_faultIn_of_ok hcs j e')
      | succ k' =>
        have hnot := hfirst ⟨k', j⟩ e' (FaultAt.succ_iff.1 hfault')
        simp only [Place.Before] at hnot ⊢
        omega

theorem FaultAt.error_eq {place : Place} {e' : BlueprintError} (h : FaultAt P cfg ts place e)
    (h' : FaultAt P cfg ts place e') : e = e' := by
  obtain ⟨t, ht, hfault⟩ := h
  obtain ⟨t', ht', hfault'⟩ := h'
  rw [ht, Option.some.injEq] at ht'
  subst ht'
  exact hfault.error_eq hfault'

end

/-- The first fault decides the error. -/
theorem FirstFault.outcome_eq {cfg : Config} {ts : List Text} {place : Place} {e : BlueprintError}
    (h : FirstFault P cfg ts place e) :
    (Extractor.compileAll (P := P) cfg ts).outcome = .error e := by
  cases hall : (Extractor.compileAll (P := P) cfg ts).outcome with
  | ok bs => exact absurd h.fault (not_faultAt_of_ok hall place e)
  | error e' =>
    obtain ⟨place', h'⟩ := exists_firstFault_of_error hall
    have hplace : place = place' :=
      Place.eq_of_not_before (h'.first place e h.fault) (h.first place' e' h'.fault)
    subst hplace
    rw [h.fault.error_eq h'.fault]

/-! ### Two configurations -/

section Lenience

variable (cfg cfg' : Config) (hd : cfg'.delimiters = cfg.delimiters)
  (hc : ∀ (body : Text) (spec : Placeholder P),
    (Placeholder.classify cfg body).outcome = .ok spec →
      (Placeholder.classify cfg' body).outcome = .ok spec)

include hc in
theorem ReadAs.of_lenience {s : Segment} {more : List Segment} {c : Component P}
    (h : ReadAs cfg s more c) : ReadAs cfg' s more c := by
  cases h with
  | literal => exact .literal
  | placeholder hspec hlast => exact .placeholder (hc _ _ hspec) hlast

include hd hc

/-- A configuration that puts up with more bodies reads the same components. -/
theorem Component.ofSegments_of_lenience {offset : Nat} {segments : List Segment}
    {cs : List (Component P)} (h : (ofSegments cfg offset segments).outcome = .ok cs) :
    (ofSegments cfg' offset segments).outcome = .ok cs := by
  induction segments generalizing offset cs with
  | nil => exact h
  | cons s more ih =>
    rcases fault_or_readAs (P := P) cfg offset s more with ⟨e, hfault⟩ | ⟨c, hread⟩
    · rw [hfault.outcome_eq] at h
      cases h
    · obtain ⟨later, hmore, rfl⟩ := hread.outcome_eq_ok_iff.1 h
      have hread' := hread.of_lenience cfg cfg' hc
      refine hread'.outcome_eq_ok_iff.2 ⟨later, ?_, rfl⟩
      rw [hd]
      exact ih hmore

theorem Extractor.compileAll_of_lenience {ts : List Text} {bs : List (Blueprint P)}
    (h : (compileAll cfg ts).outcome = .ok bs) :
    (compileAll cfg' ts).outcome = .ok (bs.map fun b => { b with config := cfg' }) := by
  induction ts generalizing bs with
  | nil =>
    cases h
    rfl
  | cons t more ih =>
    obtain ⟨cs, later, hcs, hmore, rfl⟩ := compileAll_cons_eq_ok_iff.1 h
    have hcs' : (Component.ofText (P := P) cfg' t).outcome = .ok cs := by
      rw [Component.ofText_eq_ofSegments] at hcs ⊢
      rw [hd]
      exact Component.ofSegments_of_lenience cfg cfg' hd hc hcs
    exact compileAll_cons_eq_ok_iff.2 ⟨cs, _, hcs', ih hmore, rfl⟩

end Lenience

def Extractor.withConfig (cfg : Config) : Extractor P → Extractor P
  | single b => single { b with config := cfg }
  | bulk bs => bulk (bs.map fun b => { b with config := cfg })

omit [PatternLanguage P] in
theorem Extractor.blueprints_withConfig (cfg : Config) (x : Extractor P) :
    (x.withConfig cfg).blueprints = x.blueprints.map fun b => { b with config := cfg } := by
  cases x <;> rfl

section Congruence

variable (cfg cfg' : Config) (hd : cfg'.delimiters = cfg.delimiters)
  (hc : ∀ body, Placeholder.classify (P := P) cfg' body = Placeholder.classify cfg body)
include hd hc

theorem Extractor.outcome_compileAll_congr (ts : List Text) :
    (compileAll (P := P) cfg' ts).outcome =
      (compileAll cfg ts).outcome.map fun bs => bs.map fun b => { b with config := cfg' } := by
  induction ts with
  | nil => rfl
  | cons t more ih =>
    simp only [compileAll, Noted.outcome_bind, Blueprint.outcome_compile_congr cfg cfg' hd hc, ih]
    cases (Blueprint.compile (P := P) cfg t).outcome with
    | error e => rfl
    | ok b => cases (compileAll (P := P) cfg more).outcome <;> rfl

theorem Extractor.outcome_compile_congr (ts : List Text) :
    (compile (P := P) cfg' ts).outcome = (compile cfg ts).outcome.map (withConfig cfg') := by
  rcases ts with _ | ⟨t, _ | ⟨t', more⟩⟩
  · rfl
  · simp only [compile, Noted.outcome_bind, Blueprint.outcome_compile_congr cfg cfg' hd hc]
    cases (Blueprint.compile (P := P) cfg t).outcome <;> rfl
  · simp only [compile, Noted.outcome_bind, Extractor.outcome_compileAll_congr cfg cfg' hd hc]
    cases (compileAll (P := P) cfg (t :: t' :: more)).outcome <;> rfl

end Congruence

end Blueprints
