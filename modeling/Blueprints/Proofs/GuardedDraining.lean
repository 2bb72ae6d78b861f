import Blueprints.Pattern.Basic
import Blueprints.Proofs.Consumption
import Blueprints.Proofs.GuardedReading

/-!
# Guarded draining

Extraction once more, with the drain as a view of the source: it starts at a byte offset, goes to the
end, and is cut out of the source whenever a component looks at it.  A match moves the view by the
offset of a character of the drain.  As the drain is always a suffix of the source, no cut traps.  The
main statement, `bounds_are_kept`, is about compiling and extracting together.
-/

namespace Blueprints

variable {P : Type}

theorem Progress.record_drain (cfg : Config) (p : Progress) (name value : Text) :
    (p.record cfg name value).drain = p.drain := by
  unfold record
  split <;> rfl

/-- The progress of an extraction; the drain is the source from a byte offset on. -/
structure View where
  start : Nat
  extracted : Text
  captures : NameMap Text

namespace View

/-- The view that shows what is left of a source. -/
def ofProgress (source : Text) (p : Progress) : View :=
  ⟨source.byteLength - p.drain.byteLength, p.extracted, p.captures⟩

/-! ### Moving the view -/

def drain (source : Text) (v : View) : Guarded Text := source.sliceBytes v.start source.byteLength

def skip (v : View) (bytes : Nat) : View := { v with start := v.start + bytes }

def toEnd (source : Text) (v : View) : View := { v with start := source.byteLength }

def emit (v : View) (value : Text) : View := { v with extracted := v.extracted ++ value }

def record (cfg : Config) (v : View) (name value : Text) : View :=
  if cfg.skipped.contains name then v.emit value
  else { v with captures := v.captures.insert name value }

def consumeChars (source : Text) (v : View) (count : Nat) : Guarded View := do
  let drain ← v.drain source
  let cut := drain.byteOffset count
  let _ ← drain.sliceBytes cut drain.byteLength
  pure (v.skip cut)

theorem ofProgress_record (source : Text) (cfg : Config) (p : Progress) (name value : Text) :
    ofProgress source (p.record cfg name value) = (ofProgress source p).record cfg name value := by
  unfold Progress.record record
  split <;> rfl

section

variable {source : Text} {p : Progress}

theorem isBoundary_start (h : p.drain <:+ source) :
    source.IsBoundary (ofProgress source p).start := by
  obtain ⟨taken, rfl⟩ := h
  have hstart : (ofProgress (taken ++ p.drain) p).start = Text.byteLength taken := by
    simp only [ofProgress, Text.byteLength_append, Nat.add_sub_cancel]
  rw [hstart]
  exact Text.isBoundary_byteLength taken p.drain

theorem drain_eq (h : p.drain <:+ source) : (ofProgress source p).drain source = .ok p.drain := by
  obtain ⟨taken, rfl⟩ := h
  have hcut := Text.sliceBytes_append taken p.drain []
  rw [List.append_nil] at hcut
  simp only [drain, ofProgress, Text.byteLength_append, Nat.add_sub_cancel] at hcut ⊢
  exact hcut

theorem skip_eq {lead rest : Text} (h : p.drain <:+ source) (hd : p.drain = lead ++ rest) :
    (ofProgress source p).skip lead.byteLength = ofProgress source { p with drain := rest } := by
  obtain ⟨taken, rfl⟩ := h
  simp only [skip, ofProgress, hd, Text.byteLength_append, mk.injEq, and_true]
  omega

theorem consumeChars_eq (h : p.drain <:+ source) (count : Nat) :
    (ofProgress source p).consumeChars source count =
      .ok (ofProgress source { p with drain := p.drain.drop count }) := by
  have hskip := skip_eq h (List.take_append_drop count p.drain).symm
  have hcut := Text.sliceBytes_from p.drain count
  rw [Text.byteOffset_eq] at hcut
  simp [consumeChars, drain_eq h, Text.byteOffset_eq, hcut, hskip]

end

end View

/-! ### Visits -/

/-- A visit with guarded steps works on the view in place. -/
abbrev GuardedVisit := OptionT (StateT View Guarded)

namespace GuardedVisit

def on {α : Type} (x : GuardedVisit α) (v : View) : Guarded (Option α × View) := x.run.run v

def drain (source : Text) : GuardedVisit Text := do (← get).drain source

def strip (source lead : Text) : GuardedVisit Unit := do
  match Text.after? lead (← drain source) with
  | none => failure
  | some _ => modify (·.skip lead.byteLength)

def consumeChars (source : Text) (count : Nat) : GuardedVisit Unit := do
  set (← (← get).consumeChars source count)

def takeRest (source : Text) : GuardedVisit Text := do
  let rest ← drain source
  modify (·.toEnd source)
  return rest

def emit (value : Text) : GuardedVisit Unit := modify (·.emit value)

def record (cfg : Config) (name value : Text) : GuardedVisit Unit := modify (·.record cfg name value)

section

variable [PatternLanguage P]

def matcher (source : Text) : Matcher P → GuardedVisit Text
  | .pattern p => do
    match PatternLanguage.find p (← drain source) with
    | none => failure
    | some found =>
      consumeChars source found.length
      return found
  | .literal t => do
    strip source t
    return t

def component (cfg : Config) (context : Option Context) (source : Text) :
    Component P → GuardedVisit Unit
  | .literal t => do
    strip source t
    emit t
  | .placeholder (.matched name m) => do
    let value ← matcher source m
    match name with
    | some name => record cfg name value
    | none => pure ()
  | .placeholder (.rest name) => do
    if (← drain source).isEmpty then failure
    else record cfg name (← takeRest source)
  | .placeholder (.context key) =>
    match context.bind (·.get? key) with
    | some value => emit value
    | none => pure ()
  | .placeholder (.attach value) => emit value

end

/-! ### Following the progress -/

variable {α β : Type}

/-- A guarded visit follows a plain one: as long as the drain is a suffix of the source it does not
trap and yields the same, whether it fails or not it leaves the view of the same progress, and the
drain stays a suffix of the source. -/
def Follows (source : Text) (x : GuardedVisit α) (y : Visit α) : Prop :=
  ∀ p : Progress, p.drain <:+ source →
    x.on (.ofProgress source p) = .ok ((y.on p).1, .ofProgress source (y.on p).2) ∧
      (y.on p).2.drain <:+ source

theorem on_bind (x : GuardedVisit α) (f : α → GuardedVisit β) (v : View) :
    (x >>= f).on v =
      (x.on v).bind fun
        | (none, w) => .ok (none, w)
        | (some a, w) => (f a).on w := by
  simp only [on, OptionT.run_bind, Option.elimM, StateT.run_bind]
  cases StateT.run x.run v with
  | error trap => rfl
  | ok left => obtain ⟨_ | a, w⟩ := left <;> rfl

theorem lift_on (x : Guarded α) (v : View) :
    (liftM x : GuardedVisit α).on v = x.map fun a => (some a, v) := by
  cases x <;> rfl

theorem drain_on (source : Text) (v : View) :
    (drain source).on v = (v.drain source).map fun drain => (some drain, v) := by
  rw [drain, on_bind]
  exact lift_on (v.drain source) v

theorem consumeChars_on (source : Text) (count : Nat) (v : View) :
    (consumeChars source count).on v = (v.consumeChars source count).map fun w => (some (), w) := by
  have hget : (consumeChars source count).on v =
      ((liftM (v.consumeChars source count) : GuardedVisit View) >>= fun w => set w).on v := by
    rw [consumeChars, on_bind]
    rfl
  rw [hget, on_bind, lift_on]
  cases v.consumeChars source count <;> rfl

section

variable {source : Text}

theorem Follows.pure (a : α) : Follows source (pure a) (pure a) := fun _ h => ⟨rfl, h⟩

theorem Follows.failure : Follows source (failure : GuardedVisit α) failure := fun _ h => ⟨rfl, h⟩

theorem Follows.bind {x : GuardedVisit α} {y : Visit α} {f : α → GuardedVisit β}
    {g : α → Visit β} (hx : Follows source x y) (hf : ∀ a, Follows source (f a) (g a)) :
    Follows source (x >>= f) (y >>= g) := by
  intro p hp
  obtain ⟨hon, hsuffix⟩ := hx p hp
  rw [on_bind, Visit.on_bind, hon]
  rcases hleft : y.on p with ⟨_ | a, q⟩
  · rw [hleft] at hsuffix
    exact ⟨rfl, hsuffix⟩
  · rw [hleft] at hsuffix
    exact hf a q hsuffix

theorem follows_drain : Follows source (drain source) Visit.drain := by
  intro p hp
  rw [drain_on, View.drain_eq hp]
  exact ⟨rfl, hp⟩

theorem follows_strip (lead : Text) : Follows source (strip source lead) (Visit.strip lead) := by
  intro p hp
  rw [strip, on_bind, drain_on, View.drain_eq hp, Visit.strip_on]
  simp only [Except.map, Except.bind]
  cases hrest : Text.after? lead p.drain with
  | none => exact ⟨rfl, hp⟩
  | some rest =>
    have hparts : p.drain = lead ++ rest := Text.append_of_after? hrest
    have hskip := View.skip_eq hp hparts
    have hsuffix : rest <:+ p.drain := ⟨lead, hparts.symm⟩
    refine ⟨?_, hsuffix.trans hp⟩
    rw [← hskip]
    rfl

theorem follows_consumeChars (count : Nat) :
    Follows source (consumeChars source count) (Visit.consumeChars count) := by
  intro p hp
  rw [consumeChars_on, View.consumeChars_eq hp]
  exact ⟨rfl, (List.drop_suffix count p.drain).trans hp⟩

theorem follows_takeRest : Follows source (takeRest source) Visit.takeRest := by
  intro p hp
  rw [takeRest, on_bind, drain_on, View.drain_eq hp]
  exact ⟨rfl, List.nil_suffix⟩

theorem follows_emit (value : Text) : Follows source (emit value) (Visit.emit value) :=
  fun _ hp => ⟨rfl, hp⟩

theorem follows_record (cfg : Config) (name value : Text) :
    Follows source (record cfg name value) (Visit.record cfg name value) := by
  intro p hp
  have hview := View.ofProgress_record source cfg p name value
  refine ⟨congrArg (fun v => Except.ok (some (), v)) hview.symm, ?_⟩
  show (p.record cfg name value).drain <:+ source
  rwa [Progress.record_drain]

variable [PatternLanguage P]

theorem follows_matcher (m : Matcher P) : Follows source (matcher source m) m.visit := by
  cases m with
  | pattern p =>
    refine follows_drain.bind fun drain => ?_
    cases PatternLanguage.find p drain with
    | none => exact .failure
    | some found => exact (follows_consumeChars found.length).bind fun _ => .pure found
  | literal t => exact (follows_strip t).bind fun _ => .pure t

/-- A view follows the progress through a component. -/
theorem follows_component (cfg : Config) (context : Option Context) (c : Component P) :
    Follows source (component cfg context source c) (c.visit cfg context) := by
  cases c with
  | literal t => exact (follows_strip t).bind fun _ => follows_emit t
  | placeholder spec =>
    cases spec with
    | matched name m =>
      refine (follows_matcher m).bind fun value => ?_
      cases name with
      | none => exact .pure ()
      | some name => exact follows_record cfg name value
    | rest name =>
      refine follows_drain.bind fun drain => ?_
      cases drain.isEmpty with
      | true => exact .failure
      | false => exact follows_takeRest.bind fun rest => follows_record cfg name rest
    | context key =>
      rw [component, Component.visit, Placeholder.visit]
      cases context.bind (·.get? key) with
      | none => exact .pure ()
      | some value => exact follows_emit value
    | attach value => exact follows_emit value

end

end GuardedVisit

namespace View

variable [PatternLanguage P]

def visitAll (cfg : Config) (context : Option Context) (source : Text) :
    (position : Nat) → List (Component P) → View → Guarded (Except Miss View)
  | _, [], v => pure (.ok v)
  | position, c :: more, v => do
    match ← (GuardedVisit.component cfg context source c).on v with
    | (none, v) => do
      let drain ← v.drain source
      pure (.error (.stuck position drain))
    | (some (), v) => visitAll cfg context source (position + 1) more v

def extract (b : Blueprint P) (context : Option Context) (source : Text) :
    Guarded (Except Miss Extraction) := do
  match ← visitAll b.config context source 0 b.components ⟨0, [], .empty⟩ with
  | .error miss => pure (.error miss)
  | .ok v => do
    let drain ← v.drain source
    if b.config.failOnRemainder && !drain.isEmpty then pure (.error (.leftover drain))
    else pure (.ok ⟨v.extracted ++ drain, v.captures⟩)

variable {cfg : Config} {context : Option Context} {source : Text} {p q : Progress}

theorem drain_suffix_of_visitAll {position : Nat} {cs : List (Component P)}
    (h : Component.visitAll cfg context position cs p = .ok q) : q.drain <:+ p.drain := by
  obtain ⟨chunks, hsplit, -⟩ := (Component.visitAll_eq_ok_iff cfg context position cs p q).1 h
  exact ⟨chunks.flatten, hsplit.source_eq.symm⟩

theorem visitAll_eq (h : p.drain <:+ source) (position : Nat) (cs : List (Component P)) :
    visitAll cfg context source position cs (ofProgress source p) =
      .ok ((Component.visitAll cfg context position cs p).map (ofProgress source)) := by
  induction cs generalizing position p with
  | nil => rfl
  | cons c cs ih =>
    -- all that the view asks of the progress is that the drain stays a suffix of the source
    obtain ⟨hon, hsuffix⟩ := GuardedVisit.follows_component cfg context c p h
    rw [visitAll, hon, Component.visitAll, Guarded.ok_bind]
    rcases hleft : (c.visit cfg context).on p with ⟨_ | _, q⟩
    · rw [hleft] at hsuffix
      simp only [drain_eq hsuffix, Guarded.ok_bind]
      rfl
    · rw [hleft] at hsuffix
      exact ih hsuffix (position + 1)

theorem extract_eq (b : Blueprint P) (context : Option Context) (source : Text) :
    extract b context source = .ok (b.extract context source) := by
  have hstart : (⟨0, [], .empty⟩ : View) = ofProgress source { drain := source } := by
    rw [ofProgress, Nat.sub_self]
  have hall : Progress.drain { drain := source } <:+ source := List.suffix_refl source
  rw [extract, hstart, visitAll_eq hall, Blueprint.extract]
  cases hvisit : Component.visitAll b.config context 0 b.components { drain := source } with
  | error miss => rfl
  | ok q =>
    have hq : q.drain <:+ source := drain_suffix_of_visitAll hvisit
    simp only [Except.map, bind, Except.bind, drain_eq hq]
    split <;> rfl

end View

variable [PatternLanguage P]

/-- Compiling and extracting never trap: no character is read behind the last one, no number goes
below zero, no slice has its ends out of order or within a character, and the loop ends in time.
What is left of a source is always a suffix of it, from which a match takes as many characters as it
has. -/
theorem bounds_are_kept (cfg : Config) (t : Text) :
    (Guarded.compile (P := P) cfg t = .ok (Blueprint.compile cfg t) ∧
      (∀ i j, i ≤ j → t.IsBoundary (Cursor.offset t.toArray i) ∧
        Cursor.offset t.toArray i ≤ Cursor.offset t.toArray j) ∧
      ∀ c : Cursor P, c.Reached cfg t.toArray →
        c.Sound t.toArray ∧
        ∀ c', (c.step cfg t.toArray).outcome = .ok c' → c.index < c'.index) ∧
    ∀ (b : Blueprint P) (context : Option Context) (source : Text),
      View.extract b context source = .ok (b.extract context source) ∧
      ∀ n p, Component.visitAll b.config context 0 (b.components.take n) { drain := source } = .ok p →
        p.drain <:+ source ∧
        source.IsBoundary (View.ofProgress source p).start ∧
        (View.ofProgress source p).drain source = .ok p.drain ∧
        ∀ (pattern : P) (found : Text), PatternLanguage.find pattern p.drain = some found →
          ∃ removed left, p.drain = removed ++ left ∧ removed.length = found.length ∧
            (View.ofProgress source p).consumeChars source found.length =
              .ok (View.ofProgress source { p with drain := left }) := by
  constructor
  · refine ⟨Guarded.compile_eq cfg t, fun i j hij => ?_, fun c hc => ?_⟩
    · rw [Cursor.offset_toArray, Cursor.offset_toArray]
      exact ⟨t.isBoundary_byteOffset i, t.byteOffset_mono hij⟩
    · exact ⟨hc.sound, fun c' hstep => Cursor.index_lt_of_step hstep⟩
  · intro b context source
    refine ⟨View.extract_eq b context source, fun n p hp => ?_⟩
    have hsuffix : p.drain <:+ source := View.drain_suffix_of_visitAll hp
    refine ⟨hsuffix, View.isBoundary_start hsuffix, View.drain_eq hsuffix, ?_⟩
    intro pattern found hfound
    have hlength : (p.drain.take found.length).length = found.length :=
      List.length_take_of_le (PatternLanguage.find_infix hfound).length_le
    exact ⟨_, _, (List.take_append_drop found.length p.drain).symm, hlength,
      View.consumeChars_eq hsuffix found.length⟩

/-- One small letter or more. -/
def lowerRun : Pattern where
  text := .ofString "[a-z]+"
  kind := .regular
  search := .lockstep ⟨#[.accept, .fork 2 0, .chars ⟨#[97, 123]⟩ 1], 2⟩

/-- A character of two bytes in front of a pattern. -/
def accented : Blueprint Pattern where
  text := .ofString "é$\x7b\x7bw:[a-z]+\x7d\x7d"
  components := [.literal ['é'], .placeholder (.matched (some ['w']) (.pattern lowerRun))]
  config := {}

theorem bounds_are_kept_accented :
    (Blueprint.compile {} accented.text).outcome = .ok accented ∧
    Guarded.compile {} accented.text = .ok (Blueprint.compile (P := Pattern) {} accented.text) ∧
    (∃ c : Cursor Pattern, c.bodyStart? = some 4 ∧ c.Sound accented.text.toArray) ∧
    View.extract accented none (.ofString "ééabc") =
      .ok (accented.extract none (.ofString "ééabc")) ∧
    View.consumeChars (.ofString "ééabc") ⟨2, ['é'], .empty⟩ 3 = .ok ⟨6, ['é'], .empty⟩ := by
  have hcompile : (Blueprint.compile {} accented.text).outcome = .ok accented := by
    with_unfolding_all rfl
  have hreached : Cursor.Reached {} accented.text.toArray
      ({ index := 4, bodyStart? := some 4, components := [.literal ['é']] } : Cursor Pattern) :=
    .next (.next .start (by decide) rfl) (by decide) rfl
  have hfront : Component.visitAll accented.config none 0 (accented.components.take 1)
      { drain := .ofString "ééabc" } = .ok ⟨.ofString "éabc", ['é'], .empty⟩ := rfl
  have hfound : PatternLanguage.find lowerRun (.ofString "éabc") = some (.ofString "abc") := by
    with_unfolding_all rfl
  obtain ⟨⟨hguarded, -, hcursors⟩, hsources⟩ := bounds_are_kept (P := Pattern) {} accented.text
  obtain ⟨hextract, hstates⟩ := hsources accented none (.ofString "ééabc")
  obtain ⟨-, -, -, hmatches⟩ := hstates 1 _ hfront
  obtain ⟨removed, left, hdrain, hlength, hconsume⟩ := hmatches lowerRun _ hfound
  have hparts : ['é', 'a', 'b'] ++ ['c'] = removed ++ left := hdrain
  have hleft : ['c'] = left := (List.append_inj hparts hlength.symm).2
  rw [← hleft] at hconsume
  exact ⟨hcompile, hguarded, ⟨_, rfl, (hcursors _ hreached).1⟩, hextract, hconsume⟩

end Blueprints
