import Blueprints.CommandLine.Arguments

/-!
# Given arguments

A command line is a list of arguments with their values.  The values are checked late, but what is
read in the end is what the arguments say, taken in order: `Options.foldlM_add_of_read`.  Each option
is then known by the values of its argument: `Options.gathers_of_read`.
-/

namespace Blueprints

namespace Argument

theorem ofName?_ne_inputs (name : Text) : ofName? name ≠ some inputs := by
  unfold ofName?
  split <;> simp

theorem ofLetter?_ne_inputs (c : Char) : ofLetter? c ≠ some inputs := by
  unfold ofLetter?
  split <;> simp

theorem readPair_eq_ok_iff {t key value : Text} :
    readPair t = .ok (key, value) ↔ t = key ++ '=' :: value ∧ '=' ∉ key ∧ key ≠ [] := by
  unfold readPair
  constructor
  · intro h
    split at h
    · cases h
    · rename_i hcut
      obtain ⟨ht, hkey⟩ := Text.cut?_eq_some_iff.1 hcut
      split at h
      · cases h
      · rename_i hne
        cases h
        exact ⟨ht, hkey, by simpa using hne⟩
  · intro h
    obtain ⟨ht, hkey, hne⟩ := h
    rw [Text.cut?_eq_some_iff.2 ⟨ht, hkey⟩]
    simp [hne]

theorem eq_of_readPath {t path : Text} (h : readPath t = .ok path) : path = t := by
  unfold readPath at h
  split at h
  · cases h
  · exact (Except.ok.inj h).symm

theorem toText_of_readChars {t : Text} {c : DelimiterChars} (h : readChars t = .ok c) :
    c.toText = t := by
  unfold readChars at h
  split at h
  · rename_i hc
    cases h
    exact (DelimiterChars.ofText?_eq_some_iff.1 hc).symm
  · cases h

end Argument

/-- An argument of a command line with its value, if it has one. -/
structure Given where
  argument : Argument
  value : Option Text
deriving DecidableEq

namespace Given

/-- A value behind a letter, which may begin with an equals sign that does not belong to it. -/
def dropEquals : Text → Text
  | '=' :: value => value
  | value => value

/-- What the letters of a word give, and the argument whose value has to follow. -/
def ofLetters : Text → List Given × Option Argument
  | [] => ([], none)
  | c :: rest =>
    match Argument.ofLetter? c with
    | none => ([], none)
    | some a =>
      if !a.takesValue then (⟨a, none⟩ :: (ofLetters rest).1, (ofLetters rest).2)
      else if rest = [] then ([], some a)
      else ([⟨a, some (dropEquals rest)⟩], none)

def ofLong (t : Text) : List Given × Option Argument :=
  match Text.cut? '=' t with
  | some (name, value) => ((Argument.ofName? name).toList.map (⟨·, some value⟩), none)
  | none =>
    match Argument.ofName? t with
    | none => ([], none)
    | some a => if a.takesValue then ([], some a) else ([⟨a, none⟩], none)

/-- What words give, the first of which may be the value of an argument. -/
def ofWords : (awaited : Option Argument) → List Text → List Given
  | _, [] => []
  | awaited, word :: more =>
    match word with
    | ['-', '-'] => more.map (⟨.inputs, some ·⟩)
    | '-' :: '-' :: t => (ofLong t).1 ++ ofWords (ofLong t).2 more
    | '-' :: c :: t => (ofLetters (c :: t)).1 ++ ofWords (ofLetters (c :: t)).2 more
    | word => ⟨awaited.getD .inputs, some word⟩ :: ofWords none more

def add (o : Options) (g : Given) : Except UsageError Options :=
  match g.value with
  | some value => g.argument.giveValue o value
  | none => g.argument.switchOn o

end Given

theorem exists_of_bind_eq_ok {ε α β : Type} {x : Except ε α} {f : α → Except ε β} {b : β}
    (h : (x >>= f) = .ok b) : ∃ a, x = .ok a ∧ f a = .ok b := by
  cases x with
  | error e => cases h
  | ok a => exact ⟨a, rfl, h⟩

theorem Given.foldlM_add_append {given given' : List Given} {o o' o'' : Options}
    (h : given.foldlM add o = .ok o') (h' : given'.foldlM add o' = .ok o'') :
    (given ++ given').foldlM add o = .ok o'' := by
  rw [List.foldlM_append, h]
  exact h'

namespace ArgumentReader

def givenBy (a : Argument) (values : List Text) : List Given :=
  if a.takesValue then values.map (⟨a, some ·⟩) else [⟨a, none⟩]

def pendingGiven (r : ArgumentReader) : List Given :=
  match r.pending with
  | none => []
  | some (a, values) => givenBy a values

/-- The reader is where a list of arguments leads: all of them are in the options, except for those
of the pending argument. -/
structure Follows (r : ArgumentReader) (given : List Given) (awaited : Option Argument)
    (onlyInputs : Bool) : Prop where
  options : ∃ settled, given = settled ++ r.pendingGiven ∧
    settled.foldlM Given.add {} = .ok r.options
  awaiting : r.awaiting = awaited.isSome
  pending : ∀ a, awaited = some a →
    r.pending = some (a, []) ∧ a.takesValue = true ∧ a ≠ .inputs
  onlyInputs : r.onlyInputs = onlyInputs

/-! ### Steps -/

variable {r r' : ArgumentReader} {a : Argument} {values : List Text} {given : List Given}
  {awaited : Option Argument} {only : Bool}

theorem pendingGiven_of_none (h : r.pending = none) : r.pendingGiven = [] := by
  unfold pendingGiven
  rw [h]

theorem pendingGiven_of_some (h : r.pending = some (a, values)) :
    r.pendingGiven = givenBy a values := by
  unfold pendingGiven
  rw [h]

theorem accept_spec (h : r.accept a values = .ok r') :
    (givenBy a values).foldlM Given.add r.options = .ok r'.options ∧
      r'.pending = r.pending ∧ r'.onlyInputs = r.onlyInputs := by
  unfold accept at h
  simp only [] at h
  split at h
  · cases h
  · split at h
    · cases h
    · unfold givenBy
      split at h
      · rename_i hvalue
        obtain ⟨options, hoptions, h⟩ := exists_of_bind_eq_ok h
        cases h
        rw [if_pos hvalue, List.foldlM_map]
        exact ⟨hoptions, rfl, rfl⟩
      · rename_i hvalue
        obtain ⟨options, hoptions, h⟩ := exists_of_bind_eq_ok h
        cases h
        have hadd : Given.add r.options ⟨a, none⟩ = .ok options := hoptions
        rw [if_neg hvalue, List.foldlM_cons, hadd]
        exact ⟨rfl, rfl, rfl⟩

theorem Follows.settle (h : r.settle = .ok r') (hr : r.Follows given awaited only) :
    given.foldlM Given.add {} = .ok r'.options ∧ r'.pending = none ∧ r'.onlyInputs = only := by
  obtain ⟨settled, hgiven, hoptions⟩ := hr.options
  rw [hgiven]
  cases hpending : r.pending with
  | none =>
    simp only [ArgumentReader.settle, hpending] at h
    cases h
    rw [pendingGiven_of_none hpending, List.append_nil]
    exact ⟨hoptions, hpending, hr.onlyInputs⟩
  | some p =>
    obtain ⟨a, values⟩ := p
    simp only [ArgumentReader.settle, hpending] at h
    obtain ⟨hadd, hnone, honly⟩ := accept_spec h
    rw [pendingGiven_of_some hpending]
    exact ⟨Given.foldlM_add_append hoptions hadd, hnone, honly.trans hr.onlyInputs⟩

theorem Follows.give (h : r.give a values = .ok r') (hr : r.Follows given awaited only) :
    r'.Follows (given ++ givenBy a values) none only := by
  unfold ArgumentReader.give at h
  obtain ⟨settled, hsettle, h⟩ := exists_of_bind_eq_ok h
  obtain ⟨accepted, haccept, h⟩ := exists_of_bind_eq_ok h
  cases h
  obtain ⟨hoptions, hnone, honly⟩ := hr.settle hsettle
  obtain ⟨hadd, hpending, honly'⟩ := accept_spec haccept
  have hnothing := pendingGiven_of_none (hpending.trans hnone)
  refine ⟨⟨_, ?_, Given.foldlM_add_append hoptions hadd⟩, rfl, nofun, honly'.trans honly⟩
  exact (List.append_nil _).symm.trans (congrArg _ hnothing.symm)

theorem Follows.giveValue {value : Text} (h : r.give a [value] = .ok r')
    (hr : r.Follows given awaited only) (hvalue : a.takesValue = true) :
    r'.Follows (given ++ [⟨a, some value⟩]) none only := by
  have hgive := hr.give h
  rw [givenBy, if_pos hvalue] at hgive
  exact hgive

theorem Follows.giveSwitch (h : r.give a values = .ok r') (hr : r.Follows given awaited only)
    (hswitch : ¬ a.takesValue = true) : r'.Follows (given ++ [⟨a, none⟩]) none only := by
  have hgive := hr.give h
  rw [givenBy, if_neg hswitch] at hgive
  exact hgive

theorem Follows.await (h : r.await a = .ok r') (hr : r.Follows given awaited only)
    (hvalue : a.takesValue = true) (hinputs : a ≠ .inputs) : r'.Follows given (some a) only := by
  unfold ArgumentReader.await at h
  obtain ⟨settled, hsettle, h⟩ := exists_of_bind_eq_ok h
  cases h
  obtain ⟨hoptions, -, honly⟩ := hr.settle hsettle
  refine ⟨⟨given, ?_, hoptions⟩, rfl, fun a' ha => ?_, honly⟩
  · simp [pendingGiven, givenBy, hvalue]
  · cases ha
    exact ⟨rfl, hvalue, hinputs⟩

theorem Follows.readInput {word : Text} (h : r.readInput word = .ok r')
    (hr : r.Follows given awaited only) :
    r'.Follows (given ++ [⟨.inputs, some word⟩]) none only := by
  unfold ArgumentReader.readInput at h
  split at h
  · rename_i words hpending
    cases h
    obtain ⟨settled, hgiven, hoptions⟩ := hr.options
    -- pending inputs are not awaited, so their words can follow one another
    have hnone : awaited = none := by
      apply Option.eq_none_iff_forall_ne_some.2
      intro a ha
      obtain ⟨hpending', -, hinputs⟩ := hr.pending a ha
      rw [hpending, Option.some.injEq, Prod.mk.injEq] at hpending'
      exact hinputs hpending'.1.symm
    refine ⟨⟨settled, ?_, hoptions⟩, ?_, nofun, hr.onlyInputs⟩
    · rw [hgiven]
      simp [pendingGiven, hpending, givenBy, Argument.takesValue]
    · rw [hr.awaiting, hnone]
  · obtain ⟨settled, hsettle, h⟩ := exists_of_bind_eq_ok h
    cases h
    obtain ⟨hoptions, -, honly⟩ := hr.settle hsettle
    exact ⟨⟨given, rfl, hoptions⟩, rfl, nofun, honly⟩

theorem Follows.readValue (word : Text) (hr : r.Follows given (some a) only) :
    (r.readValue word).Follows (given ++ [⟨a, some word⟩]) none only := by
  obtain ⟨settled, hgiven, hoptions⟩ := hr.options
  obtain ⟨hpending, hvalue, -⟩ := hr.pending a rfl
  refine ⟨⟨settled, ?_, hoptions⟩, rfl, nofun, hr.onlyInputs⟩
  rw [hgiven]
  simp [pendingGiven, ArgumentReader.readValue, hpending, givenBy, hvalue]

theorem Follows.readLong {t : Text} (h : r.readLong t = .ok r')
    (hr : r.Follows given awaited only) :
    r'.Follows (given ++ (Given.ofLong t).1) (Given.ofLong t).2 only := by
  unfold ArgumentReader.readLong at h
  unfold Given.ofLong
  cases hcut : Text.cut? '=' t with
  | some p =>
    obtain ⟨name, value⟩ := p
    simp only [hcut] at h ⊢
    cases hname : Argument.ofName? name with
    | none =>
      simp only [hname] at h
      cases h
    | some a =>
      simp only [hname] at h
      by_cases hvalue : a.takesValue = true
      · rw [if_pos hvalue] at h
        exact hr.giveValue h hvalue
      · rw [if_neg hvalue] at h
        cases h
  | none =>
    simp only [hcut] at h ⊢
    cases hname : Argument.ofName? t with
    | none =>
      simp only [hname] at h
      cases h
    | some a =>
      simp only [hname] at h ⊢
      by_cases hvalue : a.takesValue = true
      · have hinputs : a ≠ .inputs := fun ha => Argument.ofName?_ne_inputs t (ha ▸ hname)
        rw [if_pos hvalue] at h ⊢
        rw [List.append_nil]
        exact hr.await h hvalue hinputs
      · rw [if_neg hvalue] at h ⊢
        exact hr.giveSwitch h hvalue

theorem Follows.readLetters {t : Text} (h : r.readLetters t = .ok r')
    (hr : r.Follows given awaited only) (hfirst : t = [] → awaited = none) :
    r'.Follows (given ++ (Given.ofLetters t).1) (Given.ofLetters t).2 only := by
  -- a switch goes on with the other letters, a value takes them all
  induction t generalizing r given awaited with
  | nil =>
    cases h
    rw [hfirst rfl] at hr
    rw [Given.ofLetters, List.append_nil]
    exact hr
  | cons c rest ih =>
    unfold ArgumentReader.readLetters at h
    unfold Given.ofLetters
    cases hletter : Argument.ofLetter? c with
    | none =>
      simp only [hletter] at h
      cases h
    | some a =>
      simp only [hletter, Bool.not_eq_true'] at h ⊢
      by_cases hvalue : a.takesValue = true
      · have hinputs : a ≠ .inputs := fun ha => Argument.ofLetter?_ne_inputs c (ha ▸ hletter)
        rw [if_neg (by simp [hvalue])] at h ⊢
        split at h
        · rw [if_pos rfl, List.append_nil]
          exact hr.await h hvalue hinputs
        · rw [if_neg (List.cons_ne_nil _ _)]
          exact hr.giveValue h hvalue
        · rename_i hnil hequals
          rw [if_neg hnil, Given.dropEquals]
          · exact hr.giveValue h hvalue
          · exact hequals
      · rw [if_pos (Bool.eq_false_iff.2 hvalue)] at h ⊢
        obtain ⟨next, hnext, h⟩ := exists_of_bind_eq_ok h
        rw [List.append_cons]
        exact ih h (hr.giveSwitch hnext hvalue) fun _ => rfl

/-! ### Runs -/

theorem Follows.run_inputs {words : List Text} (h : words.foldlM readWord r = .ok r')
    (hr : r.Follows given awaited true) :
    ∃ awaited', r'.Follows (given ++ words.map (⟨.inputs, some ·⟩)) awaited' true := by
  induction words generalizing r given awaited with
  | nil =>
    cases h
    rw [List.map_nil, List.append_nil]
    exact ⟨awaited, hr⟩
  | cons word more ih =>
    rw [List.foldlM_cons] at h
    obtain ⟨next, hnext, h⟩ := exists_of_bind_eq_ok h
    unfold ArgumentReader.readWord at hnext
    rw [if_pos hr.onlyInputs] at hnext
    rw [List.map_cons, List.append_cons]
    exact ih h (hr.readInput hnext)

theorem Follows.run {words : List Text} (h : words.foldlM readWord r = .ok r')
    (hr : r.Follows given awaited false) :
    ∃ awaited' only', r'.Follows (given ++ Given.ofWords awaited words) awaited' only' := by
  induction words generalizing r given awaited with
  | nil =>
    cases h
    rw [Given.ofWords, List.append_nil]
    exact ⟨awaited, false, hr⟩
  | cons word more ih =>
    rw [List.foldlM_cons] at h
    obtain ⟨next, hnext, hmore⟩ := exists_of_bind_eq_ok h
    unfold ArgumentReader.readWord at hnext
    rw [if_neg (by simp [hr.onlyInputs])] at hnext
    split at hnext
    · cases hnext
      have hdivided : ArgumentReader.Follows { r with onlyInputs := true } given awaited true :=
        ⟨hr.options, hr.awaiting, hr.pending, rfl⟩
      obtain ⟨awaited', hrun⟩ := hdivided.run_inputs hmore
      exact ⟨awaited', true, hrun⟩
    -- the equations of `ofWords` ask for what the earlier cases have excluded
    · have hlong := hr.readLong hnext
      rw [Given.ofWords, ← List.append_assoc]
      · exact ih hmore hlong
      · assumption
    · have hletters := hr.readLetters hnext fun hnil => absurd hnil (List.cons_ne_nil _ _)
      rw [Given.ofWords, ← List.append_assoc]
      · exact ih hmore hletters
      · assumption
      · assumption
    · have hplain : next.Follows (given ++ [⟨awaited.getD .inputs, some word⟩]) none false := by
        rw [hr.awaiting] at hnext
        cases awaited with
        | none => exact hr.readInput hnext
        | some a =>
          cases hnext
          exact hr.readValue word
      rw [Given.ofWords, List.append_cons]
      · exact ih hmore hplain
      · assumption
      · assumption
      · assumption

end ArgumentReader

/-- What is read of a command line is what its arguments say, one after another. -/
theorem Options.foldlM_add_of_read {words : List Text} {o : Options}
    (h : Options.read words = .ok o) :
    (Given.ofWords none words).foldlM Given.add {} = .ok o := by
  unfold Options.read at h
  obtain ⟨r, hrun, h⟩ := exists_of_bind_eq_ok h
  obtain ⟨settled, hsettle, h⟩ := exists_of_bind_eq_ok h
  cases h
  have hstart : ArgumentReader.Follows {} [] none false :=
    ⟨⟨[], rfl, rfl⟩, rfl, nofun, rfl⟩
  obtain ⟨awaited, only, hfollows⟩ := hstart.run hrun
  exact (hfollows.settle hsettle).1

/-! ### Options -/

namespace Given

def valuesOf (a : Argument) (given : List Given) : List Text :=
  given.filterMap fun g => if g.argument = a then g.value else none

theorem valuesOf_append (a : Argument) (given given' : List Given) :
    valuesOf a (given ++ given') = valuesOf a given ++ valuesOf a given' := List.filterMap_append

end Given

namespace Options

/-- What arguments make of options: lists grow, of several values the last counts, and a switch stays
on. -/
structure Gathers (o : Options) (given : List Given) (o' : Options) : Prop where
  blueprints : o'.blueprints = o.blueprints ++ Given.valuesOf .blueprint given
  skip : o'.skip = o.skip ++ Given.valuesOf .skip given
  context : ∃ pairs, o'.context = o.context ++ pairs ∧
    (Given.valuesOf .context given).map Argument.readPair = pairs.map .ok
  rules : o'.rules = (Given.valuesOf .rules given).getLast?.or o.rules
  contextKey : o'.contextKey = (Given.valuesOf .contextKey given).getLast?.or o.contextKey
  attachKey : o'.attachKey = (Given.valuesOf .attachKey given).getLast?.or o.attachKey
  delimiters : o'.delimiters.map DelimiterChars.toText =
    (Given.valuesOf .delimiters given).getLast?.or (o.delimiters.map DelimiterChars.toText)
  failOnRemainder : o'.failOnRemainder =
    (o.failOnRemainder || given.contains ⟨.failOnRemainder, none⟩)
  strict : o'.strict = (o.strict || given.contains ⟨.strict, none⟩)

theorem Gathers.nil (o : Options) : o.Gathers [] o := by
  constructor
  case context => exact ⟨[], (List.append_nil _).symm, rfl⟩
  all_goals simp [Given.valuesOf]

theorem Gathers.append {o o' o'' : Options} {given given' : List Given} (h : o.Gathers given o')
    (h' : o'.Gathers given' o'') : o.Gathers (given ++ given') o'' := by
  obtain ⟨pairs, hpairs, hread⟩ := h.context
  obtain ⟨pairs', hpairs', hread'⟩ := h'.context
  refine ⟨?_, ?_, ⟨pairs ++ pairs', ?_, ?_⟩, ?_, ?_, ?_, ?_, ?_, ?_⟩
  · rw [h'.blueprints, h.blueprints, Given.valuesOf_append, List.append_assoc]
  · rw [h'.skip, h.skip, Given.valuesOf_append, List.append_assoc]
  · rw [hpairs', hpairs, List.append_assoc]
  · rw [Given.valuesOf_append, List.map_append, List.map_append, hread, hread']
  · rw [h'.rules, h.rules, Given.valuesOf_append, List.getLast?_append, Option.or_assoc]
  · rw [h'.contextKey, h.contextKey, Given.valuesOf_append, List.getLast?_append, Option.or_assoc]
  · rw [h'.attachKey, h.attachKey, Given.valuesOf_append, List.getLast?_append, Option.or_assoc]
  · rw [h'.delimiters, h.delimiters, Given.valuesOf_append, List.getLast?_append, Option.or_assoc]
  · rw [h'.failOnRemainder, h.failOnRemainder, List.contains_append, Bool.or_assoc]
  · rw [h'.strict, h.strict, List.contains_append, Bool.or_assoc]

theorem gathers_of_giveValue {o o' : Options} {a : Argument} {value : Text}
    (h : a.giveValue o value = .ok o') : o.Gathers [⟨a, some value⟩] o' := by
  cases a with
  | context =>
    obtain ⟨pair, hpair, h⟩ := exists_of_bind_eq_ok h
    cases h
    constructor
    case context => exact ⟨[pair], rfl, congrArg (fun r => [r]) hpair⟩
    all_goals simp [Given.valuesOf]
  | rules =>
    obtain ⟨path, hpath, h⟩ := exists_of_bind_eq_ok h
    cases h
    obtain rfl := Argument.eq_of_readPath hpath
    constructor <;> simp [Given.valuesOf]
  | delimiters =>
    obtain ⟨c, hc, h⟩ := exists_of_bind_eq_ok h
    cases h
    have hchars := Argument.toText_of_readChars hc
    constructor <;> simp [Given.valuesOf, hchars]
  | inputs | format =>
    obtain ⟨_, -, h⟩ := exists_of_bind_eq_ok h
    cases h
    constructor <;> simp [Given.valuesOf]
  | _ =>
    cases h
    constructor <;> simp [Given.valuesOf]

theorem gathers_of_switchOn {o o' : Options} {a : Argument} (h : a.switchOn o = .ok o') :
    o.Gathers [⟨a, none⟩] o' := by
  cases a with
  | help | version => cases h
  | _ =>
    cases h
    constructor <;> simp [Given.valuesOf]

theorem gathers_of_foldlM {o o' : Options} {given : List Given}
    (h : given.foldlM Given.add o = .ok o') : o.Gathers given o' := by
  induction given generalizing o with
  | nil =>
    cases h
    exact .nil _
  | cons g more ih =>
    rw [List.foldlM_cons] at h
    obtain ⟨next, hnext, hmore⟩ := exists_of_bind_eq_ok h
    have hstep : o.Gathers [g] next := by
      obtain ⟨a, value⟩ := g
      cases value with
      | none => exact gathers_of_switchOn hnext
      | some value => exact gathers_of_giveValue hnext
    exact hstep.append (ih hmore)

theorem gathers_of_read {words : List Text} {o : Options} (h : Options.read words = .ok o) :
    ({} : Options).Gathers (Given.ofWords none words) o :=
  gathers_of_foldlM (foldlM_add_of_read h)

end Options

end Blueprints
