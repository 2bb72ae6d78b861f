import Blueprints.Proofs.Reinsertion

/-!
# Captures

The captures hold a value for every name of a component that is not skipped, and for nothing else.
Of several components with one name the last counts, and what it captures stands in the source.
The main statement is `captures_hold_last_values`.
-/

namespace Blueprints

variable {P : Type} [PatternLanguage P]

/-- A value that a component captures under a name when a drain is in front of it. -/
inductive Component.Yields (drain : Text) : Component P → (name value : Text) → Prop
  | pattern {name value : Text} {p : P} : PatternLanguage.find p drain = some value →
    Yields drain (.placeholder (.matched (some name) (.pattern p))) name value
  | literal {name t : Text} : t <+: drain →
    Yields drain (.placeholder (.matched (some name) (.literal t))) name t
  | rest {name : Text} : drain ≠ [] → Yields drain (.placeholder (.rest name)) name drain

/-- The last component with a name, and the drain that a source leaves in front of it. -/
structure LastNamed (cs : List (Component P)) (source name : Text) (c : Component P)
    (drain : Text) : Prop where
  named : c.name? = some name
  place : ∃ front back chunks, cs = front ++ c :: back ∧ name ∉ names back ∧
    Split front source chunks drain

def namedValues (cs : List (Component P)) (chunks : List Text) (rest : Text) : List (Text × Text) :=
  (cs.zip (drains rest chunks)).flatMap fun (c, drain) =>
    (c.name?.map fun name => (name, c.value drain)).toList

/-! ### One component -/

section

variable {c : Component P} {drain chunk name value : Text}

theorem Component.Consumes.yields_iff (h : c.Consumes drain chunk)
    (hsource : ∃ rest, drain = chunk ++ rest) :
    c.Yields drain name value ↔ c.name? = some name ∧ c.value drain = value := by
  constructor
  · intro hyields
    cases hyields with
    | pattern hv => exact ⟨rfl, by simp only [Component.value, Matcher.found, hv, Option.getD_some]⟩
    | literal => exact ⟨rfl, rfl⟩
    | rest => exact ⟨rfl, rfl⟩
  · intro hnamed
    obtain ⟨hname, rfl⟩ := hnamed
    cases c with
    | literal t => cases hname
    | placeholder spec =>
      cases spec with
      | matched name' m =>
        cases hname
        cases m with
        | literal t =>
          obtain ⟨rest, hrest⟩ := hsource
          have hchunk : chunk = t := h
          exact .literal ⟨rest, by rw [hrest, hchunk]⟩
        | pattern p =>
          obtain ⟨v, hv, -⟩ := h
          have hvalue :
              (Component.placeholder (.matched (some name) (.pattern p))).value drain = v := by
            simp only [Component.value, Matcher.found, hv, Option.getD_some]
          rw [hvalue]
          exact .pattern hv
      | rest name' =>
        cases hname
        exact .rest h.2
      | context key => cases hname
      | attach t => cases hname

theorem Component.Yields.value_infix_drain (h : c.Yields drain name value) : value <:+: drain := by
  cases h with
  | pattern hv => exact PatternLanguage.find_infix hv
  | literal hlead => exact hlead.isInfix
  | rest => exact List.infix_refl drain

end

/-! ### The last component with a name -/

namespace LastNamed

variable {c c' : Component P} {cs : List (Component P)} {source name drain drain' : Text}

theorem suffix (h : LastNamed cs source name c drain) : drain <:+ source := by
  obtain ⟨front, back, chunks, -, -, hsplit⟩ := h.place
  exact ⟨chunks.flatten, hsplit.source_eq.symm⟩

theorem mem_names (h : LastNamed cs source name c drain) : name ∈ names cs := by
  obtain ⟨front, back, chunks, rfl, -, -⟩ := h.place
  exact List.mem_filterMap.2 ⟨c, by simp, h.named⟩

theorem cons_iff {first : Component P} {chunk rest : Text} (hsource : source = chunk ++ rest)
    (hconsumes : first.Consumes source chunk) :
    LastNamed (first :: cs) source name c drain ↔
      LastNamed cs rest name c drain ∨
        (name ∉ names cs ∧ first.name? = some name ∧ c = first ∧ drain = source) := by
  constructor
  · intro h
    obtain ⟨front, back, chunks, hcs, hlast, hsplit⟩ := h.place
    cases front with
    | nil =>
      obtain ⟨rfl, rfl⟩ := List.cons.inj hcs
      obtain ⟨-, rfl⟩ := Split.nil_iff.1 hsplit
      exact .inr ⟨hlast, h.named, rfl, rfl⟩
    | cons c₀ front =>
      obtain ⟨rfl, hmore⟩ := List.cons.inj hcs
      obtain ⟨chunk', later, rest', -, hsource', hconsumes', hlater⟩ := Split.cons_iff.1 hsplit
      have hchunk : chunk = chunk' := hconsumes.chunk_eq hconsumes'
      have hrest : rest' = rest := by
        rw [hsource, hchunk] at hsource'
        exact (List.append_cancel_left hsource').symm
      rw [hrest] at hlater
      exact .inl ⟨h.named, front, back, later, hmore, hlast, hlater⟩
  · intro h
    rcases h with h | ⟨hlast, hname, rfl, rfl⟩
    · obtain ⟨front, back, chunks, hcs, hlast, hsplit⟩ := h.place
      have hsplit' : Split (first :: front) source (chunk :: chunks) drain :=
        Split.cons_iff.2 ⟨chunk, chunks, rest, rfl, hsource, hconsumes, hsplit⟩
      exact ⟨h.named, first :: front, back, chunk :: chunks, by rw [hcs]; rfl, hlast, hsplit'⟩
    · exact ⟨hname, [], cs, [], rfl, hlast, Split.nil_iff.2 ⟨rfl, rfl⟩⟩

theorem not_nil : ¬ LastNamed [] source name c drain := by
  intro h
  obtain ⟨front, back, chunks, hcs, -, -⟩ := h.place
  simp at hcs

theorem unique {chunks : List Text} {rest : Text} (hsplit : Split cs source chunks rest)
    (h : LastNamed cs source name c drain) (h' : LastNamed cs source name c' drain') :
    c = c' ∧ drain = drain' := by
  induction cs generalizing source chunks with
  | nil => exact absurd h not_nil
  | cons first cs ih =>
    obtain ⟨chunk, later, left, -, hsource, hconsumes, hlater⟩ := Split.cons_iff.1 hsplit
    rcases (cons_iff hsource hconsumes).1 h with h | ⟨hlast, -, rfl, rfl⟩
    · rcases (cons_iff hsource hconsumes).1 h' with h' | ⟨hlast', -, -, -⟩
      · exact ih hlater h h'
      · exact absurd h.mem_names hlast'
    · rcases (cons_iff hsource hconsumes).1 h' with h' | ⟨-, -, rfl, rfl⟩
      · exact absurd h'.mem_names hlast
      · exact ⟨rfl, rfl⟩

end LastNamed

/-! ### Values of names -/

section

variable {cs : List (Component P)} {source rest : Text} {chunks : List Text}

theorem namedValues_cons {c : Component P} {chunk : Text} {later : List Text}
    (hsource : source = (chunk :: later).flatten ++ rest) :
    namedValues (c :: cs) (chunk :: later) rest =
      (c.name?.map fun name => (name, c.value source)).toList ++ namedValues cs later rest := by
  rw [hsource]
  rfl

theorem map_fst_namedValues (h : Split cs source chunks rest) :
    (namedValues cs chunks rest).map (·.1) = names cs := by
  induction cs generalizing source chunks with
  | nil => rfl
  | cons c cs ih =>
    obtain ⟨chunk, later, drain, rfl, -, -, hlater⟩ := Split.cons_iff.1 h
    rw [namedValues_cons h.source_eq, List.map_append, ih hlater, names, names, List.filterMap_cons]
    cases c.name? <;> rfl

theorem lookup_namedValues_eq_none_iff (h : Split cs source chunks rest) (name : Text) :
    NameMap.lookup name (namedValues cs chunks rest).reverse = none ↔ name ∉ names cs := by
  rw [NameMap.lookup_eq_none_iff, ← map_fst_namedValues h]
  simp

theorem lookup_namedValues_eq_some_iff (h : Split cs source chunks rest) (name value : Text) :
    NameMap.lookup name (namedValues cs chunks rest).reverse = some value ↔
      ∃ c drain, LastNamed cs source name c drain ∧ c.Yields drain name value := by
  induction cs generalizing source chunks with
  | nil => simp [namedValues, NameMap.lookup, LastNamed.not_nil]
  | cons c cs ih =>
    obtain ⟨chunk, later, drain, rfl, hsource, hconsumes, hlater⟩ := Split.cons_iff.1 h
    have hfirst : NameMap.lookup name
        (c.name?.map fun name => (name, c.value source)).toList.reverse = some value ↔
        c.name? = some name ∧ c.value source = value := by
      cases c.name? <;> simp [NameMap.lookup]
    rw [namedValues_cons h.source_eq, List.reverse_append, NameMap.lookup_append,
      Option.or_eq_some_iff, ih hlater, lookup_namedValues_eq_none_iff hlater, hfirst,
      ← hconsumes.yields_iff ⟨drain, hsource⟩]
    simp only [LastNamed.cons_iff hsource hconsumes]
    constructor
    · intro hvalue
      rcases hvalue with ⟨c', d, hlast, hyields⟩ | ⟨hlast, hyields⟩
      · exact ⟨c', d, .inl hlast, hyields⟩
      · have hname := ((hconsumes.yields_iff ⟨drain, hsource⟩).1 hyields).1
        exact ⟨c, source, .inr ⟨hlast, hname, rfl, rfl⟩, hyields⟩
    · intro hvalue
      obtain ⟨c', d, hplace, hyields⟩ := hvalue
      rcases hplace with hplace | ⟨hlast, -, rfl, rfl⟩
      · exact .inl ⟨c', d, hplace, hyields⟩
      · exact .inr ⟨hlast, hyields⟩

end

/-! ### Captures -/

section

variable {b : Blueprint P} {context : Option Context} {source name value : Text} {e : Extraction}

theorem captures_eq_filter (h : b.extract context source = .ok e) :
    ∃ chunks rest, Split b.components source chunks rest ∧
      e.captures = (NameMap.ofList (namedValues b.components chunks rest)).filter
        fun name => !b.config.skipped.contains name := by
  obtain ⟨chunks, rest, hsplit, rfl, -⟩ := b.extract_compared_of_ok b rfl rfl context h
  have hall : capturedEntries { b.config with skipped := .empty } b.components chunks rest =
      namedValues b.components chunks rest :=
    capturedEntries_of_not_skipped fun name _ => contains_empty name
  have hskipping : capturedEntries b.config b.components chunks rest =
      (namedValues b.components chunks rest).filter
        fun entry => !b.config.skipped.contains entry.1 := by
    rw [← hall]
    exact capturedEntries_skipping b.config b.config.skipped b.components chunks rest
  refine ⟨chunks, rest, hsplit, ?_⟩
  rw [NameMap.filter_ofList, ← hskipping]
  rfl

theorem captures_get?_eq_some_iff (h : b.extract context source = .ok e) :
    e.captures.get? name = some value ↔
      b.config.skipped.contains name = false ∧
        ∃ c drain, LastNamed b.components source name c drain ∧ c.Yields drain name value := by
  obtain ⟨chunks, rest, hsplit, hcaptures⟩ := captures_eq_filter h
  rw [hcaptures, NameMap.get?_filter, NameMap.get?_ofList,
    ← lookup_namedValues_eq_some_iff hsplit]
  cases b.config.skipped.contains name <;> simp

theorem mem_keys_captures_iff (h : b.extract context source = .ok e) :
    name ∈ e.captures.keys ↔
      name ∈ names b.components ∧ b.config.skipped.contains name = false := by
  obtain ⟨chunks, rest, hsplit, hcaptures⟩ := captures_eq_filter h
  have hvalues := lookup_namedValues_eq_none_iff hsplit name
  rw [NameMap.mem_keys_iff, hcaptures, NameMap.get?_filter, NameMap.get?_ofList]
  cases b.config.skipped.contains name with
  | true => simp
  | false => simp [hvalues]

end

/-- On a match the captures have the names of the components that are not skipped, and no others.
The value of a name is what the last component with that name yields: the text itself where that is
matched as it is, a rest of the source that is not empty where that takes the rest.  Every value is
a part of the source. -/
theorem captures_hold_last_values (b : Blueprint P) (context : Option Context) (source : Text)
    (e : Extraction) (h : b.extract context source = .ok e) :
    (∀ name, name ∈ e.captures.keys ↔
      name ∈ names b.components ∧ b.config.skipped.contains name = false) ∧
    (∀ name value, e.captures.get? name = some value ↔
      b.config.skipped.contains name = false ∧
        ∃ c drain, LastNamed b.components source name c drain ∧ c.Yields drain name value) ∧
    (∀ name value c drain, e.captures.get? name = some value →
      LastNamed b.components source name c drain →
      c.Yields drain name value ∧
      (∀ t, c = .placeholder (.matched (some name) (.literal t)) → value = t) ∧
      (c = .placeholder (.rest name) → value ≠ [] ∧ value <:+ source)) ∧
    ∀ name value, e.captures.get? name = some value → value <:+: source := by
  refine ⟨fun name => mem_keys_captures_iff h, fun name value => captures_get?_eq_some_iff h, ?_,
    ?_⟩
  · intro name value c drain hvalue hlast
    obtain ⟨chunks, rest, hsplit, -⟩ := captures_eq_filter h
    obtain ⟨-, c', drain', hlast', hyields⟩ := (captures_get?_eq_some_iff h).1 hvalue
    obtain ⟨rfl, rfl⟩ := hlast.unique hsplit hlast'
    refine ⟨hyields, ?_, ?_⟩
    · intro t hc
      subst hc
      cases hyields
      rfl
    · intro hc
      subst hc
      cases hyields with
      | rest hne => exact ⟨hne, hlast.suffix⟩
  · intro name value hvalue
    obtain ⟨-, c, drain, hlast, hyields⟩ := (captures_get?_eq_some_iff h).1 hvalue
    exact hyields.value_infix_drain.trans hlast.suffix.isInfix

/-- A pattern that matches nothing, two components of one name, and a skipped one. -/
def overwrittenName : Blueprint Pattern where
  text := .ofString
    "$\x7b\x7bn:[0-9]*\x7d\x7d-$\x7b\x7bk:b\x7d\x7d$\x7b\x7bs:7\x7d\x7d$\x7b\x7bk\x7d\x7d"
  components := [
    .placeholder (.matched (some ['n']) (.pattern
      { text := .ofString "[0-9]*"
        kind := .regular
        search := .lockstep ⟨#[.accept, .fork 2 0, .chars ⟨#[48, 58]⟩ 1], 1⟩ })),
    .literal ['-'],
    .placeholder (.matched (some ['k']) (.literal ['b'])),
    .placeholder (.matched (some ['s']) (.literal ['7'])),
    .placeholder (.rest ['k'])]
  config := { skipped := .ofNames [['s']] }

theorem captures_hold_last_values_overwritten :
    (Blueprint.compile overwrittenName.config overwrittenName.text).outcome = .ok overwrittenName ∧
    ∃ e, overwrittenName.extract none (.ofString "-b7cd") = .ok e ∧
      ['n'] ∈ e.captures.keys ∧ e.captures.get? ['n'] = some [] ∧ ['s'] ∉ e.captures.keys ∧
      e.captures.get? ['k'] = some ['c', 'd'] ∧
      (∃ c drain, LastNamed overwrittenName.components (.ofString "-b7cd") ['k'] c drain ∧
        c.Yields drain ['k'] ['c', 'd']) ∧
      ['c', 'd'] <:+: Text.ofString "-b7cd" := by
  have hcompile : (Blueprint.compile overwrittenName.config overwrittenName.text).outcome =
      .ok overwrittenName := by with_unfolding_all rfl
  have hmatch : overwrittenName.extract none (.ofString "-b7cd") =
      .ok ⟨['-', '7'], .ofList [(['n'], []), (['k'], ['c', 'd'])]⟩ := by with_unfolding_all rfl
  obtain ⟨hkeys, hvalues, -, hparts⟩ :=
    captures_hold_last_values overwrittenName none (.ofString "-b7cd") _ hmatch
  have hk : (NameMap.ofList [(['n'], []), (['k'], ['c', 'd'])]).get? ['k'] = some ['c', 'd'] := rfl
  have hn : ['n'] ∈ names overwrittenName.components ∧
      overwrittenName.config.skipped.contains ['n'] = false := ⟨by decide, rfl⟩
  have hs : ¬ overwrittenName.config.skipped.contains ['s'] = false := by decide
  refine ⟨hcompile, _, hmatch, (hkeys _).2 hn, rfl, ?_, hk, ((hvalues _ _).1 hk).2, hparts _ _ hk⟩
  intro hmem
  exact hs ((hkeys _).1 hmem).2

end Blueprints
