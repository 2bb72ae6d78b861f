import Blueprints.Proofs.Visits

/-!
# Consumption

What extraction means, without a state that changes: a source falls into one chunk for each
component and a rest, each chunk is what its component takes off the drain in front of it, and the
result is put together from what each component adds.  The main statement is
`extract_eq_ok_iff_split`.
-/

namespace Blueprints

variable {P : Type} [PatternLanguage P]

/-! ### One component -/

def Matcher.found (drain : Text) : Matcher P → Text
  | .pattern p => (PatternLanguage.find p drain).getD []
  | .literal t => t

namespace Component

/-- Does a component take a chunk off the front of a drain?  A pattern takes as many characters as
its match has, wherever the match was found. -/
def Consumes : Component P → (drain chunk : Text) → Prop
  | .literal t, _, chunk => chunk = t
  | .placeholder (.matched _ (.literal t)), _, chunk => chunk = t
  | .placeholder (.matched _ (.pattern p)), drain, chunk =>
    ∃ v, PatternLanguage.find p drain = some v ∧ chunk = drain.take v.length
  | .placeholder (.rest _), drain, chunk => chunk = drain ∧ drain ≠ []
  | .placeholder (.context _), _, chunk => chunk = []
  | .placeholder (.attach _), _, chunk => chunk = []

/-- What a component adds to the extracted text on a drain. -/
def contribution (cfg : Config) (context : Option Context) (drain : Text) : Component P → Text
  | .literal t => t
  | .placeholder (.matched none _) => []
  | .placeholder (.matched (some name) m) =>
    if cfg.skipped.contains name then m.found drain else []
  | .placeholder (.rest name) => if cfg.skipped.contains name then drain else []
  | .placeholder (.context key) => (context.bind (·.get? key)).getD []
  | .placeholder (.attach value) => value

def captured (cfg : Config) (drain : Text) : Component P → List (Text × Text)
  | .placeholder (.matched (some name) m) =>
    if cfg.skipped.contains name then [] else [(name, m.found drain)]
  | .placeholder (.rest name) => if cfg.skipped.contains name then [] else [(name, drain)]
  | _ => []

/-- A drain leaves a component no choice. -/
theorem Consumes.chunk_eq {c : Component P} {drain chunk chunk' : Text}
    (h : c.Consumes drain chunk) (h' : c.Consumes drain chunk') : chunk = chunk' := by
  cases c with
  | literal t => exact h.trans h'.symm
  | placeholder spec =>
    cases spec with
    | matched name m =>
      cases m with
      | literal t => exact h.trans h'.symm
      | pattern p =>
        obtain ⟨v, hv, rfl⟩ := h
        obtain ⟨v', hv', rfl⟩ := h'
        rw [hv, Option.some.injEq] at hv'
        rw [hv']
    | rest name => exact h.1.trans h'.1.symm
    | context key => exact h.trans h'.symm
    | attach value => exact h.trans h'.symm

end Component

theorem Progress.record_eq (cfg : Config) (p : Progress) (name value : Text) :
    p.record cfg name value =
      { p with
        extracted := p.extracted ++ if cfg.skipped.contains name then value else []
        captures := p.captures.insertAll
          (if cfg.skipped.contains name then [] else [(name, value)]) } := by
  by_cases h : cfg.skipped.contains name = true
  · simp [Progress.record, Progress.emit, h, NameMap.insertAll]
  · simp [Progress.record, h, NameMap.insertAll]

theorem Component.next?_matched_eq_some_iff (cfg : Config) (context : Option Context)
    (name : Option Text) (m : Matcher P) (p q : Progress) :
    Component.next? cfg context p (.placeholder (.matched name m)) = some q ↔
      ∃ drain, m.take? p.drain = some (m.found p.drain, drain) ∧
        q = { drain := drain
              extracted := p.extracted ++
                (Component.placeholder (.matched name m)).contribution cfg context p.drain
              captures := p.captures.insertAll
                ((Component.placeholder (.matched name m)).captured cfg p.drain) } := by
  have hfound : ∀ value drain, m.take? p.drain = some (value, drain) → value = m.found p.drain := by
    intro value drain h
    cases m with
    | pattern pat =>
      obtain ⟨v, hv, he⟩ := Option.map_eq_some_iff.1 h
      cases he
      simp [Matcher.found, hv]
    | literal t =>
      obtain ⟨rest, -, he⟩ := Option.map_eq_some_iff.1 h
      cases he
      rfl
  have hvisit : ∀ rest, m.take? p.drain = some (m.found p.drain, rest) →
      Component.next? cfg context p (.placeholder (.matched name m)) = some
        { drain := rest
          extracted := p.extracted ++
            (Component.placeholder (.matched name m)).contribution cfg context p.drain
          captures := p.captures.insertAll
            ((Component.placeholder (.matched name m)).captured cfg p.drain) } := by
    intro rest h
    rw [Component.next?, h, Option.map_some, Option.some.injEq]
    cases name with
    | none => simp [Component.contribution, Component.captured, NameMap.insertAll]
    | some name => exact Progress.record_eq cfg _ name _
  constructor
  · intro h
    cases ht : m.take? p.drain with
    | none =>
      rw [Component.next?, ht] at h
      cases h
    | some r =>
      obtain ⟨value, rest⟩ := r
      obtain rfl := hfound value rest ht
      rw [hvisit rest ht, Option.some.injEq] at h
      exact ⟨rest, rfl, h.symm⟩
  · rintro ⟨rest, ht, rfl⟩
    exact hvisit rest ht

theorem Matcher.take?_eq_some_iff (name : Option Text) (m : Matcher P) (drain rest : Text) :
    m.take? drain = some (m.found drain, rest) ↔
      ∃ chunk, drain = chunk ++ rest ∧
        (Component.placeholder (.matched name m)).Consumes drain chunk := by
  cases m with
  | literal t =>
    simp only [Matcher.take?, Matcher.found, Option.map_eq_some_iff, Component.Consumes,
      Text.after?_eq_some_iff]
    constructor
    · rintro ⟨rest', hr, he⟩
      cases he
      exact ⟨t, hr, rfl⟩
    · rintro ⟨chunk, hd, rfl⟩
      exact ⟨rest, hd, rfl⟩
  | pattern p =>
    simp only [Matcher.take?, Matcher.found, Option.map_eq_some_iff, Component.Consumes]
    constructor
    · rintro ⟨v, hv, he⟩
      have hrest : drain.drop v.length = rest := (Prod.mk.injEq ..).mp he |>.2
      exact ⟨drain.take v.length, by rw [← hrest, List.take_append_drop], v, hv, rfl⟩
    · rintro ⟨chunk, hd, v, hv, hchunk⟩
      refine ⟨v, hv, ?_⟩
      have hdrop : drain.drop v.length = rest := by
        have hsplit := List.take_append_drop v.length drain
        rw [← hchunk] at hsplit
        exact List.append_cancel_left (hsplit.trans hd)
      rw [hdrop, hv, Option.getD_some]

/-- What a component does to the progress, in words of its chunk. -/
theorem Component.next?_eq_some_iff (cfg : Config) (context : Option Context) (c : Component P)
    (p q : Progress) :
    c.next? cfg context p = some q ↔
      ∃ chunk, p.drain = chunk ++ q.drain ∧ c.Consumes p.drain chunk ∧
        q.extracted = p.extracted ++ c.contribution cfg context p.drain ∧
        q.captures = p.captures.insertAll (c.captured cfg p.drain) := by
  obtain ⟨drain, extracted, captures⟩ := p
  obtain ⟨drain', extracted', captures'⟩ := q
  cases c with
  | literal t =>
    simp only [next?, Option.map_eq_some_iff, Text.after?_eq_some_iff, Consumes, contribution,
      captured, Progress.emit, Progress.mk.injEq, NameMap.insertAll, List.foldl_nil]
    constructor
    · rintro ⟨rest, hd, rfl, rfl, rfl⟩
      exact ⟨t, hd, rfl, rfl, rfl⟩
    · rintro ⟨chunk, hd, rfl, he, hc⟩
      exact ⟨drain', hd, rfl, he.symm, hc.symm⟩
  | placeholder spec =>
    cases spec with
    | matched name m =>
      rw [next?_matched_eq_some_iff]
      constructor
      · rintro ⟨rest, ht, he⟩
        cases he
        obtain ⟨chunk, hd, hconsumes⟩ := (Matcher.take?_eq_some_iff name m drain _).1 ht
        exact ⟨chunk, hd, hconsumes, rfl, rfl⟩
      · rintro ⟨chunk, hd, hconsumes, he, hc⟩
        have htake := (Matcher.take?_eq_some_iff name m drain drain').2 ⟨chunk, hd, hconsumes⟩
        refine ⟨drain', htake, ?_⟩
        rw [Progress.mk.injEq]
        exact ⟨rfl, he, hc⟩
    | rest name =>
      simp only [next?, Consumes, List.isEmpty_iff]
      constructor
      · intro h
        split at h
        · cases h
        · rename_i hne
          rw [Option.some.injEq, Progress.record_eq] at h
          cases h
          exact ⟨drain, (List.append_nil drain).symm, ⟨rfl, hne⟩, rfl, rfl⟩
      · rintro ⟨chunk, hd, ⟨rfl, hne⟩, he, hc⟩
        have hd' : drain' = [] := List.self_eq_append_right.1 hd
        rw [if_neg hne, Option.some.injEq, Progress.record_eq, Progress.mk.injEq]
        exact ⟨hd'.symm, he.symm, hc.symm⟩
    | context key =>
      have hvisit : (placeholder (P := P) (.context key)).next? cfg context
          ⟨drain, extracted, captures⟩ =
          some ⟨drain, extracted ++ (context.bind (·.get? key)).getD [], captures⟩ := by
        simp only [next?]
        split
        · rename_i value hvalue
          rw [hvalue]
          rfl
        · rename_i hvalue
          rw [hvalue, Option.getD_none, List.append_nil]
      simp only [hvisit, Consumes, contribution, captured, Option.some.injEq,
        Progress.mk.injEq, NameMap.insertAll, List.foldl_nil]
      constructor
      · rintro ⟨rfl, rfl, rfl⟩
        exact ⟨[], rfl, rfl, rfl, rfl⟩
      · rintro ⟨chunk, hd, rfl, he, hc⟩
        exact ⟨hd, he.symm, hc.symm⟩
    | attach value =>
      simp only [next?, Consumes, contribution, captured, Progress.emit,
        Option.some.injEq, Progress.mk.injEq, NameMap.insertAll, List.foldl_nil]
      constructor
      · rintro ⟨rfl, rfl, rfl⟩
        exact ⟨[], rfl, rfl, rfl, rfl⟩
      · rintro ⟨chunk, hd, rfl, he, hc⟩
        exact ⟨hd, he.symm, hc.symm⟩

/-! ### All components -/

/-- The drain in front of each chunk. -/
def drains (rest : Text) : (chunks : List Text) → List Text
  | [] => []
  | chunk :: chunks => ((chunk :: chunks).flatten ++ rest) :: drains rest chunks

/-- A source falls into a chunk for each component and a rest. -/
structure Split (cs : List (Component P)) (source : Text) (chunks : List Text) (rest : Text) :
    Prop where
  length_eq : chunks.length = cs.length
  source_eq : source = chunks.flatten ++ rest
  consumes : ∀ (i : Nat) (c : Component P) (drain chunk : Text), cs[i]? = some c →
    (drains rest chunks)[i]? = some drain → chunks[i]? = some chunk → c.Consumes drain chunk

def contributions (cfg : Config) (context : Option Context) (cs : List (Component P))
    (chunks : List Text) (rest : Text) : Text :=
  (cs.zip (drains rest chunks)).flatMap fun (c, drain) => c.contribution cfg context drain

def capturedEntries (cfg : Config) (cs : List (Component P)) (chunks : List Text) (rest : Text) :
    List (Text × Text) :=
  (cs.zip (drains rest chunks)).flatMap fun (c, drain) => c.captured cfg drain

namespace Split

theorem nil_iff {source rest : Text} {chunks : List Text} :
    Split ([] : List (Component P)) source chunks rest ↔ chunks = [] ∧ source = rest := by
  constructor
  · intro h
    obtain rfl := List.length_eq_zero_iff.1 h.length_eq
    exact ⟨rfl, h.source_eq⟩
  · rintro ⟨rfl, rfl⟩
    refine ⟨rfl, rfl, fun i c drain chunk hc => ?_⟩
    rw [List.getElem?_nil] at hc
    cases hc

theorem cons_iff {c : Component P} {cs : List (Component P)} {source rest : Text}
    {chunks : List Text} :
    Split (c :: cs) source chunks rest ↔
      ∃ chunk later drain, chunks = chunk :: later ∧ source = chunk ++ drain ∧
        c.Consumes source chunk ∧ Split cs drain later rest := by
  constructor
  · intro h
    cases chunks with
    | nil => cases h.length_eq
    | cons chunk later =>
      have hsource : source = chunk ++ (later.flatten ++ rest) := by
        rw [h.source_eq, List.flatten_cons, List.append_assoc]
      refine ⟨chunk, later, later.flatten ++ rest, rfl, hsource, ?_, ?_⟩
      · exact h.consumes 0 c source chunk rfl (by rw [h.source_eq]; rfl) rfl
      · exact ⟨Nat.succ.inj h.length_eq, rfl, fun i => h.consumes (i + 1)⟩
  · rintro ⟨chunk, later, drain, rfl, hsource, hconsumes, h⟩
    have hall : source = (chunk :: later).flatten ++ rest := by
      rw [hsource, h.source_eq, List.flatten_cons, List.append_assoc]
    refine ⟨congrArg Nat.succ h.length_eq, hall, fun i c' drain' chunk' hc hd hk => ?_⟩
    cases i with
    | zero =>
      cases hc
      cases hd
      cases hk
      rwa [← hall]
    | succ i => exact h.consumes i c' drain' chunk' hc hd hk

/-- A source splits in one way at most. -/
theorem unique {cs : List (Component P)} {source rest rest' : Text} {chunks chunks' : List Text}
    (h : Split cs source chunks rest) (h' : Split cs source chunks' rest') :
    chunks = chunks' ∧ rest = rest' := by
  induction cs generalizing source chunks chunks' with
  | nil =>
    obtain ⟨rfl, rfl⟩ := nil_iff.1 h
    obtain ⟨rfl, rfl⟩ := nil_iff.1 h'
    exact ⟨rfl, rfl⟩
  | cons c cs ih =>
    obtain ⟨chunk, later, drain, rfl, hs, hc, ht⟩ := cons_iff.1 h
    obtain ⟨chunk', later', drain', rfl, hs', hc', ht'⟩ := cons_iff.1 h'
    obtain rfl := hc.chunk_eq hc'
    obtain rfl : drain = drain' := List.append_cancel_left (hs.symm.trans hs')
    obtain ⟨rfl, rfl⟩ := ih ht ht'
    exact ⟨rfl, rfl⟩

end Split

/-- Visiting all components splits the drain. -/
theorem Component.visitAll_eq_ok_iff (cfg : Config) (context : Option Context) (n : Nat)
    (cs : List (Component P)) (p q : Progress) :
    visitAll cfg context n cs p = .ok q ↔
      ∃ chunks, Split cs p.drain chunks q.drain ∧
        q.extracted = p.extracted ++ contributions cfg context cs chunks q.drain ∧
        q.captures = p.captures.insertAll (capturedEntries cfg cs chunks q.drain) := by
  induction cs generalizing n p with
  | nil =>
    simp only [visitAll, Except.ok.injEq, Split.nil_iff]
    constructor
    · rintro rfl
      exact ⟨[], ⟨rfl, rfl⟩, (List.append_nil _).symm, rfl⟩
    · rintro ⟨chunks, ⟨rfl, hd⟩, he, hc⟩
      obtain ⟨drain, extracted, captures⟩ := q
      cases hd
      rw [show extracted = p.extracted from he.trans (List.append_nil _),
        show captures = p.captures from hc]
  | cons c cs ih =>
    have hstep : visitAll cfg context n (c :: cs) p = .ok q ↔
        ∃ r, c.next? cfg context p = some r ∧ visitAll cfg context (n + 1) cs r = .ok q := by
      rw [visitAll_cons]
      cases c.next? cfg context p with
      | none => simp
      | some r => simp
    rw [hstep]
    constructor
    · rintro ⟨r, hv, hrest⟩
      obtain ⟨chunk, hd, hconsumes, he, hc⟩ := (next?_eq_some_iff cfg context c p r).1 hv
      obtain ⟨later, hsplit, he', hc'⟩ := (ih (n + 1) r).1 hrest
      have hdrain : p.drain = (chunk :: later).flatten ++ q.drain := by
        rw [hd, hsplit.source_eq, List.flatten_cons, List.append_assoc]
      refine ⟨chunk :: later, Split.cons_iff.2 ⟨chunk, later, r.drain, rfl, hd, hconsumes, hsplit⟩,
        ?_, ?_⟩
      · rw [he', he, hdrain, List.append_assoc]
        rfl
      · rw [hc', hc, ← NameMap.insertAll_append, hdrain]
        rfl
    · rintro ⟨chunks, hsplit, he, hc⟩
      obtain ⟨chunk, later, drain, rfl, hd, hconsumes, hlater⟩ := Split.cons_iff.1 hsplit
      have hdrain : p.drain = (chunk :: later).flatten ++ q.drain := hsplit.source_eq
      refine ⟨⟨drain, p.extracted ++ c.contribution cfg context p.drain,
        p.captures.insertAll (c.captured cfg p.drain)⟩, ?_, ?_⟩
      · exact (next?_eq_some_iff cfg context c p _).2 ⟨chunk, hd, hconsumes, rfl, rfl⟩
      · refine (ih (n + 1) _).2 ⟨later, hlater, ?_, ?_⟩
        · rw [he, List.append_assoc, hdrain]
          rfl
        · rw [hc, ← NameMap.insertAll_append, hdrain]
          rfl

/-! ### Whatever the positions -/

namespace Component

/-- What components make of the progress, whatever their positions. -/
def through (cfg : Config) (context : Option Context) (cs : List (Component P)) (p : Progress) :
    Option Progress :=
  cs.foldlM (fun p c => c.next? cfg context p) p

section

variable (cfg : Config) (context : Option Context)

theorem through_cons (c : Component P) (cs : List (Component P)) (p : Progress) :
    through cfg context (c :: cs) p =
      (c.next? cfg context p).bind (through cfg context cs) := List.foldlM_cons

theorem through_append (cs cs' : List (Component P)) (p : Progress) :
    through cfg context (cs ++ cs') p =
      (through cfg context cs p).bind (through cfg context cs') := List.foldlM_append

theorem visitAll_eq_ok_iff_through (n : Nat) {cs : List (Component P)} {p q : Progress} :
    visitAll cfg context n cs p = .ok q ↔ through cfg context cs p = some q := by
  induction cs generalizing n p with
  | nil => simp [visitAll, through]
  | cons c cs ih =>
    rw [through_cons, visitAll_cons]
    cases c.next? cfg context p with
    | none => simp
    | some r => exact ih (n + 1)

theorem through_eq_some_iff (cs : List (Component P)) (p q : Progress) :
    through cfg context cs p = some q ↔
      ∃ chunks, Split cs p.drain chunks q.drain ∧
        q.extracted = p.extracted ++ contributions cfg context cs chunks q.drain ∧
        q.captures = p.captures.insertAll (capturedEntries cfg cs chunks q.drain) := by
  rw [← visitAll_eq_ok_iff_through cfg context 0, visitAll_eq_ok_iff]

end

end Component

/-! ### Sources -/

theorem Blueprint.extract_eq_ok_iff_through {b : Blueprint P} {context : Option Context}
    {source : Text} {e : Extraction} :
    b.extract context source = .ok e ↔
      ∃ q, Component.through b.config context b.components { drain := source } = some q ∧
        (b.config.failOnRemainder = true → q.drain = []) ∧
        e = ⟨q.extracted ++ q.drain, q.captures⟩ := by
  simp only [← Component.visitAll_eq_ok_iff_through b.config context 0, extract]
  cases Component.visitAll b.config context 0 b.components { drain := source } with
  | error miss => simp
  | ok q =>
    cases hremainder : b.config.failOnRemainder with
    | false => simp [eq_comm]
    | true =>
      cases hdrain : q.drain with
      | nil => simp [hdrain, eq_comm]
      | cons a rest => simp [hdrain]

/-- A source matches exactly if it splits, in one way only, and the split gives the result. -/
theorem extract_eq_ok_iff_split (b : Blueprint P) (context : Option Context) (source : Text)
    (e : Extraction) :
    (b.extract context source = .ok e ↔
      ∃ chunks rest, Split b.components source chunks rest ∧
        (b.config.failOnRemainder = true → rest = []) ∧
        e.extracted = contributions b.config context b.components chunks rest ++ rest ∧
        ∀ name, e.captures.get? name =
          NameMap.lookup name (capturedEntries b.config b.components chunks rest).reverse) ∧
    (∀ chunks rest chunks' rest', Split b.components source chunks rest →
      Split b.components source chunks' rest' → chunks = chunks' ∧ rest = rest') := by
  refine ⟨?_, fun _ _ _ _ h h' => h.unique h'⟩
  have hextract : b.extract context source = .ok e ↔
      ∃ q, Component.visitAll b.config context 0 b.components { drain := source } = .ok q ∧
        (b.config.failOnRemainder = true → q.drain = []) ∧
        e = ⟨q.extracted ++ q.drain, q.captures⟩ := by
    simp only [Blueprint.extract]
    cases Component.visitAll b.config context 0 b.components { drain := source } with
    | error miss => simp
    | ok q =>
      cases hrem : b.config.failOnRemainder <;> cases hd : q.drain <;>
        simp [hd, @eq_comm Extraction]
  have hget : ∀ l : List (Text × Text), ∀ name,
      (NameMap.empty.insertAll l).get? name = NameMap.lookup name l.reverse := by
    intro l name
    rw [NameMap.get?_insertAll]
    exact Option.or_none
  rw [hextract]
  constructor
  · rintro ⟨q, hvisit, hrem, rfl⟩
    obtain ⟨chunks, hsplit, he, hc⟩ := (Component.visitAll_eq_ok_iff _ _ _ _ _ q).1 hvisit
    refine ⟨chunks, q.drain, hsplit, hrem, ?_, fun name => ?_⟩
    · show q.extracted ++ q.drain = _
      rw [he]
      rfl
    · show q.captures.get? name = _
      rw [hc]
      exact hget _ name
  · rintro ⟨chunks, rest, hsplit, hrem, he, hc⟩
    obtain ⟨extracted, captures⟩ := e
    refine ⟨⟨rest, contributions b.config context b.components chunks rest,
      NameMap.empty.insertAll (capturedEntries b.config b.components chunks rest)⟩, ?_, hrem, ?_⟩
    · exact (Component.visitAll_eq_ok_iff _ _ _ _ _ _).2 ⟨chunks, hsplit, rfl, rfl⟩
    · have hcaptures : captures =
          NameMap.empty.insertAll (capturedEntries b.config b.components chunks rest) :=
        NameMap.ext_get? fun name => (hc name).trans (hget _ name).symm
      rw [Extraction.mk.injEq]
      exact ⟨he, hcaptures⟩

end Blueprints
