import Blueprints.Rules.Directive

/-!
# Lines of directives

Which lines are directives, said without a reader, and what is wrong with every other line.  The main
statements are `read_eq_ok_iff` and `read_eq_error_iff`.
-/

namespace Blueprints

/-! ### Texts without blanks at their ends -/

structure Text.Framed (t : Text) : Prop where
  front : ∃ c, t.head? = some c ∧ Text.isBlank c = false
  back : ∃ c, t.getLast? = some c ∧ Text.isBlank c = false

theorem Text.dropWhile_eq_self {p : Char → Bool} {t : Text}
    (h : ∃ c, t.head? = some c ∧ p c = false) : t.dropWhile p = t := by
  obtain ⟨c, hc, hp⟩ := h
  cases t with
  | nil => cases hc
  | cons d t =>
    cases hc
    simp [hp]

theorem Text.Framed.trimFront_eq {t : Text} (h : t.Framed) : t.trimFront = t :=
  Text.dropWhile_eq_self h.front

theorem Text.Framed.trim_eq {t : Text} (h : t.Framed) : t.trim = t := by
  have hback : t.reverse.dropWhile Text.isBlank = t.reverse := by
    apply Text.dropWhile_eq_self
    rw [List.head?_reverse]
    exact h.back
  rw [Text.trim, h.trimFront_eq, Text.trimBack, hback, List.reverse_reverse]

theorem Text.Framed.append {s u : Text} (hs : s.Framed) (t : Text) (hu : u.Framed) :
    (s ++ t ++ u).Framed := by
  obtain ⟨c, hc, hblank⟩ := hs.front
  obtain ⟨d, hd, hblank'⟩ := hu.back
  refine ⟨⟨c, ?_, hblank⟩, ⟨d, ?_, hblank'⟩⟩
  · rw [List.append_assoc, List.head?_append, hc, Option.some_or]
  · rw [List.getLast?_append, hd, Option.some_or]

theorem Text.framed_of_not_blank {t : Text} (hne : t ≠ [])
    (h : ∀ c ∈ t, Text.isBlank c = false) : t.Framed := by
  refine ⟨⟨t.head hne, List.head?_eq_some_head hne, ?_⟩,
    ⟨t.getLast hne, List.getLast?_eq_some_getLast hne, ?_⟩⟩
  · exact h _ (List.head_mem hne)
  · exact h _ (List.getLast_mem hne)

theorem Text.isSpace_of_not_blank {c : Char} (h : Text.isBlank c = false) :
    Text.isSpace c = false := by
  cases hspace : Text.isSpace c with
  | false => rfl
  | true =>
    rw [Text.isBlank_of_isSpace hspace] at h
    cases h

/-! ### The grammar -/

/-- A name that a directive can give: at least one character, no blank and no comma. -/
def IsName (t : Text) : Prop := t ≠ [] ∧ ∀ c ∈ t, Text.isBlank c = false ∧ c ≠ ','

instance (t : Text) : Decidable (IsName t) :=
  have : Decidable (∀ c ∈ t, Text.isBlank c = false ∧ c ≠ ',') := List.decidableBAll _ t
  inferInstanceAs (Decidable (_ ∧ _))

theorem IsName.framed {t : Text} (h : IsName t) : t.Framed :=
  Text.framed_of_not_blank h.1 fun c hc => (h.2 c hc).1

theorem IsName.comma_not_mem {t : Text} (h : IsName t) : ',' ∉ t := fun hc => (h.2 ',' hc).2 rfl

namespace Directive

def IsSpaces (t : Text) : Prop := ∀ c ∈ t, Text.isSpace c = true

/-- Names with a comma between each two of them, and spaces and tabs around the commas. -/
inductive NameList : List Text → Text → Prop
  | one {name : Text} : IsName name → NameList [name] name
  | more {name before after rest : Text} {names : List Text} :
    IsName name → IsSpaces before → IsSpaces after → NameList names rest →
    NameList (name :: names) (name ++ before ++ ',' :: (after ++ rest))

/-- What can stand behind the colon for a directive. -/
inductive HasValue : Directive → Text → Prop
  | delimiters {c : DelimiterChars} {s₁ s₂ s₃ : Text} :
    (∀ x ∈ c.toText, Text.isBlank x = false) → IsSpaces s₁ → IsSpaces s₂ → IsSpaces s₃ →
    HasValue (.delimiters c)
      (c.start :: (s₁ ++ c.opening :: (s₂ ++ c.separator :: (s₃ ++ [c.closing]))))
  | skip {names : List Text} {value : Text} : NameList names value → HasValue (.skip names) value
  | contextKey {key : Text} : IsName key → HasValue (.contextKey key) key
  | attachKey {key : Text} : IsName key → HasValue (.attachKey key) key
  | failOnRemainder (on : Bool) : HasValue (.failOnRemainder on) (switch on)
  | strict (on : Bool) : HasValue (.strict on) (switch on)

structure KeyValue (t key value : Text) : Prop where
  key_ne : key ≠ []
  keyChar : ∀ c ∈ key, isKeyChar c = true
  value_head : ∀ c, value.head? = some c → Text.isSpace c = false
  eq : ∃ before after, IsSpaces before ∧ IsSpaces after ∧
    t = key ++ (before ++ ':' :: (after ++ value))

/-- Is a line, without the blanks at its ends, a way to write a directive? -/
def Spells (d : Directive) (line : Text) : Prop :=
  ∃ value, d.HasValue value ∧ KeyValue line.trim d.key value

def expected : Directive → Text
  | delimiters _ => .ofString "four delimiter characters"
  | skip _ => .ofString "a comma separated list of names"
  | contextKey _ => .ofString "a single name"
  | attachKey _ => .ofString "a single name"
  | failOnRemainder _ => .ofString "true or false"
  | strict _ => .ofString "true or false"

/-- What is wrong with a line that is no directive. -/
inductive WrongLine (line : Text) : DirectiveError → Prop
  | notADirective : (∀ key value, ¬ KeyValue line.trim key value) → WrongLine line .notADirective
  | unknownKey {key value : Text} : KeyValue line.trim key value →
    (∀ d : Directive, d.key ≠ key) → WrongLine line (.unknownKey key)
  | invalidValue {d : Directive} {value : Text} : KeyValue line.trim d.key value →
    (∀ d' : Directive, d'.key = d.key → ¬ d'.HasValue value) →
    WrongLine line (.invalidValue d.key d.expected)

/-! ### Values begin and end with characters that are not blank -/

theorem head?_not_space {t : Text} (h : t.Framed) :
    ∀ c, t.head? = some c → Text.isSpace c = false := by
  intro c hc
  obtain ⟨d, hd, hblank⟩ := h.front
  rw [hd, Option.some.injEq] at hc
  rw [← hc]
  exact Text.isSpace_of_not_blank hblank

theorem getLast?_not_space {t : Text} (h : t.Framed) :
    ∀ c, t.getLast? = some c → Text.isSpace c = false := by
  intro c hc
  obtain ⟨d, hd, hblank⟩ := h.back
  rw [hd, Option.some.injEq] at hc
  rw [← hc]
  exact Text.isSpace_of_not_blank hblank

theorem stripSpaces_framed {lead core trail : Text} (hlead : IsSpaces lead)
    (htrail : IsSpaces trail) (h : core.Framed) : (lead ++ core ++ trail).stripSpaces = core :=
  Text.stripSpaces_eq_iff.2
    ⟨head?_not_space h, getLast?_not_space h, lead, trail, hlead, htrail, rfl⟩

theorem exists_stripSpaces (t : Text) :
    ∃ lead trail, IsSpaces lead ∧ IsSpaces trail ∧ t = lead ++ t.stripSpaces ++ trail :=
  (Text.stripSpaces_eq_iff.1 rfl).2.2

theorem switch_not_blank (on : Bool) :
    switch on ≠ [] ∧ ∀ c ∈ switch on, Text.isBlank c = false := by
  have hnot : (switch on).any Text.isBlank = false := by
    cases on <;> decide +kernel
  refine ⟨by cases on <;> decide, fun c hc => ?_⟩
  exact Bool.eq_false_iff.2 (List.any_eq_false.1 hnot c hc)

theorem switch_framed (on : Bool) : (switch on).Framed :=
  Text.framed_of_not_blank (switch_not_blank on).1 (switch_not_blank on).2

theorem NameList.framed {names : List Text} {value : Text} (h : NameList names value) :
    value.Framed := by
  induction h with
  | one hname => exact hname.framed
  | @more name before after rest names hname _ _ _ ih =>
    have hframed := hname.framed.append (before ++ ',' :: after) ih
    simpa using hframed

theorem HasValue.framed {d : Directive} {value : Text} (h : d.HasValue value) : value.Framed := by
  cases h with
  | @delimiters c s₁ s₂ s₃ hchars _ _ _ =>
    have hstart : Text.isBlank c.start = false := hchars _ (by simp [DelimiterChars.toText])
    have hclosing : Text.isBlank c.closing = false := hchars _ (by simp [DelimiterChars.toText])
    have hlast : (c.start :: (s₁ ++ c.opening :: (s₂ ++ c.separator :: (s₃ ++ [c.closing])))) =
        (c.start :: (s₁ ++ c.opening :: (s₂ ++ c.separator :: s₃))) ++ [c.closing] := by simp
    refine ⟨⟨c.start, rfl, hstart⟩, ⟨c.closing, ?_, hclosing⟩⟩
    rw [hlast, List.getLast?_concat]
  | skip hnames => exact hnames.framed
  | contextKey hkey => exact hkey.framed
  | attachKey hkey => exact hkey.framed
  | failOnRemainder on => exact switch_framed on
  | strict on => exact switch_framed on

/-! ### Reading values -/

theorem readName?_eq_some_iff {value name : Text} :
    readName? value = some name ↔ value.stripSpaces = name ∧ IsName name := by
  have hany : (value.stripSpaces.any fun c => Text.isBlank c || c == ',') = false ↔
      ∀ c ∈ value.stripSpaces, Text.isBlank c = false ∧ c ≠ ',' := by simp
  simp only [readName?, IsName]
  constructor
  · intro h
    split at h
    · cases h
    · rename_i hcond
      rw [Bool.or_eq_true, not_or, Bool.not_eq_true, Bool.not_eq_true] at hcond
      cases h
      exact ⟨rfl, List.isEmpty_eq_false_iff.1 hcond.1, hany.1 hcond.2⟩
  · intro h
    obtain ⟨rfl, hne, hchars⟩ := h
    rw [if_neg]
    rw [Bool.or_eq_true, not_or, Bool.not_eq_true, Bool.not_eq_true]
    exact ⟨List.isEmpty_eq_false_iff.2 hne, hany.2 hchars⟩

theorem readSwitch?_eq_some_iff {value : Text} {on : Bool} :
    readSwitch? value = some on ↔ value.stripSpaces = switch on := by
  have hdiffer : Text.ofString "true" ≠ Text.ofString "false" := by decide
  have htrue : switch true = Text.ofString "true" := rfl
  have hfalse : switch false = Text.ofString "false" := rfl
  simp only [readSwitch?]
  split
  · rename_i h
    cases on <;> simp [h, htrue, hfalse, hdiffer]
  · rename_i h
    split
    · rename_i h'
      cases on <;> simp [h', htrue, hfalse, hdiffer.symm]
    · rename_i h'
      cases on <;> simp [h, h', htrue, hfalse]

/-- Characters that are left when spaces and tabs are dropped stand among these. -/
theorem filter_eq_cons_iff {t rest : Text} {x : Char} :
    t.filter (fun c => !Text.isSpace c) = x :: rest ↔
      ∃ before after, IsSpaces before ∧ Text.isSpace x = false ∧ t = before ++ x :: after ∧
        after.filter (fun c => !Text.isSpace c) = rest := by
  rw [List.filter_eq_cons_iff]
  constructor
  · intro h
    obtain ⟨before, after, ht, hbefore, hx, hafter⟩ := h
    exact ⟨before, after, fun c hc => by simpa using hbefore c hc, by simpa using hx, ht, hafter⟩
  · intro h
    obtain ⟨before, after, hbefore, hx, ht, hafter⟩ := h
    exact ⟨before, after, ht, fun c hc => by simpa using hbefore c hc, by simpa using hx, hafter⟩

theorem filter_eq_nil_iff {t : Text} :
    t.filter (fun c => !Text.isSpace c) = [] ↔ IsSpaces t := by
  simp [List.filter_eq_nil_iff, IsSpaces]

theorem readChars?_eq_some_iff {value : Text} {c : DelimiterChars} :
    readChars? value = some c ↔ HasValue (.delimiters c) value.stripSpaces := by
  have hread : readChars? value = some c ↔
      value.filter (fun c => !Text.isSpace c) = c.toText ∧
        ∀ x ∈ c.toText, Text.isBlank x = false := by
    have hany : ∀ t : Text, t.any Text.isBlank = false ↔ ∀ x ∈ t, Text.isBlank x = false := by simp
    simp only [readChars?]
    split
    · rename_i hblank
      constructor
      · intro h
        cases h
      · intro h
        rw [h.1, (hany _).2 h.2] at hblank
        cases hblank
    · rename_i hblank
      rw [Bool.not_eq_true, hany] at hblank
      rw [DelimiterChars.ofText?_eq_some_iff]
      exact ⟨fun h => ⟨h, h ▸ hblank⟩, fun h => h.1⟩
  rw [hread]
  constructor
  · intro h
    obtain ⟨hchars, hblank⟩ := h
    simp only [DelimiterChars.toText, filter_eq_cons_iff, filter_eq_nil_iff] at hchars
    obtain ⟨s₀, _, h₀, -, rfl, s₁, _, h₁, -, rfl, s₂, _, h₂, -, rfl, s₃, s₄, h₃, -, rfl, h₄⟩ := hchars
    have hvalue : HasValue (.delimiters c)
        (c.start :: (s₁ ++ c.opening :: (s₂ ++ c.separator :: (s₃ ++ [c.closing])))) :=
      .delimiters hblank h₁ h₂ h₃
    have hstrip := stripSpaces_framed h₀ h₄ hvalue.framed
    simp only [List.append_assoc, List.cons_append, List.nil_append] at hstrip
    rw [hstrip]
    exact hvalue
  · intro h
    obtain ⟨lead, trail, hlead, htrail, hvalue⟩ := exists_stripSpaces value
    generalize value.stripSpaces = core at h hvalue
    cases h with
    | delimiters hblank h₁ h₂ h₃ =>
      have hnot : ∀ x ∈ c.toText, Text.isSpace x = false :=
        fun x hx => Text.isSpace_of_not_blank (hblank x hx)
      simp only [DelimiterChars.toText, List.forall_mem_cons] at hnot
      refine ⟨?_, hblank⟩
      rw [hvalue]
      simp [filter_eq_nil_iff.2 hlead, filter_eq_nil_iff.2 htrail, filter_eq_nil_iff.2 h₁,
        filter_eq_nil_iff.2 h₂, filter_eq_nil_iff.2 h₃, hnot, DelimiterChars.toText]

theorem mapM_readName?_cons_iff {piece : Text} {more names : List Text} :
    (piece :: more).mapM readName? = some names ↔
      ∃ name rest, names = name :: rest ∧ readName? piece = some name ∧
        more.mapM readName? = some rest := by
  rw [List.mapM_cons]
  cases readName? piece with
  | none => simp
  | some name => cases more.mapM readName? <;> simp [eq_comm]

theorem nameList_of_readNames? {value : Text} {names : List Text}
    (h : readNames? value = some names) : NameList names value.stripSpaces := by
  induction names generalizing value with
  | nil =>
    obtain ⟨piece, more, hpieces⟩ := List.exists_cons_of_ne_nil (Text.splitOn_ne_nil ',' value)
    rw [readNames?, hpieces, mapM_readName?_cons_iff] at h
    obtain ⟨name, rest, hnil, -⟩ := h
    cases hnil
  | cons name names ih =>
    obtain ⟨piece, more, hpieces⟩ := List.exists_cons_of_ne_nil (Text.splitOn_ne_nil ',' value)
    rw [readNames?, hpieces, mapM_readName?_cons_iff] at h
    obtain ⟨_, _, heq, hname, hmore⟩ := h
    cases heq
    obtain ⟨hstrip, hisName⟩ := readName?_eq_some_iff.1 hname
    obtain ⟨-, ⟨rfl, rfl⟩ | ⟨rest, rfl, rfl⟩⟩ := Text.splitOn_eq_cons_iff.1 hpieces
    · cases hmore
      rw [hstrip]
      exact .one hisName
    · -- the spaces around the comma are the ends of the first piece and of what follows it
      have hrest : NameList names (Text.stripSpaces rest) := ih hmore
      obtain ⟨lead, before, hlead, hbefore, hpiece⟩ := exists_stripSpaces piece
      obtain ⟨after, trail, hafter, htrail, hvalue⟩ := exists_stripSpaces rest
      rw [hstrip] at hpiece
      generalize Text.stripSpaces rest = core at hrest hvalue
      have hlist : NameList (name :: names) (name ++ before ++ ',' :: (after ++ core)) :=
        .more hisName hbefore hafter hrest
      have hall := stripSpaces_framed hlead htrail hlist.framed
      have heq : piece ++ ',' :: rest =
          lead ++ (name ++ before ++ ',' :: (after ++ core)) ++ trail := by
        rw [hpiece, hvalue]
        simp
      rw [heq, hall]
      exact hlist

theorem readNames?_of_nameList {core : Text} {names : List Text} (h : NameList names core) :
    ∀ lead trail, IsSpaces lead → IsSpaces trail →
      readNames? (lead ++ core ++ trail) = some names := by
  have hcomma : ∀ t : Text, IsSpaces t → ',' ∉ t :=
    fun t ht hmem => absurd (ht ',' hmem) (by decide)
  induction h with
  | @one name hname =>
    intro lead trail hlead htrail
    have hfree : ',' ∉ lead ++ name ++ trail := by
      simp [hcomma lead hlead, hcomma trail htrail, hname.comma_not_mem]
    have hread : readName? (lead ++ name ++ trail) = some name :=
      readName?_eq_some_iff.2 ⟨stripSpaces_framed hlead htrail hname.framed, hname⟩
    rw [readNames?, Text.splitOn_eq_singleton_iff.2 ⟨hfree, rfl⟩]
    exact mapM_readName?_cons_iff.2 ⟨name, [], rfl, hread, rfl⟩
  | @more name before after rest names hname hbefore hafter _ ih =>
    intro lead trail hlead htrail
    have hfree : ',' ∉ lead ++ name ++ before := by
      simp [hcomma lead hlead, hcomma before hbefore, hname.comma_not_mem]
    have hread : readName? (lead ++ name ++ before) = some name :=
      readName?_eq_some_iff.2 ⟨stripSpaces_framed hlead hbefore hname.framed, hname⟩
    have hlater : readNames? (after ++ rest ++ trail) = some names := ih after trail hafter htrail
    have hpieces : Text.splitOn ','
        (lead ++ (name ++ before ++ ',' :: (after ++ rest)) ++ trail) =
        (lead ++ name ++ before) :: Text.splitOn ',' (after ++ rest ++ trail) :=
      Text.splitOn_eq_cons_iff.2 ⟨hfree, .inr ⟨after ++ rest ++ trail, by simp, rfl⟩⟩
    rw [readNames?, hpieces]
    exact mapM_readName?_cons_iff.2 ⟨name, names, rfl, hread, hlater⟩

theorem readNames?_eq_some_iff {value : Text} {names : List Text} :
    readNames? value = some names ↔ NameList names value.stripSpaces := by
  constructor
  · exact nameList_of_readNames?
  · intro h
    obtain ⟨lead, trail, hlead, htrail, hvalue⟩ := exists_stripSpaces value
    rw [hvalue]
    exact readNames?_of_nameList h lead trail hlead htrail

/-! ### Keys and values -/

theorem splitKey?_eq_some_iff {t key value : Text} :
    splitKey? t = some (key, value) ↔ KeyValue t key value := by
  constructor
  · intro h
    obtain ⟨key', rest, hspan⟩ : ∃ key' rest, Text.spanWhile isKeyChar t = (key', rest) :=
      ⟨_, _, rfl⟩
    obtain ⟨ht, hkey, -⟩ := Text.spanWhile_eq_iff.1 hspan
    simp only [splitKey?, hspan] at h
    split at h
    · rename_i behind hcolon
      by_cases hempty : key' = []
      · simp [hempty] at h
      · obtain ⟨-, before, hbefore, hrest⟩ := Text.dropWhile_eq_iff.1 hcolon
        obtain ⟨hhead, after, hafter, hbehind⟩ :=
          Text.dropWhile_eq_iff.1 (rfl : Text.dropSpaces behind = _)
        simp only [List.isEmpty_eq_false_iff.2 hempty, Bool.false_eq_true, if_false,
          Option.some.injEq, Prod.mk.injEq] at h
        obtain ⟨rfl, rfl⟩ := h
        refine ⟨hempty, hkey, hhead, before, after, hbefore, hafter, ?_⟩
        rw [ht, hrest, ← hbehind]
    · cases h
  · intro h
    obtain ⟨hne, hkey, hhead, before, after, hbefore, hafter, ht⟩ := h
    have hspan : Text.spanWhile isKeyChar t = (key, before ++ ':' :: (after ++ value)) := by
      refine Text.spanWhile_eq_iff.2 ⟨ht, hkey, fun c hc => ?_⟩
      cases before with
      | nil =>
        cases hc
        decide
      | cons a before =>
        have hspace : Text.isSpace c = true := by
          rw [← Option.some.inj hc]
          exact hbefore a List.mem_cons_self
        simp only [Text.isSpace, Bool.or_eq_true, beq_iff_eq] at hspace
        rcases hspace with rfl | rfl <;> decide
    have hcolon : Text.dropSpaces (before ++ ':' :: (after ++ value)) = ':' :: (after ++ value) := by
      refine Text.dropWhile_eq_iff.2 ⟨fun c hc => ?_, before, hbefore, rfl⟩
      cases hc
      decide
    have hvalue : Text.dropSpaces (after ++ value) = value :=
      Text.dropWhile_eq_iff.2 ⟨hhead, after, hafter, rfl⟩
    have hempty : key.isEmpty = false := List.isEmpty_eq_false_iff.2 hne
    simp [splitKey?, hspan, hcolon, hvalue, hempty]

theorem KeyValue.stripSpaces_eq {line key value : Text} (h : KeyValue line.trim key value) :
    value.stripSpaces = value := by
  obtain ⟨-, -, hhead, before, after, -, -, hline⟩ := h
  obtain ⟨-, hback, -⟩ := Text.trim_eq_iff.1 hline
  refine Text.stripSpaces_eq_iff.2 ⟨hhead, fun c hc => ?_, [], [], by simp, by simp, by simp⟩
  apply Text.isSpace_of_not_blank
  apply hback
  simp [List.getLast?_append, List.getLast?_cons, hc]

/-! ### Directives -/

/-- The directive that a value makes with the key of another one. -/
def readAlike? (d : Directive) (value : Text) : Option Directive :=
  match d with
  | delimiters _ => (readChars? value).map delimiters
  | skip _ => (readNames? value).map skip
  | contextKey _ => (readName? value).map contextKey
  | attachKey _ => (readName? value).map attachKey
  | failOnRemainder _ => (readSwitch? value).map failOnRemainder
  | strict _ => (readSwitch? value).map strict

theorem ofKey_key (d : Directive) (value : Text) :
    ofKey d.key value =
      match d.readAlike? value with
      | some d' => .ok d'
      | none => .error (.invalidValue d.key d.expected) := by
  cases d with
  | delimiters c =>
    cases h : readChars? value <;> simp [ofKey, key, Text.ofString, readAlike?, expected, h]
  | skip names =>
    cases h : readNames? value <;> simp [ofKey, key, Text.ofString, readAlike?, expected, h]
  | contextKey name | attachKey name =>
    cases h : readName? value <;> simp [ofKey, key, Text.ofString, readAlike?, expected, h]
  | failOnRemainder on | strict on =>
    cases h : readSwitch? value <;> simp [ofKey, key, Text.ofString, readAlike?, expected, h]

theorem ofKey_unknown {key value : Text} (h : ∀ d : Directive, d.key ≠ key) :
    ofKey key value = .error (.unknownKey key) := by
  have hother : ∀ (d : Directive) (s : String), d.key = .ofString s → String.ofList key ≠ s := by
    intro d s hd hs
    apply h d
    rw [hd, ← hs]
    exact String.toList_ofList
  unfold ofKey
  split
  · rename_i hkey
    exact absurd hkey (hother (.delimiters Delimiters.standard.chars) _ rfl)
  · rename_i hkey
    exact absurd hkey (hother (.skip []) _ rfl)
  · rename_i hkey
    exact absurd hkey (hother (.contextKey []) _ rfl)
  · rename_i hkey
    exact absurd hkey (hother (.attachKey []) _ rfl)
  · rename_i hkey
    exact absurd hkey (hother (.failOnRemainder true) _ rfl)
  · rename_i hkey
    exact absurd hkey (hother (.strict true) _ rfl)
  · rfl

theorem readAlike?_congr {d d' : Directive} (h : d'.key = d.key) :
    d'.readAlike? = d.readAlike? := by
  cases d <;> cases d' <;> first | rfl | simp [key, Text.ofString] at h

theorem readAlike?_eq_some_iff {d d' : Directive} {value : Text} :
    d.readAlike? value = some d' ↔ d'.key = d.key ∧ d'.HasValue value.stripSpaces := by
  constructor
  · intro h
    cases d with
    | delimiters c =>
      obtain ⟨c', hc, rfl⟩ := Option.map_eq_some_iff.1 h
      exact ⟨rfl, readChars?_eq_some_iff.1 hc⟩
    | skip names =>
      obtain ⟨names', hnames, rfl⟩ := Option.map_eq_some_iff.1 h
      exact ⟨rfl, .skip (readNames?_eq_some_iff.1 hnames)⟩
    | contextKey name =>
      obtain ⟨name', hname, rfl⟩ := Option.map_eq_some_iff.1 h
      obtain ⟨hstrip, hisName⟩ := readName?_eq_some_iff.1 hname
      rw [hstrip]
      exact ⟨rfl, .contextKey hisName⟩
    | attachKey name =>
      obtain ⟨name', hname, rfl⟩ := Option.map_eq_some_iff.1 h
      obtain ⟨hstrip, hisName⟩ := readName?_eq_some_iff.1 hname
      rw [hstrip]
      exact ⟨rfl, .attachKey hisName⟩
    | failOnRemainder on =>
      obtain ⟨on', hon, rfl⟩ := Option.map_eq_some_iff.1 h
      rw [readSwitch?_eq_some_iff.1 hon]
      exact ⟨rfl, .failOnRemainder on'⟩
    | strict on =>
      obtain ⟨on', hon, rfl⟩ := Option.map_eq_some_iff.1 h
      rw [readSwitch?_eq_some_iff.1 hon]
      exact ⟨rfl, .strict on'⟩
  · intro h
    obtain ⟨hkey, hvalue⟩ := h
    rw [← readAlike?_congr hkey]
    generalize hcore : value.stripSpaces = core at hvalue
    cases hvalue with
    | delimiters hchars h₁ h₂ h₃ =>
      have hvalue := HasValue.delimiters hchars h₁ h₂ h₃
      rw [← hcore] at hvalue
      rw [readAlike?, readChars?_eq_some_iff.2 hvalue, Option.map_some]
    | skip hnames =>
      rw [← hcore] at hnames
      rw [readAlike?, readNames?_eq_some_iff.2 hnames, Option.map_some]
    | contextKey hname =>
      rw [readAlike?, readName?_eq_some_iff.2 ⟨hcore, hname⟩, Option.map_some]
    | attachKey hname =>
      rw [readAlike?, readName?_eq_some_iff.2 ⟨hcore, hname⟩, Option.map_some]
    | failOnRemainder on =>
      rw [readAlike?, readSwitch?_eq_some_iff.2 hcore, Option.map_some]
    | strict on =>
      rw [readAlike?, readSwitch?_eq_some_iff.2 hcore, Option.map_some]

/-! ### Lines -/

/-- A line is read as a directive exactly if it is a way to write it. -/
theorem read_eq_ok_iff {line : Text} {d : Directive} : read line = .ok d ↔ d.Spells line := by
  constructor
  · intro h
    unfold read at h
    split at h
    · rename_i key value hsplit
      have hline := splitKey?_eq_some_iff.1 hsplit
      by_cases hknown : ∃ d' : Directive, d'.key = key
      · obtain ⟨d', rfl⟩ := hknown
        rw [ofKey_key] at h
        split at h
        · rename_i hread
          cases h
          obtain ⟨hkey, hvalue⟩ := readAlike?_eq_some_iff.1 hread
          rw [hline.stripSpaces_eq] at hvalue
          exact ⟨value, hvalue, hkey ▸ hline⟩
        · cases h
      · rw [ofKey_unknown fun d' hd' => hknown ⟨d', hd'⟩] at h
        cases h
    · cases h
  · intro h
    obtain ⟨value, hvalue, hline⟩ := h
    have hread : d.readAlike? value = some d :=
      readAlike?_eq_some_iff.2 ⟨rfl, hline.stripSpaces_eq.symm ▸ hvalue⟩
    simp only [read, splitKey?_eq_some_iff.2 hline, ofKey_key, hread]

theorem read_eq_error_iff {line : Text} {e : DirectiveError} :
    read line = .error e ↔ WrongLine line e := by
  constructor
  · intro h
    unfold read at h
    split at h
    · rename_i key value hsplit
      have hline := splitKey?_eq_some_iff.1 hsplit
      by_cases hknown : ∃ d : Directive, d.key = key
      · obtain ⟨d, rfl⟩ := hknown
        rw [ofKey_key] at h
        split at h
        · cases h
        · rename_i hread
          cases h
          refine .invalidValue hline fun d' hkey hvalue => ?_
          have hsome : d.readAlike? value = some d' :=
            readAlike?_eq_some_iff.2 ⟨hkey, hline.stripSpaces_eq.symm ▸ hvalue⟩
          rw [hread] at hsome
          cases hsome
      · have hunknown : ∀ d : Directive, d.key ≠ key := fun d hd => hknown ⟨d, hd⟩
        rw [ofKey_unknown hunknown] at h
        cases h
        exact .unknownKey hline hunknown
    · rename_i hsplit
      cases h
      refine .notADirective fun key value hline => ?_
      rw [splitKey?_eq_some_iff.2 hline] at hsplit
      cases hsplit
  · intro h
    cases h with
    | notADirective hno =>
      have hsplit : splitKey? line.trim = none := by
        refine Option.eq_none_iff_forall_ne_some.2 fun p hp => ?_
        exact hno p.1 p.2 (splitKey?_eq_some_iff.1 hp)
      simp only [read, hsplit]
    | unknownKey hline hunknown =>
      simp only [read, splitKey?_eq_some_iff.2 hline, ofKey_unknown hunknown]
    | @invalidValue d value hline hno =>
      have hread : d.readAlike? value = none := by
        refine Option.eq_none_iff_forall_ne_some.2 fun d' hd' => ?_
        obtain ⟨hkey, hvalue⟩ := readAlike?_eq_some_iff.1 hd'
        exact hno d' hkey (hline.stripSpaces_eq ▸ hvalue)
      simp only [read, splitKey?_eq_some_iff.2 hline, ofKey_key, hread]

theorem exists_wrongLine_iff {line : Text} :
    (∃ e, WrongLine line e) ↔ ∀ d : Directive, ¬ d.Spells line := by
  simp only [← read_eq_error_iff, ← read_eq_ok_iff]
  cases read line <;> simp

end Directive

end Blueprints
