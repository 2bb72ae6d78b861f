import Blueprints.Text.Basic

/-!
# The grammar of JSON

What a text spells as JSON, without a reader: values with blanks around them, all escapes of strings,
and numbers in any notation.  A relation says that a text begins with a phrase and what follows it.
The main statement is `Reads.unique`: a text spells one value at most.
-/

namespace Blueprints

/-- The values of JSON; a number is kept as it is written, and an object keeps its fields in the order
in which they are written. -/
inductive JsonValue
  | null
  | yes
  | no
  | number (digits : Text)
  | string (t : Text)
  | array (items : List JsonValue)
  | object (fields : List (Text × JsonValue))

namespace JsonValue

/-! ### Strings -/

def shortEscape? (c : Char) : Option Char :=
  match c with
  | '"' => some '"'
  | '\\' => some '\\'
  | '/' => some '/'
  | 'b' => some '\x08'
  | 'f' => some '\x0c'
  | 'n' => some '\n'
  | 'r' => some '\r'
  | 't' => some '\t'
  | _ => none

def hexDigit? (c : Char) : Option Nat :=
  if '0' ≤ c ∧ c ≤ '9' then some (c.toNat - '0'.toNat)
  else if 'a' ≤ c ∧ c ≤ 'f' then some (c.toNat - 'a'.toNat + 10)
  else if 'A' ≤ c ∧ c ≤ 'F' then some (c.toNat - 'A'.toNat + 10)
  else none

def HasCode (digits : Text) (n : Nat) : Prop :=
  ∃ a b c d, digits.map hexDigit? = [some a, some b, some c, some d] ∧
    n = ((a * 16 + b) * 16 + c) * 16 + d

/-- The first half of a character beyond the four-digit codes. -/
def IsHigh (n : Nat) : Prop := 0xD800 ≤ n ∧ n < 0xDC00

def IsLow (n : Nat) : Prop := 0xDC00 ≤ n ∧ n < 0xE000

/-- A text begins with a character of a string. -/
inductive SpellsChar : Text → Char → Text → Prop
  | plain {c : Char} {rest : Text} (hcontrol : 32 ≤ c.toNat) (hquote : c ≠ '"')
      (hbackslash : c ≠ '\\') : SpellsChar (c :: rest) c rest
  | short {code c : Char} {rest : Text} (hcode : shortEscape? code = some c) :
      SpellsChar ('\\' :: code :: rest) c rest
  | long {digits rest : Text} {n : Nat} (hcode : HasCode digits n) (hhigh : ¬ IsHigh n)
      (hlow : ¬ IsLow n) : SpellsChar ('\\' :: 'u' :: (digits ++ rest)) (Char.ofNat n) rest
  | pair {digits digits' rest : Text} {n n' : Nat} (hcode : HasCode digits n) (hhigh : IsHigh n)
      (hcode' : HasCode digits' n') (hlow : IsLow n') :
      SpellsChar ('\\' :: 'u' :: (digits ++ '\\' :: 'u' :: (digits' ++ rest)))
        (Char.ofNat (0x10000 + (n - 0xD800) * 0x400 + (n' - 0xDC00))) rest

/-- A text begins with the characters of a string and the quote behind them. -/
inductive SpellsChars : Text → Text → Text → Prop
  | done {rest : Text} : SpellsChars ('"' :: rest) [] rest
  | next {t u rest s : Text} {c : Char} (hchar : SpellsChar t c u)
      (hmore : SpellsChars u s rest) : SpellsChars t (c :: s) rest

/-! ### Numbers and blanks -/

def IsDigits (t : Text) : Prop := t ≠ [] ∧ ∀ c ∈ t, c.isDigit = true

/-- A number: perhaps a sign, digits without a zero in front, perhaps a fraction and an exponent. -/
def IsNumber (t : Text) : Prop :=
  ∃ sign whole fraction exponent, t = sign ++ whole ++ fraction ++ exponent ∧
    (sign = [] ∨ sign = ['-']) ∧
    IsDigits whole ∧ (whole.head? = some '0' → whole = ['0']) ∧
    (fraction = [] ∨ ∃ digits, IsDigits digits ∧ fraction = '.' :: digits) ∧
    (exponent = [] ∨ ∃ e sign digits, e ∈ ['e', 'E'] ∧ sign ∈ [[], ['+'], ['-']] ∧
      IsDigits digits ∧ exponent = e :: (sign ++ digits))

def blanks : List Char := [' ', '\t', '\n', '\r']

inductive Blank : Text → Text → Prop
  | done {rest : Text} : Blank rest rest
  | next {c : Char} {t rest : Text} (hc : c ∈ blanks) (hmore : Blank t rest) : Blank (c :: t) rest

/-! ### Values -/

/-- The phrases of JSON. -/
inductive Phrase
  | value (v : JsonValue)
  /-- A value with blanks around it. -/
  | padded (v : JsonValue)
  | items (vs : List JsonValue)
  /-- A field of an object with blanks around it. -/
  | field (name : Text) (v : JsonValue)
  | fields (fs : List (Text × JsonValue))

/-- A text begins with a phrase. -/
inductive Spells : Text → Phrase → Text → Prop
  | null {t rest : Text} (ht : t = .ofString "null" ++ rest) : Spells t (.value .null) rest
  | yes {t rest : Text} (ht : t = .ofString "true" ++ rest) : Spells t (.value .yes) rest
  | no {t rest : Text} (ht : t = .ofString "false" ++ rest) : Spells t (.value .no) rest
  | number {t digits rest : Text} (hdigits : IsNumber digits) (ht : t = digits ++ rest) :
      Spells t (.value (.number digits)) rest
  | string {t u s rest : Text} (hchars : SpellsChars u s rest) (ht : t = '"' :: u) :
      Spells t (.value (.string s)) rest
  | emptyArray {t u rest : Text} (hblank : Blank u (']' :: rest)) (ht : t = '[' :: u) :
      Spells t (.value (.array [])) rest
  | array {t u rest : Text} {vs : List JsonValue} (hitems : Spells u (.items vs) (']' :: rest))
      (ht : t = '[' :: u) : Spells t (.value (.array vs)) rest
  | emptyObject {t u rest : Text} (hblank : Blank u ('\x7d' :: rest)) (ht : t = '\x7b' :: u) :
      Spells t (.value (.object [])) rest
  | object {t u rest : Text} {fs : List (Text × JsonValue)}
      (hfields : Spells u (.fields fs) ('\x7d' :: rest)) (ht : t = '\x7b' :: u) :
      Spells t (.value (.object fs)) rest
  | padded {t u w rest : Text} {v : JsonValue} (hbefore : Blank t u)
      (hvalue : Spells u (.value v) w) (hbehind : Blank w rest) : Spells t (.padded v) rest
  | lastItem {t rest : Text} {v : JsonValue} (hvalue : Spells t (.padded v) rest) :
      Spells t (.items [v]) rest
  | item {t u rest : Text} {v : JsonValue} {vs : List JsonValue}
      (hvalue : Spells t (.padded v) (',' :: u)) (hmore : Spells u (.items vs) rest) :
      Spells t (.items (v :: vs)) rest
  | field {t u w x name rest : Text} {v : JsonValue} (hbefore : Blank t ('"' :: u))
      (hname : SpellsChars u name w) (hbehind : Blank w (':' :: x))
      (hvalue : Spells x (.padded v) rest) : Spells t (.field name v) rest
  | lastField {t name rest : Text} {v : JsonValue} (hfield : Spells t (.field name v) rest) :
      Spells t (.fields [(name, v)]) rest
  | nextField {t u name rest : Text} {v : JsonValue} {fs : List (Text × JsonValue)}
      (hfield : Spells t (.field name v) (',' :: u)) (hmore : Spells u (.fields fs) rest) :
      Spells t (.fields ((name, v) :: fs)) rest

/-- A text spells a value, perhaps with blanks around it. -/
def Reads (t : Text) (v : JsonValue) : Prop := Spells t (.padded v) []

/-! ### Characters, strings and blanks -/

theorem HasCode.unique {digits digits' rest rest' : Text} {n n' : Nat} (h : HasCode digits n)
    (h' : HasCode digits' n') (heq : digits ++ rest = digits' ++ rest') :
    n = n' ∧ rest = rest' := by
  obtain ⟨a, b, c, d, hdigits, rfl⟩ := h
  obtain ⟨a', b', c', d', hdigits', rfl⟩ := h'
  have hlength : digits.length = digits'.length := by
    have hfour := congrArg List.length hdigits
    have hfour' := congrArg List.length hdigits'
    rw [List.length_map] at hfour hfour'
    rw [hfour, hfour']
    rfl
  obtain ⟨rfl, hrest⟩ := List.append_inj heq hlength
  rw [hdigits] at hdigits'
  simp only [List.cons.injEq, Option.some.injEq] at hdigits'
  obtain ⟨rfl, rfl, rfl, rfl, -⟩ := hdigits'
  exact ⟨rfl, hrest⟩

theorem SpellsChar.unique {t rest rest' : Text} {c c' : Char} (h : SpellsChar t c rest)
    (h' : SpellsChar t c' rest') : c = c' ∧ rest = rest' := by
  cases h with
  | plain hcontrol hquote hbackslash =>
    cases h' with
    | plain => exact ⟨rfl, rfl⟩
    | short | long | pair => exact absurd rfl hbackslash
  | short hcode =>
    cases h' with
    | plain _ _ hbackslash => exact absurd rfl hbackslash
    | short hcode' =>
      rw [hcode, Option.some.injEq] at hcode'
      exact ⟨hcode', rfl⟩
    | long | pair => cases hcode
  | @long digits _ n hcode hhigh hlow =>
    generalize htail : digits ++ rest = tail at h'
    cases h' with
    | plain _ _ hbackslash => exact absurd rfl hbackslash
    | short hcode' => cases hcode'
    | long hcode' =>
      obtain ⟨rfl, hrest⟩ := hcode.unique hcode' htail
      exact ⟨rfl, hrest⟩
    | pair hcode' hhigh' =>
      obtain ⟨rfl, -⟩ := hcode.unique hcode' htail
      exact absurd hhigh' hhigh
  | @pair digits digits' _ n n' hcode hhigh hcode' hlow =>
    generalize htail : digits ++ '\\' :: 'u' :: (digits' ++ rest) = tail at h'
    cases h' with
    | plain _ _ hbackslash => exact absurd rfl hbackslash
    | short hcode' => cases hcode'
    | long hcode'' hhigh' =>
      obtain ⟨rfl, -⟩ := hcode.unique hcode'' htail
      exact absurd hhigh hhigh'
    | pair hcode₂ _ hcode₂' =>
      obtain ⟨rfl, hmiddle⟩ := hcode.unique hcode₂ htail
      obtain ⟨rfl, hrest⟩ := hcode'.unique hcode₂' (List.cons.inj (List.cons.inj hmiddle).2).2
      exact ⟨rfl, hrest⟩

theorem SpellsChar.not_quote {rest rest' : Text} {c : Char} :
    ¬ SpellsChar ('"' :: rest) c rest' := by
  intro h
  cases h with
  | plain _ hquote => exact hquote rfl

theorem SpellsChars.unique {t s s' rest rest' : Text} (h : SpellsChars t s rest)
    (h' : SpellsChars t s' rest') : s = s' ∧ rest = rest' := by
  induction h generalizing s' with
  | done =>
    cases h' with
    | done => exact ⟨rfl, rfl⟩
    | next hchar => exact absurd hchar SpellsChar.not_quote
  | next hchar _ ih =>
    cases h' with
    | done => exact absurd hchar SpellsChar.not_quote
    | next hchar' hmore' =>
      obtain ⟨rfl, rfl⟩ := hchar.unique hchar'
      obtain ⟨rfl, rfl⟩ := ih hmore'
      exact ⟨rfl, rfl⟩

def NoBlank (t : Text) : Prop := ∀ c, t.head? = some c → c ∉ blanks

theorem Blank.unique {t rest rest' : Text} (h : Blank t rest) (h' : Blank t rest')
    (hrest : NoBlank rest) (hrest' : NoBlank rest') : rest = rest' := by
  induction h with
  | done =>
    cases h' with
    | done => rfl
    | next hc => exact absurd hc (hrest _ rfl)
  | next hc _ ih =>
    cases h' with
    | done => exact absurd hc (hrest' _ rfl)
    | next _ hmore => exact ih hmore hrest

/-! ### What a value begins with, and what follows it -/

/-- The character with which a value begins; a number can begin with a digit instead. -/
def initial : JsonValue → Char
  | null => 'n'
  | yes => 't'
  | no => 'f'
  | number _ => '-'
  | string _ => '"'
  | array _ => '['
  | object _ => '\x7b'

theorem not_isDigit_initial (v : JsonValue) : v.initial.isDigit = false := by
  cases v <;> rfl

def OpensWith (v : JsonValue) (c : Char) : Prop :=
  c = v.initial ∨ v.initial = '-' ∧ c.isDigit = true

theorem OpensWith.not_mem {v : JsonValue} {c : Char} (h : v.OpensWith c) :
    c ∉ blanks ∧ c ∉ [',', ']', '\x7d'] := by
  rcases h with rfl | ⟨-, hdigit⟩
  · cases v <;> simp [initial, blanks]
  · have hall : ∀ c ∈ blanks ++ [',', ']', '\x7d'], c.isDigit = false := by simp [blanks]
    have hnot : c ∉ blanks ++ [',', ']', '\x7d'] := by
      intro hmem
      rw [hall c hmem] at hdigit
      cases hdigit
    exact ⟨fun hmem => hnot (List.mem_append_left _ hmem),
      fun hmem => hnot (List.mem_append_right _ hmem)⟩

theorem IsNumber.cons {t : Text} (h : IsNumber t) :
    ∃ c u, t = c :: u ∧ (c = '-' ∨ c.isDigit = true) := by
  obtain ⟨sign, whole, fraction, exponent, rfl, hsign, ⟨hne, hdigits⟩, -⟩ := h
  rcases hsign with rfl | rfl
  · obtain ⟨c, u, rfl⟩ := List.exists_cons_of_ne_nil hne
    exact ⟨c, _, rfl, .inr (hdigits c List.mem_cons_self)⟩
  · exact ⟨'-', _, rfl, .inl rfl⟩

theorem Spells.opensWith {t rest : Text} {v : JsonValue} (h : Spells t (.value v) rest) :
    ∃ c u, t = c :: u ∧ v.OpensWith c := by
  cases h with
  | null ht | yes ht | no ht | string _ ht | emptyArray _ ht | array _ ht | emptyObject _ ht
  | object _ ht => exact ⟨_, _, ht, .inl rfl⟩
  | number hdigits ht =>
    obtain ⟨c, u, rfl, hc⟩ := hdigits.cons
    exact ⟨c, _, ht, hc.imp_right fun hdigit => ⟨rfl, hdigit⟩⟩

/-- Unless a text begins with a digit, its first character tells the kind of its value. -/
theorem Spells.initial_eq {c : Char} {t rest : Text} {v : JsonValue}
    (h : Spells (c :: t) (.value v) rest) (hc : c.isDigit = false) : v.initial = c := by
  obtain ⟨c', u, hcons, hopens⟩ := h.opensWith
  obtain ⟨rfl, -⟩ := List.cons.inj hcons
  rcases hopens with hinitial | ⟨-, hdigit⟩
  · exact hinitial.symm
  · rw [hc] at hdigit
    cases hdigit

theorem Spells.noBlank {t rest : Text} {v : JsonValue} (h : Spells t (.value v) rest) :
    NoBlank t := by
  obtain ⟨c, u, rfl, hc⟩ := h.opensWith
  intro c' hc'
  cases hc'
  exact hc.not_mem.1

/-- A text is at its end, or the rest of an array or an object follows. -/
def Stops (t : Text) : Prop := ∀ c, t.head? = some c → c ∈ [',', ']', '\x7d']

/-- The same, perhaps with blanks in between. -/
def Ends (t : Text) : Prop := ∀ c, t.head? = some c → c ∈ blanks ∨ c ∈ [',', ']', '\x7d']

theorem Stops.noBlank {t : Text} (h : Stops t) : NoBlank t := by
  have hall : ∀ c ∈ [',', ']', '\x7d'], c ∉ blanks := by simp [blanks]
  exact fun c hc => hall c (h c hc)

theorem Blank.ends {t rest : Text} (h : Blank t rest) (hrest : Stops rest) : Ends t := by
  intro c hc
  cases h with
  | done => exact .inr (hrest c hc)
  | next hblank =>
    cases hc
    exact .inl hblank

def isNumberChar (c : Char) : Bool := c.isDigit || ['-', '+', '.', 'e', 'E'].contains c

theorem IsDigits.isNumberChar {t : Text} (h : IsDigits t) : ∀ c ∈ t, isNumberChar c = true :=
  fun c hc => by simp [JsonValue.isNumberChar, h.2 c hc]

theorem IsNumber.isNumberChar {t : Text} (h : IsNumber t) : ∀ c ∈ t, isNumberChar c = true := by
  obtain ⟨sign, whole, fraction, exponent, rfl, hsign, hwhole, -, hfraction, hexponent⟩ := h
  have hall : ∀ c ∈ ['-', '+', '.', 'e', 'E'], JsonValue.isNumberChar c = true := by
    simp [JsonValue.isNumberChar]
  simp only [List.forall_mem_append]
  refine ⟨⟨⟨?_, hwhole.isNumberChar⟩, ?_⟩, ?_⟩
  · rcases hsign with rfl | rfl <;> simp [hall]
  · rcases hfraction with rfl | ⟨digits, hdigits, rfl⟩
    · simp
    · exact List.forall_mem_cons.2 ⟨rfl, hdigits.isNumberChar⟩
  · rcases hexponent with rfl | ⟨e, sign, digits, he, hsign, hdigits, rfl⟩
    · simp
    · simp only [List.mem_cons, List.not_mem_nil, or_false] at he hsign
      refine List.forall_mem_cons.2 ⟨?_, List.forall_mem_append.2 ⟨?_, hdigits.isNumberChar⟩⟩
      · rcases he with rfl | rfl <;> simp [hall]
      · rcases hsign with rfl | rfl | rfl <;> simp [hall]

theorem IsNumber.spanWhile {digits rest : Text} (h : IsNumber digits) (hrest : Ends rest) :
    Text.spanWhile JsonValue.isNumberChar (digits ++ rest) = (digits, rest) := by
  have hblanks : ∀ c ∈ blanks, JsonValue.isNumberChar c = false := by
    simp [blanks, JsonValue.isNumberChar]
  have hstops : ∀ c ∈ [',', ']', '\x7d'], JsonValue.isNumberChar c = false := by
    simp [JsonValue.isNumberChar]
  exact Text.spanWhile_eq_iff.2
    ⟨rfl, h.isNumberChar, fun c hc => (hrest c hc).elim (hblanks c) (hstops c)⟩

theorem IsNumber.unique {digits digits' rest rest' : Text} (h : IsNumber digits)
    (h' : IsNumber digits') (heq : digits ++ rest = digits' ++ rest') (hrest : Ends rest)
    (hrest' : Ends rest') : digits = digits' ∧ rest = rest' := by
  have hspan := h.spanWhile hrest
  rw [heq, h'.spanWhile hrest', Prod.mk.injEq] at hspan
  exact ⟨hspan.1.symm, hspan.2.symm⟩

/-! ### Values by their first characters -/

section

variable {t rest : Text} {v : JsonValue}

theorem Spells.of_null (h : Spells (.ofString "null" ++ t) (.value v) rest) :
    v = .null ∧ t = rest := by
  have hinitial : v.initial = 'n' := h.initial_eq rfl
  cases v <;> cases hinitial
  cases h with
  | null ht => exact ⟨rfl, List.append_cancel_left ht⟩

theorem Spells.of_true (h : Spells (.ofString "true" ++ t) (.value v) rest) :
    v = .yes ∧ t = rest := by
  have hinitial : v.initial = 't' := h.initial_eq rfl
  cases v <;> cases hinitial
  cases h with
  | yes ht => exact ⟨rfl, List.append_cancel_left ht⟩

theorem Spells.of_false (h : Spells (.ofString "false" ++ t) (.value v) rest) :
    v = .no ∧ t = rest := by
  have hinitial : v.initial = 'f' := h.initial_eq rfl
  cases v <;> cases hinitial
  cases h with
  | no ht => exact ⟨rfl, List.append_cancel_left ht⟩

theorem Spells.of_number {digits : Text} (hdigits : IsNumber digits)
    (h : Spells (digits ++ t) (.value v) rest) :
    ∃ digits', v = .number digits' ∧ IsNumber digits' ∧ digits ++ t = digits' ++ rest := by
  obtain ⟨c, u, rfl, hc⟩ := hdigits.cons
  have hinitial : v.initial = '-' := by
    obtain ⟨c', u', hcons, hopens⟩ := h.opensWith
    obtain ⟨rfl, -⟩ := List.cons.inj hcons
    rcases hopens with rfl | ⟨hminus, -⟩
    · exact hc.resolve_right (by rw [v.not_isDigit_initial]; exact Bool.false_ne_true)
    · exact hminus
  cases v <;> cases hinitial
  cases h with
  | number hdigits' ht => exact ⟨_, rfl, hdigits', ht⟩

theorem Spells.of_quote (h : Spells ('"' :: t) (.value v) rest) :
    ∃ s, v = .string s ∧ SpellsChars t s rest := by
  have hinitial : v.initial = '"' := h.initial_eq rfl
  cases v <;> cases hinitial
  cases h with
  | string hchars ht =>
    cases ht
    exact ⟨_, rfl, hchars⟩

theorem Spells.of_bracket (h : Spells ('[' :: t) (.value v) rest) :
    ∃ vs, v = .array vs ∧
      (vs = [] ∧ Blank t (']' :: rest) ∨ Spells t (.items vs) (']' :: rest)) := by
  have hinitial : v.initial = '[' := h.initial_eq rfl
  cases v <;> cases hinitial
  cases h with
  | emptyArray hblank ht =>
    cases ht
    exact ⟨_, rfl, .inl ⟨rfl, hblank⟩⟩
  | array hitems ht =>
    cases ht
    exact ⟨_, rfl, .inr hitems⟩

theorem Spells.of_brace (h : Spells ('\x7b' :: t) (.value v) rest) :
    ∃ fs, v = .object fs ∧
      (fs = [] ∧ Blank t ('\x7d' :: rest) ∨ Spells t (.fields fs) ('\x7d' :: rest)) := by
  have hinitial : v.initial = '\x7b' := h.initial_eq rfl
  cases v <;> cases hinitial
  cases h with
  | emptyObject hblank ht =>
    cases ht
    exact ⟨_, rfl, .inl ⟨rfl, hblank⟩⟩
  | object hfields ht =>
    cases ht
    exact ⟨_, rfl, .inr hfields⟩

end

/-! ### Arrays and objects -/

theorem noBlank_cons {c : Char} {t : Text} (hc : c ∉ blanks) : NoBlank (c :: t) := by
  intro c' hc'
  cases hc'
  exact hc

theorem Blank.cons_inj {c c' : Char} {t rest rest' : Text} (h : Blank t (c :: rest))
    (h' : Blank t (c' :: rest')) (hc : c ∉ blanks) (hc' : c' ∉ blanks) : c = c' ∧ rest = rest' :=
  List.cons.inj (h.unique h' (noBlank_cons hc) (noBlank_cons hc'))

theorem Spells.not_blank_items {t rest rest' : Text} {vs : List JsonValue}
    (h : Spells t (.items vs) rest) : ¬ Blank t (']' :: rest') := by
  intro hblank
  have hpadded : ∀ {v rest}, ¬ Spells t (.padded v) rest := by
    intro v rest h
    cases h with
    | padded hbefore hvalue =>
      obtain ⟨c, u, rfl, hc⟩ := hvalue.opensWith
      obtain ⟨rfl, -⟩ := hbefore.cons_inj hblank hc.not_mem.1 (by decide)
      exact hc.not_mem.2 (by decide)
  cases h with
  | lastItem hvalue => exact hpadded hvalue
  | item hvalue => exact hpadded hvalue

theorem Spells.not_blank_fields {t rest rest' : Text} {fs : List (Text × JsonValue)}
    (h : Spells t (.fields fs) rest) : ¬ Blank t ('\x7d' :: rest') := by
  intro hblank
  have hfield : ∀ {name v rest}, ¬ Spells t (.field name v) rest := by
    intro name v rest h
    cases h with
    | field hbefore => cases (hbefore.cons_inj hblank (by decide) (by decide)).1
  cases h with
  | lastField h => exact hfield h
  | nextField h => exact hfield h

/-! ### One reading -/

namespace Phrase

def SameKind : Phrase → Phrase → Prop
  | value _, value _ | padded _, padded _ | items _, items _ | field _ _, field _ _
  | fields _, fields _ => True
  | _, _ => False

theorem SameKind.value {v : JsonValue} {p : Phrase} (h : SameKind (.value v) p) :
    ∃ v', p = .value v' := by
  cases p with
  | value v' => exact ⟨v', rfl⟩
  | _ => cases h

/-- What may follow a phrase. -/
def Followed : Phrase → Text → Prop
  | value _, rest => Ends rest
  | padded _, rest | field _ _, rest => Stops rest
  | items _, rest => rest.head? = some ']'
  | fields _, rest => rest.head? = some '\x7d'

end Phrase

theorem stops_of_head? {t : Text} {c : Char} (h : t.head? = some c)
    (hc : c ∈ [',', ']', '\x7d']) : Stops t := by
  intro c' hc'
  rw [h] at hc'
  cases hc'
  exact hc

/-- A text begins with one phrase of a kind at most. -/
theorem Spells.unique {t rest rest' : Text} {p p' : Phrase} (h : Spells t p rest)
    (h' : Spells t p' rest') (hkind : p.SameKind p') (hrest : p.Followed rest)
    (hrest' : p'.Followed rest') : p = p' ∧ rest = rest' := by
  have hcomma : ∀ u, Stops (',' :: u) := fun u => stops_of_head? rfl (by decide)
  induction h generalizing p' rest' with
  | null ht =>
    obtain ⟨v, rfl⟩ := hkind.value
    rw [ht] at h'
    obtain ⟨rfl, rfl⟩ := h'.of_null
    exact ⟨rfl, rfl⟩
  | yes ht =>
    obtain ⟨v, rfl⟩ := hkind.value
    rw [ht] at h'
    obtain ⟨rfl, rfl⟩ := h'.of_true
    exact ⟨rfl, rfl⟩
  | no ht =>
    obtain ⟨v, rfl⟩ := hkind.value
    rw [ht] at h'
    obtain ⟨rfl, rfl⟩ := h'.of_false
    exact ⟨rfl, rfl⟩
  | number hdigits ht =>
    obtain ⟨v, rfl⟩ := hkind.value
    rw [ht] at h'
    obtain ⟨digits', rfl, hdigits', heq⟩ := h'.of_number hdigits
    obtain ⟨rfl, rfl⟩ := hdigits.unique hdigits' heq hrest hrest'
    exact ⟨rfl, rfl⟩
  | string hchars ht =>
    obtain ⟨v, rfl⟩ := hkind.value
    rw [ht] at h'
    obtain ⟨s', rfl, hchars'⟩ := h'.of_quote
    obtain ⟨rfl, rfl⟩ := hchars.unique hchars'
    exact ⟨rfl, rfl⟩
  | emptyArray hblank ht =>
    obtain ⟨v, rfl⟩ := hkind.value
    rw [ht] at h'
    obtain ⟨vs', rfl, ⟨rfl, hblank'⟩ | hitems'⟩ := h'.of_bracket
    · exact ⟨rfl, (hblank.cons_inj hblank' (by decide) (by decide)).2⟩
    · exact absurd hblank hitems'.not_blank_items
  | array hitems ht ih =>
    obtain ⟨v, rfl⟩ := hkind.value
    rw [ht] at h'
    obtain ⟨vs', rfl, ⟨rfl, hblank'⟩ | hitems'⟩ := h'.of_bracket
    · exact absurd hblank' hitems.not_blank_items
    · obtain ⟨hvs, heq⟩ := ih hitems' trivial rfl rfl
      cases hvs
      exact ⟨rfl, (List.cons.inj heq).2⟩
  | emptyObject hblank ht =>
    obtain ⟨v, rfl⟩ := hkind.value
    rw [ht] at h'
    obtain ⟨fs', rfl, ⟨rfl, hblank'⟩ | hfields'⟩ := h'.of_brace
    · exact ⟨rfl, (hblank.cons_inj hblank' (by decide) (by decide)).2⟩
    · exact absurd hblank hfields'.not_blank_fields
  | object hfields ht ih =>
    obtain ⟨v, rfl⟩ := hkind.value
    rw [ht] at h'
    obtain ⟨fs', rfl, ⟨rfl, hblank'⟩ | hfields'⟩ := h'.of_brace
    · exact absurd hblank' hfields.not_blank_fields
    · obtain ⟨hfs, heq⟩ := ih hfields' trivial rfl rfl
      cases hfs
      exact ⟨rfl, (List.cons.inj heq).2⟩
  | padded hbefore hvalue hbehind ih =>
    cases h' with
    | padded hbefore' hvalue' hbehind' =>
      obtain rfl := hbefore.unique hbefore' hvalue.noBlank hvalue'.noBlank
      obtain ⟨hv, rfl⟩ := ih hvalue' trivial (hbehind.ends hrest) (hbehind'.ends hrest')
      cases hv
      exact ⟨rfl, hbehind.unique hbehind' hrest.noBlank hrest'.noBlank⟩
    | _ => cases hkind
  | lastItem hvalue ih =>
    have hstops := stops_of_head? hrest (by decide)
    cases h' with
    | lastItem hvalue' =>
      obtain ⟨hv, rfl⟩ := ih hvalue' trivial hstops (stops_of_head? hrest' (by decide))
      cases hv
      exact ⟨rfl, rfl⟩
    | item hvalue' =>
      obtain ⟨-, rfl⟩ := ih hvalue' trivial hstops (hcomma _)
      cases hrest
    | _ => cases hkind
  | item hvalue hmore ih ihmore =>
    cases h' with
    | lastItem hvalue' =>
      obtain ⟨-, rfl⟩ := ih hvalue' trivial (hcomma _) (stops_of_head? hrest' (by decide))
      cases hrest'
    | item hvalue' hmore' =>
      obtain ⟨hv, heq⟩ := ih hvalue' trivial (hcomma _) (hcomma _)
      cases hv
      cases heq
      obtain ⟨hvs, rfl⟩ := ihmore hmore' trivial hrest hrest'
      cases hvs
      exact ⟨rfl, rfl⟩
    | _ => cases hkind
  | field hbefore hname hbehind hvalue ih =>
    cases h' with
    | field hbefore' hname' hbehind' hvalue' =>
      obtain ⟨-, rfl⟩ := hbefore.cons_inj hbefore' (by decide) (by decide)
      obtain ⟨rfl, rfl⟩ := hname.unique hname'
      obtain ⟨-, rfl⟩ := hbehind.cons_inj hbehind' (by decide) (by decide)
      obtain ⟨hv, rfl⟩ := ih hvalue' trivial hrest hrest'
      cases hv
      exact ⟨rfl, rfl⟩
    | _ => cases hkind
  | lastField hfield ih =>
    have hstops := stops_of_head? hrest (by decide)
    cases h' with
    | lastField hfield' =>
      obtain ⟨hf, rfl⟩ := ih hfield' trivial hstops (stops_of_head? hrest' (by decide))
      cases hf
      exact ⟨rfl, rfl⟩
    | nextField hfield' =>
      obtain ⟨-, rfl⟩ := ih hfield' trivial hstops (hcomma _)
      cases hrest
    | _ => cases hkind
  | nextField hfield hmore ih ihmore =>
    cases h' with
    | lastField hfield' =>
      obtain ⟨-, rfl⟩ := ih hfield' trivial (hcomma _) (stops_of_head? hrest' (by decide))
      cases hrest'
    | nextField hfield' hmore' =>
      obtain ⟨hf, heq⟩ := ih hfield' trivial (hcomma _) (hcomma _)
      cases hf
      cases heq
      obtain ⟨hfs, rfl⟩ := ihmore hmore' trivial hrest hrest'
      cases hfs
      exact ⟨rfl, rfl⟩
    | _ => cases hkind

theorem Reads.unique {t : Text} {v v' : JsonValue} (h : Reads t v) (h' : Reads t v') : v = v' := by
  have hend : Stops [] := fun c hc => by cases hc
  obtain ⟨hv, -⟩ := Spells.unique h h' trivial hend hend
  cases hv
  rfl

end JsonValue

end Blueprints
