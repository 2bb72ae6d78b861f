import Blueprints.Proofs.DirectiveLines
import Blueprints.Rules.RuleFile

/-!
# The grammar of rules files

Which files are read, and as what; and which line is blamed in every other file.  The main statement
is `rules_follow_grammar`.
-/

namespace Blueprints.RuleFile

/-- A line above the divider that has to be a directive: neither blank nor a comment. -/
def IsEntry (line : Text) : Prop := line.trimFront ≠ [] ∧ line.trimFront.head? ≠ some '#'

/-- The lines above and below the first line that is `---` but for blanks. -/
structure Divided (lines header body : List Text) : Prop where
  eq : ∃ divider, divider.trim = ['-', '-', '-'] ∧ lines = header ++ divider :: body
  first : ∀ line ∈ header, line.trim ≠ ['-', '-', '-']

/-- The lines of a header and the directives they spell, in order. -/
inductive Header : List Text → List Directive → Prop
  | nil : Header [] []
  | remark {line : Text} {lines : List Text} {ds : List Directive} :
    ¬ IsEntry line → Header lines ds → Header (line :: lines) ds
  | entry {line : Text} {d : Directive} {lines : List Text} {ds : List Directive} :
    IsEntry line → d.Spells line → Header lines ds → Header (line :: lines) (d :: ds)

/-- The first line of a header that has to be a directive and is none.  The first line of the header
has the number `number`. -/
inductive FirstWrong (number : Nat) : List Text → RuleError → Prop
  | intro {before after : List Text} {line : Text} {cause : DirectiveError} :
    (∀ l ∈ before, IsEntry l → ∃ d : Directive, d.Spells l) → IsEntry line →
    Directive.WrongLine line cause →
    FirstWrong number (before ++ line :: after) ⟨number + before.length, cause⟩

/-! ### The divider -/

theorem isDivider_iff {line : Text} : isDivider line = true ↔ line.trim = ['-', '-', '-'] :=
  beq_iff_eq

theorem isDivider_eq_false_iff {line : Text} :
    isDivider line = false ↔ line.trim ≠ ['-', '-', '-'] :=
  beq_eq_false_iff_ne

theorem splitHeader?_append {header : List Text} (divider : Text) (body : List Text)
    (hheader : ∀ line ∈ header, isDivider line = false) (hdivider : isDivider divider = true) :
    splitHeader? (header ++ divider :: body) = some (header, body) := by
  induction header with
  | nil => simp [splitHeader?, hdivider]
  | cons line header ih =>
    have hline := hheader line List.mem_cons_self
    have hmore := ih fun l hl => hheader l (List.mem_cons_of_mem line hl)
    simp [splitHeader?, hline, hmore]

theorem splitHeader?_eq_some_iff {lines header body : List Text} :
    splitHeader? lines = some (header, body) ↔ Divided lines header body := by
  constructor
  · intro h
    induction lines generalizing header with
    | nil => cases h
    | cons line lines ih =>
      unfold splitHeader? at h
      split at h
      · rename_i hdivider
        cases h
        exact ⟨⟨line, isDivider_iff.1 hdivider, rfl⟩, by simp⟩
      · rename_i hother
        obtain ⟨⟨header', body'⟩, hsplit, heq⟩ := Option.map_eq_some_iff.1 h
        cases heq
        obtain ⟨⟨divider, hdivider, rfl⟩, hfirst⟩ := ih hsplit
        refine ⟨⟨divider, hdivider, rfl⟩, List.forall_mem_cons.2 ⟨?_, hfirst⟩⟩
        exact fun hdash => hother (isDivider_iff.2 hdash)
  · intro h
    obtain ⟨⟨divider, hdivider, rfl⟩, hfirst⟩ := h
    exact splitHeader?_append divider body (fun line hl => isDivider_eq_false_iff.2 (hfirst line hl))
      (isDivider_iff.2 hdivider)

theorem splitHeader?_eq_none_iff {lines : List Text} :
    splitHeader? lines = none ↔ ∀ line ∈ lines, line.trim ≠ ['-', '-', '-'] := by
  induction lines with
  | nil => simp [splitHeader?]
  | cons line lines ih =>
    rw [List.forall_mem_cons, ← ih, ← isDivider_eq_false_iff]
    cases h : isDivider line <;> simp [splitHeader?, h]

theorem undivided_or_divided (lines : List Text) :
    (∀ line ∈ lines, line.trim ≠ ['-', '-', '-']) ∨ ∃ header body, Divided lines header body := by
  cases h : splitHeader? lines with
  | none => exact .inl (splitHeader?_eq_none_iff.1 h)
  | some parts => exact .inr ⟨parts.1, parts.2, splitHeader?_eq_some_iff.1 h⟩

/-! ### Lines that are directives or dividers -/

theorem isEntry_of_trim {line : Text} {c : Char} (h : line.trim.head? = some c) (hc : c ≠ '#') :
    IsEntry line := by
  have hfront : line.trimFront.head? = some c := by
    obtain ⟨trail, htrail⟩ := Text.exists_trimFront_eq line
    rw [htrail, List.head?_append, h, Option.some_or]
  constructor
  · intro hnil
    rw [hnil] at hfront
    cases hfront
  · rw [hfront]
    simpa using hc

theorem isEntry_of_divider {line : Text} (h : line.trim = ['-', '-', '-']) : IsEntry line :=
  isEntry_of_trim (c := '-') (by rw [h]; rfl) (by decide)

theorem isEntry_of_spells {line : Text} {d : Directive} (h : d.Spells line) : IsEntry line := by
  obtain ⟨value, -, hline⟩ := h
  obtain ⟨before, after, -, -, heq⟩ := hline.eq
  obtain ⟨c, more, hkey⟩ := List.exists_cons_of_ne_nil hline.key_ne
  refine isEntry_of_trim (c := c) (by rw [heq, hkey]; rfl) fun hsharp => ?_
  have hchar := hline.keyChar c (by rw [hkey]; exact List.mem_cons_self)
  rw [hsharp] at hchar
  exact absurd hchar (by decide)

theorem not_divider_of_spells {line : Text} {d : Directive} (h : d.Spells line) :
    line.trim ≠ ['-', '-', '-'] := by
  obtain ⟨value, -, hline⟩ := h
  obtain ⟨before, after, -, -, heq⟩ := hline.eq
  have hcolon : ':' ∈ line.trim := by simp [heq]
  intro hdash
  rw [hdash] at hcolon
  simp at hcolon

/-! ### The header -/

theorem isHeaderComment_eq_false_iff {line : Text} : isHeaderComment line = false ↔ IsEntry line := by
  unfold isHeaderComment IsEntry
  cases line.trimFront <;> simp

theorem isHeaderComment_iff {line : Text} : isHeaderComment line = true ↔ ¬ IsEntry line := by
  rw [← isHeaderComment_eq_false_iff, Bool.not_eq_false]

theorem readHeader_remark {line : Text} (number : Nat) (lines : List Text) (h : ¬ IsEntry line) :
    readHeader number (line :: lines) = readHeader (number + 1) lines := by
  rw [readHeader, if_pos (isHeaderComment_iff.2 h)]

theorem readHeader_entry {line : Text} {d : Directive} (number : Nat) (lines : List Text)
    (h : IsEntry line) (hd : d.Spells line) :
    readHeader number (line :: lines) = (readHeader (number + 1) lines).map (d :: ·) := by
  rw [readHeader, isHeaderComment_eq_false_iff.2 h, Directive.read_eq_ok_iff.2 hd]
  rfl

theorem readHeader_wrong {line : Text} {cause : DirectiveError} (number : Nat) (lines : List Text)
    (h : IsEntry line) (hwrong : Directive.WrongLine line cause) :
    readHeader number (line :: lines) = .error ⟨number, cause⟩ := by
  rw [readHeader, isHeaderComment_eq_false_iff.2 h, Directive.read_eq_error_iff.2 hwrong]
  rfl

theorem readHeader_of_header {header : List Text} {ds : List Directive} (h : Header header ds)
    (number : Nat) : readHeader number header = .ok ds := by
  induction h generalizing number with
  | nil => rfl
  | remark hremark _ ih => rw [readHeader_remark _ _ hremark, ih]
  | entry hentry hd _ ih =>
    rw [readHeader_entry _ _ hentry hd, ih]
    rfl

theorem readHeader_of_firstWrong {number : Nat} {header : List Text} {e : RuleError}
    (h : FirstWrong number header e) : readHeader number header = .error e := by
  obtain @⟨before, after, line, cause, hbefore, hentry, hwrong⟩ := h
  induction before generalizing number with
  | nil => exact readHeader_wrong number after hentry hwrong
  | cons l before ih =>
    obtain ⟨hl, hbefore⟩ := List.forall_mem_cons.1 hbefore
    have hmore := @ih (number + 1) hbefore
    have hnumber : number + 1 + before.length = number + (l :: before).length :=
      Nat.succ_add_eq_add_succ number before.length
    rw [hnumber] at hmore
    by_cases hremark : IsEntry l
    · obtain ⟨d, hd⟩ := hl hremark
      rw [List.cons_append, readHeader_entry _ _ hremark hd, hmore]
      rfl
    · rw [List.cons_append, readHeader_remark _ _ hremark, hmore]

theorem FirstWrong.here {number : Nat} {line : Text} {cause : DirectiveError} (lines : List Text)
    (hentry : IsEntry line) (hwrong : Directive.WrongLine line cause) :
    FirstWrong number (line :: lines) ⟨number, cause⟩ :=
  @intro number [] lines line cause (by simp) hentry hwrong

theorem FirstWrong.later {number : Nat} {line : Text} {lines : List Text} {e : RuleError}
    (hline : IsEntry line → ∃ d : Directive, d.Spells line) (h : FirstWrong (number + 1) lines e) :
    FirstWrong number (line :: lines) e := by
  obtain @⟨before, after, l, cause, hbefore, hentry, hwrong⟩ := h
  have hnumber : number + 1 + before.length = number + (line :: before).length :=
    Nat.succ_add_eq_add_succ number before.length
  rw [hnumber]
  exact @intro number (line :: before) after l cause
    (List.forall_mem_cons.2 ⟨hline, hbefore⟩) hentry hwrong

theorem header_or_firstWrong (header : List Text) (number : Nat) :
    (∃ ds, Header header ds) ∨ ∃ e, FirstWrong number header e := by
  induction header generalizing number with
  | nil => exact .inl ⟨[], .nil⟩
  | cons line lines ih =>
    by_cases hentry : IsEntry line
    · by_cases hd : ∃ d : Directive, d.Spells line
      · rcases ih (number + 1) with ⟨ds, hds⟩ | ⟨e, hwrong⟩
        · obtain ⟨d, hd⟩ := hd
          exact .inl ⟨d :: ds, .entry hentry hd hds⟩
        · exact .inr ⟨e, hwrong.later fun _ => hd⟩
      · have hno : ∀ d : Directive, ¬ d.Spells line := fun d h => hd ⟨d, h⟩
        obtain ⟨cause, hwrong⟩ := Directive.exists_wrongLine_iff.2 hno
        exact .inr ⟨⟨number, cause⟩, .here lines hentry hwrong⟩
    · rcases ih (number + 1) with ⟨ds, hds⟩ | ⟨e, hwrong⟩
      · exact .inl ⟨ds, .remark hentry hds⟩
      · exact .inr ⟨e, hwrong.later fun h => absurd h hentry⟩

theorem readHeader_eq_ok_iff {header : List Text} {ds : List Directive} {number : Nat} :
    readHeader number header = .ok ds ↔ Header header ds := by
  constructor
  · intro h
    rcases header_or_firstWrong header number with ⟨ds', hds⟩ | ⟨e, hwrong⟩
    · rw [readHeader_of_header hds] at h
      cases h
      exact hds
    · rw [readHeader_of_firstWrong hwrong] at h
      cases h
  · intro h
    exact readHeader_of_header h number

theorem readHeader_eq_error_iff {header : List Text} {e : RuleError} {number : Nat} :
    readHeader number header = .error e ↔ FirstWrong number header e := by
  constructor
  · intro h
    rcases header_or_firstWrong header number with ⟨ds, hds⟩ | ⟨e', hwrong⟩
    · rw [readHeader_of_header hds] at h
      cases h
    · rw [readHeader_of_firstWrong hwrong] at h
      cases h
      exact hwrong
  · exact readHeader_of_firstWrong

/-- A line is blamed as soon as one of them is no directive. -/
theorem exists_firstWrong_iff {header : List Text} {number : Nat} :
    (∃ e, FirstWrong number header e) ↔
      ∃ line ∈ header, IsEntry line ∧ ∀ d : Directive, ¬ d.Spells line := by
  constructor
  · intro h
    obtain ⟨e, hbefore, hentry, hwrong⟩ := h
    exact ⟨_, by simp, hentry, Directive.exists_wrongLine_iff.1 ⟨_, hwrong⟩⟩
  · intro h
    obtain ⟨line, hmem, hentry, hno⟩ := h
    rcases header_or_firstWrong header number with ⟨ds, hds⟩ | hwrong
    · exfalso
      induction hds with
      | nil => cases hmem
      | remark hremark _ ih =>
        rcases List.mem_cons.1 hmem with rfl | hmem
        · exact hremark hentry
        · exact ih hmem
      | entry _ hd _ ih =>
        rcases List.mem_cons.1 hmem with rfl | hmem
        · exact hno _ hd
        · exact ih hmem
    · exact hwrong

/-! ### Files -/

theorem read_of_undivided {content : Text}
    (h : ∀ line ∈ content.lines, line.trim ≠ ['-', '-', '-']) :
    read content = .ok { blueprints := readBody content.lines } := by
  rw [read, splitHeader?_eq_none_iff.2 h]

theorem read_of_divided {content : Text} {header body : List Text}
    (h : Divided content.lines header body) :
    read content = (readHeader 1 header).map fun ds => ⟨ds, readBody body⟩ := by
  rw [read, splitHeader?_eq_some_iff.2 h]

theorem read_eq_error_iff {content : Text} {header body : List Text} {e : RuleError}
    (h : Divided content.lines header body) :
    read content = .error e ↔ FirstWrong 1 header e := by
  rw [read_of_divided h, ← readHeader_eq_error_iff]
  cases readHeader 1 header <;> simp [Except.map]

theorem read_eq_ok_iff {content : Text} {header body : List Text} {f : RuleFile}
    (h : Divided content.lines header body) :
    read content = .ok f ↔ Header header f.directives ∧ f.blueprints = readBody body := by
  rw [read_of_divided h, ← @readHeader_eq_ok_iff header _ 1]
  cases readHeader 1 header with
  | error e => simp [Except.map]
  | ok ds =>
    obtain ⟨ds', ts⟩ := f
    simp [Except.map, eq_comm]

/-- A line is a directive exactly if it spells one.  A file without a divider is all blueprints.  In any
other file the lines above the first divider are the header.  It cannot be read exactly if a line of the
header is neither blank nor a comment nor a directive, and the first such line is the one to blame;
otherwise its directives are those of the header, in order. -/
theorem rules_follow_grammar (content : Text) :
    (∀ (line : Text) (d : Directive), Directive.read line = .ok d ↔ d.Spells line) ∧
    (((∀ line ∈ content.lines, line.trim ≠ ['-', '-', '-']) ∧
        read content = .ok ⟨[], readBody content.lines⟩) ∨
      ∃ header body, Divided content.lines header body ∧
        ((∃ e, read content = .error e) ↔
          ∃ line ∈ header, IsEntry line ∧ ∀ d : Directive, ¬ d.Spells line) ∧
        (∀ e, read content = .error e ↔ FirstWrong 1 header e) ∧
        ∀ f, read content = .ok f ↔
          Header header f.directives ∧ f.blueprints = readBody body) := by
  refine ⟨fun _ _ => Directive.read_eq_ok_iff, ?_⟩
  rcases undivided_or_divided content.lines with hnone | ⟨header, body, hdivided⟩
  · exact .inl ⟨hnone, read_of_undivided hnone⟩
  · have hblamed : (∃ e, read content = .error e) ↔
        ∃ line ∈ header, IsEntry line ∧ ∀ d : Directive, ¬ d.Spells line := by
      simp only [read_eq_error_iff hdivided]
      exact exists_firstWrong_iff
    exact .inr ⟨header, body, hdivided, hblamed, fun _ => read_eq_error_iff hdivided,
      fun _ => read_eq_ok_iff hdivided⟩

end Blueprints.RuleFile
