import Blueprints.Proofs.RuleFiles

/-!
# The layout of rules files

Blank lines, comments and the way lines end say nothing in a rules file: only the line number of an
error tells where they stand.  And what looks like the beginning of a placeholder is never taken for
a comment.  The main statement is `layout_carries_no_meaning`.
-/

namespace Blueprints.RuleFile

/-! ### Lines without meaning -/

/-- A line without meaning wherever it stands: blank, or a comment with a space behind the sign. -/
def IsRemark (line : Text) : Prop := (∀ c ∈ line, Text.isBlank c = true) ∨ ['#', ' '] <+: line

theorem IsRemark.dropReturn {line : Text} (h : IsRemark line) : IsRemark line.dropReturn := by
  rcases h with hblank | hsharp
  · exact .inl fun c hc => hblank c (Text.mem_of_mem_dropReturn hc)
  · exact .inr (Text.prefix_dropReturn hsharp (by decide))

theorem trimFront_of_blank {line : Text} (h : ∀ c ∈ line, Text.isBlank c = true) :
    line.trimFront = [] :=
  Text.dropWhile_eq_iff.2 ⟨by simp, line, h, by simp⟩

theorem trimFront_of_sharp {line : Text} (h : ['#'] <+: line) : line.trimFront = line := by
  obtain ⟨rest, rfl⟩ := h
  exact Text.dropWhile_eq_self ⟨'#', rfl, by decide +kernel⟩

theorem not_isEntry_of_sharp {line : Text} (h : ['#'] <+: line) : ¬ IsEntry line := by
  intro hentry
  apply hentry.2
  rw [trimFront_of_sharp h]
  obtain ⟨rest, rfl⟩ := h
  rfl

theorem IsRemark.not_isEntry {line : Text} (h : IsRemark line) : ¬ IsEntry line := by
  rcases h with hblank | hsharp
  · exact fun hentry => hentry.1 (trimFront_of_blank hblank)
  · obtain ⟨rest, rfl⟩ := hsharp
    exact not_isEntry_of_sharp ⟨' ' :: rest, rfl⟩

theorem IsRemark.isComment {line : Text} (h : IsRemark line) : isComment line = true := by
  rcases h with hblank | hsharp
  · rw [RuleFile.isComment, trimFront_of_blank hblank]
  · obtain ⟨rest, rfl⟩ := hsharp
    have hfront : Text.trimFront (['#', ' '] ++ rest) = ['#', ' '] ++ rest :=
      trimFront_of_sharp ⟨' ' :: rest, rfl⟩
    rw [RuleFile.isComment, hfront]
    rfl

/-! ### One more line in a header -/

/-- The error in a file in which a line was put below the first `above` lines. -/
def moveDown (above : Nat) (e : RuleError) : RuleError :=
  if above < e.line then { e with line := e.line + 1 } else e

theorem mapError_map {α β : Type} (f : α → β) (g : RuleError → RuleError)
    (x : Except RuleError α) : (x.map f).mapError g = (x.mapError g).map f := by
  cases x <;> rfl

theorem moveDown_of_lt {above number : Nat} (cause : DirectiveError) (h : above < number) :
    moveDown above ⟨number, cause⟩ = ⟨number + 1, cause⟩ :=
  if_pos h

theorem moveDown_of_le {above : Nat} {e : RuleError} (h : e.line ≤ above) : moveDown above e = e :=
  if_neg (Nat.not_lt_of_le h)

theorem mapError_error (f : RuleError → RuleError) (e : RuleError) :
    (Except.error e : Except RuleError (List Directive)).mapError f = .error (f e) := rfl

theorem readHeader_moved {above number : Nat} (lines : List Text) (h : above < number) :
    readHeader (number + 1) lines = (readHeader number lines).mapError (moveDown above) := by
  induction lines generalizing number with
  | nil => rfl
  | cons line lines ih =>
    have hmore := @ih (number + 1) (by omega)
    unfold readHeader
    split
    · exact hmore
    · split
      · rw [mapError_error, moveDown_of_lt _ h]
      · rw [hmore, mapError_map]

theorem readHeader_inserted {line : Text} (front back : List Text) (number : Nat)
    (h : ¬ IsEntry line) :
    readHeader (number + 1) (front ++ line :: back) =
      (readHeader (number + 1) (front ++ back)).mapError (moveDown (number + front.length)) := by
  induction front generalizing number with
  | nil =>
    rw [List.nil_append, readHeader_remark _ _ h]
    exact readHeader_moved back (Nat.lt_succ_self number)
  | cons l front ih =>
    have hmore := ih (number + 1)
    have hlength : number + 1 + front.length = number + (l :: front).length :=
      Nat.succ_add_eq_add_succ number front.length
    rw [hlength] at hmore
    rw [List.cons_append, List.cons_append]
    unfold readHeader
    split
    · exact hmore
    · split
      · have hle : number + 1 ≤ number + (l :: front).length := by
          rw [List.length_cons]
          omega
        rw [mapError_error, moveDown_of_le hle]
      · rw [hmore, mapError_map]

theorem line_le_of_readHeader {header : List Text} {e : RuleError}
    (h : readHeader 1 header = .error e) : e.line ≤ header.length := by
  obtain @⟨before, after, line, cause, -, -, -⟩ := readHeader_eq_error_iff.1 h
  simp only [List.length_append, List.length_cons]
  omega

/-! ### One more line in a file -/

theorem readBody_inserted {line : Text} (front back : List Text) (h : isComment line = true) :
    readBody (front ++ line :: back) = readBody (front ++ back) := by
  simp [readBody, h]

/-- Whether a place is above the divider or below it, a line that is none leaves the other lines
where they are. -/
theorem Divided.above_or_below {front back header body : List Text}
    (h : Divided (front ++ back) header body) :
    (∃ mid, header = front ++ mid ∧ ∀ line : Text, line.trim ≠ ['-', '-', '-'] →
      Divided (front ++ line :: back) (front ++ line :: mid) body) ∨
    ∃ mid, body = mid ++ back ∧ header.length < front.length ∧
      ∀ line, Divided (front ++ line :: back) header (mid ++ line :: back) := by
  obtain ⟨⟨divider, hdivider, heq⟩, hfirst⟩ := h
  have habove : ∀ mid, header = front ++ mid → back = mid ++ divider :: body →
      ∀ line : Text, line.trim ≠ ['-', '-', '-'] →
        Divided (front ++ line :: back) (front ++ line :: mid) body := by
    intro mid hheader hback line hline
    refine ⟨⟨divider, hdivider, by simp [hback]⟩, fun l hl => ?_⟩
    rw [hheader] at hfirst
    simp only [List.mem_append, List.mem_cons] at hl hfirst
    rcases hl with hl | rfl | hl
    · exact hfirst l (.inl hl)
    · exact hline
    · exact hfirst l (.inr hl)
  rcases List.append_eq_append_iff.1 heq with ⟨mid, hheader, hback⟩ | ⟨bs, hfront, hrest⟩
  · exact .inl ⟨mid, hheader, habove mid hheader hback⟩
  · cases bs with
    | nil =>
      have hheader : header = front ++ [] := by simp [hfront]
      exact .inl ⟨[], hheader, habove [] hheader hrest.symm⟩
    | cons d mid =>
      obtain ⟨rfl, hbody⟩ := List.cons.inj hrest
      refine .inr ⟨mid, hbody, by simp [hfront], fun line => ?_⟩
      exact ⟨⟨divider, hdivider, by simp [hfront]⟩, hfirst⟩

/-- A line that says nothing below the first `above` lines of a file.  Above the divider that is every
comment. -/
inductive NoMeaning (content : Text) (above : Nat) (line : Text) : Prop
  | remark : IsRemark line → NoMeaning content above line
  | comment {header body : List Text} : Divided content.lines header body →
    above ≤ header.length → ['#'] <+: line → NoMeaning content above line

theorem NoMeaning.not_isEntry {content line : Text} {above : Nat}
    (h : NoMeaning content above line) : ¬ IsEntry line := by
  cases h with
  | remark hremark => exact hremark.not_isEntry
  | comment _ _ hsharp => exact not_isEntry_of_sharp hsharp

theorem NoMeaning.dropReturn {content line : Text} {above : Nat}
    (h : NoMeaning content above line) : NoMeaning content above line.dropReturn := by
  cases h with
  | remark hremark => exact .remark hremark.dropReturn
  | comment hdivided habove hsharp =>
    exact .comment hdivided habove (Text.prefix_dropReturn hsharp (by decide))

theorem Divided.unique {lines header body header' body' : List Text}
    (h : Divided lines header body) (h' : Divided lines header' body') :
    header = header' ∧ body = body' := by
  have heq := splitHeader?_eq_some_iff.2 h
  rw [splitHeader?_eq_some_iff.2 h', Option.some.injEq, Prod.mk.injEq] at heq
  exact ⟨heq.1.symm, heq.2.symm⟩

theorem read_inserted {content content' line : Text} {front back : List Text}
    (hlines : content.lines = front ++ back) (hlines' : content'.lines = front ++ line :: back)
    (h : NoMeaning content front.length line) :
    read content' = (read content).mapError (moveDown front.length) := by
  have hdash : line.trim ≠ ['-', '-', '-'] := fun hdash => h.not_isEntry (isEntry_of_divider hdash)
  rcases undivided_or_divided content.lines with hnone | ⟨header, body, hdivided⟩
  · have hremark : IsRemark line := by
      cases h with
      | remark hremark => exact hremark
      | comment hdivided _ _ =>
        obtain ⟨⟨divider, hdivider, heq⟩, -⟩ := hdivided
        exact absurd hdivider (hnone divider (by simp [heq]))
    have hnone' : ∀ l ∈ content'.lines, l.trim ≠ ['-', '-', '-'] := by
      intro l hl
      rw [hlines] at hnone
      simp only [hlines', List.mem_append, List.mem_cons] at hl hnone
      rcases hl with hl | rfl | hl
      · exact hnone l (.inl hl)
      · exact hdash
      · exact hnone l (.inr hl)
    rw [read_of_undivided hnone, read_of_undivided hnone', hlines, hlines',
      readBody_inserted front back hremark.isComment]
    rfl
  · have hplace := hdivided
    rw [hlines] at hplace
    rcases hplace.above_or_below with ⟨mid, rfl, habove⟩ | ⟨mid, rfl, hlength, hbelow⟩
    · have hdivided' := habove line hdash
      rw [← hlines'] at hdivided'
      have hheader := readHeader_inserted front mid 0 h.not_isEntry
      simp only [Nat.zero_add] at hheader
      rw [read_of_divided hdivided, read_of_divided hdivided', hheader, mapError_map]
    · have hdivided' := hbelow line
      rw [← hlines'] at hdivided'
      have hremark : IsRemark line := by
        cases h with
        | remark hremark => exact hremark
        | comment hother hle _ =>
          rw [(hother.unique hdivided).1] at hle
          omega
      -- an error is in the header and stays where it is
      rw [read_of_divided hdivided, read_of_divided hdivided',
        readBody_inserted mid back hremark.isComment]
      cases herror : readHeader 1 header with
      | ok ds => rfl
      | error e =>
        have hline := line_le_of_readHeader herror
        have hstays : moveDown front.length e = e := moveDown_of_le (by omega)
        rw [mapError_map, mapError_error, hstays]

/-- A line is put into a text where a line can begin, with `above` lines above it: between two lines,
or below the last one, which may have no end. -/
inductive Inserted (line : Text) : Text → Text → Nat → Prop
  | between {before : Text} (after : Text) : Text.LineEnd before [] →
    Inserted line (before ++ after) (before ++ (line ++ '\n' :: after)) before.lines.length
  | behind {content ending : Text} : Text.LineEnd content ending →
    Inserted line content (content ++ ending ++ (line ++ ['\n'])) content.lines.length
  | last {content ending : Text} : Text.LineEnd content ending → line ≠ [] →
    Inserted line content (content ++ ending ++ line) content.lines.length

theorem Inserted.lines_eq {line content content' : Text} {above : Nat} (hline : '\n' ∉ line)
    (h : Inserted line content content' above) :
    ∃ front back written, content.lines = front ++ back ∧ content'.lines = front ++ written :: back ∧
      front.length = above ∧ (written = line ∨ written = line.dropReturn) := by
  cases h with
  | @between before after hend =>
    have hlines : ∀ u, Text.lines (before ++ u) = before.lines ++ Text.lines u := by
      intro u
      have happend := Text.lines_append_of_lineEnd u hend
      rw [List.append_nil] at happend
      exact happend
    refine ⟨before.lines, Text.lines after, line.dropReturn, hlines after, ?_, rfl, .inr rfl⟩
    rw [hlines, Text.lines_append_newline _ hline]
  | behind hend =>
    refine ⟨content.lines, [], line.dropReturn, by simp, ?_, rfl, .inr rfl⟩
    rw [Text.lines_append_of_lineEnd _ hend, Text.lines_append_newline _ hline]
    rfl
  | last hend hne =>
    refine ⟨content.lines, [], line, by simp, ?_, rfl, .inl rfl⟩
    rw [Text.lines_append_of_lineEnd _ hend, Text.lines_of_not_mem hline,
      List.isEmpty_eq_false_iff.2 hne]
    rfl

/-! ### Placeholders are no comments -/

/-- The lines of a file in which blueprints stand. -/
inductive BlueprintLines (content : Text) : List Text → Prop
  | all : (∀ line ∈ content.lines, line.trim ≠ ['-', '-', '-']) →
    BlueprintLines content content.lines
  | below {header body : List Text} : Divided content.lines header body →
    BlueprintLines content body

theorem blueprints_of_read {content : Text} {f : RuleFile} {body : List Text}
    (h : read content = .ok f) (hbody : BlueprintLines content body) :
    f.blueprints = readBody body := by
  cases hbody with
  | all hnone =>
    rw [read_of_undivided hnone] at h
    cases h
    rfl
  | below hdivided => exact ((read_eq_ok_iff hdivided).1 h).2

theorem Header.spells {header : List Text} {ds : List Directive} {d : Directive}
    (h : Header header ds) (hd : d ∈ ds) : ∃ line ∈ header, d.Spells line := by
  induction h with
  | nil => cases hd
  | remark _ _ ih =>
    obtain ⟨line, hline, hspells⟩ := ih hd
    exact ⟨line, List.mem_cons_of_mem _ hline, hspells⟩
  | entry _ hspells _ ih =>
    rcases List.mem_cons.1 hd with rfl | hd
    · exact ⟨_, List.mem_cons_self, hspells⟩
    · obtain ⟨line, hline, hspells⟩ := ih hd
      exact ⟨line, List.mem_cons_of_mem _ hline, hspells⟩

theorem not_blank_of_read {rules : Text} {g : RuleFile} {c : DelimiterChars}
    (h : read rules = .ok g) (hc : .delimiters c ∈ g.directives) :
    ∀ x ∈ c.toText, Text.isBlank x = false := by
  rcases undivided_or_divided rules.lines with hnone | ⟨header, body, hdivided⟩
  · rw [read_of_undivided hnone] at h
    cases h
    cases hc
  · obtain ⟨hheader, -⟩ := (read_eq_ok_iff hdivided).1 h
    obtain ⟨line, -, value, hvalue, -⟩ := hheader.spells hc
    cases hvalue with
    | delimiters hblank _ _ _ => exact hblank

theorem isComment_of_opener {start opening : Char} {line : Text}
    (hopening : Text.isBlank opening = false)
    (h : [start, opening, opening] <+: line.trimFront) : isComment line = false := by
  obtain ⟨rest, heq⟩ := h
  rw [isComment, ← heq]
  split
  · rename_i hnil
    cases hnil
  · rename_i hsharp
    cases hsharp
  · rename_i hremark
    cases hremark
    exact absurd hopening (by decide +kernel)
  · rfl

/-- A blank line or a comment can be put anywhere into a file: it is read the same, and an error is
reported one line lower if it is below.  Lines may end with or without a carriage return.  Below the
header no line is dropped that begins with the opening delimiters of a placeholder, whatever
delimiters a file has set. -/
theorem layout_carries_no_meaning :
    (∀ (content content' line : Text) (above : Nat), '\n' ∉ line →
      Inserted line content content' above → NoMeaning content above line →
      read content' = (read content).mapError (moveDown above)) ∧
    (∀ content : Text, '\r' ∉ content → read content.withReturns = read content) ∧
    ∀ (rules : Text) (g : RuleFile) (c : DelimiterChars), read rules = .ok g →
      .delimiters c ∈ g.directives →
      ∀ (content : Text) (f : RuleFile) (body : List Text), read content = .ok f →
        BlueprintLines content body →
        ∀ line : Text, [c.start, c.opening, c.opening] <+: line.trimFront →
          f.blueprints.count line = body.count line := by
  refine ⟨?_, ?_, ?_⟩
  · intro content content' line above hline hinserted hmeaning
    obtain ⟨front, back, written, hlines, hlines', rfl, hwritten⟩ := hinserted.lines_eq hline
    have hmeaning' : NoMeaning content front.length written := by
      rcases hwritten with rfl | rfl
      · exact hmeaning
      · exact hmeaning.dropReturn
    exact read_inserted hlines hlines' hmeaning'
  · intro content hreturn
    rw [read, read, Text.lines_withReturns hreturn]
  · intro rules g c hrules hc content f body hread hbody line hline
    have hopening : Text.isBlank c.opening = false :=
      not_blank_of_read hrules hc _ (by simp [DelimiterChars.toText])
    have hkept : (!isComment line) = true := by
      rw [isComment_of_opener hopening hline, Bool.not_false]
    rw [blueprints_of_read hread hbody]
    exact @List.count_filter _ _ _ (fun l => !isComment l) line body hkept

/-- A file in which a blueprint begins like a comment. -/
def sharpRules : RuleFile where
  directives := [.delimiters ⟨'#', '@', ':', '^'⟩]
  blueprints := [.ofString "#@@x^^"]

theorem layout_carries_no_meaning_above_divider :
    read (.ofString "delimiters: # @ : ^\n#a\n---\n#@@x^^\n") = .ok sharpRules ∧
    sharpRules.blueprints.count (.ofString "#@@x^^") = 1 := by
  have hprintable : sharpRules.Printable := by decide +kernel
  have hread : read sharpRules.print = .ok sharpRules := read_print hprintable
  have hdivided : Divided sharpRules.print.lines (sharpRules.directives.map Directive.print)
      sharpRules.blueprints := divided_print hprintable
  obtain ⟨hinserted, -, hkept⟩ := layout_carries_no_meaning
  constructor
  · have hplace : Inserted ['#', 'a'] sharpRules.print
        (.ofString "delimiters: # @ : ^\n#a\n---\n#@@x^^\n") 1 :=
      @Inserted.between _ (.ofString "delimiters: # @ : ^\n") (.ofString "---\n#@@x^^\n")
        (.none (.inr (by decide +kernel)))
    rw [hinserted _ _ _ 1 (by decide) hplace
      (.comment hdivided (by decide) (by simp)), hread]
    rfl
  · exact hkept _ sharpRules ⟨'#', '@', ':', '^'⟩ hread (by simp [sharpRules]) _ sharpRules _ hread
      (.below hdivided) (.ofString "#@@x^^") (by decide +kernel)

end Blueprints.RuleFile
