import Blueprints.Proofs.Inputs

/-!
# Lines of inputs

The lines of a text are what it was written from, and nothing of it is lost, merged or invented.
The sources of a run are the lines of its inputs in order; an input that cannot be read, or that
encodes no text, leaves no sources at all.  The main statement is `sources_are_lines_of_inputs`.
-/

namespace Blueprints

namespace Text

/-- A text that consists of lines.  Each ends with a newline or with a carriage return and a
newline; the last one need not end unless it is empty. -/
inductive ConsistsOf : Text → List Text → Prop
  | done : ConsistsOf [] []
  | last {line : Text} : line ≠ [] → '\n' ∉ line → ConsistsOf line [line]
  | newline {line t : Text} {ls : List Text} :
    '\n' ∉ line → line.getLast? ≠ some '\r' → ConsistsOf t ls →
    ConsistsOf (line ++ '\n' :: t) (line :: ls)
  | returnNewline {line t : Text} {ls : List Text} :
    '\n' ∉ line → ConsistsOf t ls → ConsistsOf (line ++ '\r' :: '\n' :: t) (line :: ls)

/-- Can a text be ended as a line, with or without a carriage return, and be read back? -/
def IsLine (line : Text) : Prop := '\n' ∉ line ∧ line.getLast? ≠ some '\r'

/-- The ways to write lines with one kind of ends. -/
inductive WritesLines (ls : List Text) : Text → Prop
  | newlines : WritesLines ls (ls.flatMap (· ++ ['\n']))
  | returnNewlines : WritesLines ls (ls.flatMap (· ++ ['\r', '\n']))
  | lastOpen {last : Text} : ls.getLast? = some last → last ≠ [] →
    WritesLines ls (ls.flatMap (· ++ ['\n'])).dropLast

theorem consistsOf_lines (t : Text) : ConsistsOf t t.lines := by
  induction t using line_induction with
  | last t hnewline =>
    rw [lines_of_not_mem hnewline]
    cases t with
    | nil => exact .done
    | cons c t => exact .last (List.cons_ne_nil c t) hnewline
  | line l t hnewline ih =>
    rw [lines_append_newline t hnewline]
    by_cases hreturn : l.getLast? = some '\r'
    · obtain ⟨front, rfl⟩ := List.getLast?_eq_some_iff.1 hreturn
      have hfront : '\n' ∉ front := fun hmem => hnewline (List.mem_append_left _ hmem)
      rw [dropReturn_concat, List.append_assoc]
      exact .returnNewline hfront ih
    · rw [dropReturn_eq_self hreturn]
      exact .newline hnewline hreturn ih

theorem ConsistsOf.lines_eq {t : Text} {ls : List Text} (h : ConsistsOf t ls) : t.lines = ls := by
  induction h with
  | done => rfl
  | last hne hnewline =>
    rw [lines_of_not_mem hnewline, List.isEmpty_eq_false_iff.2 hne]
    rfl
  | newline hnewline hreturn _ ih =>
    rw [lines_append_newline _ hnewline, dropReturn_eq_self hreturn, ih]
  | @returnNewline line t ls hnewline _ ih =>
    have hnewline' : '\n' ∉ line ++ ['\r'] := by simp [hnewline]
    have htext : line ++ '\r' :: '\n' :: t = (line ++ ['\r']) ++ '\n' :: t := by simp
    rw [htext, lines_append_newline _ hnewline', dropReturn_concat, ih]

theorem lines_eq_iff {t : Text} {ls : List Text} : t.lines = ls ↔ ConsistsOf t ls := by
  constructor
  · intro h
    rw [← h]
    exact consistsOf_lines t
  · intro h
    exact h.lines_eq

theorem consistsOf_flatMap_append {ls rest : List Text} {ending t : Text}
    (hls : ∀ line ∈ ls, IsLine line) (hending : ending = ['\n'] ∨ ending = ['\r', '\n'])
    (ht : ConsistsOf t rest) : ConsistsOf (ls.flatMap (· ++ ending) ++ t) (ls ++ rest) := by
  induction ls with
  | nil => exact ht
  | cons line ls ih =>
    obtain ⟨hnewline, hreturn⟩ := hls line List.mem_cons_self
    have hmore := ih fun l hl => hls l (List.mem_cons_of_mem line hl)
    rw [List.flatMap_cons, List.append_assoc, List.append_assoc]
    rcases hending with rfl | rfl
    · exact .newline hnewline hreturn hmore
    · exact .returnNewline hnewline hmore

theorem WritesLines.consistsOf {ls : List Text} {t : Text} (h : WritesLines ls t)
    (hls : ∀ line ∈ ls, IsLine line) : ConsistsOf t ls := by
  cases h with
  | newlines =>
    have hwritten := consistsOf_flatMap_append hls (.inl rfl) .done
    rwa [List.append_nil, List.append_nil] at hwritten
  | returnNewlines =>
    have hwritten := consistsOf_flatMap_append hls (.inr rfl) .done
    rwa [List.append_nil, List.append_nil] at hwritten
  | @lastOpen last hlast hne =>
    obtain ⟨front, rfl⟩ := List.getLast?_eq_some_iff.1 hlast
    have hnewline := (hls last (by simp)).1
    have hfront : ∀ line ∈ front, IsLine line := fun l hl => hls l (List.mem_append_left _ hl)
    have hopen : ((front ++ [last]).flatMap (· ++ ['\n'])).dropLast =
        front.flatMap (· ++ ['\n']) ++ last := by
      rw [List.flatMap_append, List.flatMap_singleton, ← List.append_assoc, List.dropLast_concat]
    rw [hopen]
    exact consistsOf_flatMap_append hfront (.inl rfl) (.last hne hnewline)

end Text

namespace Sources

/-! ### Bytes -/

theorem decode_invalid {bytes : ByteArray} (h : ∀ t : Text, t.utf8Encode ≠ bytes) :
    decode bytes = .error invalidText := by
  unfold decode
  split
  · rename_i chars hchars
    have hsome : bytes.utf8Decode?.isSome = true := by rw [hchars]; rfl
    have hbytes := ByteArray.utf8Encode_get_utf8Decode? (b := bytes) (h := hsome)
    simp only [hchars, Option.get_some] at hbytes
    exact absurd hbytes (h _)
  · rfl

theorem linesOf_text {t : Text} {ls : List Text} (h : t.ConsistsOf ls) :
    linesOf (.ok t.utf8Encode) = .ok ls := by
  have hdecode : (Except.ok t.utf8Encode).bind decode = .ok t := decode_utf8Encode t
  simp only [linesOf, hdecode, Text.lines_eq_iff.2 h]

theorem linesOf_invalid {bytes : ByteArray} (h : ∀ t : Text, t.utf8Encode ≠ bytes) :
    linesOf (.ok bytes) = .error (.notRead invalidText) := by
  have hdecode : (Except.ok bytes).bind decode = .error invalidText := decode_invalid h
  simp only [linesOf, hdecode]

/-! ### Inputs -/

/-- What an input that can be opened holds behind earlier ones.  Of the standard input nothing is
left once it has been read. -/
inductive Holds (files : Files) (earlier : List Text) : Text → Except Text ByteArray → Prop
  | file {path : Text} {content : Except Text ByteArray} : isStandardInput path = false →
    files.opening path = .ok content → Holds files earlier path content
  | standardInput {path : Text} : isStandardInput path = true →
    (∀ before ∈ earlier, isStandardInput before = false) →
    Holds files earlier path files.standardInput
  | exhausted {path before : Text} : isStandardInput path = true → before ∈ earlier →
    isStandardInput before = true → Holds files earlier path (.ok .empty)

def Gives (files : Files) (earlier : List Text) (path : Text) (ls : List Text) : Prop :=
  ∃ t : Text, Holds files earlier path (.ok t.utf8Encode) ∧ t.ConsistsOf ls

/-- An input that cannot be read, or is no text. -/
inductive Fails (files : Files) (earlier : List Text) : Text → SourceError → Prop
  | notOpened {path cause : Text} : isStandardInput path = false →
    files.opening path = .error cause → Fails files earlier path (.notOpened path cause)
  | notRead {path cause : Text} : Holds files earlier path (.error cause) →
    Fails files earlier path (.notRead cause)
  | invalidText {path : Text} {bytes : ByteArray} : Holds files earlier path (.ok bytes) →
    (∀ t : Text, t.utf8Encode ≠ bytes) → Fails files earlier path (.notRead Sources.invalidText)

inductive Reads (files : Files) : (earlier inputs sources : List Text) → Prop
  | done {earlier : List Text} : Reads files earlier [] []
  | next {earlier more ls rest : List Text} {path : Text} : Gives files earlier path ls →
    Reads files (earlier ++ [path]) more rest → Reads files earlier (path :: more) (ls ++ rest)

section

variable {files : Files} {earlier : List Text} {path : Text}

theorem Holds.linesBehind_eq {content : Except Text ByteArray}
    (h : Holds files earlier path content) : linesBehind files earlier path = linesOf content := by
  cases h with
  | file hpath hopening => simp only [linesBehind, hpath, hopening, Bool.false_eq_true, if_false]
  | standardInput hpath hfirst =>
    have hleft : earlier.any isStandardInput = false := by simpa using hfirst
    simp only [linesBehind, inputLeft, hpath, hleft, Bool.false_eq_true, if_true, if_false]
  | exhausted hpath hmem hbefore =>
    have hleft : earlier.any isStandardInput = true := List.any_eq_true.2 ⟨_, hmem, hbefore⟩
    simp only [linesBehind, inputLeft, hpath, hleft, if_true]

theorem Gives.linesBehind_eq {ls : List Text} (h : Gives files earlier path ls) :
    linesBehind files earlier path = .ok ls := by
  obtain ⟨t, hholds, ht⟩ := h
  rw [hholds.linesBehind_eq, linesOf_text ht]

theorem Fails.linesBehind_eq {e : SourceError} (h : Fails files earlier path e) :
    linesBehind files earlier path = .error e := by
  cases h with
  | notOpened hpath hopening =>
    simp only [linesBehind, hpath, hopening, Bool.false_eq_true, if_false]
  | notRead hholds =>
    rw [hholds.linesBehind_eq]
    rfl
  | invalidText hholds hnone => rw [hholds.linesBehind_eq, linesOf_invalid hnone]

theorem gives_or_fails (files : Files) (earlier : List Text) (path : Text) :
    (∃ ls, Gives files earlier path ls) ∨ ∃ e, Fails files earlier path e := by
  -- whatever an input holds, it is an error, a text or no text
  have hholds : ∀ content, Holds files earlier path content →
      (∃ ls, Gives files earlier path ls) ∨ ∃ e, Fails files earlier path e := by
    intro content h
    cases content with
    | error cause => exact .inr ⟨_, .notRead h⟩
    | ok bytes =>
      by_cases htext : ∃ t : Text, t.utf8Encode = bytes
      · obtain ⟨t, rfl⟩ := htext
        exact .inl ⟨t.lines, t, h, Text.lines_eq_iff.1 rfl⟩
      · exact .inr ⟨_, .invalidText h fun t ht => htext ⟨t, ht⟩⟩
  cases hpath : isStandardInput path with
  | true =>
    by_cases hagain : ∃ before ∈ earlier, isStandardInput before = true
    · obtain ⟨before, hmem, hbefore⟩ := hagain
      exact hholds _ (.exhausted hpath hmem hbefore)
    · refine hholds _ (.standardInput hpath fun before hmem => ?_)
      exact Bool.eq_false_iff.2 fun hbefore => hagain ⟨before, hmem, hbefore⟩
  | false =>
    cases hopening : files.opening path with
    | error cause => exact .inr ⟨_, .notOpened hpath hopening⟩
    | ok content => exact hholds content (.file hpath hopening)

theorem linesBehind_eq_ok_iff {ls : List Text} :
    linesBehind files earlier path = .ok ls ↔ Gives files earlier path ls := by
  constructor
  · intro h
    rcases gives_or_fails files earlier path with ⟨ls', hgives⟩ | ⟨e, hfails⟩
    · have hls := hgives.linesBehind_eq
      rw [h, Except.ok.injEq] at hls
      rwa [hls]
    · rw [hfails.linesBehind_eq] at h
      cases h
  · intro h
    exact h.linesBehind_eq

theorem linesBehind_eq_error_iff {e : SourceError} :
    linesBehind files earlier path = .error e ↔ Fails files earlier path e := by
  constructor
  · intro h
    rcases gives_or_fails files earlier path with ⟨ls, hgives⟩ | ⟨e', hfails⟩
    · rw [hgives.linesBehind_eq] at h
      cases h
    · have he := hfails.linesBehind_eq
      rw [h, Except.error.injEq] at he
      rwa [he]
  · intro h
    exact h.linesBehind_eq

theorem gives_standardInput_again_iff {before : Text} {ls : List Text}
    (hpath : isStandardInput path = true) (hmem : before ∈ earlier)
    (hbefore : isStandardInput before = true) : Gives files earlier path ls ↔ ls = [] := by
  have hlines : linesBehind files earlier path = .ok [] :=
    Gives.linesBehind_eq ⟨[], .exhausted hpath hmem hbefore, .done⟩
  rw [← linesBehind_eq_ok_iff, hlines, Except.ok.injEq, eq_comm]

/-! ### Lists of inputs -/

theorem pieces_iff_reads {inputs sources : List Text} :
    (∃ pieces, AllRead files earlier inputs pieces ∧ sources = pieces.flatten) ↔
      Reads files earlier inputs sources := by
  induction inputs generalizing earlier sources with
  | nil =>
    simp only [allRead_nil_iff, exists_eq_left, List.flatten_nil]
    constructor
    · intro h
      rw [h]
      exact .done
    · intro h
      cases h
      rfl
  | cons path more ih =>
    simp only [allRead_cons_iff, linesBehind_eq_ok_iff]
    constructor
    · intro h
      obtain ⟨_, ⟨ls, pieces, rfl, hgives, hmore⟩, rfl⟩ := h
      exact .next hgives (ih.1 ⟨pieces, hmore, rfl⟩)
    · intro h
      cases h with
      | next hgives hmore =>
        obtain ⟨pieces, hpieces, rfl⟩ := ih.2 hmore
        exact ⟨_, ⟨_, pieces, rfl, hgives, hpieces⟩, rfl⟩

theorem firstUnread_iff_fails {inputs : List Text} {e : SourceError} :
    FirstUnread files earlier inputs e ↔
      ∃ before path after sources, inputs = before ++ path :: after ∧
        Reads files earlier before sources ∧ Fails files (earlier ++ before) path e := by
  induction inputs generalizing earlier with
  | nil => simp [not_firstUnread_nil]
  | cons path more ih =>
    rw [firstUnread_cons_iff, linesBehind_eq_error_iff]
    simp only [linesBehind_eq_ok_iff]
    constructor
    · intro h
      rcases h with hfails | ⟨ls, hgives, hmore⟩
      · refine ⟨[], path, more, [], rfl, .done, ?_⟩
        rwa [List.append_nil]
      · obtain ⟨before, path', after, sources, rfl, hreads, hfails⟩ := ih.1 hmore
        refine ⟨path :: before, path', after, ls ++ sources, rfl, .next hgives hreads, ?_⟩
        rwa [List.append_assoc] at hfails
    · intro h
      obtain ⟨before, path', after, sources, hinputs, hreads, hfails⟩ := h
      cases hreads with
      | done =>
        cases hinputs
        rw [List.append_nil] at hfails
        exact .inl hfails
      | @next _ before ls rest first hgives hreads =>
        cases hinputs
        refine .inr ⟨ls, hgives, ih.2 ⟨before, path', after, rest, rfl, hreads, ?_⟩⟩
        rwa [List.append_assoc]

end

/-- A file of lines is read back as these lines, however their ends are written.  Inputs give their
lines one after another, the standard input only once; the first of them that cannot be read or is
no text leaves no sources at all. -/
theorem sources_are_lines_of_inputs (files : Files) :
    (∀ path content ls, isStandardInput path = false → (∀ line ∈ ls, Text.IsLine line) →
      Text.WritesLines ls content → files.opening path = .ok (.ok content.utf8Encode) →
      read files [path] = .ok ls) ∧
    (∀ inputs sources, read files inputs = .ok sources ↔
      Reads files [] (orStandard inputs) sources) ∧
    (∀ earlier before path ls, before ∈ earlier → isStandardInput before = true →
      isStandardInput path = true → (Gives files earlier path ls ↔ ls = [])) ∧
    ∀ inputs e, read files inputs = .error e ↔
      ∃ before path after sources, orStandard inputs = before ++ path :: after ∧
        Reads files [] before sources ∧ Fails files before path e := by
  have hok : ∀ inputs sources, read files inputs = .ok sources ↔
      Reads files [] (orStandard inputs) sources := by
    intro inputs sources
    rw [read_eq_ok_iff, pieces_iff_reads]
  refine ⟨?_, hok, ?_, ?_⟩
  · intro path content ls hpath hls hcontent hopening
    have hgives : Gives files [] path ls := ⟨content, .file hpath hopening, hcontent.consistsOf hls⟩
    have hreads := Reads.next hgives .done
    rw [List.append_nil] at hreads
    exact (hok _ _).2 hreads
  · intro earlier before path ls hmem hbefore hpath
    exact gives_standardInput_again_iff hpath hmem hbefore
  · intro inputs e
    rw [read_eq_error_iff, firstUnread_iff_fails]
    rfl

/-- A file whose last line has no end, and a standard input of one line. -/
def openLineFiles : Files where
  opening path :=
    if path = ['a'] then .ok (.ok ⟨#[120, 10, 10, 121]⟩)
    else .error (.ofString "No such file or directory")
  standardInput := .ok ⟨#[122, 13, 10]⟩

/-- The same file, and a directory in place of the standard input. -/
def directoryInputFiles : Files :=
  { openLineFiles with standardInput := .error (.ofString "Is a directory (os error 21)") }

theorem sources_are_lines_of_inputs_open_line :
    read openLineFiles [['a']] = .ok [['x'], [], ['y']] ∧
    read openLineFiles [['a'], ['-'], ['-', '/'], ['a']] =
      .ok [['x'], [], ['y'], ['z'], ['x'], [], ['y']] ∧
    read openLineFiles [['-'], ['c'], ['b']] =
      .error (.notOpened ['c'] (.ofString "No such file or directory")) ∧
    read directoryInputFiles [['a'], ['-'], ['c']] =
      .error (.notRead (.ofString "Is a directory (os error 21)")) := by
  obtain ⟨hfile, hreads, hagain, herror⟩ := sources_are_lines_of_inputs openLineFiles
  have hopening : openLineFiles.opening ['a'] =
      .ok (.ok (List.utf8Encode ['x', '\n', '\n', 'y'])) := rfl
  have hlines : ∀ line ∈ [['x'], [], ['y']], Text.IsLine line := by
    unfold Text.IsLine
    decide
  have hwritten : Text.WritesLines [['x'], [], ['y']] ['x', '\n', '\n', 'y'] :=
    .lastOpen rfl (List.cons_ne_nil 'y' [])
  have ha : ∀ earlier, Gives openLineFiles earlier ['a'] [['x'], [], ['y']] := fun earlier =>
    ⟨_, .file rfl hopening, hwritten.consistsOf hlines⟩
  have ha' : Gives directoryInputFiles [] ['a'] [['x'], [], ['y']] :=
    ⟨_, .file rfl hopening, hwritten.consistsOf hlines⟩
  have hnewline : '\n' ∉ ['z'] := by decide
  have hz : Text.ConsistsOf ['z', '\r', '\n'] [['z']] := .returnNewline hnewline .done
  have hstandard : Gives openLineFiles [] ['-'] [['z']] :=
    ⟨_, .standardInput rfl (by decide), hz⟩
  have hbehind : Gives openLineFiles [['a']] ['-'] [['z']] :=
    ⟨_, .standardInput rfl (by decide), hz⟩
  have hnothing : Gives openLineFiles [['a'], ['-']] ['-', '/'] [] :=
    (hagain _ ['-'] _ _ (by decide) rfl rfl).2 rfl
  have hdirectory : Holds directoryInputFiles [['a']] ['-']
      (.error (.ofString "Is a directory (os error 21)")) := .standardInput rfl (by decide)
  obtain ⟨-, -, -, herror'⟩ := sources_are_lines_of_inputs directoryInputFiles
  refine ⟨hfile ['a'] _ _ rfl hlines hwritten hopening, (hreads _ _).2 ?_, ?_, ?_⟩
  · exact .next (ha _) (.next hbehind (.next hnothing (.next (ha _) .done)))
  · refine (herror _ _).2 ⟨[['-']], ['c'], [['b']], _, rfl, .next hstandard .done, ?_⟩
    exact .notOpened rfl rfl
  · exact (herror' _ _).2 ⟨[['a']], ['-'], [['c']], _, rfl, .next ha' .done, .notRead hdirectory⟩

end Sources

end Blueprints
