import Blueprints.Proofs.Listings
import Blueprints.Report.Basic

/-!
# Presentation

A terminal takes what it is sent apart into characters to show and escape sequences that switch
styles.  Styles only decorate a report: without its escape sequences a styled report is the plain
one, and behind every line no style is in force.  Captures are written in the order of their names,
in whatever order a map tells them.  The main statement is `styles_only_decorate`.
-/

namespace Blueprints

namespace Terminal

/-- What a terminal is sent: a character to show, or an escape sequence with the digits of a
style. -/
inductive Signal
  | shown (c : Char)
  | styled (digits : Text)
deriving Repr, DecidableEq

/-- The digits of the escape sequence at the front of a text, and what follows it. -/
def sequence? : Text → Option (Text × Text)
  | '\x1b' :: '[' :: t =>
    match Text.spanWhile Char.isDigit t with
    | (d :: digits, 'm' :: rest) => some (d :: digits, rest)
    | _ => none
  | _ => none

theorem sequence?_eq_some_iff {t digits rest : Text} :
    sequence? t = some (digits, rest) ↔
      t = ['\x1b', '['] ++ digits ++ 'm' :: rest ∧ digits ≠ [] ∧
        ∀ c ∈ digits, c.isDigit = true := by
  constructor
  · intro h
    unfold sequence? at h
    split at h
    · rename_i t
      split at h
      · rename_i d more rest' hspan
        cases h
        obtain ⟨ht, hdigits, -⟩ := Text.spanWhile_eq_iff.1 hspan
        exact ⟨by rw [ht]; rfl, List.cons_ne_nil d more, hdigits⟩
      · cases h
    · cases h
  · intro h
    obtain ⟨rfl, hne, hdigits⟩ := h
    obtain ⟨d, more, rfl⟩ := List.exists_cons_of_ne_nil hne
    have hspan : Text.spanWhile Char.isDigit (d :: more ++ 'm' :: rest) =
        (d :: more, 'm' :: rest) :=
      Text.spanWhile_eq_iff.2 ⟨rfl, hdigits, fun c hc => by cases hc; rfl⟩
    simp only [sequence?, List.cons_append, List.nil_append] at hspan ⊢
    simp only [hspan]

def signals : Text → List Signal
  | [] => []
  | c :: t =>
    match _h : sequence? (c :: t) with
    | some (digits, rest) => .styled digits :: signals rest
    | none => .shown c :: signals t
termination_by t => t.length
decreasing_by
  · rw [(sequence?_eq_some_iff.1 _h).1]
    simp only [List.length_append, List.length_cons]
    omega
  · simp

def Signal.char? : Signal → Option Char
  | shown c => some c
  | styled _ => none

/-- A text without its escape sequences. -/
def strip (t : Text) : Text := (signals t).filterMap Signal.char?

/-- The styles in force behind a signal; zero switches all of them off. -/
def switch (styles : List Text) : Signal → List Text
  | .shown _ => styles
  | .styled digits => if digits.all (· == '0') then [] else styles ++ [digits]

def stylesBehind (styles : List Text) (t : Text) : List Text := (signals t).foldl switch styles

/-! ### Signals -/

theorem signals_cons {c : Char} (hc : c ≠ '\x1b') (t : Text) :
    signals (c :: t) = .shown c :: signals t := by
  have hnone : sequence? (c :: t) = none := by
    rw [Option.eq_none_iff_forall_ne_some]
    intro r hr
    exact hc (List.cons.inj (sequence?_eq_some_iff.1 hr).1).1
  rw [signals]
  split
  · rename_i h
    rw [hnone] at h
    cases h
  · rfl

theorem signals_append {s : Text} (hs : '\x1b' ∉ s) (t : Text) :
    signals (s ++ t) = s.map .shown ++ signals t := by
  induction s with
  | nil => rfl
  | cons c s ih =>
    rw [List.mem_cons, not_or] at hs
    rw [List.cons_append, signals_cons (Ne.symm hs.1), ih hs.2, List.map_cons, List.cons_append]

theorem isDigit_of_mem_ofNat {n : Nat} {c : Char} (h : c ∈ Text.ofNat n) : c.isDigit = true :=
  Nat.isDigit_of_mem_toDigits (by decide) (by decide) h

theorem signals_sequence (n : Nat) (t : Text) :
    signals (Style.sequence n ++ t) = .styled (Text.ofNat n) :: signals t := by
  have hsequence : sequence? (Style.sequence n ++ t) = some (Text.ofNat n, t) := by
    refine sequence?_eq_some_iff.2 ⟨?_, Nat.toDigits_ne_nil, fun c => isDigit_of_mem_ofNat⟩
    simp [Style.sequence]
  have hcons : Style.sequence n ++ t = '\x1b' :: ((Style.sequence n ++ t).drop 1) := rfl
  rw [hcons] at hsequence ⊢
  rw [signals]
  split <;> rename_i h <;> rw [hsequence] at h <;> cases h
  rfl

theorem filterMap_char?_shown (t : Text) : (t.map Signal.shown).filterMap Signal.char? = t := by
  rw [List.filterMap_map]
  exact List.filterMap_some

theorem foldl_switch_shown (styles : List Text) (t : Text) :
    (t.map Signal.shown).foldl switch styles = styles := by
  induction t with
  | nil => rfl
  | cons c t ih => exact ih

end Terminal

/-! ### Pieces -/

namespace Piece

/-- No escape character occurs in the text. -/
def Clean (p : Piece) : Prop := '\x1b' ∉ p.text

def signals (color : Bool) (p : Piece) : List Terminal.Signal :=
  match color, p.style with
  | true, some s =>
    [.styled (Text.ofNat 0), .styled (Text.ofNat s.code)] ++ p.text.map .shown
      ++ [.styled (Text.ofNat 0)]
  | _, _ => p.text.map .shown

theorem signals_render_append (color : Bool) {p : Piece} (hp : p.Clean) (t : Text) :
    Terminal.signals (p.render color ++ t) = p.signals color ++ Terminal.signals t := by
  obtain ⟨text, style⟩ := p
  have hplain := Terminal.signals_append hp t
  cases color with
  | false => exact hplain
  | true =>
    cases style with
    | none => exact hplain
    | some s =>
      have hreset : ∀ t, Terminal.signals (Style.reset ++ t) =
          .styled (Text.ofNat 0) :: Terminal.signals t := Terminal.signals_sequence 0
      simp only [render, Style.switchOn, List.append_assoc, hreset, Terminal.signals_sequence,
        Terminal.signals_append hp, signals]
      rfl

theorem signals_renderAll (color : Bool) {ps : List Piece} (hps : ∀ p ∈ ps, p.Clean) :
    Terminal.signals (renderAll color ps) = ps.flatMap (signals color) := by
  induction ps with
  | nil => rw [renderAll, List.flatMap_nil, List.flatMap_nil, Terminal.signals]
  | cons p ps ih =>
    rw [List.forall_mem_cons] at hps
    rw [renderAll, List.flatMap_cons, signals_render_append color hps.1, List.flatMap_cons]
    exact congrArg _ (ih hps.2)

theorem filterMap_signals (color : Bool) (p : Piece) :
    (p.signals color).filterMap Terminal.Signal.char? = p.text := by
  unfold signals
  split
  · rw [List.filterMap_append, List.filterMap_append, Terminal.filterMap_char?_shown]
    exact List.append_nil _
  · exact Terminal.filterMap_char?_shown p.text

/-- Without its escape sequences a text of pieces is what stands in them. -/
theorem strip_renderAll (color : Bool) {ps : List Piece} (hps : ∀ p ∈ ps, p.Clean) :
    Terminal.strip (renderAll color ps) = renderAll false ps := by
  rw [Terminal.strip, signals_renderAll color hps, List.filterMap_flatMap]
  simp only [filterMap_signals]
  rfl

theorem foldl_switch_signals (styles : List Text) (p : Piece) :
    (p.signals true).foldl Terminal.switch styles = if p.style.isSome then [] else styles := by
  obtain ⟨text, style⟩ := p
  cases style with
  | none => exact Terminal.foldl_switch_shown styles text
  | some s => simp [signals, Terminal.switch, Text.ofNat]

/-- Behind pieces one of which has a style no style is in force. -/
theorem stylesBehind_renderAll (styles : List Text) {ps : List Piece} (hps : ∀ p ∈ ps, p.Clean)
    (hstyled : ps.any (·.style.isSome) = true) :
    Terminal.stylesBehind styles (renderAll true ps) = [] := by
  rw [Terminal.stylesBehind, signals_renderAll true hps]
  have hnone : ∀ ps : List Piece,
      (ps.flatMap (signals true)).foldl Terminal.switch [] = [] := by
    intro ps
    induction ps with
    | nil => rfl
    | cons p ps ih => rw [List.flatMap_cons, List.foldl_append, foldl_switch_signals, ite_self, ih]
  clear hps
  induction ps generalizing styles with
  | nil => cases hstyled
  | cons p ps ih =>
    rw [List.flatMap_cons, List.foldl_append, foldl_switch_signals]
    split
    · exact hnone ps
    · rename_i hp
      rw [List.any_cons, Bool.or_eq_true] at hstyled
      exact ih styles (hstyled.resolve_left hp)

end Piece

/-! ### Lines -/

namespace LineResult

structure Clean (l : LineResult) : Prop where
  source : '\x1b' ∉ l.source
  extracted : ∀ e, l.result = some e → '\x1b' ∉ e.extracted
  captures : ∀ e, l.result = some e → ∀ capture ∈ e.captures.entries,
    '\x1b' ∉ capture.1 ∧ '\x1b' ∉ capture.2

/-- The line of a match whose captures are told in some order. -/
def piecesOf (extracted : Text) (listing : List (Text × Text)) : List Piece :=
  [⟨['✓'], some .green⟩, .plain ([' '] ++ extracted)]
    ++ (listing.mergeSort NameMap.entryLe).flatMap capturePieces ++ [.plain ['\n']]

theorem pieces_of_lists {l : LineResult} {e : Extraction} {listing : List (Text × Text)}
    (h : l.result = some e) (hlisting : e.captures.Lists listing) :
    l.pieces = piecesOf e.extracted listing := by
  rw [pieces, h, piecesOf, NameMap.mergeSort_of_lists hlisting]

theorem clean_capturePieces {capture : Text × Text} (hname : '\x1b' ∉ capture.1)
    (hvalue : '\x1b' ∉ capture.2) : ∀ p ∈ capturePieces capture, p.Clean := by
  simp [capturePieces, Piece.Clean, Piece.plain, hname, hvalue]

theorem Clean.pieces {l : LineResult} (h : l.Clean) : ∀ p ∈ l.pieces, p.Clean := by
  cases hresult : l.result with
  | none =>
    have hsource := h.source
    simp [LineResult.pieces, hresult, Piece.Clean, Piece.plain, hsource]
  | some e =>
    have hextracted := h.extracted e hresult
    have hcaptures : ∀ p ∈ e.captures.entries.flatMap capturePieces, p.Clean := by
      intro p hp
      obtain ⟨capture, hmem, hp⟩ := List.mem_flatMap.1 hp
      obtain ⟨hname, hvalue⟩ := h.captures e hresult capture hmem
      exact clean_capturePieces hname hvalue p hp
    simp only [LineResult.pieces, hresult, List.forall_mem_append]
    refine ⟨⟨?_, hcaptures⟩, ?_⟩
    · simp [Piece.Clean, Piece.plain, hextracted]
    · simp [Piece.Clean, Piece.plain]

theorem pieces_styled (l : LineResult) : l.pieces.any (·.style.isSome) = true := by
  unfold pieces
  split <;> rfl

end LineResult

/-! ### Summaries -/

theorem Text.escape_not_mem_ofNat (n : Nat) : '\x1b' ∉ Text.ofNat n := by
  intro h
  have hdigit := Terminal.isDigit_of_mem_ofNat h
  revert hdigit
  decide

theorem Duration.escape_not_mem_print (nanoseconds : Nat) :
    '\x1b' ∉ Duration.print nanoseconds := by
  have hdigit : ∀ n, Nat.digitChar (n % 10) ≠ '\x1b' := by
    intro n h
    have hn := Nat.isDigit_digitChar (n := n % 10)
    rw [h, decide_eq_true (Nat.mod_lt n (by decide))] at hn
    revert hn
    decide
  have hsymbol : '\x1b' ∉ (unitOf nanoseconds).2 := by
    unfold unitOf
    split
    · decide
    · split
      · decide
      · split <;> decide
  simp [print, ofHundredths, Text.escape_not_mem_ofNat, Ne.symm (hdigit _), hsymbol]

theorem Results.clean_summaryPieces (r : Results) (nanoseconds : Nat) :
    ∀ p ∈ r.summaryPieces nanoseconds, p.Clean := by
  have hnat := Text.escape_not_mem_ofNat
  have htime := Duration.escape_not_mem_print nanoseconds
  unfold summaryPieces countPieces
  split <;> simp [Piece.Clean, Piece.plain, Text.ofString, hnat, htime]

/-! ### Reports -/

theorem Results.report_text (r : Results) (color matchesOnly : Bool) :
    r.report .text color matchesOnly = Piece.renderAll color
      ((r.lines.filter fun l => !matchesOnly || l.result.isSome).flatMap (·.pieces)) := by
  rw [Piece.renderAll, List.flatMap_assoc]
  rfl

/-- Where no text has an escape character, a styled report without its escape sequences is the plain
report, and behind each of its lines no style is in force.  The same holds of the summary of a run,
however long that took.  In whatever order a map tells its captures, they are written in the order of
their names, and the line is the same. -/
theorem styles_only_decorate (r : Results) (matchesOnly : Bool) (nanoseconds : Nat) :
    ((∀ l ∈ r.lines, l.Clean) →
      Terminal.strip (r.report .text true matchesOnly) = r.report .text false matchesOnly ∧
      ∀ l ∈ r.lines, ∀ styles, Terminal.stylesBehind styles (l.line .text true) = []) ∧
    (Terminal.strip (r.summary .text true nanoseconds) = r.summary .text false nanoseconds ∧
      ∀ styles, Terminal.stylesBehind styles (r.summary .text true nanoseconds) = []) ∧
    ∀ (l : LineResult) (e : Extraction) (listing : List (Text × Text)), l.result = some e →
      e.captures.Lists listing →
      (listing.mergeSort NameMap.entryLe).Pairwise (fun a b => a.1 < b.1) ∧
      ∀ color, l.line .text color = Piece.renderAll color (LineResult.piecesOf e.extracted listing) := by
  refine ⟨fun hclean => ⟨?_, ?_⟩, ⟨?_, fun styles => ?_⟩, ?_⟩
  · have hpieces : ∀ p ∈ (r.lines.filter fun l => !matchesOnly || l.result.isSome).flatMap (·.pieces),
        p.Clean := by
      intro p hp
      obtain ⟨l, hl, hp⟩ := List.mem_flatMap.1 hp
      exact (hclean l (List.mem_filter.1 hl |>.1)).pieces p hp
    rw [Results.report_text, Results.report_text, Piece.strip_renderAll true hpieces]
  · intro l hl styles
    exact Piece.stylesBehind_renderAll styles (hclean l hl).pieces l.pieces_styled
  · exact Piece.strip_renderAll true (r.clean_summaryPieces nanoseconds)
  · exact Piece.stylesBehind_renderAll styles (r.clean_summaryPieces nanoseconds) rfl
  · intro l e listing he hlisting
    refine ⟨?_, fun color => ?_⟩
    · rw [NameMap.mergeSort_of_lists hlisting]
      exact e.captures.sorted
    · rw [LineResult.line, LineResult.pieces_of_lists he hlisting]

/-- A match with two captures. -/
def twoCaptures : LineResult where
  source := .ofString "éba"
  attempt := ⟨[], some ⟨['é'], .ofList [(['x'], ['a']), (['y'], ['b'])]⟩⟩

/-- A source that does not match, and nearly has an escape sequence. -/
def missedSequence : LineResult where
  source := .ofString "[0m"
  attempt := ⟨[], none⟩

theorem styles_only_decorate_two_lines :
    (∀ l ∈ [twoCaptures, missedSequence], l.Clean) ∧
    Terminal.strip (Results.report .text true false ⟨[twoCaptures, missedSequence]⟩) =
      .ofString "✓ é  x=a  y=b\n✗ [0m\n" ∧
    Terminal.strip (Results.summary .text true 1234567 ⟨[twoCaptures, missedSequence]⟩) =
      .ofString "2 lines, 1 matched, 1 unmatched in 1.23ms\n" ∧
    Terminal.stylesBehind [['1']] (twoCaptures.line .text true) = [] ∧
    ∃ e, twoCaptures.result = some e ∧ e.captures.Lists [(['y'], ['b']), (['x'], ['a'])] ∧
      twoCaptures.line .text true = Piece.renderAll true
        (LineResult.piecesOf e.extracted [(['y'], ['b']), (['x'], ['a'])]) := by
  obtain ⟨hreport, ⟨hsummary, -⟩, hcaptures⟩ :=
    styles_only_decorate ⟨[twoCaptures, missedSequence]⟩ false 1234567
  have hmatch : twoCaptures.Clean := by
    refine ⟨by decide, fun e he => ?_, fun e he => ?_⟩ <;> cases he <;> decide
  have hmiss : missedSequence.Clean := by
    refine ⟨by decide, fun e he => ?_, fun e he => ?_⟩ <;> cases he
  have hclean : ∀ l ∈ [twoCaptures, missedSequence], l.Clean := by
    simp [hmatch, hmiss]
  have hlists : NameMap.Lists (.ofList [(['x'], ['a']), (['y'], ['b'])])
      [(['y'], ['b']), (['x'], ['a'])] := List.Perm.swap _ _ _
  obtain ⟨hstrip, hstyles⟩ := hreport hclean
  refine ⟨hclean, ?_, ?_, hstyles _ List.mem_cons_self _, _, rfl, hlists, ?_⟩
  · rw [hstrip]
    decide
  · rw [hsummary]
    decide
  · exact (hcaptures twoCaptures _ _ rfl hlists).2 true

end Blueprints
