import Blueprints.Text.Basic
import Blueprints.Characters.Property

/-!
# Lines and blanks

A line ends with a newline, or with a carriage return and a newline; the last line of a text need not
end at all.
-/

namespace Blueprints.Text

def dropReturn (t : Text) : Text := if t.getLast? = some '\r' then t.dropLast else t

/-- The lines among pieces that newlines separate: the last piece has no newline, so nothing is
dropped from it, and it is no line if it is empty. -/
def linesOfPieces : List Text → List Text
  | [] => []
  | [last] => if last.isEmpty then [] else [last]
  | piece :: more => piece.dropReturn :: linesOfPieces more

/-- The lines of a text, without their ends. -/
def lines (t : Text) : List Text := linesOfPieces (t.splitOn '\n')

theorem lines_append_newline {line : Text} (t : Text) (h : '\n' ∉ line) :
    lines (line ++ '\n' :: t) = line.dropReturn :: lines t := by
  have hpieces : splitOn '\n' (line ++ '\n' :: t) = line :: splitOn '\n' t :=
    splitOn_eq_cons_iff.2 ⟨h, .inr ⟨t, rfl, rfl⟩⟩
  obtain ⟨piece, more, ht⟩ := List.exists_cons_of_ne_nil (splitOn_ne_nil '\n' t)
  simp only [lines, hpieces, ht, linesOfPieces]

theorem dropReturn_eq_self {t : Text} (h : t.getLast? ≠ some '\r') : t.dropReturn = t :=
  if_neg h

/-- Lines that are written one after another are read back. -/
theorem lines_flatMap {ls : List Text} (hnewline : ∀ line ∈ ls, '\n' ∉ line)
    (hreturn : ∀ line ∈ ls, line.getLast? ≠ some '\r') :
    lines (ls.flatMap (· ++ ['\n'])) = ls := by
  induction ls with
  | nil => rfl
  | cons line ls ih =>
    have hrest : lines (ls.flatMap (· ++ ['\n'])) = ls :=
      ih (fun l hl => hnewline l (List.mem_cons_of_mem line hl))
        (fun l hl => hreturn l (List.mem_cons_of_mem line hl))
    rw [List.flatMap_cons, List.append_assoc, List.singleton_append,
      lines_append_newline _ (hnewline line List.mem_cons_self), hrest,
      dropReturn_eq_self (hreturn line List.mem_cons_self)]

/-! ### Ends of lines -/

/-- Texts line by line: the last line has no end. -/
@[elab_as_elim]
theorem line_induction {motive : Text → Prop} (last : ∀ t, '\n' ∉ t → motive t)
    (line : ∀ l t, '\n' ∉ l → motive t → motive (l ++ '\n' :: t)) (t : Text) : motive t := by
  obtain ⟨pieces, hpieces⟩ : ∃ pieces, splitOn '\n' t = pieces := ⟨_, rfl⟩
  induction pieces generalizing t with
  | nil => exact absurd hpieces (splitOn_ne_nil '\n' t)
  | cons piece more ih =>
    obtain ⟨hpiece, ⟨rfl, -⟩ | ⟨u, rfl, hu⟩⟩ := splitOn_eq_cons_iff.1 hpieces
    · exact last t hpiece
    · exact line piece u hpiece (ih u hu)

theorem lines_of_not_mem {t : Text} (h : '\n' ∉ t) : lines t = if t.isEmpty then [] else [t] := by
  rw [lines, splitOn_eq_singleton_iff.2 ⟨h, rfl⟩]
  rfl

theorem dropReturn_concat (t : Text) : dropReturn (t ++ ['\r']) = t := by
  rw [dropReturn, if_pos List.getLast?_concat, List.dropLast_concat]

theorem mem_of_mem_dropReturn {t : Text} {c : Char} (h : c ∈ t.dropReturn) : c ∈ t := by
  unfold dropReturn at h
  split at h
  · exact List.dropLast_subset t h
  · exact h

theorem prefix_dropReturn {lead t : Text} (h : lead <+: t) (hreturn : '\r' ∉ lead) :
    lead <+: t.dropReturn := by
  unfold dropReturn
  split
  · rename_i hlast
    obtain ⟨front, rfl⟩ := List.getLast?_eq_some_iff.1 hlast
    rw [List.dropLast_concat]
    rcases List.prefix_concat_iff.1 h with rfl | hfront
    · exact absurd (by simp) hreturn
    · exact hfront
  · exact h

/-- What is to be written behind a text so that the next line can begin: nothing where none is
open.  A newline alone does not end a line that ends with a carriage return: it would take that as a
part of the end. -/
inductive LineEnd (t : Text) : Text → Prop
  | none : t = [] ∨ t.getLast? = some '\n' → LineEnd t []
  | newline : t ≠ [] → t.getLast? ≠ some '\n' → t.getLast? ≠ some '\r' → LineEnd t ['\n']
  | returnNewline : t ≠ [] → t.getLast? ≠ some '\n' → LineEnd t ['\r', '\n']

theorem LineEnd.of_behind {l t ending : Text} (h : LineEnd (l ++ '\n' :: t) ending) :
    LineEnd t ending := by
  cases t with
  | nil =>
    have hlast : (l ++ ['\n']).getLast? = some '\n' := List.getLast?_concat
    cases h with
    | none _ => exact .none (.inl rfl)
    | newline _ hnewline _ => exact absurd hlast hnewline
    | returnNewline _ hnewline => exact absurd hlast hnewline
  | cons c t =>
    have hlast : (l ++ '\n' :: c :: t).getLast? = (c :: t).getLast? := by
      rw [List.getLast?_append, List.getLast?_cons_cons, List.getLast?_cons, Option.some_or]
    have hne : c :: t ≠ [] := List.cons_ne_nil c t
    cases h with
    | none hstart =>
      rw [hlast] at hstart
      exact .none (.inr (hstart.resolve_left (by simp)))
    | newline _ hnewline hreturn =>
      rw [hlast] at hnewline hreturn
      exact .newline hne hnewline hreturn
    | returnNewline _ hnewline =>
      rw [hlast] at hnewline
      exact .returnNewline hne hnewline

theorem lines_append_of_lineEnd {t ending : Text} (u : Text) (h : LineEnd t ending) :
    lines (t ++ ending ++ u) = lines t ++ lines u := by
  induction t using line_induction with
  | last t hnewline =>
    cases h with
    | none hstart =>
      have hnil : t = [] := hstart.resolve_right fun hlast => hnewline (List.mem_of_getLast? hlast)
      rw [hnil]
      rfl
    | newline hne _ hreturn =>
      have hlines : lines t = [t] := by
        rw [lines_of_not_mem hnewline, List.isEmpty_eq_false_iff.2 hne]
        rfl
      rw [hlines, List.append_assoc, List.singleton_append, lines_append_newline _ hnewline,
        dropReturn_eq_self hreturn]
      rfl
    | returnNewline hne _ =>
      have hlines : lines t = [t] := by
        rw [lines_of_not_mem hnewline, List.isEmpty_eq_false_iff.2 hne]
        rfl
      have hnewline' : '\n' ∉ t ++ ['\r'] := by simp [hnewline]
      have htext : t ++ ['\r', '\n'] ++ u = (t ++ ['\r']) ++ '\n' :: u := by simp
      rw [hlines, htext, lines_append_newline _ hnewline', dropReturn_concat]
      rfl
  | line l t hl ih =>
    have htext : l ++ '\n' :: t ++ ending ++ u = l ++ '\n' :: (t ++ ending ++ u) := by simp
    rw [htext, lines_append_newline _ hl, lines_append_newline _ hl, ih h.of_behind]
    rfl

def withReturns (t : Text) : Text := t.flatMap fun c => if c = '\n' then ['\r', '\n'] else [c]

theorem withReturns_append (s t : Text) : (s ++ t).withReturns = s.withReturns ++ t.withReturns :=
  List.flatMap_append

theorem withReturns_of_not_mem {t : Text} (h : '\n' ∉ t) : t.withReturns = t := by
  induction t with
  | nil => rfl
  | cons c t ih =>
    rw [List.mem_cons, not_or] at h
    have hc : c ≠ '\n' := fun heq => h.1 heq.symm
    have ht : withReturns t = t := ih h.2
    simp only [withReturns, List.flatMap_cons, if_neg hc] at ht ⊢
    rw [ht, List.singleton_append]

theorem lines_withReturns {t : Text} (h : '\r' ∉ t) : lines t.withReturns = lines t := by
  induction t using line_induction with
  | last t hnewline => rw [withReturns_of_not_mem hnewline]
  | line l t hl ih =>
    rw [List.mem_append, List.mem_cons, not_or, not_or] at h
    obtain ⟨hreturn, -, ht⟩ := h
    have htext : withReturns (l ++ '\n' :: t) = (l ++ ['\r']) ++ '\n' :: t.withReturns := by
      rw [withReturns_append, withReturns_of_not_mem hl]
      simp [withReturns]
    have hl' : '\n' ∉ l ++ ['\r'] := by simp [hl]
    have hself : l.dropReturn = l := dropReturn_eq_self fun hlast => hreturn (List.mem_of_getLast? hlast)
    rw [htext, lines_append_newline _ hl', lines_append_newline _ hl, dropReturn_concat, hself, ih ht]

/-! ### Blanks -/

def isBlank (c : Char) : Bool := Characters.whiteSpace.has c

def trimFront (t : Text) : Text := t.dropWhile isBlank

def trimBack (t : Text) : Text := (t.reverse.dropWhile isBlank).reverse

def trim (t : Text) : Text := t.trimFront.trimBack

theorem exists_trimFront_eq (t : Text) : ∃ trail, t.trimFront = t.trim ++ trail := by
  obtain ⟨-, trail, -, heq⟩ := dropWhile_eq_iff.1 (rfl : t.trimFront.reverse.dropWhile isBlank = _)
  refine ⟨trail.reverse, ?_⟩
  rw [trim, trimBack, ← List.reverse_append, ← heq, List.reverse_reverse]

theorem trim_eq_iff {t core : Text} :
    t.trim = core ↔
      (∀ c, core.head? = some c → isBlank c = false) ∧
      (∀ c, core.getLast? = some c → isBlank c = false) ∧
        ∃ lead trail, (∀ c ∈ lead, isBlank c = true) ∧ (∀ c ∈ trail, isBlank c = true) ∧
          t = lead ++ core ++ trail :=
  dropWhile_both_eq_iff

def isSpace (c : Char) : Bool := c == ' ' || c == '\t'

theorem isBlank_of_isSpace {c : Char} (h : isSpace c = true) : isBlank c = true := by
  simp only [isSpace, Bool.or_eq_true, beq_iff_eq] at h
  rcases h with h | h
  · subst h
    decide +kernel
  · subst h
    decide +kernel

def dropSpaces (t : Text) : Text := t.dropWhile isSpace

def stripSpaces (t : Text) : Text := (t.dropSpaces.reverse.dropWhile isSpace).reverse

theorem stripSpaces_eq_iff {t core : Text} :
    t.stripSpaces = core ↔
      (∀ c, core.head? = some c → isSpace c = false) ∧
      (∀ c, core.getLast? = some c → isSpace c = false) ∧
        ∃ lead trail, (∀ c ∈ lead, isSpace c = true) ∧ (∀ c ∈ trail, isSpace c = true) ∧
          t = lead ++ core ++ trail :=
  dropWhile_both_eq_iff

end Blueprints.Text
