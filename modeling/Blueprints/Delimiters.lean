import Blueprints.Text.Basic

/-!
# Delimiters

A placeholder is written as one start character, two opening characters, its body, and two closing
characters; a separator divides the body.  The four characters differ from one another.
-/

namespace Blueprints

/-- Four characters, not yet known to differ. -/
structure DelimiterChars where
  start : Char
  opening : Char
  separator : Char
  closing : Char
deriving Repr, DecidableEq

namespace DelimiterChars

/-- The characters in the order in which a placeholder uses them. -/
def toText (c : DelimiterChars) : Text := [c.start, c.opening, c.separator, c.closing]

def ofText? : Text → Option DelimiterChars
  | [start, opening, separator, closing] => some ⟨start, opening, separator, closing⟩
  | _ => none

theorem ofText?_eq_some_iff {t : Text} {c : DelimiterChars} : ofText? t = some c ↔ t = c.toText := by
  constructor
  · intro h
    unfold ofText? at h
    split at h
    · cases h
      rfl
    · cases h
  · intro h
    rw [h]
    rfl

end DelimiterChars

/-- Four characters that differ from one another. -/
structure Delimiters where
  chars : DelimiterChars
  distinct : chars.toText.Nodup := by decide
deriving Repr, DecidableEq

namespace Delimiters

def standard : Delimiters := { chars := ⟨'$', '\x7b', ':', '\x7d'⟩ }

instance : Inhabited Delimiters := ⟨standard⟩

/-- The delimiters with the given characters, if these differ. -/
def ofChars? (c : DelimiterChars) : Option Delimiters :=
  if h : c.toText.Nodup then some ⟨c, h⟩ else none

def start (d : Delimiters) : Char := d.chars.start

def opening (d : Delimiters) : Char := d.chars.opening

def separator (d : Delimiters) : Char := d.chars.separator

def closing (d : Delimiters) : Char := d.chars.closing

theorem start_not_mem (d : Delimiters) : d.start ∉ [d.opening, d.separator, d.closing] :=
  (List.nodup_cons.1 d.distinct).1

theorem start_ne_opening (d : Delimiters) : d.start ≠ d.opening := by
  intro h
  exact d.start_not_mem (by simp [h])

theorem start_ne_closing (d : Delimiters) : d.start ≠ d.closing := by
  intro h
  exact d.start_not_mem (by simp [h])

def opener (d : Delimiters) : Text := [d.start, d.opening, d.opening]

def closer (d : Delimiters) : Text := [d.closing, d.closing]

def enclose (d : Delimiters) (body : Text) : Text := d.opener ++ body ++ d.closer

end Delimiters

end Blueprints
