import Blueprints.Text.Lines

/-!
# Sources

The sources of a run are the lines of its inputs, one input after the other.  An input is a file or
the standard input, which is exhausted once it has been read.
-/

namespace Blueprints

/-- What can be read from outside. -/
structure Files where
  /-- The bytes of a file, or why it cannot be opened. -/
  opening : Text → Except Text (Except Text ByteArray)
  /-- The bytes of the standard input, or why it cannot be read. -/
  standardInput : Except Text ByteArray

inductive SourceError
  | notOpened (path cause : Text)
  /-- An input was opened, but reading it failed. -/
  | notRead (cause : Text)
deriving Repr, DecidableEq

namespace Sources

def invalidText : Text := .ofString "stream did not contain valid UTF-8"

def decode (bytes : ByteArray) : Except Text Text :=
  match bytes.utf8Decode? with
  | some chars => .ok chars.toList
  | none => .error invalidText

theorem decode_utf8Encode (t : Text) : decode t.utf8Encode = .ok t := by
  simp [decode]

def linesOf (content : Except Text ByteArray) : Except SourceError (List Text) :=
  match content.bind decode with
  | .ok t => .ok t.lines
  | .error cause => .error (.notRead cause)

/-- Does a path stand for the standard input?  A hyphen does, also with separators and single dots
behind it: two paths with the same components are the same. -/
def isStandardInput (path : Text) : Bool :=
  match path.splitOn '/' with
  | first :: more => first == ['-'] && more.all fun piece => piece.isEmpty || piece == ['.']
  | [] => false

/-- The lines of the inputs; `input` is what has not been read of the standard input. -/
def readAll (files : Files) :
    (input : Except Text ByteArray) → List Text → Except SourceError (List Text)
  | _, [] => .ok []
  | input, path :: more =>
    if isStandardInput path then do
      let lines ← linesOf input
      let rest ← readAll files (.ok .empty) more
      .ok (lines ++ rest)
    else
      match files.opening path with
      | .error cause => .error (.notOpened path cause)
      | .ok content => do
        let lines ← linesOf content
        let rest ← readAll files input more
        .ok (lines ++ rest)

/-- The lines of the inputs, or of the standard input when none is given. -/
def read (files : Files) (inputs : List Text) : Except SourceError (List Text) :=
  readAll files files.standardInput (if inputs.isEmpty then [['-']] else inputs)

end Sources

end Blueprints
