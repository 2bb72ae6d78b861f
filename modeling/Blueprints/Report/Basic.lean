import Blueprints.Results
import Blueprints.Report.Styled
import Blueprints.Report.Json
import Blueprints.Report.Duration

/-!
# Reports

Every source gives one line, as styled text or as JSON; captures are written in the order of their
names.  A summary closes a report in the text form.
-/

namespace Blueprints

inductive Format
  | text
  | json
deriving Repr, DecidableEq

namespace LineResult

/-- A capture, with a gap in front. -/
def capturePieces (capture : Text × Text) : List Piece :=
  [.plain [' ', ' '], ⟨capture.1, some .cyan⟩, .plain (['='] ++ capture.2)]

def pieces (l : LineResult) : List Piece :=
  match l.result with
  | some e =>
    [⟨['✓'], some .green⟩, .plain ([' '] ++ e.extracted)]
      ++ e.captures.entries.flatMap capturePieces ++ [.plain ['\n']]
  | none => [⟨['✗'], some .red⟩, .plain ([' '] ++ l.source ++ ['\n'])]

def json (l : LineResult) : Json :=
  match l.result with
  | some e =>
    .object [
      (.ofString "extracted", .string e.extracted),
      (.ofString "extractions", .ofNames e.captures),
      (.ofString "source", .string l.source)]
  | none => .object [(.ofString "error", .yes), (.ofString "source", .string l.source)]

def line (format : Format) (color : Bool) (l : LineResult) : Text :=
  match format with
  | .text => Piece.renderAll color l.pieces
  | .json => l.json.print ++ ['\n']

end LineResult

namespace Results

def countPieces (r : Results) : List Piece :=
  [⟨.ofNat r.total ++ .ofString " lines", some .bold⟩, .plain [',', ' '],
    ⟨.ofNat r.matched ++ .ofString " matched", some .green⟩]
    ++ if r.unmatched = 0 then []
      else [.plain [',', ' '], ⟨.ofNat r.unmatched ++ .ofString " unmatched", some .red⟩]

def summaryPieces (r : Results) (nanoseconds : Nat) : List Piece :=
  r.countPieces ++ [⟨.ofString " in " ++ Duration.print nanoseconds ++ ['\n'], some .dimmed⟩]

/-- The lines of all results; with `matchesOnly` the others are left out. -/
def report (format : Format) (color matchesOnly : Bool) (r : Results) : Text :=
  (r.lines.filter fun l => !matchesOnly || l.result.isSome).flatMap (·.line format color)

/-- The summary, which only the text form has. -/
def summary (format : Format) (color : Bool) (nanoseconds : Nat) (r : Results) : Text :=
  match format with
  | .text => Piece.renderAll color (r.summaryPieces nanoseconds)
  | .json => []

end Results

end Blueprints
