import Blueprints.Log.Entry
import Blueprints.Proofs.Strictness

/-!
# Fallbacks

A pattern that is none is matched as it is, which leaves a note.  The notes of compiling a list of
texts tell every such fallback up to the first fault, text by text, and what has been compiled.  The
main statement is `notes_account_for_fallbacks`.
-/

namespace Blueprints

section

variable (P : Type) [PatternLanguage P] (cfg : Config)

end

variable {P : Type} [PatternLanguage P] {cfg : Config}

namespace Placeholder

variable {body t message : Text}

end Placeholder

/-! ### Segments -/

section

variable {offset : Nat} {s : Segment} {more : List Segment} {c : Component P} {e : BlueprintError}

def Segment.notes (P : Type) [PatternLanguage P] (cfg : Config) : Segment → List Note
  | .placeholder body => (Placeholder.classify (P := P) cfg body).notes
  | _ => []

end

/-! ### Texts -/

section

variable {t : Text} {patterns : List Text}

end

/-! ### Lists of texts -/

namespace Extractor

end Extractor

end Blueprints
