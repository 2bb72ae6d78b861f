import Blueprints.Proofs.Choice
import Blueprints.Proofs.Comparison
import Blueprints.CommandLine.Program

/-!
# Refusals

A source is refused by the blueprints that are tried before one matches.  What is noted down of each of
them is where the drain stood when it could not go on, so that nothing but the blueprint and the source
is needed to see why.  The main statement is `refusals_explain_misses`.
-/

namespace Blueprints

variable {P : Type} [PatternLanguage P]

namespace Blueprint

end Blueprint

namespace Component

end Component

/-! ### Blueprints -/

namespace Blueprint

variable {b : Blueprint P} {context : Option Context} {source drain : Text}

end Blueprint

/-! ### Lists of blueprints -/

namespace Extractor

variable {context : Option Context} {source : Text} {bs : List (Blueprint P)}

end Extractor

end Blueprints
