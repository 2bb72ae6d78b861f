import Blueprints.Main
import Blueprints.Segment
import Blueprints.Proofs.Segmentation
import Blueprints.Proofs.Grammar
import Blueprints.Proofs.Consumption
import Blueprints.Proofs.Classification
import Blueprints.Proofs.Rendering
import Blueprints.Proofs.Canonical
import Blueprints.Proofs.Comparison
import Blueprints.Proofs.Skipping
import Blueprints.Proofs.Choice
import Blueprints.Proofs.ContextValues
import Blueprints.Proofs.Reinsertion
import Blueprints.Proofs.Faults
import Blueprints.Proofs.Strictness
import Blueprints.Proofs.Alternatives
import Blueprints.Proofs.Remainders
import Blueprints.Proofs.RuleFiles
import Blueprints.Proofs.Settings
import Blueprints.Proofs.Inputs
import Blueprints.Proofs.Runs
import Blueprints.Proofs.Acceptance
import Blueprints.Proofs.Concatenation
import Blueprints.Proofs.Redelimiting
import Blueprints.Proofs.PrefixTest
import Blueprints.Proofs.GivenArguments
import Blueprints.Proofs.Precedence
import Blueprints.Proofs.DirectiveLines
import Blueprints.Proofs.RuleGrammar
import Blueprints.Proofs.Layout
import Blueprints.Proofs.RefusedBodies
import Blueprints.Proofs.Refusals
import Blueprints.Proofs.Captures
import Blueprints.Proofs.Collected
import Blueprints.Proofs.Fallbacks
import Blueprints.Proofs.InputLines
import Blueprints.Proofs.Listings
import Blueprints.Proofs.Presentation
import Blueprints.Proofs.JsonGrammar
import Blueprints.Proofs.JsonLines
import Blueprints.Proofs.ByteOffsets
import Blueprints.Proofs.GuardedReading
import Blueprints.Proofs.GuardedDraining
import Blueprints.Proofs.Visits
