import Blueprints.Extractor

/-!
# Results

A run takes every source apart on its own and keeps the results in the order of the sources.  Two
sources or more may be taken apart at the same time.
-/

namespace Blueprints

/-- A source and what came of it. -/
structure LineResult where
  source : Text
  attempt : Attempt
deriving DecidableEq

namespace LineResult

def result (l : LineResult) : Option Extraction := l.attempt.result

end LineResult

/-- The results of a run, in the order of the sources. -/
structure Results where
  lines : List LineResult
deriving DecidableEq

namespace Results

def total (r : Results) : Nat := r.lines.length

def matched (r : Results) : Nat := r.lines.countP fun l => l.result.isSome

def unmatched (r : Results) : Nat := r.total - r.matched

def allMatched (r : Results) : Bool := r.lines.all fun l => l.result.isSome

theorem matched_le_total (r : Results) : r.matched ≤ r.total := List.countP_le_length

theorem matched_add_unmatched (r : Results) : r.matched + r.unmatched = r.total := by
  have := r.matched_le_total
  simp only [unmatched]
  omega

end Results

/-- A way to take sources apart, several at a time, and to collect the results. -/
abbrev Collector := (Text → LineResult) → List Text → List LineResult

namespace Collector

def inOrder : Collector := List.map

/-- The collected results stand in the places of their sources. -/
def KeepsOrder (collect : Collector) : Prop :=
  ∀ (takeApart : Text → LineResult) (sources : List Text) (place : Nat),
    (collect takeApart sources)[place]? = sources[place]?.map takeApart

theorem KeepsOrder.eq_map {collect : Collector} (h : collect.KeepsOrder)
    (takeApart : Text → LineResult) (sources : List Text) :
    collect takeApart sources = sources.map takeApart := by
  apply List.ext_getElem?
  intro place
  rw [h, List.getElem?_map]

end Collector

namespace Extractor

variable {P : Type} [PatternLanguage P]

/-- Takes all sources apart, at the same time if that is allowed and there are several. -/
def runWith (collect : Collector) (sequential : Bool) (x : Extractor P)
    (context : Option Context) (sources : List Text) : Results :=
  let takeApart (source : Text) : LineResult := ⟨source, x.attempt context source⟩
  ⟨if sequential || sources.length < 2 then sources.map takeApart else collect takeApart sources⟩

def run (x : Extractor P) (context : Option Context) (sources : List Text) : Results :=
  ⟨sources.map fun source => ⟨source, x.attempt context source⟩⟩

theorem runWith_eq_run {collect : Collector} (h : collect.KeepsOrder) (sequential : Bool)
    (x : Extractor P) (context : Option Context) (sources : List Text) :
    x.runWith collect sequential context sources = x.run context sources := by
  simp only [runWith, run, h.eq_map, ite_self]

end Extractor

end Blueprints
