import Blueprints.Characters.Lookup
import Blueprints.Pattern.Regular

/-!
# Lockstep search

A regular expression is turned into an automaton whose forks are ordered by preference.  The search
moves all its threads over the text together, most preferred thread first; at each place a state is
entered at most once, by the most preferred thread that reaches it.  The first match in preference
order among those with the leftmost start wins.
-/

namespace Blueprints

/-- A stretch of a text, counted in characters: `stop` is excluded. -/
structure Span where
  start : Nat
  stop : Nat
deriving Repr, DecidableEq

/-! ### Places -/

/-- The character before a place, and the one after it. -/
structure Surroundings where
  before : Option Char
  after : Option Char

def surroundingsAt (text : Array Char) (i : Nat) : Surroundings :=
  ⟨if i = 0 then none else text[i - 1]?, text[i]?⟩

/-- Is there a word character?  Without Unicode only ASCII characters are. -/
def isWord (unicode : Bool) : Option Char → Bool
  | none => false
  | some c => if unicode then Characters.wordCharacter.has c else c.isAlphanum || c == '_'

def Look.holds (place : Surroundings) : Look → Bool
  | .textStart => place.before.isNone
  | .textEnd => place.after.isNone
  | .lineStart => place.before.all (· == '\n')
  | .lineEnd => place.after.all (· == '\n')
  | .lineStartCrlf =>
    place.before.all (· == '\n') || (place.before == some '\r' && place.after != some '\n')
  | .lineEndCrlf =>
    place.after.all (· == '\r') || (place.after == some '\n' && place.before != some '\r')
  | .wordBoundary u => isWord u place.before != isWord u place.after
  | .notWordBoundary u => isWord u place.before == isWord u place.after
  | .wordStart u => !isWord u place.before && isWord u place.after
  | .wordEnd u => isWord u place.before && !isWord u place.after
  | .wordStartHalf u => !isWord u place.before
  | .wordEndHalf u => !isWord u place.after

/-! ### Automata -/

inductive AutomatonState
  | accept
  | chars (set : CharClass) (next : Nat)
  | look (test : Look) (next : Nat)
  | fork (first second : Nat)
  | save (slot : Nat) (next : Nat)
deriving Inhabited

structure Automaton where
  states : Array AutomatonState
  start : Nat

namespace Automaton

def add (s : AutomatonState) (states : Array AutomatonState) : Nat × Array AutomatonState :=
  (states.size, states.push s)

/-- A fork between two ways, the first of which is preferred if `greedy`. -/
def forkOf (greedy : Bool) (on off : Nat) : AutomatonState :=
  if greedy then .fork on off else .fork off on

/-- Adds states that match an expression and then go on at `next`; gives the state to enter.  With
`slots` the places where groups begin and end are remembered. -/
def build (slots : Bool) : Regular → Nat → Array AutomatonState → Nat × Array AutomatonState
  | .empty, next, states => (next, states)
  | .chars set, next, states => add (.chars set next) states
  | .look test, next, states => add (.look test next) states
  | .seq a b, next, states =>
    let (second, states) := build slots b next states
    build slots a second states
  | .alt a b, next, states =>
    let (first, states) := build slots a next states
    let (second, states) := build slots b next states
    add (.fork first second) states
  | .group index a, next, states =>
    if slots then
      let (stop, states) := add (.save (2 * index + 1) next) states
      let (body, states) := build slots a stop states
      add (.save (2 * index) body) states
    else build slots a next states
  | .iterate least most greedy a, next, states =>
    let copies (count : Nat) (next : Nat) (states : Array AutomatonState) :
        Nat × Array AutomatonState :=
      count.fold (fun _ _ (next, states) => build slots a next states) (next, states)
    match most with
    | some most =>
      let (entry, states) :=
        (most - least).fold (fun _ _ (entry, states) =>
          let (body, states) := build slots a entry states
          add (forkOf greedy body next) states) (next, states)
      copies least entry states
    | none =>
      -- The loop is entered through its body, so that a body that can match nothing keeps its
      -- preference.
      let (again, states) := add .accept states
      let (body, states) := build slots a again states
      let states := states.setIfInBounds again (forkOf greedy body next)
      if least = 0 then
        if a.nullable then add (forkOf greedy body next) states else (again, states)
      else copies (least - 1) body states

def ofRegular (slots : Bool) (r : Regular) : Automaton :=
  let (start, states) := build slots r 0 #[.accept]
  ⟨states, start⟩

/-! ### Threads -/

/-- A thread waits at a state that consumes a character or accepts; it remembers where it started and
the places it saved, latest first. -/
structure Thread where
  state : Nat
  start : Nat
  saved : List (Nat × Nat)

/-- The threads at a place, most preferred first, and for each state the last place at which it was
entered, plus one. -/
structure Threads where
  list : Array Thread
  entered : Array Nat

/-- Follows states that consume nothing, most preferred first.  `fuel` is at least twice the number
of states plus one: each state is followed once and puts at most two on the stack. -/
def follow (states : Array AutomatonState) (place : Surroundings) (here start : Nat) :
    (fuel : Nat) → List (Nat × List (Nat × Nat)) → Threads → Threads
  | 0, _, ts => ts
  | _, [], ts => ts
  | fuel + 1, (s, saved) :: stack, ts =>
    if ts.entered.getD s 0 = here + 1 then follow states place here start fuel stack ts
    else
      let ts := { ts with entered := ts.entered.setIfInBounds s (here + 1) }
      match states[s]? with
      | none => follow states place here start fuel stack ts
      | some (.look test next) =>
        if test.holds place then follow states place here start fuel ((next, saved) :: stack) ts
        else follow states place here start fuel stack ts
      | some (.fork first second) =>
        follow states place here start fuel ((first, saved) :: (second, saved) :: stack) ts
      | some (.save slot next) =>
        follow states place here start fuel ((next, (slot, here) :: saved) :: stack) ts
      | some _ =>
        follow states place here start fuel stack { ts with list := ts.list.push ⟨s, start, saved⟩ }

/-- A match: where it is, and the places saved on the way, latest first. -/
structure Match where
  span : Span
  saved : List (Nat × Nat)

/-- Moves the threads from index `i` on over one character.  A thread that accepts ends the threads
after it. -/
def advance (states : Array AutomatonState) (fuel : Nat) (place : Surroundings) (here : Nat)
    (c : Option Char) (threads : Array Thread) (i : Nat) (next : Threads) (best : Option Match) :
    Threads × Option Match :=
  if h : i < threads.size then
    let t := threads[i]
    match states[t.state]? with
    | some .accept => (next, some ⟨⟨t.start, here⟩, t.saved⟩)
    | some (.chars set target) =>
      let next :=
        match c with
        | some c =>
          if set.has c then
            follow states place (here + 1) t.start fuel [(target, t.saved)] next
          else next
        | none => next
      advance states fuel place here c threads (i + 1) next best
    | _ => advance states fuel place here c threads (i + 1) next best
  else (next, best)
termination_by threads.size - i

/-- The search from place `here` on, with the threads there.  While no match has been found and the
search is not anchored, a new thread starts at every place. -/
def searchFrom (m : Automaton) (text : Array Char) (anchored : Bool) (here : Nat) (ts : Threads)
    (best : Option Match) : Option Match :=
  let fuel := 2 * m.states.size + 2
  let ts :=
    if best.isSome || anchored then ts
    else follow m.states (surroundingsAt text here) here here fuel [(m.start, [])] ts
  if ts.list.isEmpty && (best.isSome || anchored) then best
  else
    let (next, best) :=
      advance m.states fuel (surroundingsAt text (here + 1)) here text[here]? ts.list 0
        ⟨#[], ts.entered⟩ best
    if here < text.size then searchFrom m text anchored (here + 1) next best else best
termination_by text.size - here

/-- The leftmost match that starts at or after a place. -/
def search (m : Automaton) (text : Array Char) (start : Nat) : Option Match :=
  searchFrom m text false start ⟨#[], Array.replicate m.states.size 0⟩ none

def searchAt (m : Automaton) (text : Array Char) (start : Nat) : Option Match :=
  let ts := follow m.states (surroundingsAt text start) start start (2 * m.states.size + 2)
    [(m.start, [])] ⟨#[], Array.replicate m.states.size 0⟩
  searchFrom m text true start ts none

end Automaton

end Blueprints
