import Blueprints.Pattern.Automaton
import Blueprints.Pattern.Budget
import Blueprints.Pattern.ExtendedSyntax

/-!
# Backtracking search

An extended expression is turned into a program whose instructions name the instruction that
follows.  A branch puts its second way on a stack; a failure takes the latest way from it.  Plain
parts run as automata.  A search is given up when it fails more than a million times, or when more
than a million ways wait on the stack.
-/

namespace Blueprints

namespace Backtracking

/-! ### Programs -/

/-- An instruction.  Slots hold places of the text or counts; the groups own the first ones. -/
inductive Instruction
  | accept
  | literal (text : Text) (next : Nat)
  | chars (set : CharClass) (next : Nat)
  | look (test : Look) (next : Nat)
  | branch (first second : Nat)
  | savePlace (slot next : Nat)
  | clearCount (slot next : Nat)
  | returnTo (slot next : Nat)
  /-- Goes round once more or leaves the loop, by the number of rounds so far. -/
  | count (least : Nat) (most : Option Nat) (greedy : Bool) (slot body next : Nat)
  /-- The same for a body that may match nothing: fails after a round that did not move. -/
  | countMoving (least : Nat) (greedy : Bool) (slot check body next : Nat)
  | goBack (count next : Nat)
  /-- Fails, and drops the ways put on the stack since the one that leads to `outside`. -/
  | failOutside (outside : Nat)
  | sameAsGroup (group next : Nat)
  | groupMatched (group next : Nat)
  /-- Runs an automaton at the place and takes over the groups that it saved. -/
  | run (automaton : Automaton) (groups : List Nat) (next : Nat)
  | beginAtomic (next : Nat)
  | endAtomic (next : Nat)
  | searchStart (next : Nat)
deriving Inhabited

structure Program where
  code : Array Instruction
  slots : Nat

namespace Program

def add (i : Instruction) (p : Program) : Nat × Program :=
  (p.code.size, { p with code := p.code.push i })

def patch (n : Nat) (i : Instruction) (p : Program) : Program :=
  { p with code := p.code.setIfInBounds n i }

def newSlot (p : Program) : Nat × Program := (p.slots, { p with slots := p.slots + 1 })

end Program

/-- A part that runs without backtracking: a text, a single character, or an automaton. -/
def emitPlain (es : List Extended) (next : Nat) (p : Program) : Option (Nat × Program) :=
  if es.isEmpty then some (next, p)
  else
    match Extended.literalsOf? es with
    | some text => some (p.add (.literal text next))
    | none => do
      let r ← Regular.read? (es.flatMap (Extended.spell 1))
      if !Budget.admits r then none
      let groups := Extended.groupsOf es
      match r with
      | .chars set => some (p.add (.chars set next))
      | r => some (p.add (.run (Automaton.ofRegular (!groups.isEmpty) r) groups next))

/-- Where the plain part of fixed size at the front of a sequence ends, and where the plain part at
its back begins.  At the back the size has to be fixed too if something that may fail follows. -/
def plainEnds (referenced : List Nat) (followed : Bool) (es : List Extended) : Nat × Nat :=
  let fixed (e : Extended) : Bool := e.fixedSize && !e.isHard referenced
  let front := (es.takeWhile fixed).length
  let back := ((es.drop front).reverse.takeWhile fun e =>
    if followed then fixed e else !e.isHard referenced).length
  (front, es.length - back)

/-- A loop around a body that goes on at a reserved instruction: `round` is the instruction to put
there, given where the body is entered. -/
def emitLoop (body : Nat → Program → Option (Nat × Program)) (round : Nat → Instruction)
    (p : Program) : Option (Nat × Nat × Program) := do
  let (again, p) := p.add .accept
  let (entry, p) ← body again p
  some (again, entry, p.patch again (round entry))

/-- A branch between going on and leaving, the first preferred if `greedy`. -/
def branchOf (greedy : Bool) (on off : Nat) : Instruction :=
  if greedy then .branch on off else .branch off on

def emitRepeat (least : Nat) (most : Option Nat) (greedy mayBeEmpty : Bool)
    (body : Nat → Program → Option (Nat × Program)) (next : Nat) (p : Program) :
    Option (Nat × Program) :=
  if least = 0 ∧ most = some 1 then do
    let (entry, p) ← body next p
    some (p.add (branchOf greedy entry next))
  else if most = none ∧ mayBeEmpty then do
    let (slot, p) := p.newSlot
    let (check, p) := p.newSlot
    let (again, _, p) ← emitLoop body (fun entry => .countMoving least greedy slot check entry next) p
    some (p.add (.clearCount slot again))
  else if most = none ∧ least ≤ 1 then do
    let (again, entry, p) ← emitLoop body (fun entry => branchOf greedy entry next) p
    some (if least = 0 then again else entry, p)
  else do
    let (slot, p) := p.newSlot
    let (again, _, p) ← emitLoop body (fun entry => .count least most greedy slot entry next) p
    some (p.add (.clearCount slot again))

def emitLookBody (behind : Bool) (e : Extended) (body : Nat → Program → Option (Nat × Program))
    (next : Nat) (p : Program) : Option (Nat × Program) := do
  let (entry, p) ← body next p
  if behind then
    if e.fixedSize then some (p.add (.goBack e.minSize entry)) else none
  else some (entry, p)

/-- A look-around that asks for a match and returns to the place. -/
def emitPositive (behind : Bool) (e : Extended) (body : Nat → Program → Option (Nat × Program))
    (next : Nat) (p : Program) : Option (Nat × Program) := do
  let (slot, p) := p.newSlot
  let (back, p) := p.add (.returnTo slot next)
  let (entry, p) ← emitLookBody behind e body back p
  some (p.add (.savePlace slot entry))

/-- A look-around that asks for no match.  The way outside goes through an instruction of its own, so
that it differs from every way put on the stack before. -/
def emitNegative (behind : Bool) (e : Extended) (body : Nat → Program → Option (Nat × Program))
    (next : Nat) (p : Program) : Option (Nat × Program) := do
  let (outside, p) := p.add (.literal [] next)
  let (fail, p) := p.add (.failOutside outside)
  let (entry, p) ← emitLookBody behind e body fail p
  some (p.add (.branch entry outside))

def emitLook (kind : LookAround) (e : Extended) (body : Nat → Program → Option (Nat × Program))
    (next : Nat) (p : Program) : Option (Nat × Program) :=
  if kind.positive then emitPositive kind.looksBehind e body next p
  else emitNegative kind.looksBehind e body next p

mutual

/-- Adds instructions that match an expression and go on at `next`; gives the instruction to enter.
A plain expression runs as an automaton unless what follows may ask for its other matches, as
`followed` tells.  Branches of different sizes are looked for one by one when looking behind. -/
def emit (referenced : List Nat) (followed : Bool) :
    Extended → Nat → Program → Option (Nat × Program)
  | e, next, p =>
    if !followed && !e.isHard referenced then emitPlain [e] next p
    else match e with
    | .empty => some (next, p)
    | .any true => some (p.add (.chars .all next))
    | .any false => some (p.add (.chars (CharClass.single '\n').compl next))
    | .literal c anyCase => emitPlain [.literal c anyCase] next p
    | .set spelling anyCase => emitPlain [.set spelling anyCase] next p
    | .place test => some (p.add (.look test next))
    | .sequence es => do
      let (front, back) := plainEnds referenced followed es
      let (next, p) ← emitPlain (es.drop back) next p
      let (next, p) ← emitMiddle referenced front (back - front) es next p
      emitPlain (es.take front) next p
    | .choice es => emitBranches referenced followed es next p
    | .group index e => do
      let (stop, p) := p.add (.savePlace (2 * index + 1) next)
      let (entry, p) ← emit referenced followed e stop p
      some (p.add (.savePlace (2 * index) entry))
    | .iterate least most greedy e =>
      let inner := if least = 0 ∧ most = some 1 then followed else true
      emitRepeat least most greedy (e.minSize == 0)
        (fun next p => emit referenced inner e next p) next p
    | .lookAround kind (.choice es) =>
      if kind.looksBehind && !Extended.sameFixedSize es then
        if kind.positive then emitLookBranches referenced es next p
        else emitLookNone referenced es next p
      else
        emitLook kind (.choice es) (fun next p =>
          if !Extended.anyHard referenced es then emitPlain [.choice es] next p
          else emitBranches referenced false es next p) next p
    | .lookAround kind e =>
      emitLook kind e (fun next p => emit referenced false e next p) next p
    | .backReference group => some (p.add (.sameAsGroup group next))
    | .atomic e => do
      let (stop, p) := p.add (.endAtomic next)
      let (entry, p) ← emit referenced false e stop p
      some (p.add (.beginAtomic entry))
    | .keepOut => some (p.add (.savePlace 0 next))
    | .searchStart => some (p.add (.searchStart next))
    | .groupMatched group => some (p.add (.groupMatched group next))
    | .condition test yes no => do
      let (no, p) ← emit referenced followed no next p
      let (yes, p) ← emit referenced followed yes next p
      let (stop, p) := p.add (.endAtomic yes)
      let (test, p) ← emit referenced followed test stop p
      let (entry, p) := p.add (.branch test no)
      some (p.add (.beginAtomic entry))

/-- The parts of a sequence from number `skip` on, as many as `count`. -/
def emitMiddle (referenced : List Nat) : (skip count : Nat) → List Extended → Nat → Program →
    Option (Nat × Program)
  | _, _, [], next, p => some (next, p)
  | skip + 1, count, _ :: es, next, p => emitMiddle referenced skip count es next p
  | 0, 0, _, next, p => some (next, p)
  | 0, count + 1, e :: es, next, p => do
    let (next, p) ← emitMiddle referenced 0 count es next p
    emit referenced true e next p

def emitBranches (referenced : List Nat) (followed : Bool) : List Extended → Nat → Program →
    Option (Nat × Program)
  | [], next, p => some (next, p)
  | [e], next, p => emit referenced followed e next p
  | e :: es, next, p => do
    let (more, p) ← emitBranches referenced followed es next p
    let (entry, p) ← emit referenced followed e next p
    some (p.add (.branch entry more))

def emitLookBranches (referenced : List Nat) : List Extended → Nat → Program →
    Option (Nat × Program)
  | [], next, p => some (next, p)
  | [e], next, p => emitPositive true e (fun next p => emit referenced false e next p) next p
  | e :: es, next, p => do
    let (more, p) ← emitLookBranches referenced es next p
    let (entry, p) ← emitPositive true e (fun next p => emit referenced false e next p) next p
    some (p.add (.branch entry more))

def emitLookNone (referenced : List Nat) : List Extended → Nat → Program →
    Option (Nat × Program)
  | [], next, p => some (next, p)
  | e :: es, next, p => do
    let (next, p) ← emitLookNone referenced es next p
    emitNegative true e (fun next p => emit referenced false e next p) next p

end

structure Machine where
  code : Array Instruction
  start : Nat
  slots : Nat

/-- The machine that searches for an expression: at each place it tries the expression, then moves on
by one character. -/
def Machine.ofExtended? (e : ReadExtended) : Option Machine := do
  let p : Program := ⟨#[.accept], 2 * (e.groups + 1)⟩
  let (entry, p) ← emit e.referenced true (.group 0 e.body) 0 p
  let (again, p) := p.add .accept
  let (skip, p) := p.add (.chars .all again)
  let p := p.patch again (.branch entry skip)
  some ⟨p.code, again, p.slots⟩

/-! ### The run -/

/-- How often a search may fail before it is given up. -/
def failureLimit : Nat := 1000000

/-- How many ways may wait on the stack. -/
def stackLimit : Nat := 1000000

/-- A way to go on: an instruction, a place, and what was saved when the way was put aside. -/
structure Way where
  code : Nat
  place : Nat
  slots : Array (Option Nat)
  marks : List Nat

/-- The state of a run: the way taken, and the ways that wait, latest first, with their number. -/
structure Run where
  way : Way
  waiting : List Way := []
  depth : Nat := 0

inductive Step
  | next (r : Run)
  | fail (r : Run)
  | giveUp
  | found (slots : Array (Option Nat))

namespace Run

def goto (r : Run) (code : Nat) : Step := .next { r with way := { r.way with code := code } }

def move (r : Run) (code place : Nat) : Step :=
  .next { r with way := { r.way with code := code, place := place } }

def set (r : Run) (slot value : Nat) : Run :=
  { r with way := { r.way with slots := r.way.slots.setIfInBounds slot (some value) } }

def get (r : Run) (slot : Nat) : Option Nat := (r.way.slots[slot]?).join

/-- Goes on at the first instruction and puts the second aside. -/
def fork (r : Run) (first second : Nat) : Step :=
  if r.depth < stackLimit then
    .next ⟨{ r.way with code := first }, { r.way with code := second } :: r.waiting, r.depth + 1⟩
  else .giveUp

/-- Drops the ways that were put aside since there were `depth` of them. -/
def cut (r : Run) (depth : Nat) : Run :=
  { r with waiting := r.waiting.drop (r.depth - depth), depth := min r.depth depth }

/-- Drops the ways down to and including the one that leads to an instruction. -/
def dropTo (code : Nat) : List Way → Nat → List Way × Nat
  | [], depth => ([], depth)
  | w :: ws, depth => if w.code = code then (ws, depth - 1) else dropTo code ws (depth - 1)

/-- Takes over the groups that an automaton saved; the automaton numbers them from one. -/
def takeGroups (saved : List (Nat × Nat)) : List Nat → (inner : Nat) → Run → Run
  | [], _, r => r
  | group :: more, inner, r =>
    let slots := r.way.slots.setIfInBounds (2 * group) (saved.lookup (2 * inner))
    let slots := slots.setIfInBounds (2 * group + 1) (saved.lookup (2 * inner + 1))
    takeGroups saved more (inner + 1) { r with way := { r.way with slots := slots } }

end Run

def standsAt (text : Array Char) : Text → Nat → Bool
  | [], _ => true
  | c :: more, place => text[place]? == some c && standsAt text more (place + 1)

def step (code : Array Instruction) (text : Array Char) (r : Run) : Step :=
  let here := r.way.place
  match code.getD r.way.code .accept with
  | .accept =>
    match r.get 0, r.get 1 with
    | some start, some stop => .found (if stop < start then (r.set 0 stop).way.slots else r.way.slots)
    | _, _ => .found r.way.slots
  | .literal t next => if standsAt text t here then r.move next (here + t.length) else .fail r
  | .chars s next =>
    match text[here]? with
    | some c => if s.has c then r.move next (here + 1) else .fail r
    | none => .fail r
  | .look test next => if test.holds (surroundingsAt text here) then r.goto next else .fail r
  | .branch first second => r.fork first second
  | .savePlace slot next => (r.set slot here).goto next
  | .clearCount slot next => (r.set slot 0).goto next
  | .returnTo slot next => r.move next ((r.get slot).getD here)
  | .count least most greedy slot body next =>
    let n := (r.get slot).getD 0
    if most = some n then r.goto next
    else
      let r := r.set slot (n + 1)
      if n < least then r.goto body
      else if greedy then r.fork body next
      else r.fork next body
  | .countMoving least greedy slot check body next =>
    let n := (r.get slot).getD 0
    if least < n ∧ r.get check = some here then .fail r
    else
      let r := r.set slot (n + 1)
      if n < least then r.goto body
      else
        let r := r.set check here
        if greedy then r.fork body next else r.fork next body
  | .goBack count next => if count ≤ here then r.move next (here - count) else .fail r
  | .failOutside outside =>
    let (waiting, depth) := Run.dropTo outside r.waiting r.depth
    .fail { r with waiting := waiting, depth := depth }
  | .sameAsGroup group next =>
    match r.get (2 * group), r.get (2 * group + 1) with
    | some start, some stop =>
      let t := (text.extract start stop).toList
      if start ≤ stop ∧ standsAt text t here then r.move next (here + t.length) else .fail r
    | _, _ => .fail r
  | .groupMatched group next => if (r.get (2 * group)).isSome then r.goto next else .fail r
  | .run automaton groups next =>
    match automaton.searchAt text here with
    | some m => (Run.takeGroups m.saved groups 1 r).move next m.span.stop
    | none => .fail r
  | .beginAtomic next =>
    .next { r with way := { r.way with code := next, marks := r.depth :: r.way.marks } }
  | .endAtomic next =>
    match r.way.marks with
    | depth :: marks =>
      .next { r.cut depth with way := { r.way with code := next, marks := marks } }
    | [] => r.goto next
  | .searchStart next => if here = 0 then r.goto next else .fail r

/-- Executes instructions until the run ends.  `fuel` bounds the steps. -/
def go (code : Array Instruction) (text : Array Char) : (fuel : Nat) → (failures : Nat) → Run →
    Option (Array (Option Nat))
  | 0, _, _ => none
  | fuel + 1, failures, r =>
    match step code text r with
    | .next r => go code text fuel failures r
    | .found slots => some slots
    | .giveUp => none
    | .fail r =>
      match r.waiting with
      | [] => none
      | way :: waiting =>
        if failures = 0 then none
        else go code text fuel (failures - 1) ⟨way, waiting, r.depth - 1⟩

/-- The steps of a run; far more than a run takes that fails a million times. -/
def stepLimit : Nat := 0x10000000000

/-- The leftmost match, in the order of preference. -/
def Machine.search (m : Machine) (text : Array Char) : Option Span := do
  let start : Run := { way := ⟨m.start, 0, Array.replicate m.slots none, []⟩ }
  let slots ← go m.code text stepLimit failureLimit start
  some ⟨← (slots[0]?).join, ← (slots[1]?).join⟩

end Backtracking

end Blueprints
