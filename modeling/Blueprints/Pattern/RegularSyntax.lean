import Blueprints.Text.Basic
import Blueprints.Characters.Lookup
import Blueprints.Pattern.Regular

/-!
# Reading regular expressions

`Regular.read?` reads the written form of a regular expression, or refuses it.  The reader keeps the
groups that are open on a stack; what it has read of the current branch is a list of items, last
item first.  Expressions nested more than `nestLimit` deep are refused.
-/

namespace Blueprints

structure PatternFlags where
  ignoreCase : Bool := false
  multiLine : Bool := false
  dotMatchesNewline : Bool := false
  swapGreed : Bool := false
  unicode : Bool := true
  crlf : Bool := false
  ignoreBlank : Bool := false
deriving Repr, DecidableEq

namespace PatternFlags

/-- Switches the flag with the given letter; `none` if no flag has it. -/
def set? (f : PatternFlags) (letter : Char) (on : Bool) : Option PatternFlags :=
  match letter with
  | 'i' => some { f with ignoreCase := on }
  | 'm' => some { f with multiLine := on }
  | 's' => some { f with dotMatchesNewline := on }
  | 'U' => some { f with swapGreed := on }
  | 'u' => some { f with unicode := on }
  | 'R' => some { f with crlf := on }
  | 'x' => some { f with ignoreBlank := on }
  | _ => none

end PatternFlags

namespace RegularSyntax

open Characters

/-- How deep sequences, choices, groups, repetitions and sets may be nested. -/
def nestLimit : Nat := 250

/-- Drops a comment up to and including the end of its line. -/
def dropComment : Text → Text
  | [] => []
  | c :: rest => if c = '\n' then rest else dropComment rest

theorem dropComment_length (t : Text) : (dropComment t).length ≤ t.length := by
  induction t with
  | nil => simp [dropComment]
  | cons c rest ih => simp only [dropComment]; split <;> simp only [List.length_cons] <;> omega

/-- Drops blank space and comments, where flags make them meaningless. -/
def skipBlank (f : PatternFlags) (t : Text) : Text :=
  match t with
  | [] => []
  | c :: rest =>
    if !f.ignoreBlank then c :: rest
    else if whiteSpace.has c then skipBlank f rest
    else if c = '#' then skipBlank f (dropComment rest)
    else c :: rest
termination_by t.length
decreasing_by
  · simp
  · have := dropComment_length rest
    simp only [List.length_cons]
    omega

/-! ### Escapes -/

inductive Element
  /-- A character; `twoDigits` tells that it was written as a code of two hexadecimal digits. -/
  | literal (c : Char) (twoDigits : Bool)
  | set (s : CharClass)
  | look (test : Look)

def isMeta (c : Char) : Bool :=
  ['\\', '.', '+', '*', '?', '(', ')', '|', '[', ']', '\x7b', '\x7d', '^', '$', '#', '&', '-',
    '~'].contains c

/-- Characters that stand for themselves after a backslash. -/
def isEscapable (c : Char) : Bool :=
  isMeta c || (c.toNat < 128 && !c.isAlphanum && c != '<' && c != '>')

def hexValue? (c : Char) : Option Nat :=
  if c.isDigit then some (c.toNat - '0'.toNat)
  else if 'a' ≤ c ∧ c ≤ 'f' then some (c.toNat - 'a'.toNat + 10)
  else if 'A' ≤ c ∧ c ≤ 'F' then some (c.toNat - 'A'.toNat + 10)
  else none

def hexNumber? (digits : Text) : Option Nat :=
  digits.foldlM (fun n d => (hexValue? d).map (n * 16 + ·)) 0

def charOfCode? (n : Nat) : Option Char := if n.isValidChar then some (Char.ofNat n) else none

/-- Exactly `count` characters, with meaningless blanks dropped after each. -/
def takeDigits (f : PatternFlags) : Nat → Text → Option (Text × Text)
  | 0, t => some ([], t)
  | _ + 1, [] => none
  | count + 1, c :: rest =>
    (takeDigits f count (skipBlank f rest)).map fun (digits, rest) => (c :: digits, rest)

/-- Everything up to a closing brace, with meaningless blanks dropped.  `fuel` is at least the
length of the text. -/
def takeBraced (f : PatternFlags) : (fuel : Nat) → Text → Option (Text × Text)
  | 0, _ => none
  | _, [] => none
  | fuel + 1, c :: rest =>
    if c = '\x7d' then some ([], rest)
    else (takeBraced f fuel (skipBlank f rest)).map fun (inside, rest) => (c :: inside, rest)

/-- A character by its hexadecimal code: in braces, or as `count` digits. -/
def readHexCode (f : PatternFlags) (count : Nat) (t : Text) : Option (Element × Text) :=
  match skipBlank f t with
  | [] => none
  | '\x7b' :: rest => do
    let rest := skipBlank f rest
    let (digits, rest) ← takeBraced f rest.length rest
    if digits.isEmpty then none
    let c ← (← hexNumber? digits) |> charOfCode?
    some (.literal c false, rest)
  | t => do
    let (digits, rest) ← takeDigits f count t
    let c ← (← hexNumber? digits) |> charOfCode?
    some (.literal c (count == 2), rest)

def splitProperty : Text → Option (Text × Text)
  | [] => none
  | ':' :: value => some ([], value)
  | '=' :: value => some ([], value)
  | c :: rest => (splitProperty rest).map fun (name, value) => (c :: name, value)

def splitUnequal : Text → Option (Text × Text)
  | [] => none
  | '!' :: '=' :: value => some ([], value)
  | c :: rest => (splitUnequal rest).map fun (name, value) => (c :: name, value)

/-- The set asked for inside a property's braces: `!=` divides first, then a colon, then `=`. -/
def propertySet? (inside : Text) : Option CharClass :=
  match splitUnequal inside with
  | some (name, value) => valued? name value
  | none =>
    match Text.cut? ':' inside with
    | some (name, value) => valued? name value
    | none =>
      match Text.cut? '=' inside with
      | some (name, value) => valued? name value
      | none => named? inside

/-- Folding and complement of a set, in that order.  Without Unicode only sets of ASCII
characters are admitted. -/
def closeSet (f : PatternFlags) (negated : Bool) (s : CharClass) : Option CharClass :=
  if f.unicode then
    let s := if f.ignoreCase then foldCase s else s
    some (if negated then s.compl else s)
  else
    let s := if f.ignoreCase then foldAsciiCase s else s
    if negated || !s.isAscii then none else some s

def readProperty (f : PatternFlags) (negated : Bool) (t : Text) : Option (Element × Text) := do
  let (found, rest) ←
    match skipBlank f t with
    | [] => none
    | '\x7b' :: rest => do
      let rest := skipBlank f rest
      let (inside, rest) ← takeBraced f rest.length rest
      some (propertySet? inside, rest)
    | c :: rest => if c = '\\' then none else some (named? [c], skipBlank f rest)
  if !f.unicode then none
  let s ← closeSet f negated (← found)
  some (.set s, rest)

def asciiDigit : CharClass := .range 48 57
def asciiSpace : CharClass := (CharClass.range 9 13).union (.range 32 32)
def asciiWord : CharClass := .unions [asciiDigit, .range 65 90, .range 95 95, .range 97 122]

/-- The sets that `\d`, `\s` and `\w` stand for, and their complements in capitals. -/
def readLetterClass (f : PatternFlags) (letter : Char) : Option CharClass :=
  let negated := letter.isUpper
  let s :=
    match letter.toLower with
    | 'd' => if f.unicode then decimalNumber else asciiDigit
    | 's' => if f.unicode then whiteSpace else asciiSpace
    | _ => if f.unicode then wordCharacter else asciiWord
  if !negated then some s else if f.unicode then some s.compl else none

/-- Letters and hyphens in the braces of a special word boundary. -/
def takeBoundaryName (f : PatternFlags) : (fuel : Nat) → Text → Text × Text
  | 0, t => ([], t)
  | _, [] => ([], [])
  | fuel + 1, c :: rest =>
    if c.isAlpha || c = '-' then
      let (name, rest) := takeBoundaryName f fuel (skipBlank f rest)
      (c :: name, rest)
    else ([], c :: rest)

/-- What follows `\b`: a kind of boundary in braces, a repetition, or anything else. -/
def readBoundary (f : PatternFlags) (t : Text) : Option (Element × Text) :=
  match t with
  | '\x7b' :: rest =>
    match skipBlank f rest with
    | [] => none
    | c :: more =>
      if c.isAlpha || c = '-' then
        match takeBoundaryName f (more.length + 1) (c :: more) with
        | (name, '\x7d' :: rest) =>
          match String.ofList name with
          | "start" => some (.look (.wordStart f.unicode), rest)
          | "end" => some (.look (.wordEnd f.unicode), rest)
          | "start-half" => some (.look (.wordStartHalf f.unicode), rest)
          | "end-half" => some (.look (.wordEndHalf f.unicode), rest)
          | _ => none
        | _ => none
      else some (.look (.wordBoundary f.unicode), t)
  | t => some (.look (.wordBoundary f.unicode), t)

def readEscape (f : PatternFlags) : Text → Option (Element × Text)
  | [] => none
  | c :: rest =>
    if c.isDigit then none
    else match c with
    | 'x' => readHexCode f 2 rest
    | 'u' => readHexCode f 4 rest
    | 'U' => readHexCode f 8 rest
    | 'p' => readProperty f false rest
    | 'P' => readProperty f true rest
    | 'd' | 's' | 'w' | 'D' | 'S' | 'W' => (readLetterClass f c).map fun s => (.set s, rest)
    | 'a' => some (.literal '\x07' false, rest)
    | 'f' => some (.literal '\x0c' false, rest)
    | 't' => some (.literal '\t' false, rest)
    | 'n' => some (.literal '\n' false, rest)
    | 'r' => some (.literal '\r' false, rest)
    | 'v' => some (.literal '\x0b' false, rest)
    | 'A' => some (.look .textStart, rest)
    | 'z' => some (.look .textEnd, rest)
    | 'b' => readBoundary f rest
    | 'B' => some (.look (.notWordBoundary f.unicode), rest)
    | '<' => some (.look (.wordStart f.unicode), rest)
    | '>' => some (.look (.wordEnd f.unicode), rest)
    | c => if isEscapable c then some (.literal c false, rest) else none

/-! ### Sets in brackets -/

def asciiClass? : String → Option CharClass
  | "alnum" => some (.unions [.range 48 57, .range 65 90, .range 97 122])
  | "alpha" => some (.unions [.range 65 90, .range 97 122])
  | "ascii" => some (.range 0 127)
  | "blank" => some (.unions [.range 9 9, .range 32 32])
  | "cntrl" => some (.unions [.range 0 31, .range 127 127])
  | "digit" => some asciiDigit
  | "graph" => some (.range 33 126)
  | "lower" => some (.range 97 122)
  | "print" => some (.range 32 126)
  | "punct" => some (.unions [.range 33 47, .range 58 64, .range 91 96, .range 123 126])
  | "space" => some asciiSpace
  | "upper" => some (.range 65 90)
  | "word" => some asciiWord
  | "xdigit" => some (.unions [.range 48 57, .range 65 70, .range 97 102])
  | _ => none

/-- A named set such as `[:alpha:]`, read after its opening bracket.  `none` means that the bracket
opens a set of another kind. -/
def readAsciiClass (t : Text) : Option (Bool × CharClass × Text) :=
  match t with
  | ':' :: rest =>
    let (negated, rest) := match rest with
      | '^' :: rest => (true, rest)
      | rest => (false, rest)
    match Text.cut? ':' rest with
    | some (name, ']' :: rest) =>
      (asciiClass? (String.ofList name)).map fun s => (negated, s, rest)
    | _ => none
  | _ => none

inductive SetOperator
  | intersection
  | difference
  | symmetricDifference

def SetOperator.apply : SetOperator → CharClass → CharClass → CharClass
  | .intersection => .inter
  | .difference => .diff
  | .symmetricDifference => .symmDiff

/-- What has been read of a set in brackets: the operand and operator waiting on the left with the
depth of the operand, and the items since, with their number and greatest depth. -/
structure OpenSet where
  waiting : Option (SetOperator × CharClass × Nat) := none
  items : CharClass := .empty
  count : Nat := 0
  depth : Nat := 0

namespace OpenSet

def add (s : OpenSet) (item : CharClass) (depth : Nat := 0) : OpenSet :=
  { s with items := s.items.union item, count := s.count + 1, depth := max s.depth depth }

/-- Closes the operand on the right and applies the waiting operator. -/
def operand (f : PatternFlags) (s : OpenSet) : CharClass × Nat :=
  let depth := if s.count < 2 then s.depth else s.depth + 1
  match s.waiting with
  | none => (s.items, depth)
  | some (op, left, leftDepth) =>
    let fold (c : CharClass) : CharClass :=
      if !f.ignoreCase then c else if f.unicode then foldCase c else foldAsciiCase c
    (op.apply (fold left) (fold s.items), max leftDepth depth + 1)

end OpenSet

def isMember (f : PatternFlags) (c : Char) : Bool := f.unicode || c.toNat < 128

def readMember (f : PatternFlags) : Text → Option (Element × Text)
  | [] => none
  | '\\' :: rest => readEscape f rest
  | c :: rest => some (.literal c false, rest)

def readMemberRange (f : PatternFlags) (t : Text) : Option (CharClass × Text) := do
  let (first, rest) ← readMember f t
  let rest := skipBlank f rest
  let alone : Option (CharClass × Text) :=
    match first with
    | .literal c _ => if isMember f c then some (.single c, rest) else none
    | .set s => some (s, rest)
    | .look _ => none
  match rest with
  | [] => none
  | '-' :: after =>
    match skipBlank f after with
    | ']' :: _ => alone
    | '-' :: _ => alone
    | [] => none
    | after =>
      let (second, rest) ← readMember f after
      match first, second with
      | .literal lo _, .literal hi _ =>
        if lo ≤ hi ∧ isMember f lo ∧ isMember f hi then some (.range lo.toNat hi.toNat, rest)
        else none
      | _, _ => none
  | _ => alone

/-- Hyphens at the front of a set stand for themselves. -/
def takeHyphens (f : PatternFlags) : (fuel : Nat) → OpenSet → Text → OpenSet × Text
  | fuel + 1, s, '-' :: rest => takeHyphens f fuel (s.add (.single '-')) (skipBlank f rest)
  | _, s, t => (s, t)

/-- The beginning of a set, after its opening bracket: `^`, then hyphens or a closing bracket that
stand for themselves. -/
def openSet (f : PatternFlags) (t : Text) : Bool × OpenSet × Text :=
  let (negated, t) := match skipBlank f t with
    | '^' :: rest => (true, skipBlank f rest)
    | t => (false, t)
  let (s, t) := takeHyphens f (t.length + 1) {} t
  match s.count, t with
  | 0, ']' :: rest => (negated, s.add (.single ']'), skipBlank f rest)
  | _, t => (negated, s, t)

/-- Reads on to the closing bracket of a set; gives the set, its depth and the rest.  `fuel` is at
least the length of the text plus one. -/
def readSet (f : PatternFlags) : (fuel : Nat) → (negated : Bool) → OpenSet → Text →
    Option (CharClass × Nat × Text)
  | 0, _, _, _ => none
  | fuel + 1, negated, s, t =>
    match skipBlank f t with
    | [] => none
    | ']' :: rest => do
      let (items, depth) := s.operand f
      some (← closeSet f negated items, depth + 1, rest)
    | '[' :: rest =>
      match readAsciiClass rest with
      | some (inverted, named, rest) => do
        readSet f fuel negated (s.add (← closeSet f inverted named)) rest
      | none => do
        let (inverted, inner, rest) := openSet f rest
        let (nested, depth, rest) ← readSet f fuel inverted inner rest
        readSet f fuel negated (s.add nested depth) rest
    | '&' :: '&' :: rest =>
      let (left, depth) := s.operand f
      readSet f fuel negated { waiting := some (.intersection, left, depth) } rest
    | '-' :: '-' :: rest =>
      let (left, depth) := s.operand f
      readSet f fuel negated { waiting := some (.difference, left, depth) } rest
    | '~' :: '~' :: rest =>
      let (left, depth) := s.operand f
      readSet f fuel negated { waiting := some (.symmetricDifference, left, depth) } rest
    | t => do
      let (item, rest) ← readMemberRange f t
      readSet f fuel negated (s.add item) rest

/-! ### Groups and repetitions -/

/-- A part of a branch, with how deep it is nested.  Flag groups are parts that cannot be
repeated. -/
structure Item where
  body : Regular
  depth : Nat := 0
  repeatable : Bool := true

def branchOf : List Item → Item
  | [] => { body := .empty }
  | [item] => item
  | items =>
    { body := .sequence (items.reverse.map (·.body))
      depth := (items.map (·.depth)).foldl max 0 + 1 }

def choiceOf : List Item → Item
  | [] => { body := .empty }
  | [item] => item
  | branches =>
    { body := .choice (branches.reverse.map (·.body))
      depth := (branches.map (·.depth)).foldl max 0 + 1 }

/-- A group that is still open: its number if it is numbered, and what was being read around it. -/
structure OpenGroup where
  index : Option Nat
  flags : PatternFlags
  branches : List Item
  items : List Item

structure Reader where
  flags : PatternFlags := {}
  stack : List OpenGroup := []
  branches : List Item := []
  items : List Item := []
  groups : Nat := 0
  names : List Text := []

/-- A decimal number with blanks around it; the flag tells whether it was written at all. -/
def readDecimal (f : PatternFlags) (t : Text) : Option Nat × Text :=
  let t := t.dropWhile whiteSpace.has
  let (digits, rest) := digitsOf t.length t
  let rest := blanks rest.length rest
  let n := digits.foldl (fun n d => n * 10 + (d.toNat - '0'.toNat)) 0
  (if digits.isEmpty || n ≥ 0x100000000 then none else some n, rest)
where
  digitsOf : Nat → Text → Text × Text
    | fuel + 1, c :: rest =>
      if c.isDigit then
        let (digits, rest) := digitsOf fuel (skipBlank f rest)
        (c :: digits, rest)
      else ([], c :: rest)
    | _, t => ([], t)
  blanks : Nat → Text → Text
    | fuel + 1, c :: rest =>
      if whiteSpace.has c then blanks fuel (skipBlank f rest) else c :: rest
    | _, t => t

def readBounds (f : PatternFlags) (t : Text) : Option ((Nat × Option Nat) × Text) := do
  let (least, rest) := readDecimal f (skipBlank f t)
  let (bounds, rest) ←
    match rest with
    | [] => none
    | ',' :: rest =>
      match skipBlank f rest with
      | [] => none
      | '\x7d' :: _ => do some ((← least, none), skipBlank f rest)
      | rest => do
        let (most, rest) := readDecimal f rest
        some ((← least, some (← most)), rest)
    | rest => do
      let n ← least
      some ((n, some n), rest)
  match rest with
  | '\x7d' :: rest =>
    if (bounds.2.map fun most => decide (bounds.1 ≤ most)).getD true then some (bounds, rest) else none
  | _ => none

def Reader.repeatLast (r : Reader) (least : Nat) (most : Option Nat) (lazy : Bool) :
    Option Reader :=
  match r.items with
  | [] => none
  | item :: more =>
    if !item.repeatable then none
    else some { r with items :=
      { body := .repeated least most (lazy == r.flags.swapGreed) item.body
        depth := item.depth + 1 } :: more }

/-- The letters of a flag group, up to its colon or closing parenthesis: the flags that result,
whether there were any letters, and the rest from the terminator on. -/
def readFlags : PatternFlags → (seen : List Char) → (on : Bool) → Text →
    Option (PatternFlags × Bool × Text)
  | _, _, _, [] => none
  | f, seen, on, c :: rest =>
    if c = ':' ∨ c = ')' then
      if seen.head? = some '-' then none else some (f, !seen.isEmpty, c :: rest)
    else if seen.contains c then none
    else if c = '-' then readFlags f (c :: seen) false rest
    else do readFlags (← f.set? c on) (c :: seen) on rest

def isNameChar (first : Bool) (c : Char) : Bool :=
  if first then c = '_' || alphabetic.has c
  else c = '_' || c = '.' || c = '[' || c = ']' || alphanumeric.has c

def readName (t : Text) : Option (Text × Text) :=
  match Text.cut? '>' t with
  | some (name, rest) =>
    match name with
    | [] => none
    | c :: more =>
      if isNameChar true c && more.all (isNameChar false) then some (name, rest) else none
  | none => none

def Reader.open (r : Reader) (index : Option Nat) (flags : PatternFlags) : Reader :=
  { r with
    flags := flags
    stack := ⟨index, r.flags, r.branches, r.items⟩ :: r.stack
    branches := []
    items := []
    groups := if index.isSome then r.groups + 1 else r.groups }

/-- Opens a group with a name, which must be new. -/
def Reader.openNamed (r : Reader) (t : Text) : Option (Reader × Text) := do
  let (name, rest) ← readName t
  if r.names.contains name then none
  some ({ r.open (some (r.groups + 1)) r.flags with names := name :: r.names }, rest)

def Reader.openGroup (r : Reader) (t : Text) : Option (Reader × Text) :=
  match skipBlank r.flags t with
  | '?' :: 'P' :: '<' :: rest => r.openNamed rest
  | '?' :: '=' :: _ => none
  | '?' :: '!' :: _ => none
  | '?' :: '<' :: '=' :: _ => none
  | '?' :: '<' :: '!' :: _ => none
  | '?' :: '<' :: rest => r.openNamed rest
  | '?' :: rest =>
    match readFlags r.flags [] true rest with
    | some (flags, lettered, ')' :: rest) =>
      if lettered then
        some ({ r with flags := flags, items := ⟨.empty, 0, false⟩ :: r.items }, rest)
      else none
    | some (flags, _, _ :: rest) => some (r.open none flags, rest)
    | _ => none
  | rest => some (r.open (some (r.groups + 1)) r.flags, rest)

def Reader.current (r : Reader) : Item := choiceOf (branchOf r.items :: r.branches)

def Reader.close (r : Reader) : Option Reader :=
  match r.stack with
  | [] => none
  | g :: stack =>
    let inner := r.current
    let body := match g.index with
      | some n => .group n inner.body
      | none => inner.body
    some { r with
      flags := g.flags
      stack := stack
      branches := g.branches
      items := { body := body, depth := inner.depth + 1 } :: g.items }

def Reader.push (r : Reader) (body : Regular) (depth : Nat := 0) : Reader :=
  { r with items := { body := body, depth := depth } :: r.items }

def literalChar (f : PatternFlags) (c : Char) (twoDigits : Bool) : Option Regular :=
  if f.unicode then
    some (.chars (if f.ignoreCase && hasCase c.toNat then foldCase (.single c) else .single c))
  else if twoDigits && c.toNat > 127 then none
  else some (.chars (if f.ignoreCase then foldAsciiCase (.single c) else .single c))

/-- Any character, but no line break unless the flags say so. -/
def dot (f : PatternFlags) : Option Regular :=
  if !f.unicode then none
  else if f.dotMatchesNewline then some (.chars .all)
  else if f.crlf then some (.chars (CharClass.ofChars ['\n', '\r']).compl)
  else some (.chars (CharClass.single '\n').compl)

def elementBody (f : PatternFlags) : Element → Option Regular
  | .literal c twoDigits => literalChar f c twoDigits
  | .set s => some (.chars s)
  | .look test => some (.look test)

def lineStart (f : PatternFlags) : Look :=
  if !f.multiLine then .textStart else if f.crlf then .lineStartCrlf else .lineStart

def lineEnd (f : PatternFlags) : Look :=
  if !f.multiLine then .textEnd else if f.crlf then .lineEndCrlf else .lineEnd

/-- Is there a question mark, which makes a repetition prefer fewer? -/
def takeQuestion : Text → Bool × Text
  | '?' :: rest => (true, rest)
  | t => (false, t)

def Reader.step (r : Reader) (c : Char) (rest : Text) : Option (Reader × Text) :=
  let f := r.flags
  let counted (least : Nat) (most : Option Nat) : Option (Reader × Text) := do
    let (lazy, rest) := takeQuestion rest
    some (← r.repeatLast least most lazy, rest)
  match c with
  | '(' => r.openGroup rest
  | ')' => r.close.map (·, rest)
  | '|' => some ({ r with branches := branchOf r.items :: r.branches, items := [] }, rest)
  | '[' => do
    let (negated, s, rest) := openSet f rest
    let (set, depth, rest) ← readSet f (rest.length + 1) negated s rest
    some (r.push (.chars set) depth, rest)
  | '?' => counted 0 (some 1)
  | '*' => counted 0 none
  | '+' => counted 1 none
  | '\x7b' => do
    let ((least, most), rest) ← readBounds f rest
    let (lazy, rest) := takeQuestion (skipBlank f rest)
    some (← r.repeatLast least most lazy, rest)
  | '\\' => do
    let (element, rest) ← readEscape f rest
    some (r.push (← elementBody f element), rest)
  | '.' => do some (r.push (← dot f), rest)
  | '^' => some (r.push (.look (lineStart f)), rest)
  | '$' => some (r.push (.look (lineEnd f)), rest)
  | c => do some (r.push (← literalChar f c false), rest)

/-- Reads to the end of the text.  `fuel` is at least the length of the text plus one. -/
def Reader.run : (fuel : Nat) → Reader → Text → Option Item
  | 0, _, _ => none
  | fuel + 1, r, t =>
    match skipBlank r.flags t with
    | [] => if r.stack.isEmpty then some r.current else none
    | c :: rest => do
      let (r, rest) ← r.step c rest
      Reader.run fuel r rest

end RegularSyntax

namespace Regular

/-- The expression written by a text. -/
def read? (t : Text) : Option Regular := do
  let item ← RegularSyntax.Reader.run (t.length + 1) {} t
  if item.depth ≤ RegularSyntax.nestLimit then some item.body else none

end Regular

end Blueprints
