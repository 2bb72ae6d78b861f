import Blueprints.Characters.Lookup
import Blueprints.Pattern.Extended
import Blueprints.Pattern.RegularSyntax

/-!
# Reading extended expressions

`Extended.read?` reads the written form of an extended expression, or refuses it.  A brace that
starts no repetition stands for itself, flags set inside a group stay set after it, and groups may be
nested less than `depthLimit` deep.
-/

namespace Blueprints

namespace ExtendedSyntax

open Characters

/-- The depth that groups may not reach. -/
def depthLimit : Nat := 64

structure Flags where
  anyCase : Bool := false
  multiLine : Bool := false
  dotMatchesNewline : Bool := false
  swapGreed : Bool := false
  ignoreBlank : Bool := false

structure State where
  /-- The bytes of the whole expression. -/
  size : Nat
  flags : Flags := {}
  groups : Nat := 0
  names : List (Text × Nat) := []
  referenced : List Nat := []
  /-- Has a group been referred to by number? -/
  numbered : Bool := false

/-- A step of the reader.  A reader of a part gives the part and the rest of the text. -/
abbrev Reading := StateT State Option

/-- Refuses the expression. -/
def refuse {α : Type} : Reading α := StateT.lift none

def need {α : Type} (found : Option α) : Reading α := StateT.lift found

/-! ### Blanks and names -/

/-- The rest after a comment in parentheses, read after its opening; a backslash hides the character
that follows it. -/
def afterComment : Text → Option Text
  | [] => none
  | ')' :: rest => some rest
  | '\\' :: _ :: rest => afterComment rest
  | _ :: rest => afterComment rest

theorem afterComment_length {t rest : Text} (h : afterComment t = some rest) :
    rest.length < t.length := by
  fun_induction afterComment t with
  | case1 => simp at h
  | case2 rest' => simp at h; subst h; simp
  | case3 c rest' ih => have := ih h; simp only [List.length_cons]; omega
  | case4 c rest' _ _ ih => have := ih h; simp only [List.length_cons]; omega

/-- Drops comments in parentheses and, where the flags make them meaningless, blanks and comments up
to the end of the line. -/
def skip? (f : Flags) (t : Text) : Option Text :=
  match t with
  | '(' :: '?' :: '#' :: rest =>
    match _h : afterComment rest with
    | some rest => skip? f rest
    | none => none
  | c :: rest =>
    if f.ignoreBlank && c == '#' then skip? f (RegularSyntax.dropComment rest)
    else if f.ignoreBlank && [' ', '\r', '\n', '\t'].contains c then skip? f rest
    else some (c :: rest)
  | [] => some []
termination_by t.length
decreasing_by
  · have := afterComment_length ‹_›
    simp only [List.length_cons]
    omega
  · have := RegularSyntax.dropComment_length rest
    simp only [List.length_cons]
    omega
  · simp

def skip (t : Text) : Reading Text := do need (skip? (← get).flags t)

def isNameChar (c : Char) : Bool := alphanumeric.has c || c == '_'

def readName (before after : Text) (t : Text) : Option (Text × Text) := do
  let t ← Text.after? before t
  let (name, rest) := Text.spanWhile isNameChar t
  if name.isEmpty then none
  some (name, ← Text.after? after rest)

/-- A decimal number; it has to fit into 64 bits. -/
def readNumber (t : Text) : Option (Nat × Text) :=
  let (digits, rest) := Text.spanWhile Char.isDigit t
  let n := digits.foldl (fun n d => n * 10 + (d.toNat - '0'.toNat)) 0
  if digits.isEmpty || n ≥ 0x10000000000000000 then none else some (n, rest)

def refer (group : Nat) (numbered : Bool) : Reading Unit :=
  modify fun s => { s with
    referenced := group :: s.referenced, numbered := s.numbered || numbered }

/-- A reference to a group by number.  The number has to be below half the size of the
expression. -/
def readNumbered (t : Text) : Reading (Nat × Text) := do
  let (group, rest) ← need (readNumber t)
  if group < (← get).size / 2 then
    refer group true
    return (group, rest)
  else refuse

/-- A reference to a group by its name, or by its number in the place of a name. -/
def readNamed (before after : Text) (t : Text) : Reading (Nat × Text) := do
  let (name, rest) ← need (readName before after t)
  let group ←
    match (← get).names.lookup name with
    | some group => pure group
    | none =>
      match readNumber name with
      | some (group, []) => pure group
      | _ => refuse
  refer group false
  return (group, rest)

/-! ### Escapes and sets -/

/-- A character by its hexadecimal code: as `count` digits, or in braces. -/
def readHexCode (count : Nat) (t : Text) : Option (Char × Text) := do
  let isHex (c : Char) : Bool := (RegularSyntax.hexValue? c).isSome
  let digits := t.take count
  let (digits, rest) ←
    if digits.length = count ∧ digits.all isHex then some (digits, t.drop count)
    else match t with
      | '\x7b' :: rest =>
        let (digits, rest) := Text.spanWhile isHex rest
        match rest with
        | '\x7d' :: rest =>
          if digits.isEmpty || digits.length > 8 then none else some (digits, rest)
        | _ => none
      | _ => none
  some (← (← RegularSyntax.hexNumber? digits) |> RegularSyntax.charOfCode?, rest)

/-- What follows `\p`: one character, or a name in braces. -/
def readPropertyName : Text → Option (Text × Text)
  | [] => some ([], [])
  | '\x7b' :: rest => (Text.cut? '\x7d' rest).map fun (name, rest) =>
    (['\x7b'] ++ name ++ ['\x7d'], rest)
  | c :: rest => some ([c], rest)

/-- The characters with a meaning of their own after a backslash outside sets; inside they stand for
themselves. -/
def isPlaceEscape (c : Char) : Bool := ['k', 'A', 'z', 'b', 'B', '<', '>', 'K', 'G'].contains c

def escapedChar? (c : Char) : Option Char :=
  match c with
  | 'a' => some '\x07'
  | 'b' => some '\x08'
  | 'f' => some '\x0c'
  | 'n' => some '\n'
  | 'r' => some '\r'
  | 't' => some '\t'
  | 'v' => some '\x0b'
  | 'e' => some '\x1b'
  | c => if c.isAlpha && !isPlaceEscape c then none else some c

/-- What follows a backslash, outside and inside sets. -/
def readEscape (inSet : Bool) : Text → Reading (Extended × Text)
  | [] => refuse
  | c :: rest => do
    let anyCase := (← get).flags.anyCase
    let boundary (test : Look) : Reading (Extended × Text) :=
      match rest with
      | '\x7b' :: _ => refuse
      | _ => return (.place test, rest)
    let code (count : Nat) : Reading (Extended × Text) := do
      let (c, rest) ← need (readHexCode count rest)
      return (.literal c anyCase, rest)
    if c.isDigit then
      let (group, rest) ← readNumbered (c :: rest)
      return (.backReference group, rest)
    else if isPlaceEscape c && !inSet then
      match c with
      | 'k' => do
        let (group, rest) ←
          match rest with
          | '\'' :: _ => readNamed ['\''] ['\''] rest
          | _ => readNamed ['<'] ['>'] rest
        return (.backReference group, rest)
      | 'A' => return (.place .textStart, rest)
      | 'z' => return (.place .textEnd, rest)
      | 'b' => boundary (.wordBoundary true)
      | 'B' => boundary (.notWordBoundary true)
      | '<' => return (.place (.wordStart true), rest)
      | '>' => return (.place (.wordEnd true), rest)
      | 'K' => return (.keepOut, rest)
      | _ => return (.searchStart, rest)
    else match c with
    | 'd' | 's' | 'w' | 'D' | 'S' | 'W' => return (.set ['\\', c] anyCase, rest)
    | 'h' => return (.set (Text.ofString "[0-9A-Fa-f]") false, rest)
    | 'H' => return (.set (Text.ofString "[^0-9A-Fa-f]") false, rest)
    | 'x' => code 2
    | 'u' => code 4
    | 'U' => code 8
    | 'p' | 'P' => do
      let (name, rest) ← need (readPropertyName rest)
      if name.isEmpty then refuse
      else return (.set (['\\', c] ++ name) anyCase, rest)
    | c => return (.literal (← need (escapedChar? c)) false, rest)

/-- A character inside a set, hidden if it would mean something there. -/
def quotedInSet (c : Char) : Text := if RegularSyntax.isMeta c then ['\\', c] else [c]

/-- The spelling of a set up to its last closing bracket.  `nest` counts the brackets that are open,
and `fuel` is at least the length of the text. -/
def readSetBody : (fuel : Nat) → (nest : Nat) → Text → Reading (Text × Text)
  | 0, _, _ => refuse
  | _, _, [] => refuse
  | fuel + 1, nest, c :: rest => do
    let (piece, nest, rest) ←
      match c with
      | '\\' => do
        let (element, rest) ← readEscape true rest
        match element with
        | .literal c _ => pure (quotedInSet c, nest, rest)
        | .set spelling _ => pure (spelling, nest, rest)
        | _ => refuse
      | '[' => pure (['['], nest + 1, rest)
      | ']' => pure ([']'], nest - 1, rest)
      | c => pure ([c], nest, rest)
    if nest = 0 then return (piece, rest)
    let (more, rest) ← readSetBody fuel nest rest
    return (piece ++ more, rest)

/-- A set, read after its opening bracket.  A closing bracket that comes first stands for itself. -/
def readSet (t : Text) : Reading (Extended × Text) := do
  let (start, t) := match t with
    | '^' :: rest => (['[', '^'], rest)
    | t => (['['], t)
  let (start, t) := match t with
    | ']' :: rest => (start ++ [']'], rest)
    | t => (start, t)
  let (body, rest) ← readSetBody t.length 1 t
  return (.set (start ++ body) (← get).flags.anyCase, rest)

/-! ### Repetitions and groups -/

/-- Bounds in braces, read after the opening brace; `none` if the brace starts no repetition. -/
def readBounds (f : Flags) (t : Text) : Option ((Nat × Option Nat) × Text) := do
  let t ← skip? f t
  let (least, t) ←
    match t with
    | ',' :: _ => some (0, t)
    | t => readNumber t
  let (most, t) ←
    match ← skip? f t with
    | '\x7d' :: rest => some (some least, '\x7d' :: rest)
    | ',' :: rest => do
      let t ← skip? f rest
      match readNumber t with
      | some (most, rest) => some (some most, rest)
      | none => some (none, t)
    | _ => none
  match ← skip? f t with
  | '\x7d' :: rest => some ((least, most), rest)
  | _ => none

def readOperator (f : Flags) : Text → Option ((Nat × Option Nat) × Text)
  | '?' :: rest => some ((0, some 1), rest)
  | '*' :: rest => some ((0, none), rest)
  | '+' :: rest => some ((1, none), rest)
  | '\x7b' :: rest => readBounds f rest
  | _ => none

/-- Switches the flag with a letter.  Unicode cannot be switched off. -/
def Flags.set? (f : Flags) (letter : Char) (on : Bool) : Option Flags :=
  match letter with
  | 'i' => some { f with anyCase := on }
  | 'm' => some { f with multiLine := on }
  | 's' => some { f with dotMatchesNewline := on }
  | 'U' => some { f with swapGreed := on }
  | 'x' => some { f with ignoreBlank := on }
  | 'u' => if on then some f else none
  | _ => none

/-- Reads the letters of a flag group and gives the terminator and what follows it.  `read` counts
the characters between the question mark and the terminator; `fuel` is at least the length of the
text plus one. -/
def readFlags : (fuel : Nat) → (on : Bool) → (start : Nat) → Text → Reading (Char × Text)
  | 0, _, _, _ => refuse
  | fuel + 1, on, start, t => do
    match ← skip t with
    | [] => refuse
    | c :: rest =>
      let read := start - (rest.length + 1)
      let lone := !on && read == 1
      if c = ')' then if read == 0 || lone then refuse else return (c, rest)
      else if c = ':' then if lone then refuse else return (c, rest)
      else if c = '-' then
        if on then readFlags fuel false start rest else refuse
      else
        let flags ← need ((← get).flags.set? c on)
        modify fun s => { s with flags := flags }
        readFlags fuel on start rest

def readClose (t : Text) : Reading Text := do
  match ← skip t with
  | ')' :: rest => return rest
  | _ => refuse

def nextGroup : Reading Nat := do
  modify fun s => { s with groups := s.groups + 1 }
  return (← get).groups

/-- Opens a group with a name; of two groups with one name the later is meant. -/
def openNamed (before after t : Text) : Reading (Nat × Text) := do
  let group ← nextGroup
  let (name, rest) ← need (readName before after t)
  modify fun s => { s with names := (name, group) :: s.names }
  return (group, rest)

inductive Opening
  | group (index : Nat)
  | lookAround (kind : LookAround)
  | atomic
  | condition
  /-- A group that sets flags; the old ones are kept. -/
  | flagged (before : Flags)
  /-- Something that is complete already. -/
  | complete (e : Extended)

def readOpening (t : Text) : Reading (Opening × Text) := do
  match t with
  | '?' :: '=' :: rest => return (.lookAround .ahead, rest)
  | '?' :: '!' :: rest => return (.lookAround .notAhead, rest)
  | '?' :: '<' :: '=' :: rest => return (.lookAround .behind, rest)
  | '?' :: '<' :: '!' :: rest => return (.lookAround .notBehind, rest)
  | '?' :: '<' :: rest => do
    let (group, rest) ← openNamed ['<'] ['>'] ('<' :: rest)
    return (.group group, rest)
  | '?' :: '\'' :: rest => do
    let (group, rest) ← openNamed ['\''] ['\''] ('\'' :: rest)
    return (.group group, rest)
  | '?' :: 'P' :: '<' :: rest => do
    let (group, rest) ← openNamed ['<'] ['>'] ('<' :: rest)
    return (.group group, rest)
  | '?' :: 'P' :: '=' :: rest => do
    let (group, rest) ← readNamed [] [')'] rest
    return (.complete (.backReference group), rest)
  | '?' :: '>' :: rest => return (.atomic, rest)
  | '?' :: '(' :: rest => return (.condition, rest)
  | '?' :: rest => do
    let before := (← get).flags
    let (stop, rest) ← readFlags (rest.length + 1) true rest.length rest
    if stop = ')' then return (.complete .empty, rest) else return (.flagged before, rest)
  | t => return (.group (← nextGroup), t)

def lineStart (f : Flags) : Look := if f.multiLine then .lineStart else .textStart

def lineEnd (f : Flags) : Look := if f.multiLine then .lineEnd else .textEnd

/-- A reference in the place of a test asks whether the group has matched. -/
def asTest : Extended → Extended
  | .backReference group => .groupMatched group
  | e => e

/-- A condition with its two branches; a third branch and later ones belong to the second. -/
def conditionOf (test body : Extended) : Extended :=
  let (yes, no) := match body with
    | .choice [yes, no] => (yes, no)
    | .choice (yes :: more) => (yes, .choice more)
    | body => (body, .empty)
  if yes.isEmpty && no.isEmpty then asTest test else .condition (asTest test) yes no

mutual

/-- Branches with bars between them.  `fuel` exceeds the number of calls nested in one another:
eight for each character. -/
def readChoice : (fuel : Nat) → (depth : Nat) → Text → Reading (Extended × Text)
  | 0, _, _ => refuse
  | fuel + 1, depth, t => do
    let (first, rest) ← readBranch fuel depth t []
    match ← skip rest with
    | '|' :: rest => readBranches fuel depth rest [first]
    | rest => do
      let s ← get
      if s.numbered && !s.names.isEmpty then refuse else return (first, rest)

/-- The branches after a bar; those before it are given, last branch first. -/
def readBranches : (fuel : Nat) → (depth : Nat) → Text → List Extended → Reading (Extended × Text)
  | 0, _, _, _ => refuse
  | fuel + 1, depth, t, before => do
    let (branch, rest) ← readBranch fuel depth t []
    match ← skip rest with
    | '|' :: rest => readBranches fuel depth rest (branch :: before)
    | rest => return (.choice (branch :: before).reverse, rest)

/-- Parts one after the other; those read already are given, last part first. -/
def readBranch : (fuel : Nat) → (depth : Nat) → Text → List Extended → Reading (Extended × Text)
  | 0, _, _, _ => refuse
  | fuel + 1, depth, t, before => do
    let done : Extended := match before with
      | [] => .empty
      | [e] => e
      | es => .sequence es.reverse
    match t with
    | [] => return (done, [])
    | t => do
      let (part, rest) ← readPiece fuel depth t
      if rest.length = t.length then return (done, rest)
      else readBranch fuel depth rest (if part.isEmpty then before else part :: before)

def readPiece : (fuel : Nat) → (depth : Nat) → Text → Reading (Extended × Text)
  | 0, _, _ => refuse
  | fuel + 1, depth, t => do
    let (atom, rest) ← readAtom fuel depth t
    let rest ← skip rest
    match readOperator (← get).flags rest with
    | none => return (atom, rest)
    | some ((least, most), rest) => do
      if !atom.isRepeatable then refuse
      else
        let rest ← skip rest
        let (lazy, rest) := RegularSyntax.takeQuestion rest
        let whole := Extended.iterate least most (lazy == (← get).flags.swapGreed) atom
        match rest with
        | '+' :: rest => return (.atomic whole, rest)
        | rest => return (whole, rest)

def readAtom : (fuel : Nat) → (depth : Nat) → Text → Reading (Extended × Text)
  | 0, _, _ => refuse
  | fuel + 1, depth, t => do
    let f := (← get).flags
    match ← skip t with
    | [] => return (.empty, [])
    | c :: rest =>
      match c with
      | '.' => return (.any f.dotMatchesNewline, rest)
      | '^' => return (.place (lineStart f), rest)
      | '$' => return (.place (lineEnd f), rest)
      | '(' => readGroup fuel (depth + 1) rest
      | '\\' => readEscape false rest
      | '+' | '*' | '?' | '|' | ')' => return (.empty, c :: rest)
      | '[' => readSet rest
      | c => return (.literal c f.anyCase, rest)

/-- A group, read after its opening parenthesis. -/
def readGroup : (fuel : Nat) → (depth : Nat) → Text → Reading (Extended × Text)
  | 0, _, _ => refuse
  | fuel + 1, depth, t => do
    if depth ≥ depthLimit then refuse
    else
      let (opening, rest) ← readOpening (← skip t)
      match opening with
      | .complete e => return (e, rest)
      | .condition => readCondition fuel depth rest
      | .group index => do
        let (body, rest) ← readChoice fuel depth rest
        return (.group index body, ← readClose rest)
      | .lookAround kind => do
        let (body, rest) ← readChoice fuel depth rest
        return (.lookAround kind body, ← readClose rest)
      | .atomic => do
        let (body, rest) ← readChoice fuel depth rest
        return (.atomic body, ← readClose rest)
      | .flagged before => do
        let (body, rest) ← readChoice fuel depth rest
        let rest ← readClose rest
        modify fun s => { s with flags := before }
        return (body, rest)

def readCondition : (fuel : Nat) → (depth : Nat) → Text → Reading (Extended × Text)
  | 0, _, _ => refuse
  | fuel + 1, depth, t => do
    let (test, rest) ←
      match t with
      | [] => refuse
      | '\'' :: _ => do
        let (group, rest) ← readNamed ['\''] ['\''] t
        pure (Extended.backReference group, rest)
      | '<' :: _ => do
        let (group, rest) ← readNamed ['<'] ['>'] t
        pure (Extended.backReference group, rest)
      | c :: _ =>
        if c.isDigit then do
          let (group, rest) ← readNumbered t
          pure (Extended.backReference group, rest)
        else readChoice fuel depth t
    let inside ← readClose rest
    let (body, rest) ← readChoice fuel depth inside
    if rest.length = inside.length then
      match test with
      | .backReference group => return (.groupMatched group, ← readClose rest)
      | _ => refuse
    else return (conditionOf test body, ← readClose rest)

end

end ExtendedSyntax

/-- An extended expression as it was read: its body, the groups that are referred to, and how many
groups there are. -/
structure ReadExtended where
  body : Extended
  referenced : List Nat
  groups : Nat

/-- The expression written by a text.  Every group that is referred to has to exist. -/
def Extended.read? (t : Text) : Option ReadExtended := do
  let start : ExtendedSyntax.State := { size := t.byteLength }
  let ((body, rest), s) ← (ExtendedSyntax.readChoice (8 * t.length + 8) 0 t).run start
  if rest.isEmpty && s.referenced.all fun group => 1 ≤ group && group ≤ s.groups then
    some ⟨body, s.referenced, s.groups⟩
  else none

end Blueprints
