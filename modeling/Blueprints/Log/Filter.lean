import Blueprints.Characters.Lookup
import Blueprints.Log.Entry
import Blueprints.Text.Lines

/-!
# Log filters

A filter is a list of directives with commas between them.  A directive names a target, fields and a
level, each of which may be missing; of the directives that concern an entry the most specific one
decides: the one with the longest target, then the one with most fields, and then the one whose
fields come last in the order of their names.
-/

namespace Blueprints

structure LogDirective where
  target : Option Text := none
  /-- The fields that an entry has to have. -/
  fields : List Text := []
  /-- Does the directive ask for more than an entry can have, such as a span around it? -/
  unmet : Bool := false
  /-- The number of the last level admitted. -/
  level : Nat := LogLevel.trace.number
deriving Repr, DecidableEq

namespace LogDirective

/-- The number of a level: a name of any case, or a number. -/
def readLevel? (t : Text) : Option Nat :=
  let digits := (Text.after? ['+'] t).getD t
  if !digits.isEmpty && digits.all Char.isDigit then
    let n := digits.foldl (fun n d => n * 10 + (d.toNat - '0'.toNat)) 0
    if n ≤ 5 then some n else none
  else
    match String.ofList (t.map Char.toLower) with
    | "off" => some 0
    | "error" => some 1
    | "warn" => some 2
    | "info" => some 3
    | "debug" => some 4
    | "trace" => some 5
    | _ => none

/-- Sets the level that follows an equals sign; if nothing follows it, every level is meant. -/
def withLevel? (d : LogDirective) (t : Text) : Option LogDirective :=
  if t.isEmpty then some d else (readLevel? t).map fun n => { d with level := n }

/-- Reads what follows the closing bracket: nothing, or an equals sign and a level. -/
def afterBrackets (d : LogDirective) (t : Text) : Option (LogDirective × Option Text) :=
  match t with
  | '=' :: level => some (d, some level)
  | t => if t.all Text.isBlank then some (d, none) else none

/-- Reads the inside of brackets: a span, and a field in braces. -/
def readBrackets (target : Option Text) (t : Text) : Option (LogDirective × Option Text) :=
  let (span, rest) := t.spanWhile fun c => c != ']' && c != '\x7b'
  match rest with
  | ']' :: rest => afterBrackets { target := target, unmet := true } rest
  | '\x7b' :: rest =>
    let (field, rest) := Text.spanWhile (· != '\x7d') rest
    let (name, value) := Text.spanWhile (· != '=') field
    match rest with
    | '\x7d' :: ']' :: rest =>
      if field.isEmpty then none
      else
        let unmet := !span.isEmpty || !value.isEmpty
        afterBrackets { target := target, fields := [name], unmet := unmet } rest
    | _ => none
  | _ => none

def isStart (c : Char) : Bool :=
  c == '-' || c == ':' || c == '_' || Characters.alphanumeric.has c

/-- The directive written by a text without blanks in front, and what stands after its equals
sign. -/
def split? (t : Text) : Option (LogDirective × Option Text) :=
  match t with
  | [] => none
  | '[' :: rest => readBrackets none rest
  | c :: _ =>
    if !isStart c then none
    else
      let (target, rest) := t.spanWhile fun c => c != '=' && c != '['
      match rest with
      | [] =>
        match readLevel? target with
        | some n => some ({ level := n }, none)
        | none => some ({ target := some target }, none)
      | '=' :: level => some ({ target := some target }, some level)
      | _ :: rest => readBrackets (some target) rest

/-- The directive written by a text.  Blanks in front count as part of the first name in it, so that
it concerns nothing, and no level can be read then. -/
def read? (t : Text) : Option LogDirective :=
  let front := t.trimFront
  match split? front with
  | none => none
  | some (d, level) =>
    if front.length < t.length then
      if level.isSome then none else some { d with unmet := true }
    else
      match level with
      | none => some d
      | some level => d.withLevel? level

def concerns (d : LogDirective) (e : LogEntry) : Bool :=
  !d.unmet && (d.target.all fun t => t.isPrefixOf e.target)
    && d.fields.all fun f => f == Text.ofString "message" || (e.fields.map (·.1)).contains f

/-- How specific a directive is, to be compared from the left: the length of its target, the number
of its fields, and their names. -/
def weight (d : LogDirective) : List Nat :=
  [match d.target with | none => 0 | some t => t.length + 1, d.fields.length]
    ++ d.fields.flatten.map Char.toNat

end LogDirective

/-- Directives in the order in which they were written. -/
structure LogFilter where
  directives : List LogDirective
deriving Repr, DecidableEq

namespace LogFilter

/-- The filter written by a text.  Empty directives are ignored. -/
def read? (t : Text) : Option LogFilter :=
  (((Text.splitOn ',' t).filter fun d => !d.isEmpty).mapM LogDirective.read?).map LogFilter.mk

def ofVerbosity (n : Nat) : LogFilter :=
  let level : LogLevel := match n with
    | 0 => .warn
    | 1 => .debug
    | _ => .trace
  ⟨[{ level := level.number }]⟩

/-- The filter asked for by directives, or, if there are none that can be read, by a number of
requests. -/
def choose (directives : Option Text) (verbosity : Nat) : LogFilter :=
  (directives.bind read?).getD (ofVerbosity verbosity)

/-- The directive that decides about an entry; of equally specific ones the later. -/
def deciding (f : LogFilter) (e : LogEntry) : Option LogDirective :=
  (f.directives.filter fun d => d.concerns e).foldl (fun best d =>
    match best with
    | none => some d
    | some b => if d.weight < b.weight then some b else some d) none

def admits (f : LogFilter) (e : LogEntry) : Bool :=
  (f.deciding e).any fun d => e.level.number ≤ d.level

end LogFilter

end Blueprints
