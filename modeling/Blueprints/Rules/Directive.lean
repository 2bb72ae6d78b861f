import Blueprints.Builder
import Blueprints.Text.Lines

/-!
# Directives

A directive is one setting of a rules file, written `key: value` on a line of its own.
-/

namespace Blueprints

/-- A setting of a rules file. -/
inductive Directive
  | delimiters (chars : DelimiterChars)
  | skip (names : List Text)
  | contextKey (key : Text)
  | attachKey (key : Text)
  | failOnRemainder (on : Bool)
  | strict (on : Bool)
deriving Repr, DecidableEq

/-- What is wrong with a line that should be a directive. -/
inductive DirectiveError
  | notADirective
  | unknownKey (key : Text)
  | invalidValue (key expected : Text)
deriving Repr, DecidableEq

namespace Directive

def settings : Directive → List Setting
  | delimiters c => [.start c.start, .opening c.opening, .separator c.separator, .closing c.closing]
  | skip names => names.map .skip
  | contextKey key => [.contextKey key]
  | attachKey key => [.attachKey key]
  | failOnRemainder on => [.failOnRemainder on]
  | strict on => [.strict on]

/-! ### Reading -/

def isKeyChar (c : Char) : Bool := c.isAlphanum || c == '-'

/-- The key and the value of a trimmed line. -/
def splitKey? (t : Text) : Option (Text × Text) :=
  let (key, rest) := t.spanWhile isKeyChar
  match rest.dropSpaces with
  | ':' :: value => if key.isEmpty then none else some (key, Text.dropSpaces value)
  | _ => none

/-- Four characters, none of them blank, with spaces and tabs between them. -/
def readChars? (value : Text) : Option DelimiterChars :=
  let chars := value.filter fun c => !Text.isSpace c
  if chars.any Text.isBlank then none else DelimiterChars.ofText? chars

/-- One name, with spaces and tabs around it: neither blanks nor commas, but at least one
character. -/
def readName? (value : Text) : Option Text :=
  let name := value.stripSpaces
  if name.isEmpty || name.any fun c => Text.isBlank c || c == ',' then none else some name

def readNames? (value : Text) : Option (List Text) := (value.splitOn ',').mapM readName?

def readSwitch? (value : Text) : Option Bool :=
  let word := value.stripSpaces
  if word = Text.ofString "true" then some true
  else if word = Text.ofString "false" then some false
  else none

def ofKey (key value : Text) : Except DirectiveError Directive :=
  let given {α : Type} (read? : Text → Option α) (directive : α → Directive) (expected : String) :
      Except DirectiveError Directive :=
    match read? value with
    | some a => .ok (directive a)
    | none => .error (.invalidValue key (.ofString expected))
  match String.ofList key with
  | "delimiters" => given readChars? delimiters "four delimiter characters"
  | "skip" => given readNames? skip "a comma separated list of names"
  | "context-key" => given readName? contextKey "a single name"
  | "attach-key" => given readName? attachKey "a single name"
  | "fail-on-remainder" => given readSwitch? failOnRemainder "true or false"
  | "strict" => given readSwitch? strict "true or false"
  | _ => .error (.unknownKey key)

def read (line : Text) : Except DirectiveError Directive :=
  match splitKey? line.trim with
  | some (key, value) => ofKey key value
  | none => .error .notADirective

/-! ### Printing -/

def switch (on : Bool) : Text := .ofString (if on then "true" else "false")

def key : Directive → Text
  | delimiters _ => .ofString "delimiters"
  | skip _ => .ofString "skip"
  | contextKey _ => .ofString "context-key"
  | attachKey _ => .ofString "attach-key"
  | failOnRemainder _ => .ofString "fail-on-remainder"
  | strict _ => .ofString "strict"

def value : Directive → Text
  | delimiters c => Text.joinWith [' '] (c.toText.map fun c => [c])
  | skip names => Text.joinWith [',', ' '] names
  | contextKey key => key
  | attachKey key => key
  | failOnRemainder on => switch on
  | strict on => switch on

def print (d : Directive) : Text := d.key ++ [':', ' '] ++ d.value

end Directive

end Blueprints
