import Blueprints.Extractor
import Blueprints.Text.Quoted

/-!
# Log entries

What happens during compiling and extraction can be logged.  An entry has a level, a target that
names the part of the program it comes from, a message and named fields.
-/

namespace Blueprints

/-- How much an entry matters; an entry of the last level matters least. -/
inductive LogLevel
  | error
  | warn
  | info
  | debug
  | trace
deriving Repr, DecidableEq

namespace LogLevel

/-- The number of a level; a filter that admits a number admits all smaller ones. -/
def number : LogLevel → Nat
  | error => 1
  | warn => 2
  | info => 3
  | debug => 4
  | trace => 5

def name : LogLevel → Text
  | error => .ofString "ERROR"
  | warn => .ofString "WARN"
  | info => .ofString "INFO"
  | debug => .ofString "DEBUG"
  | trace => .ofString "TRACE"

end LogLevel

/-- A log entry; the values of fields are written already. -/
structure LogEntry where
  level : LogLevel
  target : Text
  message : Text
  fields : List (Text × Text)
deriving Repr, DecidableEq

namespace LogEntry

/-- The name of fields that are shown like the message, without their name. -/
def messageName : Text := .ofString "message"

def print (e : LogEntry) : Text :=
  e.level.name ++ [' '] ++ e.message
    ++ e.fields.flatMap fun (name, value) =>
      [' '] ++ (if name = messageName then value else name ++ ['='] ++ value)

def ofNote : Note → LogEntry
  | .matchedLiterally pattern message => {
      level := .debug
      target := .ofString "strex_blueprint::variable"
      message := .ofString "regex did not compile, matching literally"
      fields := [(.ofString "pattern", pattern.quoted), (messageName, message)] }
  | .compiled blueprint components placeholders => {
      level := .debug
      target := .ofString "strex_blueprint::blueprint"
      message := .ofString "compiled blueprint"
      fields := [
        (.ofString "blueprint", blueprint.quoted),
        (.ofString "components", .ofNat components),
        (.ofString "variables", .ofNat placeholders)] }

def ofRefusal (r : Refusal) : LogEntry :=
  let entry (message : String) (fields : List (Text × Text)) : LogEntry := {
    level := .trace
    target := .ofString "strex_blueprint::extract"
    message := .ofString message
    fields := (.ofString "blueprint", r.blueprint.quoted) :: fields }
  match r.miss with
  | .stuck component drain =>
    entry "no match"
      [(.ofString "component", .ofNat component), (.ofString "drain", drain.quoted)]
  | .leftover drain => entry "input remaining" [(.ofString "drain", drain.quoted)]

def sourcesRead (lines : Nat) : LogEntry := {
  level := .debug
  target := .ofString "strex"
  message := .ofString "read input"
  fields := [(.ofString "lines", .ofNat lines)] }

def finished (lines : Nat) : LogEntry := {
  level := .debug
  target := .ofString "strex::runner"
  message := .ofString "extraction finished"
  fields := [(.ofString "lines", .ofNat lines)] }

end LogEntry

end Blueprints
