import SchemaMigration.Number.Digits
import SchemaMigration.Text.Quoted
import SchemaMigration.Text.Blank
import SchemaMigration.Text.Search
import SchemaMigration.Text.Word

/-!
# Diagnostic events

What a program tells about its work besides its output. A filter of directives
`target=level` selects the events that are shown.
-/

namespace SchemaMigration.Console

open Text Number

/-- How much an event matters, the weightiest first. -/
inductive Level
  | error
  | warn
  | info
  | debug
  deriving DecidableEq, Repr

namespace Level

def rank : Level → Nat
  | .error => 1
  | .warn => 2
  | .info => 3
  | .debug => 4

/-- The name, aligned to the right in five columns. -/
def label : Level → String
  | .error => "ERROR"
  | .warn => " WARN"
  | .info => " INFO"
  | .debug => "DEBUG"

end Level

inductive FieldValue
  /-- Shown between quotes. -/
  | text (value : String)
  /-- Shown as it is. -/
  | shown (value : String)
  deriving DecidableEq, Repr

def FieldValue.display : FieldValue → String
  | .text s => quoted s
  | .shown s => s

/-- One event. `target` is the part of the program that it comes from. -/
structure Event where
  level : Level
  target : String
  message : String
  fields : List (String × FieldValue) := []
  deriving DecidableEq, Repr

/-- The event as a line that starts with the time. -/
def Event.line (time : String) (e : Event) : String :=
  time ++ " " ++ e.level.label ++ " " ++ e.message ++
    String.join (e.fields.map fun (name, value) => " " ++ name ++ "=" ++ value.display)

/-! ## Filters -/

/-- Shows the events of a target up to a rank; rank 0 shows none, rank 5 all. A
directive without a target is for all events. -/
structure Directive where
  target : String
  rank : Nat
  deriving DecidableEq, Repr

abbrev EventFilter := List Directive

/-- A level by its name in any case, or by its number. -/
def readRank? (s : String) : Option Nat :=
  let names := [("off", 0), ("error", 1), ("warn", 2), ("info", 3), ("debug", 4), ("trace", 5)]
  match names.find? fun entry => sameAscii entry.1 s with
  | some (_, rank) => some rank
  | none =>
    let digits := match s.toList with
      | '+' :: rest => rest
      | cs => cs
    if s = "" then some 1
    else if digits ≠ [] ∧ digits.all Char.isDigit ∧ natOfDigits 10 digits ≤ 5 then
      some (natOfDigits 10 digits)
    else none

/-- The characters that a directive may start with. -/
def startsDirective (c : Char) : Bool := isAlphanumeric c || c == '-' || c == ':' || c == '_'

/-- `level`, `target` or `target=level`. -/
def Directive.read? (cs : List Char) : Option Directive :=
  match trim cs with
  | [] => none
  | c :: rest =>
    if startsDirective c then
      match splitFirst? '=' (c :: rest) with
      | some (target, level) =>
        (readRank? (String.ofList level)).map fun rank => ⟨String.ofList target, rank⟩
      | none =>
        let word := String.ofList (c :: rest)
        match readRank? word with
        | some rank => some ⟨"", rank⟩
        | none => some ⟨word, 5⟩
    else none

/-- A list of directives between commas; nothing where one of them cannot be read. -/
def EventFilter.read? (source : String) : Option EventFilter :=
  ((splitOn ',' source.toList).filter (· ≠ [])).mapM Directive.read?

/-- The later of two directives, unless the earlier one names its target more closely. -/
def closer (target : String) (best : Option Directive) (d : Directive) : Option Directive :=
  if d.target.toList.isPrefixOf target.toList then
    match best with
    | some b => if b.target.length ≤ d.target.length then some d else some b
    | none => some d
  else best

/-- Whether an event is shown: the directive that names its target most closely
decides. An empty filter shows errors. -/
def EventFilter.shows (filter : EventFilter) (e : Event) : Bool :=
  let filter := if filter = [] then [⟨"", 1⟩] else filter
  match filter.foldl (closer e.target) none with
  | some d => e.level.rank ≤ d.rank
  | none => false

/-- What is shown without a filter of the user's. -/
def EventFilter.default (verbose : Bool) : EventFilter :=
  if verbose then [⟨"lipgrate", 4⟩] else [⟨"", 2⟩]

/-- The filter of a setting; one that cannot be read does not count. -/
def EventFilter.ofSetting (setting : Option String) (verbose : Bool) : EventFilter :=
  ((setting.bind EventFilter.read?).getD (.default verbose))

end SchemaMigration.Console
