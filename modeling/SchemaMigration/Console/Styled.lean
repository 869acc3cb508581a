import SchemaMigration.Text.Search

/-!
# Styled text

Text in pieces, each with its own styles. Without colour only the text is left.
-/

namespace SchemaMigration.Console

open Text

inductive Style
  | bold
  | dimmed
  | red
  | green
  | yellow
  | blue
  | cyan
  deriving DecidableEq, Repr

/-- The number of the style in a terminal's control sequence. -/
def Style.code : Style → String
  | .bold => "1"
  | .dimmed => "2"
  | .red => "31"
  | .green => "32"
  | .yellow => "33"
  | .blue => "34"
  | .cyan => "36"

structure Span where
  text : String
  styles : List Style := []
  deriving DecidableEq, Repr

abbrev Styled := List Span

def plain (text : String) : Span := { text }

def Span.styled (text : String) (styles : List Style) : Span := { text, styles }

/-- A control sequence, from the escape character to `m`. -/
def controlSequence (codes : String) : List Char := '\x1b' :: '[' :: codes.toList ++ ['m']

def resetSequence : List Char := controlSequence "0"

/-- A piece with its styles. Where the text itself ends all styles they are set again. -/
def Span.render (colour : Bool) (s : Span) : String :=
  if colour ∧ s.styles ≠ [] then
    let start := controlSequence (";".intercalate (s.styles.map Style.code))
    String.ofList
      (start ++ replaceAll resetSequence (resetSequence ++ start) s.text.toList ++ resetSequence)
  else s.text

/-- Whether settings of the environment ask for colour; without them a terminal has it.
Each setting is on unless it is `0`. -/
def wantsColour (force never usual : Option String) (terminal : Bool) : Bool :=
  let isOn (setting : String) : Bool := setting != "0"
  if force.any isOn then true
  else if never.isSome then false
  else usual.all isOn && terminal

def render (colour : Bool) (line : Styled) : String := String.join (line.map (·.render colour))

end SchemaMigration.Console
