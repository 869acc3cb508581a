import SchemaMigration.Console.Event
import SchemaMigration.Console.Styled

/-!
# What a command prints

A transcript lists all that is printed in its order: lines, prompts, complaints and
diagnostic events. Lines and prompts go to the standard output, the rest to the
standard error output.
-/

namespace SchemaMigration.Console

inductive Output
  | line (text : Styled)
  /-- Not followed by a new line. -/
  | prompt (text : Styled)
  | complaint (text : Styled)
  | event (e : Event)
  deriving DecidableEq, Repr

abbrev Transcript := List Output

def Transcript.stdout (colour : Bool) (t : Transcript) : String :=
  String.join <| t.map fun
    | .line text => render colour text ++ "\n"
    | .prompt text => render colour text
    | .complaint _ | .event _ => ""

/-- The standard error output with the events that the filter selects, each at the
same time. -/
def Transcript.stderr (colour : Bool) (filter : EventFilter) (time : String) (t : Transcript) :
    String :=
  String.join <| t.map fun
    | .line _ | .prompt _ => ""
    | .complaint text => render colour text ++ "\n"
    | .event e => if filter.shows e then e.line time ++ "\n" else ""

/-- What is printed up to the first prompt; nothing where nobody is asked. -/
def Transcript.question? : Transcript → Option Transcript
  | [] => none
  | .prompt text :: _ => some [.prompt text]
  | o :: rest => (question? rest).map (o :: ·)

/-! ## Lines -/

/-- A sign and a message in one style. -/
def marked (style : Style) (sign message : String) : Styled :=
  [.styled sign [style], plain " ", .styled message [style]]

def info (message : String) : Output := .line (marked .blue "ℹ" message)

def success (message : String) : Output := .line (marked .green "✓" message)

def warning (message : String) : Output := .line (marked .yellow "⚠" message)

def failure (message : String) : Output := .complaint (marked .red "✗" message)

def running (message : String) : Output := .line [.styled "›" [.yellow], plain (" " ++ message)]

def step (summary : Styled) : Output :=
  .line ([plain "  ", .styled "->" [.dimmed], plain " "] ++ summary)

/-- A statement that a dry run does not send. -/
def dryRun (sql : String) : Output :=
  .line [.styled "[DRY RUN]" [.yellow], plain " ", .styled "EXECUTE:" [.dimmed], plain (" " ++ sql)]

end SchemaMigration.Console
