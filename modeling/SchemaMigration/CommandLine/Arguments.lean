/-!
# Arguments

A command line is one command with its own options. The options that every command
has may stand before it or after it; of two values the later one counts.
-/

namespace SchemaMigration.CommandLine

inductive Verb
  | init
  | create
  | migrate
  | rollback
  | status
  | reset
  deriving DecidableEq, Repr

def Verb.named? : String → Option Verb
  | "init" => some .init
  | "create" => some .create
  | "migrate" => some .migrate
  | "rollback" => some .rollback
  | "status" => some .status
  | "reset" => some .reset
  | _ => none

inductive Command
  | init
  | create (name : String) (client : Option String)
  | migrate (dryRun : Bool)
  | rollback (dryRun : Bool)
  | status
  | reset (yes : Bool)
  deriving DecidableEq, Repr

structure Arguments where
  config : Option String := none
  databaseUrl : Option String := none
  verbose : Bool := false
  command : Command
  deriving DecidableEq, Repr

inductive Request
  | help
  | version
  | run (args : Arguments)
  /-- The words make no command line. -/
  | misuse
  deriving DecidableEq, Repr

/-! ## Options -/

inductive Switch
  | help
  | version
  | verbose
  | dryRun
  | yes
  deriving DecidableEq, Repr

namespace Switch

def named? : String → Option Switch
  | "help" => some .help
  | "version" => some .version
  | "verbose" => some .verbose
  | "dry-run" => some .dryRun
  | "yes" => some .yes
  | _ => none

def ofLetter? : Char → Option Switch
  | 'h' => some .help
  | 'V' => some .version
  | 'v' => some .verbose
  | _ => none

/-- Whether the option may stand after a command or, without one, before it. -/
def fits : Switch → Option Verb → Bool
  | .help, _ | .verbose, _ => true
  | .version, verb => verb.isNone
  | .dryRun, verb => verb == some .migrate || verb == some .rollback
  | .yes, verb => verb == some .reset

end Switch

inductive Setting
  | config
  | databaseUrl
  | client
  deriving DecidableEq, Repr

namespace Setting

def named? : String → Option Setting
  | "config" => some .config
  | "database-url" => some .databaseUrl
  | "client" => some .client
  | _ => none

def fits : Setting → Option Verb → Bool
  | .config, _ | .databaseUrl, _ => true
  | .client, verb => verb == some .create

/-- The path of a file is not empty. -/
def accepts : Setting → String → Bool
  | .config, value => value != ""
  | .databaseUrl, _ | .client, _ => true

end Setting

/-! ## Words -/

inductive Word
  | plain (text : String)
  /-- Two hyphens: all that follows is plain. -/
  | separator
  | long (name : String) (value : Option String)
  | letters (letters : List Char)
  deriving DecidableEq, Repr

/-- A hyphen with nothing after it is a plain word. -/
def Word.ofString (s : String) : Word :=
  match s.toList with
  | ['-', '-'] => .separator
  | '-' :: '-' :: cs =>
    match cs.span (· ≠ '=') with
    | (name, _ :: value) => .long (String.ofList name) (some (String.ofList value))
    | (name, []) => .long (String.ofList name) none
  | '-' :: c :: cs => .letters (c :: cs)
  | _ => .plain s

def Word.isPlain : Word → Bool
  | .plain _ => true
  | _ => false

/-! ## Reading -/

/-- What is given before the command, or after it. -/
structure Given where
  switches : List Switch := []
  settings : List (Setting × String) := []
  operands : List String := []
  deriving DecidableEq, Repr

namespace Given

/-- Reads an option without a value. Help and the version are asked for at once. -/
def turnOn (verb : Option Verb) (g : Given) (switch : Option Switch) : Except Request Given :=
  match switch with
  | none => .error .misuse
  | some s =>
    if !s.fits verb || g.switches.contains s then .error .misuse
    else if s = .help then .error .help
    else if s = .version then .error .version
    else .ok { g with switches := s :: g.switches }

def assign (verb : Option Verb) (g : Given) (s : Setting) (value : String) :
    Except Request Given :=
  if s.fits verb && (g.settings.lookup s).isNone && s.accepts value then
    .ok { g with settings := (s, value) :: g.settings }
  else .error .misuse

/-- Reads up to the command or, after it, up to the end. What is not read is left. -/
def read (verb : Option Verb) (g : Given) : List String → Except Request (Given × List String)
  | [] => .ok (g, [])
  | word :: rest =>
    match Word.ofString word with
    | .plain text =>
      if verb.isNone then .ok (g, word :: rest)
      else read verb { g with operands := g.operands ++ [text] } rest
    | .separator =>
      if verb.isNone then .error .misuse
      else .ok ({ g with operands := g.operands ++ rest }, [])
    | .letters cs =>
      (cs.foldlM (fun (g : Given) c => g.turnOn verb (Switch.ofLetter? c)) g).bind (read verb · rest)
    | .long name (some value) =>
      match Setting.named? name with
      | some s => (g.assign verb s value).bind (read verb · rest)
      | none => .error .misuse
    | .long name none =>
      match Setting.named? name with
      | none => (g.turnOn verb (Switch.named? name)).bind (read verb · rest)
      | some s =>
        match rest with
        | [] => .error .misuse
        | value :: rest =>
          if (Word.ofString value).isPlain then (g.assign verb s value).bind (read verb · rest)
          else .error .misuse

/-- The command of what is given after it. -/
def command? (g : Given) : Verb → Option Command
  | .init => if g.operands = [] then some .init else none
  | .create =>
    match g.operands with
    | [name] => some (.create name (g.settings.lookup .client))
    | _ => none
  | .migrate => if g.operands = [] then some (.migrate (g.switches.contains .dryRun)) else none
  | .rollback => if g.operands = [] then some (.rollback (g.switches.contains .dryRun)) else none
  | .status => if g.operands = [] then some .status else none
  | .reset => if g.operands = [] then some (.reset (g.switches.contains .yes)) else none

end Given

/-- Reads a command line as far as it is one. The database URL may also come from the
environment. -/
def readArguments (environmentUrl : Option String) (words : List String) :
    Except Request Arguments := do
  let (before, words) ← Given.read none {} words
  match words with
  | [] => throw .misuse
  | name :: words =>
    let verb ← match Verb.named? name with
      | some verb => pure verb
      | none => throw (if name = "help" then .help else .misuse)
    let (after, _) ← Given.read (some verb) {} words
    let setting (s : Setting) : Option String := (after.settings.lookup s).or (before.settings.lookup s)
    match after.command? verb with
    | none => throw .misuse
    | some command =>
      return {
        config := setting .config
        databaseUrl := (setting .databaseUrl).or environmentUrl
        verbose := before.switches.contains .verbose || after.switches.contains .verbose
        command }

def Request.read (environmentUrl : Option String) (words : List String) : Request :=
  match readArguments environmentUrl words with
  | .ok args => .run args
  | .error request => request

end SchemaMigration.CommandLine
