import SchemaMigration.Calendar
import SchemaMigration.CommandLine.Program
import Std.Time.DateTime.Timestamp
import Std.Time.Zoned.Database

/-!
# The executable

Carries one command line out on the files below the working directory, and writes
what the command made. Databases last as long as the command.
-/

namespace SchemaMigration.CommandLine

open Console Files Calendar

/-! ## Time -/

/-- The present, in nanoseconds since the start of 1970, and the local offset in
seconds east. -/
def readClock : IO (Int × Int) := do
  let now ← Std.Time.Timestamp.now
  let offset ←
    try
      let rules ← Std.Time.Database.defaultGetLocalZoneRules
      pure (rules.timezoneAt now).offset.second.val
    catch _ => pure 0
  return (now.toNanosecondsSinceUnixEpoch.val, offset)

def nanosPerSecond : Int := 1000000000

/-- The time of events. -/
def eventTime (nanos : Int) : String :=
  (momentOfSeconds (nanos.fdiv nanosPerSecond)).timeText
    (nanos.fmod nanosPerSecond / 1000).toNat

/-- The stamp of new migrations. -/
def stampAt (nanos offset : Int) : String :=
  (momentOfSeconds (nanos.fdiv nanosPerSecond + offset)).stamp

/-! ## Files -/

/-- How deep directories are read. -/
def depthLimit : Nat := 32

/-- A file as the program needs it. Only files in the formats of migrations are read. -/
def readNode (name path : String) : IO Node := do
  if (Format.ofFileName? name).isNone then return .file (.text "")
  let bytes ← try IO.FS.readBinFile path catch _ => pure ⟨#[]⟩
  match String.fromUTF8? bytes with
  | some s => return .file (.text s)
  | none => return .file (.bytes bytes.toList)

/-- The nodes below a directory. -/
def readBelow (path : String) (location : Location) : Nat → IO (List (Location × Node))
  | 0 => return []
  | depth + 1 => do
    let entries ← try (← IO.FS.realPath path).readDir catch _ => pure #[]
    let found ← entries.toList.mapM fun entry => do
      let path := path ++ "/" ++ entry.fileName
      let location := location ++ [Name.text entry.fileName]
      if ← entry.path.isDir then
        return (location, .directory) :: (← readBelow path location depth)
      else return [(location, ← readNode entry.fileName path)]
    return found.flatten

/-- Adds a file that is read whatever its name, if it is there. -/
def readExtra (tree : FileTree) (path : Path) : IO FileTree :=
  try
    let content ← IO.FS.readFile path
    return tree.plant ((Path.activeSteps path).map Name.text) (.file (.text content))
  catch _ => return tree

/-- Writes what a command made or changed. -/
def writeChanges (before after : FileTree) : IO Unit :=
  after.entries.forM fun (location, node) => do
    if before.node? location ≠ some node then
      let path := "/".intercalate (location.map Name.display)
      match node with
      | .directory => IO.FS.createDirAll path
      | .file (.text s) => IO.FS.writeFile path s
      | .file (.bytes bs) => IO.FS.writeBinFile path ⟨bs.toArray⟩

/-- Where the user keeps configuration files. -/
def readUserDirectory : IO (Option Path) := do
  match ← IO.getEnv "XDG_CONFIG_HOME" with
  | some path => if Path.isAbsolute path then return some path
  | none => pure ()
  return (← IO.getEnv "HOME").map fun home => Path.join home ".config"

/-! ## Running -/

/-- The files that a request may need. -/
def readFiles (request : Request) (userDirectory : Option Path) : IO FileTree := do
  let tree : FileTree := ⟨← readBelow "." [] depthLimit⟩
  let extra := request.configPath.toList ++ (userDirectory.map Config.userFile).toList
  extra.foldlM readExtra tree

/-- Runs a request. Where somebody is asked, the answer is read and the run starts
again with it. -/
def runAsking (colour : Bool) (env : Environment) (request : Request) (s : Session Databases) :
    IO (Nat × Session Databases) := do
  let outcome := run env request s
  match outcome.2.transcript.question? with
  | none => return outcome
  | some question =>
    IO.print (Transcript.stdout colour question)
    (← IO.getStdout).flush
    let (code, s) := run { env with input := ← (← IO.getStdin).getLine } request s
    return (code, { s with transcript := s.transcript.drop question.length })

def start (words : List String) : IO UInt32 := do
  let request := Request.read (← IO.getEnv "LIPGRATE_DATABASE_URL") words
  let (nanos, offset) ← readClock
  let userDirectory ← readUserDirectory
  let files ← readFiles request userDirectory
  let terminal ← (← IO.getStdout).isTty
  let colour := wantsColour (← IO.getEnv "CLICOLOR_FORCE") (← IO.getEnv "NO_COLOR")
    (← IO.getEnv "CLICOLOR") terminal
  let filter := EventFilter.ofSetting (← IO.getEnv "RUST_LOG") request.verbose
  let env : Environment := { userDirectory, stamp := stampAt nanos offset }
  let (code, s) ← runAsking colour env request { files, database := { server := {} } }
  writeChanges files s.files
  IO.print (s.transcript.stdout colour)
  IO.eprint (s.transcript.stderr colour filter (eventTime nanos))
  return UInt32.ofNat code

end SchemaMigration.CommandLine

def main (words : List String) : IO UInt32 := SchemaMigration.CommandLine.start words
