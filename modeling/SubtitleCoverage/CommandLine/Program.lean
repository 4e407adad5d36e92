import SubtitleCoverage.CommandLine.Command
import SubtitleCoverage.CommandLine.Errand
import SubtitleCoverage.Http.Subscription
import SubtitleCoverage.Library.Change
import SubtitleCoverage.Library.Load
import SubtitleCoverage.Library.Session
import SubtitleCoverage.Report

/-!
# The program

What the program does for every command.

## Main definitions

* `Trouble` — why a command has failed.
* `showCoverage`, `showMissing`, `searchMissing`, `validate` — the commands.
* `program` — the program for a command line, with its exit code.
-/

namespace SubtitleCoverage.CommandLine

open Http Text

/-! ### Trouble -/

/-- Why a command has failed, and what was behind it. -/
structure Trouble where
  message : String
  cause : Option String := none
deriving DecidableEq, Repr

/-- A text of which every line but the first is indented. -/
def indentLines (s : String) : String :=
  String.ofList (s.toList.flatMap fun c => if c = '\n' then "\n    ".toList else [c])

/-- The wording of trouble. -/
def Trouble.report (t : Trouble) : String :=
  "Error: " ++ t.message ++
    (match t.cause with
      | some cause => "\n\nCaused by:\n    " ++ indentLines cause
      | none => "") ++ "\n"

/-! ### Loading -/

/-- The view of a command, perhaps with a profile of its own. -/
def openView (scope : String) (profile : Option Int64) (config : Config) : LibraryView :=
  let v := LibraryView.new scope config
  match profile with
  | some id => v.setProfile ⟨id⟩
  | none => v

/-- The trouble with a view that could not be loaded, where nothing can be done without it. -/
def loadTrouble? (v : LibraryView) : Option Trouble :=
  match v.status with
  | .degraded message _ =>
    if v.units = [] || v.profile.isNone then
      some ⟨"Could not load the library from the backend: " ++ message, none⟩
    else none
  | .loading | .ready => none

/-- Loads the whole library into a view. -/
def load (c : Client) (v : LibraryView) : Task (Except Trouble LibraryView) := do
  let v ← inquire c v.refreshAll
  match Report.status? v.status with
  | some warning => warn (warning ++ "\n")
  | none => pure ()
  match loadTrouble? v with
  | some t => return .error t
  | none => return .ok v

/-! ### Coverage -/

/-- The sort order that the options ask for. -/
def CoverageOptions.sortSpec (o : CoverageOptions) (default : SortSpec) : Except Refusal SortSpec :=
  do
    let key ← match o.sort with
      | some s => SortKey.ofText s
      | none => .ok default.key
    return ⟨key, o.descending || default.descending⟩

/-- A view after the search that the options ask for. -/
def CoverageOptions.searched (o : CoverageOptions) (v : LibraryView) : LibraryView :=
  match o.search with
  | some s => (v.inputSearch s 0).submitSearch.2
  | none => v

/-- Shows the units with their coverage. -/
def showCoverage (config : Config) (o : CoverageOptions) : Task (Except Trouble Unit) := do
  let v := openView "library" o.profile config
  match o.sortSpec v.query.sort with
  | .error r => return .error ⟨(Fault.validation r).message, none⟩
  | .ok sort =>
    match ← load (.ofConfig config.backend) (v.setSort sort) with
    | .error t => return .error t
    | .ok v =>
      let v := (o.searched v).setPage o.page
      -- Nothing is ever selected on a command line.
      let (_, rows) := v.rows .empty
      print (if rows = [] then "No matching episodes.\n" else Report.rows rows)
      print (Report.page v.pageInfo ++ "\n")
      return .ok ()

/-! ### Missing subtitles -/

/-- Shows the totals of a view. -/
def printSummary (v : LibraryView) : Task Unit := print (Report.summary v.summary v.profile)

/-- Shows the totals of the library. -/
def showMissing (config : Config) (profile : Option Int64) : Task (Except Trouble Unit) := do
  match ← load (.ofConfig config.backend) (openView "wanted" profile config) with
  | .error t => return .error t
  | .ok v =>
    printSummary v
    return .ok ()

/-- Shows how far a job has come, if it is on the board. -/
def printProgress (b : Board) (job : JobId) : Task Unit :=
  match b.get? job with
  | some p => print (Report.progress p ++ "\n")
  | none => pure ()

/-- How the wait for a job ends. -/
inductive Ending where
  | finished
  | closed
  | interrupted
deriving DecidableEq, Repr

/-- How the wait for a job ends after some news of the stream, if it does. That the job has finished
counts before what has become of the stream. -/
def ending? (s : Session) (job : JobId) (news : StreamNews) : Option Ending :=
  if s.board.phase job = .terminal then some .finished
  else
    match news with
    | .closed => some .closed
    | .interrupted => some .interrupted
    | .piece _ | .silence => none

/-- Waits until a job has finished or the stream has ended, and shows now and then how far the job
has come. -/
def await (job : JobId) : Nat → StreamDecoder → Session → Task (Ending × Session)
  | 0, _, s => return (.closed, s)
  | count + 1, d, s =>
    .ask (.web .listen) fun (news : StreamNews) =>
      let (events, d) := takeNews d news
      let s := events.foldl (fun s e => s.applyEvent e 0) s
      match ending? s job news with
      | some ending => return (ending, s)
      | none => do
        -- Nothing has come for a while: time to tell the user that the job goes on.
        if news = .silence then printProgress s.board job
        await job count d s

/-- Follows a job that has been started. -/
def follow (c : Client) (v : LibraryView) (s : Session) (job : JobId) : Task Unit := do
  print "Following progress. Stopping here does not cancel the batch on the backend.\n"
  printProgress s.board job
  let (ending, s) ← await job listenLimit .start s
  match ending with
  | .finished =>
    printProgress s.board job
    printSummary (← inquire c v.refreshAll)
  | .closed => warn "Progress stream closed before the batch finished.\n"
  | .interrupted => warn ("Progress stream failed: " ++ interruption.message ++ "\n")

/-- Starts the search for a view that has been loaded, and follows it if asked to. -/
def startSearch (c : Client) (v : LibraryView) (s : Session) (follows : Bool) :
    Task (Except Trouble Unit) := do
  let o ← inquire c (v.searchMissing s.board)
  match o.result with
  | .error f =>
    warn (Report.notices o.view.notices)
    return .error ⟨"Failed to start the search", some f.message⟩
  | .ok none =>
    print "Nothing is missing.\n"
    return .ok ()
  | .ok (some started) =>
    print ("Started job " ++ started.job.text ++ " for " ++ decimal started.totalItems.toNat ++
      " missing subtitles.\n")
    if follows then follow c o.view { s with board := o.board } started.job
    return .ok ()

/-- Starts a search for all missing subtitles. If it is to be followed, the stream of events is
opened before, so that none is missed. -/
def searchMissing (config : Config) (profile : Option Int64) (follows : Bool) :
    Task (Except Trouble Unit) := do
  let c := Client.ofConfig config.backend
  match ← load c (openView "wanted" profile config) with
  | .error t => return .error t
  | .ok v =>
    match ← (if follows then browse c.connect else pure (.ok ())) with
    | .error f =>
      return .error
        ⟨"Could not subscribe to progress events; nothing was started", some f.message⟩
    | .ok () => startSearch c v { config } follows

/-! ### Configuration -/

/-- What is said about a configuration. -/
def configReport (c : Config) : String :=
  unlines ((if c.warnings = [] then ["✓ Configuration is valid"]
      else c.warnings.map fun w => "warning: " ++ w) ++
    ["  Backend: " ++ c.backend.url, "  Profile: " ++ decimal c.profileId.toInt,
      "  Page size: " ++ decimal c.view.pageSize.toNat, "  Default sort: " ++ c.view.defaultSort])

/-- The text of a file. -/
def readText (path : String) : Task (Except FileFault String) :=
  .ask (.readFile path) fun (contents : Except FileFault Bytes) =>
    return contents.bind fun bytes =>
      match ofUtf8? bytes with
      | some s => .ok s
      | none => .error .notText

/-- Checks a configuration file. -/
def validate : Option String → Task (Except Trouble Unit)
  | none => do
    print "No config file specified, using defaults\n"
    print (configReport {})
    return .ok ()
  | some path => do
    print ("Validating config: " ++ path ++ "\n")
    match ← readText path with
    | .error f => return .error ⟨"Failed to read config file " ++ path, some f.message⟩
    | .ok s =>
      match Config.ofToml s with
      | .error r => return .error ⟨(Fault.validation r).message, none⟩
      | .ok c =>
        print (configReport c)
        return .ok ()

/-- Where the configuration of the directory is. -/
def localConfig : String := "./subcover.toml"

/-- Where the configuration of the user is. -/
def userConfig (home : Option String) : String := home.getD "~" ++ "/.config/subcover/config.toml"

/-- The configuration file if none is named: that of the directory, else that of the user. -/
def findConfig : Task (Option String) :=
  .ask (.isFile localConfig) fun
    | true => return some localConfig
    | false => .ask .home fun (home : Option String) =>
      .ask (.isFile (userConfig home)) fun
        | true => return some (userConfig home)
        | false => return none

/-- The configuration of a file that may be missing. -/
def loadConfig : Option String → Task Config
  | none => return {}
  | some path => .ask (.readFile path) fun (contents : Except FileFault Bytes) =>
    return Config.ofFile contents.toOption

/-! ### The program -/

/-- What the program says about its use. -/
def usage : String := unlines [
  "Subtitle coverage for your media library",
  "",
  "Usage: subcover [OPTIONS] <COMMAND>",
  "",
  "Commands:",
  "  coverage        Show per-episode subtitle coverage",
  "  missing         Count missing and upgradeable subtitles",
  "  search-missing  Start a backend search for every missing subtitle",
  "  validate        Validate configuration file",
  "  languages       Print the language code normalization table",
  "  version         Display version information",
  "  help            Print this message",
  "",
  "Options:",
  "  -c, --config <CONFIG>  Path to config file",
  "  -v, --verbose          Enable verbose logging",
  "  -h, --help             Print help",
  "  -V, --version          Print version"]

/-- What the program says about its version. -/
def versionLine : String := "subcover 0.1.0\n"

/-- Carries out a command with the configuration file that counts. -/
def carryOut (config : Option String) : Command → Task (Except Trouble Unit)
  | .coverage o => do showCoverage (← loadConfig config) o
  | .missing profile => do showMissing (← loadConfig config) profile
  | .searchMissing profile follows => do searchMissing (← loadConfig config) profile follows
  | .validate path => validate (path <|> config)
  | .languages => do
    print Report.languages
    return .ok ()
  | .version => do
    print versionLine
    return .ok ()

/-- The program for what it is asked to do, with its exit code. -/
def perform (i : Invocation) : Task UInt32 := do
  let config ← match i.config with
    | some path => pure (some path)
    | none => findConfig
  match ← carryOut config i.command with
  | .ok () => return 0
  | .error t =>
    warn t.report
    return 1

/-- The program for a command line, with its exit code. -/
def program (words : List String) : Task UInt32 :=
  match Invocation.ofWords words with
  | .ok i => perform i
  | .error .misuse => do
    warn usage
    return 2
  | .error .help => do
    print usage
    return 0
  | .error .version => do
    print versionLine
    return 0

end SubtitleCoverage.CommandLine
