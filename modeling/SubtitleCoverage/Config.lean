import SubtitleCoverage.Fault
import SubtitleCoverage.Json.Record
import SubtitleCoverage.Text.Blank
import SubtitleCoverage.Text.Utf8
import SubtitleCoverage.Toml.Reader

/-!
# Configuration

Where the backend is, how lists are shown, how long finished jobs stay on the board, and which
language profile counts when none is named. Everything has a default, so that an empty file is a
configuration.

## Main definitions

* `Config` and its sections.
* `Config.ofToml`, `Config.ofFile` — the configuration of a text, and of a file that may be missing.
* `Config.warnings` — settings that are allowed but make no sense.
-/

namespace SubtitleCoverage

open Json Text

/-- How the backend is reached. -/
structure BackendConfig where
  url : String := "http://localhost:9876"
  apiKey : Option String := none
  timeoutSecs : UInt64 := 10
deriving DecidableEq, Repr

/-- How lists are shown at first. -/
structure ViewConfig where
  pageSize : UInt64 := 25
  /-- What a user would write for a sort key. -/
  defaultSort : String := "title"
  descending : Bool := false
deriving DecidableEq, Repr

/-- How jobs are shown. -/
structure ProgressConfig where
  /-- For how many seconds a finished job stays on the board; 0 is for ever. -/
  autoDismissSecs : UInt64 := 5
deriving DecidableEq, Repr

/-- A configuration. -/
structure Config where
  backend : BackendConfig := {}
  view : ViewConfig := {}
  progress : ProgressConfig := {}
  /-- The profile that counts when none is named. -/
  profileId : Int64 := 1
deriving DecidableEq, Repr

/-! ### Reading -/

/-- How the slots of a record are found. -/
abbrev RecordForm := List String → Json → Option Fields

/-- The backend section of a record. -/
def BackendConfig.ofRecord? (form : RecordForm) (j : Json) : Option BackendConfig := do
  let d : BackendConfig := {}
  let r ← form ["url", "api_key", "timeout_secs"] j
  return {
    url := ← r.withDefault "url" d.url asText?
    apiKey := ← r.withDefault "api_key" d.apiKey (asOption? asText?)
    timeoutSecs := ← r.withDefault "timeout_secs" d.timeoutSecs asUInt64? }

/-- The list section of a record. -/
def ViewConfig.ofRecord? (form : RecordForm) (j : Json) : Option ViewConfig := do
  let d : ViewConfig := {}
  let r ← form ["page_size", "default_sort", "descending"] j
  return {
    pageSize := ← r.withDefault "page_size" d.pageSize asUInt64?
    defaultSort := ← r.withDefault "default_sort" d.defaultSort asText?
    descending := ← r.withDefault "descending" d.descending asBool? }

/-- The job section of a record. -/
def ProgressConfig.ofRecord? (form : RecordForm) (j : Json) : Option ProgressConfig := do
  let d : ProgressConfig := {}
  let r ← form ["auto_dismiss_secs"] j
  return { autoDismissSecs := ← r.withDefault "auto_dismiss_secs" d.autoDismissSecs asUInt64? }

namespace Config

/-- The configuration of a record. -/
def ofRecord? (form : RecordForm) (j : Json) : Option Config := do
  let d : Config := {}
  let r ← form ["backend", "view", "progress", "profile_id"] j
  return {
    backend := ← r.withDefault "backend" d.backend (BackendConfig.ofRecord? form)
    view := ← r.withDefault "view" d.view (ViewConfig.ofRecord? form)
    progress := ← r.withDefault "progress" d.progress (ProgressConfig.ofRecord? form)
    profileId := ← r.withDefault "profile_id" d.profileId asInt64? }

/-- The configuration of a JSON value. -/
def ofJson? (j : Json) : Option Config := ofRecord? fields? j

/-- The configuration of a TOML text. -/
def ofToml (s : String) : Except Refusal Config :=
  match (Toml.read s).bind (ofRecord? leadingFields?) with
  | some c => .ok c
  | none => .error (.badConfig "not a configuration in TOML")

/-- The configuration of a file given by its bytes, if it can be read. A file that is not there, is
no text or no configuration leaves everything at its default. -/
def ofFile (contents : Option Bytes) : Config :=
  match contents.bind ofUtf8? with
  | none => {}
  | some s => (ofToml s).toOption.getD {}

/-! ### Writing -/

/-- A configuration in JSON. -/
def toJson (c : Config) : Json :=
  .obj [
    ("backend", .obj [("url", .str c.backend.url), ("api_key", ofOption .str c.backend.apiKey),
      ("timeout_secs", ofUInt64 c.backend.timeoutSecs)]),
    ("view", .obj [("page_size", ofUInt64 c.view.pageSize),
      ("default_sort", .str c.view.defaultSort), ("descending", .bool c.view.descending)]),
    ("progress", .obj [("auto_dismiss_secs", ofUInt64 c.progress.autoDismissSecs)]),
    ("profile_id", ofInt64 c.profileId)]

/-! ### Warnings -/

/-- What is odd about the address of the backend. -/
def urlWarning (url : String) : List String :=
  let url := trim url
  if url = "" then ["backend.url is empty"]
  else if url.startsWith "http://" || url.startsWith "https://" then []
  else ["backend.url '" ++ url ++ "' is not an http(s) URL"]

/-- What is odd about a configuration. -/
def warnings (c : Config) : List String :=
  urlWarning c.backend.url ++
  (if c.backend.timeoutSecs = 0 then
    ["backend.timeout_secs is 0; requests will fail immediately"] else []) ++
  (if c.view.pageSize = 0 then
    ["view.page_size is 0; a page size of 1 will be used"] else []) ++
  (if c.profileId ≤ 0 then
    ["profile_id " ++ decimal c.profileId.toInt ++ " is not a valid id"] else [])

end Config

end SubtitleCoverage
