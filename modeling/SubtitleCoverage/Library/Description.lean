import SubtitleCoverage.Library.Session
import SubtitleCoverage.Library.View
import SubtitleCoverage.Text.Column
import SubtitleCoverage.Text.Quoted

/-!
# Descriptions of views and sessions

For diagnostics a view and a session are described in one line, which names the parts that say most
about them. A record is written as its name and its fields in braces.

## Main definitions

* `LibraryView.describe`, `Session.describe` — the descriptions.
-/

namespace SubtitleCoverage

open Text

/-- A record with its fields. -/
def describeRecord (name : String) (fields : List (String × String)) : String :=
  name ++ " \x7b " ++ joinWith ", " (fields.map fun e => e.1 ++ ": " ++ e.2) ++ " \x7d"

/-- A word with a capital letter. -/
def capitalized (s : String) : String :=
  match s.toList with
  | [] => ""
  | c :: cs => String.ofList (c.toUpper :: cs)

/-- A truth value. -/
def describeBool (b : Bool) : String := if b then "true" else "false"

/-- A filter. -/
def Filter.describe : Filter → String
  | .hasFile b => "HasFile(" ++ describeBool b ++ ")"
  | .status s => "Status(" ++ capitalized s.name ++ ")"
  | .kind k => "Kind(" ++ capitalized k.name ++ ")"
  | .season n => "Season(" ++ decimal n.toInt ++ ")"
  | .audioLanguage l => "AudioLanguage(" ++ quoted l ++ ")"

/-- A sort key. -/
def SortKey.describe : SortKey → String
  | .addedAt => "AddedAt"
  | k => capitalized k.name

/-- A query. -/
def ListQuery.describe (q : ListQuery) : String :=
  describeRecord "ListQuery" [
    ("filters", "[" ++ joinWith ", " (q.filters.map Filter.describe) ++ "]"),
    ("sort", describeRecord "SortSpec" [("key", q.sort.key.describe),
      ("descending", describeBool q.sort.descending)]),
    ("search", quoted q.search)]

/-- A status. -/
def ViewStatus.describe : ViewStatus → String
  | .loading => "Loading"
  | .ready => "Ready"
  | .degraded message retryable =>
    describeRecord "Degraded" [("message", quoted message), ("retryable", describeBool retryable)]

/-- A view. -/
def LibraryView.describe (v : LibraryView) : String :=
  describeRecord "LibraryView" [("scope", quoted v.scope), ("status", v.status.describe),
    ("units", decimal v.units.length), ("query", v.query.describe)]

/-- A session. -/
def Session.describe (s : Session) : String :=
  describeRecord "AppState" [("bus", s.bus.describe),
    ("refresh_listeners", decimal s.finished.receiverCount)]

end SubtitleCoverage
