import SubtitleCoverage.Identifier
import SubtitleCoverage.Language
import SubtitleCoverage.Text.Blank
import SubtitleCoverage.Timestamp

/-!
# The media library

A media unit is one video of the library, an episode or a movie. It declares, by language, the best
form in which subtitles are there; next to its file there may be sidecar files with subtitles. The
records come from the backend's scan and are never changed here, but for the status of a unit.

## Main definitions

* `SubtitleFormat`, `SidecarFormat` — forms of subtitles, declared and in a file of their own.
* `MediaKind`, `MediaStatus`, `MediaUnit` — the videos.
* `MediaUnit.declaredFormat` — what a unit declares for a language, in any spelling.
* `Sidecar` — a file with subtitles.
-/

namespace SubtitleCoverage

open Text

/-! ### Forms of subtitles -/

/-- The form in which a unit declares its subtitles for a language. -/
inductive SubtitleFormat where
  /-- There are none. -/
  | absent
  | srt
  | ass
  /-- Inside the video file. -/
  | embeddedSrt
  /-- Inside the video file. -/
  | embeddedAss
deriving DecidableEq, Repr, Inhabited

/-- The form of subtitles in a file of their own. -/
inductive SidecarFormat where
  | srt
  | ass
deriving DecidableEq, Repr

namespace SubtitleFormat

/-- The name of a form. -/
def name : SubtitleFormat → String
  | .absent => "none"
  | .srt => "srt"
  | .ass => "ass"
  | .embeddedSrt => "embedded_srt"
  | .embeddedAss => "embedded_ass"

/-- The form with a name; the empty name stands for no subtitles too. -/
def ofName? : String → Option SubtitleFormat
  | "none" | "" => some .absent
  | "srt" => some .srt
  | "ass" => some .ass
  | "embedded_srt" => some .embeddedSrt
  | "embedded_ass" => some .embeddedAss
  | _ => none

/-- Whether the subtitles are inside the video file. -/
def isEmbedded : SubtitleFormat → Bool
  | .embeddedSrt | .embeddedAss => true
  | .absent | .srt | .ass => false

/-- The form of the file that holds the subtitles, if they are in one. -/
def sidecarFormat? : SubtitleFormat → Option SidecarFormat
  | .srt => some .srt
  | .ass => some .ass
  | .absent | .embeddedSrt | .embeddedAss => none

end SubtitleFormat

namespace SidecarFormat

/-- The name of a form. -/
def name : SidecarFormat → String
  | .srt => "srt"
  | .ass => "ass"

/-- The form with a name. -/
def ofName? : String → Option SidecarFormat
  | "srt" => some .srt
  | "ass" => some .ass
  | _ => none

/-- The form that a description means: a name or an extension in any letter case, dots before it
and blanks around it. -/
def ofText? (s : String) : Option SidecarFormat :=
  match lower (String.ofList ((trimChars s.toList).dropWhile (· = '.'))) with
  | "srt" | "subrip" => some .srt
  | "ass" | "ssa" => some .ass
  | _ => none

end SidecarFormat

/-! ### Media units -/

/-- The kind of a media unit. -/
inductive MediaKind where
  | episode
  | movie
deriving DecidableEq, Repr, Inhabited

/-- Whether the library looks for subtitles of a unit. -/
inductive MediaStatus where
  | monitored
  | unmonitored
  | excluded
deriving DecidableEq, Repr, Inhabited

/-- The name of a kind. -/
def MediaKind.name : MediaKind → String
  | .episode => "episode"
  | .movie => "movie"

/-- The kind with a name. -/
def MediaKind.ofName? : String → Option MediaKind
  | "episode" => some .episode
  | "movie" => some .movie
  | _ => none

/-- The name of a status. -/
def MediaStatus.name : MediaStatus → String
  | .monitored => "monitored"
  | .unmonitored => "unmonitored"
  | .excluded => "excluded"

/-- The status with a name. -/
def MediaStatus.ofName? : String → Option MediaStatus
  | "monitored" => some .monitored
  | "unmonitored" => some .unmonitored
  | "excluded" => some .excluded
  | _ => none

/-- A video of the library. -/
structure MediaUnit where
  id : MediaUnitId
  title : String
  kind : MediaKind := .episode
  path : Option String := none
  season : Option Int32 := none
  episode : Option Int32 := none
  hasFile : Bool := false
  /-- The form of the subtitles by language, in whatever spelling the scan found. -/
  subtitles : OrderedMap String SubtitleFormat := .empty
  audioLanguages : OrderedSet String := .empty
  status : MediaStatus := .monitored
  addedAt : Option Timestamp := none
deriving DecidableEq

namespace MediaUnit

/-- The form declared for a language: that of the same spelling, else that of the first spelling
of the same language. -/
def declaredFormat (u : MediaUnit) (language : String) : SubtitleFormat :=
  match u.subtitles.get? language with
  | some format => format
  | none =>
    let found := u.subtitles.entries.find? fun e => Language.same e.1 language
    (found.map (·.2)).getD .absent

/-- Season and episode, such as `S01E03`; none unless both are known. -/
def episodeLabel (u : MediaUnit) : Option String :=
  match u.season, u.episode with
  | some s, some e => some ("S" ++ decimalPadded 2 s.toInt ++ "E" ++ decimalPadded 2 e.toInt)
  | _, _ => none

end MediaUnit

/-! ### Sidecars -/

/-- The name at the end of a path: its last part, empty parts and single dots left out. -/
def fileName? (path : String) : Option (List Char) :=
  let parts := (path.toList.splitOn '/').filter fun p => p ≠ [] ∧ p ≠ ['.']
  parts.getLast?.filter (· ≠ ['.', '.'])

/-- What follows the last dot of the name at the end of a path. A dot at its beginning does not
count. -/
def extension? (path : String) : Option String := do
  let name ← fileName? path
  let afterDot := (name.reverse.takeWhile (· ≠ '.')).reverse
  if afterDot.length + 1 < name.length then some (String.ofList afterDot) else none

/-- A file with subtitles next to the file of a media unit. -/
structure Sidecar where
  path : String := ""
  language : String := ""
  /-- The form as the scan describes it. -/
  format : String := ""
  mediaUnitId : Option MediaUnitId := none
deriving DecidableEq, Repr

namespace Sidecar

/-- Whether path and language are there. Other sidecars are passed over. -/
def isWellFormed (s : Sidecar) : Bool := !isBlankText s.path && !isBlankText s.language

/-- The form of the subtitles: as described, else by the extension of the path. -/
def format? (s : Sidecar) : Option SidecarFormat :=
  (SidecarFormat.ofText? s.format).or ((extension? s.path).bind SidecarFormat.ofText?)

/-- The language, folded onto one spelling. -/
def normalizedLanguage (s : Sidecar) : String := Language.normalize (trim s.language)

end Sidecar

end SubtitleCoverage
