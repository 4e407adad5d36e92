import SubtitleCoverage.Coverage.Summary
import SubtitleCoverage.Jobs.Board
import SubtitleCoverage.Library.Notice
import SubtitleCoverage.Listing.Page
import SubtitleCoverage.Text.Column

/-!
# Reports

What is shown to the user as plain text: rows with their coverage, pages, totals, the progress of
jobs, warnings and notices. A language is marked `+` if it is covered well, `~` if a better form of
subtitles is wanted, and `-` if it is missing.

## Main definitions

* `Report.rows`, `page`, `summary`, `progress`, `status?`, `notices`, `languages`.
-/

namespace SubtitleCoverage.Report

open Text

/-! ### Rows -/

/-- The mark of a state. -/
def badge : CoverageState → String
  | .optimal => "+"
  | .upgradeable => "~"
  | .missing => "-"

/-- Where the subtitles of a language come from, if that is known. -/
def source (c : Coverage) : String :=
  if c.isEmbedded then " (embedded)" else if c.sidecarPath.isSome then " (sidecar)" else ""

/-- A sidecar of a language that is not wanted. -/
def extra (s : Sidecar) : String :=
  match s.format? with
  | some format => s.language ++ "." ++ format.name
  | none => s.language

/-- The coverage of a unit. -/
def resolution (r : Resolution) : String :=
  String.join (r.perLanguage.map fun c =>
      " " ++ badge c.coverage.state ++ c.language ++ source c.coverage) ++
    (if r.extras = [] then "" else "  extras: " ++ joinWith ", " (r.extras.map extra)) ++
    (if r.duplicates = [] then "" else "  duplicates: " ++ decimal r.duplicates.length)

/-- A row: selection, number, label, title and coverage. -/
def row (r : Row) : String :=
  (if r.selected then "[x] " else "[ ] ") ++ alignRight 6 r.unit.id.text ++ " " ++
    alignLeft 8 (r.unit.episodeLabel.getD "") ++ " " ++ r.unit.title ++
    (if r.unit.hasFile then "" else " (no file)") ++ resolution r.resolution

/-- Rows, a line each. -/
def rows (rs : List Row) : String := unlines (rs.map row)

/-- The place of a page in the list. -/
def page (p : PageInfo) : String :=
  "page " ++ decimal p.page.toNat ++ "/" ++ decimal p.pageCount.toNat ++ " (" ++
    decimal p.total.toNat ++ " rows, " ++ decimal p.pageSize.toNat ++ " per page)"

/-! ### Totals -/

/-- The line that names a profile. -/
def profile (p : LanguageProfile) : String :=
  "Profile " ++ (if p.name = "" then p.id.text else p.name) ++ ": " ++
    joinWith ", " p.targetLanguages

/-- The totals of the library. -/
def summary (s : Summary) (p : Option LanguageProfile) : String :=
  unlines (p.toList.map profile ++
    ["Missing:     " ++ decimal s.missing, "Upgradeable: " ++ decimal s.upgradeable,
      "Optimal:     " ++ decimal s.optimal] ++
    if s.unitsWithoutFile = 0 then [] else ["Skipped (no file): " ++ decimal s.unitsWithoutFile])

/-! ### Jobs -/

/-- A share as a percentage, rounded to a whole number; a half goes to the even one. -/
def percent (share : Float) : Nat :=
  let x := share * 100
  let n := x.floor.toUInt64.toNat
  let rest := x - x.floor
  if rest > 0.5 || (rest == 0.5 && n % 2 == 1) then n + 1 else n

/-- The progress of a job. -/
def progress (p : JobProgress) : String :=
  "job " ++ p.job.text ++ ": " ++
    match p.phase with
    | .terminal =>
      "finished, " ++ decimal p.completed.toNat ++ " succeeded, " ++ decimal p.failed.toNat ++
        " failed, " ++ decimal p.skipped.toNat ++ " skipped"
    | .dispatched => "queued, " ++ decimal p.total.toNat ++ " items"
    | .running | .idle =>
      decimal p.current.toNat ++ "/" ++ decimal p.total.toNat ++ " (" ++
        decimal (percent p.fraction) ++ "%), " ++ decimal p.completed.toNat ++ " completed, " ++
        decimal p.failed.toNat ++ " failed"

/-! ### Messages -/

/-- The warning that rows are not fresh. -/
def status? : ViewStatus → Option String
  | .degraded message retryable =>
    some ("warning: showing last known data: " ++ message ++
      if retryable then " (retry later)" else "")
  | .loading | .ready => none

/-- A notice. -/
def notice (n : Notice) : String :=
  (match n.level with
    | .info => "note: "
    | .error => "error: ") ++ n.message

/-- Notices, a line each. -/
def notices (ns : List Notice) : String := unlines (ns.map notice)

/-- The three-letter codes of languages and their two-letter codes. -/
def languages : String := unlines (Language.codes.map fun e => e.1 ++ " -> " ++ e.2)

end SubtitleCoverage.Report
