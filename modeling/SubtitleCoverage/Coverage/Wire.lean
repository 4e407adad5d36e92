import SubtitleCoverage.Coverage.Summary
import SubtitleCoverage.Media.Wire

/-!
# Coverage on the wire

How the coverage of units and of the library is written in JSON.

## Main definitions

* `Resolution.toJson`, `Summary.toJson`, `MissingPair.toJson`.
-/

namespace SubtitleCoverage

open Json

/-- The coverage of a language in JSON. -/
def Coverage.toJson (c : Coverage) : Json :=
  .obj [("state", .str c.state.name), ("matchedSidecarPath", ofOption .str c.sidecarPath),
    ("isEmbedded", .bool c.isEmbedded), ("format", c.format.toJson)]

/-- The coverage of a target language in JSON. -/
def LanguageCoverage.toJson (c : LanguageCoverage) : Json :=
  .obj [("language", .str c.language), ("result", c.coverage.toJson)]

/-- The coverage of a unit in JSON. -/
def Resolution.toJson (r : Resolution) : Json :=
  .obj [("perLanguage", ofList LanguageCoverage.toJson r.perLanguage),
    ("extras", ofList Sidecar.toJson r.extras), ("duplicates", ofList Sidecar.toJson r.duplicates)]

/-- The numbers of pairs in JSON. -/
def Summary.toJson (s : Summary) : Json :=
  .obj [("missing", ofInt s.missing), ("upgradeable", ofInt s.upgradeable),
    ("optimal", ofInt s.optimal), ("unitsWithoutFile", ofInt s.unitsWithoutFile)]

/-- A pair without subtitles in JSON. -/
def MissingPair.toJson (m : MissingPair) : Json :=
  .obj [("unitId", m.unitId.toJson), ("language", .str m.language)]

end SubtitleCoverage
