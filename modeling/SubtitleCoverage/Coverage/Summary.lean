import SubtitleCoverage.Coverage.Resolution

/-!
# Coverage of the library

The pairs of a media unit and a target language are counted by their state. Units without a video
file are counted apart, since nothing can be done for them.

## Main definitions

* `Summary`, `summarize` — the numbers of pairs by state.
* `countMissing`, `countUpgradeable` — the number of pairs in one state.
* `MissingPair`, `missingPairs` — the pairs without subtitles, which a search works off.
-/

namespace SubtitleCoverage

open Text

/-- The target languages of a profile and how a unit covers them. -/
def pairStates (p : LanguageProfile) (u : MediaUnit) : List (String × CoverageState) :=
  p.targetLanguages.map fun t => (t, classify (u.declaredFormat (trim t)))

/-! ### Numbers -/

/-- The number of pairs in a state, over the units with a file. -/
def countState (state : CoverageState) (us : List MediaUnit) (p : LanguageProfile) : Nat :=
  ((us.filter (·.hasFile)).flatMap (pairStates p)).countP fun e => e.2 = state

/-- The number of pairs without subtitles. -/
def countMissing (us : List MediaUnit) (p : LanguageProfile) : Nat := countState .missing us p

/-- The number of pairs with plain subtitles only. -/
def countUpgradeable (us : List MediaUnit) (p : LanguageProfile) : Nat :=
  countState .upgradeable us p

/-- The numbers of pairs by state. -/
structure Summary where
  missing : Nat := 0
  upgradeable : Nat := 0
  optimal : Nat := 0
  /-- The units that are not counted, since they have no video file. -/
  unitsWithoutFile : Nat := 0
deriving DecidableEq, Repr

namespace Summary

/-- The number of all pairs. -/
def pairs (s : Summary) : Nat := s.missing + s.upgradeable + s.optimal

/-- One more pair in a state. -/
def addState (s : Summary) : CoverageState → Summary
  | .missing => { s with missing := s.missing + 1 }
  | .upgradeable => { s with upgradeable := s.upgradeable + 1 }
  | .optimal => { s with optimal := s.optimal + 1 }

/-- One more unit. -/
def addUnit (p : LanguageProfile) (s : Summary) (u : MediaUnit) : Summary :=
  if u.hasFile then ((pairStates p u).map (·.2)).foldl addState s
  else { s with unitsWithoutFile := s.unitsWithoutFile + 1 }

end Summary

/-- The numbers of pairs of some units. -/
def summarize (us : List MediaUnit) (p : LanguageProfile) : Summary :=
  us.foldl (Summary.addUnit p) {}

/-! ### The pairs without subtitles -/

/-- A unit and a target language, in the spelling of the profile, without subtitles. -/
structure MissingPair where
  unitId : MediaUnitId
  language : String
deriving DecidableEq, Repr

/-- The pairs without subtitles, by unit and then in the order of the profile. -/
def missingPairs (us : List MediaUnit) (p : LanguageProfile) : List MissingPair :=
  (us.filter (·.hasFile)).flatMap fun u =>
    ((pairStates p u).filter fun e => e.2 = .missing).map fun e => ⟨u.id, e.1⟩

end SubtitleCoverage
