import SubtitleCoverage.OrderedMap
import SubtitleCoverage.Text.Blank
import SubtitleCoverage.Text.Decimal

/-!
# Numbers of records

The backend numbers its media units and its language profiles. The two kinds of numbers are kept
apart; both are written in decimal, and read from decimal with blanks around it.

## Main definitions

* `MediaUnitId`, `ProfileId` — the numbers, with `text` and `ofText`.
-/

namespace SubtitleCoverage

open Text

/-- The number of a media unit. -/
structure MediaUnitId where
  value : Int64
deriving DecidableEq, Repr, Inhabited

/-- The number of a language profile. -/
structure ProfileId where
  value : Int64
deriving DecidableEq, Repr, Inhabited

/-- Media units are ordered by their numbers. -/
instance : KeyOrder MediaUnitId :=
  .ofInt (fun i => i.value.toInt) fun ⟨_⟩ ⟨_⟩ h => congrArg _ (Int64.toInt_inj.1 h)

/-- Profiles are ordered by their numbers. -/
instance : KeyOrder ProfileId :=
  .ofInt (fun i => i.value.toInt) fun ⟨_⟩ ⟨_⟩ h => congrArg _ (Int64.toInt_inj.1 h)

/-- The number in decimal. -/
def MediaUnitId.text (i : MediaUnitId) : String := decimal i.value.toInt

/-- The number in decimal. -/
def ProfileId.text (i : ProfileId) : String := decimal i.value.toInt

/-- The number that a text names. -/
def MediaUnitId.ofText (s : String) : Except NumberFault MediaUnitId := (readInt64 (trim s)).map .mk

/-- The number that a text names. -/
def ProfileId.ofText (s : String) : Except NumberFault ProfileId := (readInt64 (trim s)).map .mk

end SubtitleCoverage
