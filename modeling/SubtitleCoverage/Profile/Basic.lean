import SubtitleCoverage.Fault
import SubtitleCoverage.Language
import SubtitleCoverage.Text.Blank

/-!
# Language profiles

A profile names the languages in which the library should have subtitles, in order of preference,
and the translators that make them: a primary one and the ones to fall back on. The chain of
translators that is stored may be untidy; the chain that counts is the effective one, with the
primary first, blanks trimmed, and neither empty entries nor repetitions.

## Main definitions

* `LanguageProfile` — the profiles, with `validate` and `targetsLanguage`.
* `LanguageProfile.effectiveChain` — the translators in the order in which they are tried.
* `LanguageProfile.setPrimary`, `addFallback`, `removeFallback`, `moveFallback` — edits of the
  chain. An edit that needs the stored chain in order first stores the effective one.
-/

namespace SubtitleCoverage

open Text

/-- How subtitles of foreign parts are handled. -/
inductive ForcedSubtitles where
  | disabled
  | separate
  | auto
deriving DecidableEq, Repr, Inhabited

/-- The name of a preference. -/
def ForcedSubtitles.name : ForcedSubtitles → String
  | .disabled => "disabled"
  | .separate => "separate"
  | .auto => "auto"

/-- The preference with a name. -/
def ForcedSubtitles.ofName? : String → Option ForcedSubtitles
  | "disabled" => some .disabled
  | "separate" => some .separate
  | "auto" => some .auto
  | _ => none

/-- A language profile. -/
structure LanguageProfile where
  id : ProfileId
  name : String := ""
  sourceLanguage : String
  targetLanguages : List String
  /-- The primary translator; empty for the one that the backend prefers. -/
  primary : String := ""
  /-- The translators tried after the primary, as stored. -/
  fallbacks : List String := []
  forced : ForcedSubtitles := .disabled
  isDefault : Bool := false
deriving DecidableEq, Repr

namespace LanguageProfile

/-! ### Target languages -/

/-- The code of a target language onto which its spelling is folded. -/
def targetCode (target : String) : String := Language.normalize (trim target)

/-- The first reason against target languages, given the codes of those before them. -/
def refuseTargets : List String → List String → Except Refusal Unit
  | _, [] => .ok ()
  | seen, t :: ts =>
    if isBlankText t then .error .blankTarget
    else if targetCode t ∈ seen then .error (.repeatedTarget t)
    else refuseTargets (targetCode t :: seen) ts

/-- Whether a profile can be stored: it has a source language and at least one target language,
and its target languages are not blank and differ from each other. -/
def validate (p : LanguageProfile) : Except Refusal Unit :=
  if isBlankText p.sourceLanguage then .error .noSourceLanguage
  else if p.targetLanguages = [] then .error .noTargetLanguage
  else refuseTargets [] p.targetLanguages

/-- The codes of the target languages, in the order of the profile. -/
def normalizedTargets (p : LanguageProfile) : List String := p.targetLanguages.map targetCode

/-- Whether a spelling names one of the target languages. -/
def targetsLanguage (p : LanguageProfile) (code : String) : Bool :=
  p.normalizedTargets.contains (targetCode code)

/-! ### The chain of translators -/

/-- A chain continued by the entries of another, trimmed; blank and repeated ones are left out. -/
def extendChain : List String → List String → List String
  | chain, [] => chain
  | chain, b :: bs =>
    if trim b = "" ∨ trim b ∈ chain then extendChain chain bs
    else extendChain (chain ++ [trim b]) bs

/-- The translators in the order in which they are tried. -/
def effectiveChain (p : LanguageProfile) : List String :=
  extendChain (if trim p.primary = "" then [] else [trim p.primary]) p.fallbacks

/-- The profile that stores its effective chain. -/
def tidied (p : LanguageProfile) : LanguageProfile := { p with fallbacks := p.effectiveChain }

/-- The profile with another primary translator, at the head of the chain in place of the one
before. An empty name leaves the profile without a primary. -/
def setPrimary (p : LanguageProfile) (translator : String) : LanguageProfile :=
  let t := trim translator
  let rest := p.fallbacks.filter fun b => b ≠ p.primary ∧ b ≠ t
  { p with primary := t, fallbacks := if t = "" then rest else t :: rest }

/-- What an edit of the chain comes to: the profile after it, and why it was refused, if it was. -/
structure Edited where
  profile : LanguageProfile
  refusal : Option Refusal := none

/-- Appends a translator to the chain, unless it is there. -/
def addFallback (p : LanguageProfile) (translator : String) : Edited :=
  let t := trim translator
  if t = "" then ⟨p, some .blankTranslator⟩
  else if t ∈ p.effectiveChain then ⟨p.tidied, none⟩
  else ⟨{ p with fallbacks := p.effectiveChain ++ [t] }, none⟩

/-- Removes a translator from the chain. The primary, as it is stored, cannot be removed. -/
def removeFallback (p : LanguageProfile) (translator : String) : Edited :=
  let t := trim translator
  -- The primary counts as it is stored, blanks around it included.
  if p.primary ≠ "" ∧ t = p.primary then ⟨p, some (.primaryRemoved t)⟩
  else ⟨{ p with fallbacks := p.effectiveChain.filter (· ≠ t) }, none⟩

/-- The list with the entry at `source` taken out and put back at `target`. -/
def moveEntry (xs : List String) (source target : Nat) : List String :=
  match xs[source]? with
  | some x => (xs.eraseIdx source).insertIdx target x
  | none => xs

/-- Moves an entry of the chain. If there is a primary, the first place is its own. The effective
chain is stored even if the move is refused. -/
def moveFallback (p : LanguageProfile) (source target : Nat) : Edited :=
  let chain := p.effectiveChain
  if chain.length ≤ source ∨ chain.length ≤ target then
    ⟨p.tidied, some (.chainIndex chain.length)⟩
  else if p.primary ≠ "" ∧ (source = 0 ∨ target = 0) then ⟨p.tidied, some .primaryMoved⟩
  else ⟨{ p with fallbacks := moveEntry chain source target }, none⟩

end LanguageProfile

end SubtitleCoverage
