import SubtitleCoverage.Identifier

/-!
# Faults

Everything that can go wrong is a `Fault`. None is fatal: a view that runs into one goes on showing
what it has, and says whether trying again later can help.

## Main definitions

* `Refusal` — why a request of the user was refused.
* `Fault` — what went wrong.
* `Fault.message`, `Fault.kindName` — the wording, and the name of the kind.
* `Fault.isRetryable` — whether trying again later can help.
-/

namespace SubtitleCoverage

open Text

/-- Why a request of the user was refused. -/
inductive Refusal where
  | noSourceLanguage
  | noTargetLanguage
  | blankTarget
  /-- A target language that is there already, as it was written. -/
  | repeatedTarget (code : String)
  | blankTranslator
  | primaryRemoved (translator : String)
  | primaryMoved
  | chainIndex (length : Nat)
  | profileExists (id : ProfileId)
  | defaultDeleted
  | unknownSortKey (key : String)
  | profileNotLoaded
  /-- The configuration file cannot be read; the reader says why. -/
  | badConfig (reason : String)
  /-- Refused elsewhere, with a wording of its own. -/
  | stated (message : String)
deriving DecidableEq, Repr

/-- The wording of a refusal. -/
def Refusal.message : Refusal → String
  | .noSourceLanguage => "source language must be set"
  | .noTargetLanguage => "at least one target language is required"
  | .blankTarget => "target language code is empty"
  | .repeatedTarget code => "target language '" ++ code ++ "' is listed more than once"
  | .blankTranslator => "backend identifier is empty"
  | .primaryRemoved translator =>
    "'" ++ translator ++ "' is the primary backend and cannot be removed from the chain"
  | .primaryMoved => "the primary backend must stay first in the chain"
  | .chainIndex length => "fallback index out of range (len " ++ decimal length ++ ")"
  | .profileExists id => "profile " ++ id.text ++ " already exists"
  | .defaultDeleted => "the default profile cannot be deleted"
  | .unknownSortKey key => "unknown sort key '" ++ key ++ "'"
  | .profileNotLoaded => "language profile not loaded; refresh first"
  | .badConfig reason => "config parse error: " ++ reason
  | .stated message => message

/-- What went wrong. -/
inductive Fault where
  /-- The backend has no such record. -/
  | notFound (entity id : String)
  | validation (reason : Refusal)
  /-- A read request could not be carried out. -/
  | query (what message : String)
  /-- A write request could not be carried out. -/
  | mutation (action message : String)
  /-- The stream of progress events failed. -/
  | channel (message : String)
  /-- The backend answered with an error status. -/
  | http (status : UInt16) (message : String)
  | io (message : String)
  | internal (message : String)
deriving DecidableEq, Repr

namespace Fault

/-- The wording of a fault. -/
def message : Fault → String
  | .notFound entity id => entity ++ " not found: " ++ id
  | .validation reason => "Validation error: " ++ reason.message
  | .query what message => "Query error [" ++ what ++ "]: " ++ message
  | .mutation action message => "Mutation error [" ++ action ++ "]: " ++ message
  | .channel message => "Channel error: " ++ message
  | .http status message => "HTTP " ++ decimal status.toNat ++ ": " ++ message
  | .io message => "IO error: " ++ message
  | .internal message => "Internal error: " ++ message

/-- The name of a kind of fault. -/
def kindName : Fault → String
  | .notFound .. => "NotFound"
  | .validation _ => "Validation"
  | .query .. => "Query"
  | .mutation .. => "Mutation"
  | .channel _ => "Channel"
  | .http .. => "Http"
  | .io _ => "Io"
  | .internal _ => "Internal"

/-- Whether trying again later can help: after failed read requests, and after answers that put
the blame on the server or on haste. -/
def isRetryable : Fault → Bool
  | .query .. | .channel _ | .io _ => true
  | .http status _ => 500 ≤ status || status == 429
  | .notFound .. | .validation _ | .mutation .. | .internal _ => false

end Fault

end SubtitleCoverage
