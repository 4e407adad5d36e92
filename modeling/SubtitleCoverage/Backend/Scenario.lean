import SubtitleCoverage.Backend.Memory
import SubtitleCoverage.Backend.Wire

/-!
# Scenarios

A scenario describes a backend in memory: its records, the calls that fail, and what it claims that
is not true. Scenarios are written in JSON. A change of a scenario names the parts that are
replaced.

## Main definitions

* `Fault.ofJson?`, `Failure.ofMember?` — what goes wrong.
* `MemoryBackend.change?` — a backend after a change of its scenario.
-/

namespace SubtitleCoverage

open Json

/-- The value of a member that may be missing. -/
def memberOr {α : Type} (j : Json) (name : String) (default : α) (decode : Json → Option α) :
    Option α :=
  match j.member? name with
  | none | some .null => some default
  | some v => decode v

/-- A fault, described by the name of its kind and the parts of its wording. -/
def Fault.ofJson? (j : Json) : Option Fault := do
  let text := fun name => memberOr j name "" asText?
  match ← text "kind" with
  | "NotFound" => return .notFound (← text "entity") (← text "id")
  | "Validation" => return .validation (.stated (← text "message"))
  | "Query" => return .query (← text "what") (← text "message")
  | "Mutation" => return .mutation (← text "what") (← text "message")
  | "Channel" => return .channel (← text "message")
  | "Http" =>
    let status ← memberOr j "status" 0 asUInt64?
    if status.toNat < UInt16.size then return .http status.toUInt16 (← text "message") else none
  | "Io" => return .io (← text "message")
  | "Internal" => return .internal (← text "message")
  | _ => none

/-- The kind of calls with a name. -/
def CallKind.ofName? : String → Option CallKind
  | "units" => some .units
  | "profile" => some .profile
  | "sidecars" => some .sidecars
  | "status" => some .setStatus
  | "blacklist" => some .blacklist
  | "delete" => some .deleteSidecar
  | "batch" => some .batch
  | _ => none

/-- The failure of the calls that a member names. -/
def Failure.ofMember? (m : String × Json) : Option Failure := do
  return ⟨← CallKind.ofName? m.1, ← Fault.ofJson? m.2,
    ← memberOr m.2 "ids" none fun j => (asList? asInt? j).map some⟩

/-- The sidecars of the unit that a member names. -/
def inventoryOfMember? (m : String × Json) : Option (MediaUnitId × List Sidecar) := do
  return (← (MediaUnitId.ofText m.1).toOption, ← asList? Sidecar.ofJson? m.2)

/-- The members of an object, each of which is read by itself. -/
def asMembers? {α : Type} (decode : String × Json → Option α) : Json → Option (List α)
  | .obj ms => ms.mapM decode
  | _ => none

/-- A claim that a member replaces, or takes back by `null`. -/
def claimOr {α : Type} (j : Json) (name : String) (default : Option α)
    (decode : Json → Option α) : Option (Option α) :=
  match j.member? name with
  | none => some default
  | some v => asOption? decode v

/-- The backend after a change of its scenario. -/
def MemoryBackend.change? (b : MemoryBackend) (j : Json) : Option MemoryBackend := do
  return { b with
    units := ← memberOr j "units" b.units (asList? MediaUnit.ofJson?)
    sidecars := ← memberOr j "sidecars" b.sidecars
      fun j => (asMembers? inventoryOfMember? j).map OrderedMap.ofList
    profiles := ← memberOr j "profiles" b.profiles (asList? LanguageProfile.ofJson?)
    failures := ← memberOr j "fail" b.failures (asMembers? Failure.ofMember?)
    pageSize := ← claimOr j "serverPageSize" b.pageSize asUInt32?
    totalPages := ← claimOr j "totalPages" b.totalPages asUInt32?
    accepted := ← claimOr j "accept" b.accepted asUInt64?
    job := ← claimOr j "job" b.job JobId.ofJson? }

end SubtitleCoverage
