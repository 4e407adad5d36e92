import SubtitleCoverage.Profile.Basic

/-!
# The registry of profiles

The profiles of a library, by number. As soon as there is one, exactly one of them is the default;
it can be replaced by making another one the default, but neither demoted nor deleted.

## Main definitions

* `ProfileRegistry` — the registries.
* `create`, `update`, `delete` — changes. Each gives the registry after it beside the answer.
* `default?` — the default profile.
-/

namespace SubtitleCoverage

/-- The profiles of a library. -/
structure ProfileRegistry where
  profiles : OrderedMap ProfileId LanguageProfile := .empty
deriving DecidableEq

namespace ProfileRegistry

/-- The registry without profiles. -/
def empty : ProfileRegistry := {}

/-- Profiles none of which is the default. -/
def withoutDefault (profiles : OrderedMap ProfileId LanguageProfile) :
    OrderedMap ProfileId LanguageProfile :=
  profiles.map fun p => { p with isDefault := false }

/-- What a change comes to: the registry after it, and the profile that was stored or deleted, or why
the change was refused. -/
structure Changed where
  registry : ProfileRegistry
  answer : Except Fault LanguageProfile

/-- Adds a profile under a new number. The first one becomes the default; a later one that is
marked as the default takes the place of the one before. -/
def create (r : ProfileRegistry) (p : LanguageProfile) : Changed :=
  match p.validate with
  | .error reason => ⟨r, .error (.validation reason)⟩
  | .ok () =>
    if r.profiles.contains p.id then ⟨r, .error (.validation (.profileExists p.id))⟩
    else
      let stored := { p with isDefault := r.profiles.isEmpty || p.isDefault }
      let others := if p.isDefault then withoutDefault r.profiles else r.profiles
      ⟨⟨others.insert p.id stored⟩, .ok stored⟩

/-- Replaces a profile by one of the same number. The default stays the default; another one that
is marked as the default takes its place. -/
def update (r : ProfileRegistry) (p : LanguageProfile) : Changed :=
  match p.validate with
  | .error reason => ⟨r, .error (.validation reason)⟩
  | .ok () =>
    match r.profiles.get? p.id with
    | none => ⟨r, .error (.notFound "profile" p.id.text)⟩
    | some previous =>
      let stored := { p with isDefault := previous.isDefault || p.isDefault }
      let others :=
        if p.isDefault && !previous.isDefault then withoutDefault r.profiles else r.profiles
      let profiles := others.insert p.id stored
      -- What is stored is looked up again; a fault here would come after the change.
      match profiles.get? p.id with
      | some found => ⟨⟨profiles⟩, .ok found⟩
      | none => ⟨⟨profiles⟩, .error (.internal "profile vanished during update")⟩

/-- Deletes a profile that is not the default. -/
def delete (r : ProfileRegistry) (id : ProfileId) : Changed :=
  match r.profiles.get? id with
  | none => ⟨r, .error (.notFound "profile" id.text)⟩
  | some p =>
    if p.isDefault then ⟨r, .error (.validation .defaultDeleted)⟩
    else ⟨⟨r.profiles.erase id⟩, .ok p⟩

/-- The profile with a number. -/
def get? (r : ProfileRegistry) (id : ProfileId) : Option LanguageProfile := r.profiles.get? id

/-- The profiles, by number. -/
def toList (r : ProfileRegistry) : List LanguageProfile := r.profiles.values

/-- The default profile. -/
def default? (r : ProfileRegistry) : Option LanguageProfile := r.toList.find? (·.isDefault)

end ProfileRegistry

end SubtitleCoverage
