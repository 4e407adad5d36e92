import SubtitleCoverage.Profile.Registry

/-!
# The default profile

Exactly one profile of a registry is the default as soon as there is a profile.  No request can ask
for that directly: the first profile becomes the default whatever it says of itself, a profile that
is marked as the default takes the mark from all others, and the default keeps its mark when it is
replaced and cannot be deleted.  So the default moves with the profiles that are marked and with
nothing else.

## Main definitions

* `LanguageProfile.Sound p` — what a profile needs to be stored.
* `Request`, `outcome`, `after`, `run` — requests to change a registry, and what they lead to.
* `ProfileRegistry.HasDefault r id` — the profile with a number is the only default.
* `ProfileRegistry.WellKept r` — every profile is sound and in its place, and one is the default.

## Main results

* `validate_eq_ok_iff` — the check of a profile lets through the sound ones.
* `outcome_cases` — a request is refused before anything is changed, or it is granted.
* `isDefault_put` — who is the default after a profile was entered.
* `WellKept.after` — every request leaves a well-kept registry well kept.
* `one_default_of_run` — **whatever was requested, the registry is well kept**, and so it stays; a
  request that is refused changes nothing, and one that is granted no more than it has to.
-/

namespace SubtitleCoverage

open Text

/-! ### Sound profiles -/

namespace LanguageProfile

/-- What a profile needs to be stored. -/
structure Sound (p : LanguageProfile) : Prop where
  source : isBlankText p.sourceLanguage = false
  targets_ne_nil : p.targetLanguages ≠ []
  target : ∀ t ∈ p.targetLanguages, isBlankText t = false
  /-- No two target languages are folded onto one code. -/
  nodup : p.normalizedTargets.Nodup

theorem refuseTargets_eq_ok_iff : ∀ seen ts : List String, refuseTargets seen ts = .ok () ↔
    (∀ t ∈ ts, isBlankText t = false) ∧ (∀ t ∈ ts, targetCode t ∉ seen) ∧
      (ts.map targetCode).Nodup := by
  intro seen ts
  induction ts generalizing seen with
  | nil => simp [refuseTargets]
  | cons t ts ih =>
    rw [refuseTargets]
    cases hblank : isBlankText t with
    | true => simp [hblank]
    | false =>
      by_cases hseen : targetCode t ∈ seen
      · simp [hseen]
      · rw [if_neg Bool.false_ne_true, if_neg hseen, ih, List.forall_mem_cons, List.forall_mem_cons,
          List.map_cons, List.nodup_cons]
        simp only [List.mem_cons, not_or, List.mem_map, not_exists, not_and]
        constructor
        · rintro ⟨hblanks, hnew, hnodup⟩
          exact ⟨⟨hblank, hblanks⟩, ⟨hseen, fun s hs => (hnew s hs).2⟩,
            fun s hs => (hnew s hs).1, hnodup⟩
        · rintro ⟨⟨-, hblanks⟩, ⟨-, hnew⟩, hfirst, hnodup⟩
          exact ⟨hblanks, fun s hs => ⟨fun heq => hfirst s hs heq, hnew s hs⟩, hnodup⟩

/-- The check of a profile lets through the sound ones. -/
theorem validate_eq_ok_iff (p : LanguageProfile) : p.validate = .ok () ↔ p.Sound := by
  unfold validate
  cases hsource : isBlankText p.sourceLanguage with
  | true =>
    simp only [if_true, reduceCtorEq, false_iff]
    intro h
    rw [h.source] at hsource
    cases hsource
  | false =>
    by_cases hnil : p.targetLanguages = []
    · simp only [Bool.false_eq_true, if_false, if_pos hnil, reduceCtorEq, false_iff]
      intro h
      exact h.targets_ne_nil hnil
    · rw [if_neg Bool.false_ne_true, if_neg hnil, refuseTargets_eq_ok_iff]
      constructor
      · rintro ⟨hblanks, -, hnodup⟩
        exact ⟨hsource, hnil, hblanks, hnodup⟩
      · intro h
        exact ⟨h.target, fun t _ => List.not_mem_nil, h.nodup⟩

/-- A profile that is not the default. -/
def demoted (p : LanguageProfile) : LanguageProfile := { p with isDefault := false }

/-- The mark of the default does not matter to the check. -/
theorem Sound.withDefault {p : LanguageProfile} (h : p.Sound) (b : Bool) :
    Sound { p with isDefault := b } :=
  ⟨h.source, h.targets_ne_nil, h.target, h.nodup⟩

end LanguageProfile

namespace ProfileRegistry

/-! ### Requests -/

/-- A request to change a registry. -/
inductive Request where
  | create (p : LanguageProfile)
  | update (p : LanguageProfile)
  | delete (id : ProfileId)

/-- The profile that a request wants to be stored. -/
def Request.profile? : Request → Option LanguageProfile
  | .create p | .update p => some p
  | .delete _ => none

/-- What a request comes to. -/
def outcome (r : ProfileRegistry) : Request → Changed
  | .create p => r.create p
  | .update p => r.update p
  | .delete id => r.delete id

/-- The registry after a request. -/
def after (r : ProfileRegistry) (request : Request) : ProfileRegistry :=
  (r.outcome request).registry

/-- The registry after some requests. -/
def run (r : ProfileRegistry) (requests : List Request) : ProfileRegistry := requests.foldl after r

/-! ### Entering a profile -/

/-- Enters a profile under its number; the others lose the mark of the default if asked to. -/
def put (r : ProfileRegistry) (q : LanguageProfile) (demotes : Bool) : ProfileRegistry :=
  ⟨(if demotes then withoutDefault r.profiles else r.profiles).insert q.id q⟩

theorem get?_put_self (r : ProfileRegistry) (q : LanguageProfile) (demotes : Bool) :
    (r.put q demotes).get? q.id = some q := by
  rw [get?, put, OrderedMap.get?_insert, if_pos rfl]

theorem get?_put_of_ne (r : ProfileRegistry) (q : LanguageProfile) (demotes : Bool)
    {id : ProfileId} (h : id ≠ q.id) :
    (r.put q demotes).get? id = if demotes then (r.get? id).map (·.demoted) else r.get? id := by
  rw [get?, put, OrderedMap.get?_insert, if_neg (Ne.symm h)]
  cases demotes with
  | false => rfl
  | true =>
    rw [if_pos rfl, if_pos rfl, withoutDefault, OrderedMap.get?_map]
    rfl

/-- The other profiles lose no more than the mark of the default. -/
theorem get?_put_eq_or (r : ProfileRegistry) (q : LanguageProfile) (demotes : Bool)
    {id : ProfileId} (h : id ≠ q.id) :
    (r.put q demotes).get? id = r.get? id ∨
      (r.put q demotes).get? id = (r.get? id).map (·.demoted) := by
  rw [get?_put_of_ne r q demotes h]
  cases demotes with
  | false => exact .inl rfl
  | true => exact .inr rfl

/-! ### What a request can come to -/

/-- A profile is refused and nothing changed, or it is a sound one with a new number, and entered.  The
first profile becomes the default. -/
theorem create_cases (r : ProfileRegistry) (p : LanguageProfile) :
    (∃ f, r.create p = ⟨r, .error f⟩) ∨
      p.Sound ∧ r.get? p.id = none ∧ ∃ q,
        q = { p with isDefault := r.profiles.isEmpty || p.isDefault } ∧
        r.create p = ⟨r.put q p.isDefault, .ok q⟩ := by
  unfold create
  cases hvalid : p.validate with
  | error reason => exact .inl ⟨_, rfl⟩
  | ok u =>
    cases hfound : r.profiles.contains p.id with
    | true => exact .inl ⟨_, rfl⟩
    | false =>
      rw [OrderedMap.contains_eq_isSome, Option.isSome_eq_false_iff, Option.isNone_iff_eq_none]
        at hfound
      exact .inr ⟨(p.validate_eq_ok_iff).1 hvalid, hfound, _, rfl, rfl⟩

/-- A profile is refused and nothing changed, or it is a sound one with the number of another, and takes
its place.  The default keeps its mark. -/
theorem update_cases (r : ProfileRegistry) (p : LanguageProfile) :
    (∃ f, r.update p = ⟨r, .error f⟩) ∨
      p.Sound ∧ ∃ previous, r.get? p.id = some previous ∧ ∃ q,
        q = { p with isDefault := previous.isDefault || p.isDefault } ∧
        r.update p = ⟨r.put q (p.isDefault && !previous.isDefault), .ok q⟩ := by
  unfold update
  cases hvalid : p.validate with
  | error reason => exact .inl ⟨_, rfl⟩
  | ok u =>
    cases hfound : r.profiles.get? p.id with
    | none => exact .inl ⟨_, rfl⟩
    | some previous =>
      refine .inr ⟨(p.validate_eq_ok_iff).1 hvalid, previous, hfound, _, rfl, ?_⟩
      -- the profile that was stored is found
      simp only [OrderedMap.get?_insert, if_true]
      rfl

/-- A number is refused and nothing changed, or it is that of a profile without the mark, which is
taken out. -/
theorem delete_cases (r : ProfileRegistry) (id : ProfileId) :
    (∃ f, r.delete id = ⟨r, .error f⟩) ∨
      ∃ q, r.get? id = some q ∧ q.isDefault = false ∧
        r.delete id = ⟨⟨r.profiles.erase id⟩, .ok q⟩ := by
  unfold delete
  cases hfound : r.profiles.get? id with
  | none => exact .inl ⟨_, rfl⟩
  | some q =>
    cases hmark : q.isDefault with
    | true =>
      simp only [hmark, if_true]
      exact .inl ⟨_, rfl⟩
    | false =>
      simp only [hmark, Bool.false_eq_true, if_false]
      exact .inr ⟨q, hfound, hmark, rfl⟩

/-- **A request is refused before anything is changed**, or it is granted. -/
theorem outcome_cases (r : ProfileRegistry) (request : Request) :
    (∃ f, r.outcome request = ⟨r, .error f⟩) ∨
      ∃ q, r.outcome request = ⟨r.after request, .ok q⟩ := by
  cases request with
  | create p =>
    rcases r.create_cases p with hrefused | ⟨-, -, q, -, hput⟩
    · exact .inl hrefused
    · exact .inr ⟨q, by rw [after, outcome, hput]⟩
  | update p =>
    rcases r.update_cases p with hrefused | ⟨-, previous, -, q, -, hput⟩
    · exact .inl hrefused
    · exact .inr ⟨q, by rw [after, outcome, hput]⟩
  | delete id =>
    rcases r.delete_cases id with hrefused | ⟨q, -, -, herased⟩
    · exact .inl hrefused
    · exact .inr ⟨q, by rw [after, outcome, herased]⟩

/-- A refused request changes nothing. -/
theorem after_of_error {r : ProfileRegistry} {request : Request} {f : Fault}
    (h : (r.outcome request).answer = .error f) : r.after request = r := by
  rcases r.outcome_cases request with ⟨g, hrefused⟩ | ⟨q, hgranted⟩
  · rw [after, hrefused]
  · rw [hgranted] at h
    cases h

/-- A granted request gives the registry after it. -/
theorem outcome_of_ok {r : ProfileRegistry} {request : Request} {q : LanguageProfile}
    (h : (r.outcome request).answer = .ok q) : r.outcome request = ⟨r.after request, .ok q⟩ := by
  rw [← h]
  rfl

theorem create_eq_ok {r r' : ProfileRegistry} {p q : LanguageProfile}
    (h : r.create p = ⟨r', .ok q⟩) :
    p.Sound ∧ r.get? p.id = none ∧
      q = { p with isDefault := r.profiles.isEmpty || p.isDefault } ∧ r' = r.put q p.isDefault := by
  rcases r.create_cases p with ⟨f, hrefused⟩ | ⟨hp, hnew, q', hq, hput⟩
  · cases hrefused.symm.trans h
  · cases hput.symm.trans h
    exact ⟨hp, hnew, hq, rfl⟩

theorem update_eq_ok {r r' : ProfileRegistry} {p q : LanguageProfile}
    (h : r.update p = ⟨r', .ok q⟩) :
    p.Sound ∧ ∃ previous, r.get? p.id = some previous ∧
      q = { p with isDefault := previous.isDefault || p.isDefault } ∧
      r' = r.put q (p.isDefault && !previous.isDefault) := by
  rcases r.update_cases p with ⟨f, hrefused⟩ | ⟨hp, previous, hprevious, q', hq, hput⟩
  · cases hrefused.symm.trans h
  · cases hput.symm.trans h
    exact ⟨hp, previous, hprevious, hq, rfl⟩

theorem delete_eq_ok {r r' : ProfileRegistry} {id : ProfileId} {q : LanguageProfile}
    (h : r.delete id = ⟨r', .ok q⟩) :
    r.get? id = some q ∧ q.isDefault = false ∧ r' = ⟨r.profiles.erase id⟩ := by
  rcases r.delete_cases id with ⟨f, hrefused⟩ | ⟨q', hq, hmark, herased⟩
  · cases hrefused.symm.trans h
  · cases herased.symm.trans h
    exact ⟨hq, hmark, rfl⟩

/-! ### The default -/

/-- The profile with a number is there and marked as the default. -/
def IsDefault (r : ProfileRegistry) (id : ProfileId) : Prop :=
  ∃ p, r.get? id = some p ∧ p.isDefault = true

/-- The profile with a number is the only one that is marked as the default. -/
def HasDefault (r : ProfileRegistry) (id : ProfileId) : Prop := ∀ i, r.IsDefault i ↔ i = id

theorem eq_empty_iff (r : ProfileRegistry) : r = empty ↔ ∀ id, r.get? id = none := by
  constructor
  · rintro rfl id
    rfl
  · intro h
    obtain ⟨profiles⟩ := r
    have hnil := List.isEmpty_iff.1 ((OrderedMap.isEmpty_iff profiles).2 h)
    exact congrArg mk (OrderedMap.ext hnil)

theorem isEmpty_profiles (r : ProfileRegistry) (h : r ≠ empty) : r.profiles.isEmpty = false := by
  rw [Bool.eq_false_iff]
  intro hempty
  exact h ((eq_empty_iff r).2 ((OrderedMap.isEmpty_iff r.profiles).1 hempty))

theorem ne_empty_of_get? {r : ProfileRegistry} {id : ProfileId} {p : LanguageProfile}
    (h : r.get? id = some p) : r ≠ empty := by
  rintro rfl
  cases h

/-- There is a profile where there is a default. -/
theorem HasDefault.ne_empty {r : ProfileRegistry} {id : ProfileId} (h : r.HasDefault id) :
    r ≠ empty := by
  obtain ⟨p, hp, -⟩ := (h id).2 rfl
  exact ne_empty_of_get? hp

/-- The only default is the one that looking for a default finds. -/
theorem HasDefault.default?_eq {r : ProfileRegistry} {id : ProfileId} (h : r.HasDefault id) :
    r.default? = r.get? id := by
  obtain ⟨p, hp, hmark⟩ := (h id).2 rfl
  rw [hp, default?]
  cases hfind : r.toList.find? (·.isDefault) with
  | none =>
    have hp' : p ∈ r.toList := (r.profiles.mem_values_iff).2 ⟨id, hp⟩
    exact absurd hmark (List.find?_eq_none.1 hfind p hp')
  | some q =>
    obtain ⟨i, hi⟩ := (r.profiles.mem_values_iff).1 (List.mem_of_find?_eq_some hfind)
    have hid : i = id := (h i).1 ⟨q, hi, List.find?_some hfind⟩
    subst hid
    have hsome : some q = some p := hi.symm.trans hp
    exact hsome

/-- Who is the default after a profile was entered: that profile if it is marked, and another one
if it was before and has not lost its mark. -/
theorem isDefault_put (r : ProfileRegistry) (q : LanguageProfile) (demotes : Bool)
    (id : ProfileId) :
    (r.put q demotes).IsDefault id ↔
      (id = q.id ∧ q.isDefault = true) ∨ (id ≠ q.id ∧ demotes = false ∧ r.IsDefault id) := by
  unfold IsDefault
  by_cases hid : id = q.id
  · subst hid
    rw [get?_put_self]
    simp
  · rw [get?_put_of_ne r q demotes hid]
    cases demotes with
    | false => simp [hid]
    | true => simp [hid, LanguageProfile.demoted]

/-- A marked profile is the default after it was entered if no other one keeps the mark. -/
theorem hasDefault_put_self {r : ProfileRegistry} {q : LanguageProfile} {demotes : Bool}
    (hmark : q.isDefault = true)
    (hothers : demotes = true ∨ ∀ i, r.IsDefault i → i = q.id) :
    (r.put q demotes).HasDefault q.id := by
  intro i
  rw [isDefault_put]
  constructor
  · rintro (⟨hi, -⟩ | ⟨hne, hkeep, hi⟩)
    · exact hi
    · rcases hothers with hall | hnone
      · rw [hkeep] at hall
        cases hall
      · exact hnone i hi
  · intro hi
    exact .inl ⟨hi, hmark⟩

/-- Another profile than the default can be entered without a mark. -/
theorem hasDefault_put_of_ne {r : ProfileRegistry} {q : LanguageProfile} {d : ProfileId}
    (h : r.HasDefault d) (hne : d ≠ q.id) (hmark : q.isDefault = false) :
    (r.put q false).HasDefault d := by
  intro i
  rw [isDefault_put, h i]
  constructor
  · rintro (⟨-, hi⟩ | ⟨-, -, hi⟩)
    · rw [hmark] at hi
      cases hi
    · exact hi
  · rintro rfl
    exact .inr ⟨hne, rfl, rfl⟩

/-! ### Well-kept registries -/

/-- Every profile is sound and in its place, and exactly one is the default if there are any. -/
structure WellKept (r : ProfileRegistry) : Prop where
  id_eq : ∀ id p, r.get? id = some p → p.id = id
  sound : ∀ id p, r.get? id = some p → p.Sound
  oneDefault : r = empty ∨ ∃ d, r.HasDefault d

theorem wellKept_empty : WellKept empty where
  id_eq _ _ h := by cases h
  sound _ _ h := by cases h
  oneDefault := .inl rfl

theorem WellKept.exists_hasDefault {r : ProfileRegistry} (hr : r.WellKept) (h : r ≠ empty) :
    ∃ d, r.HasDefault d := by
  rcases hr.oneDefault with hempty | hd
  · exact absurd hempty h
  · exact hd

/-- Entering a sound profile keeps a registry well kept if it keeps one default. -/
theorem WellKept.put {r : ProfileRegistry} (hr : r.WellKept) {q : LanguageProfile} (hq : q.Sound)
    {demotes : Bool} {d : ProfileId} (hd : (r.put q demotes).HasDefault d) :
    (r.put q demotes).WellKept := by
  have hentry : ∀ id p, (r.put q demotes).get? id = some p → p.id = id ∧ p.Sound := by
    intro id p hp
    by_cases hid : id = q.id
    · subst hid
      rw [get?_put_self] at hp
      cases hp
      exact ⟨rfl, hq⟩
    · rw [get?_put_of_ne r q demotes hid] at hp
      cases demotes with
      | false => exact ⟨hr.id_eq id p hp, hr.sound id p hp⟩
      | true =>
        obtain ⟨o, ho, rfl⟩ := Option.map_eq_some_iff.1 hp
        exact ⟨hr.id_eq id o ho, (hr.sound id o ho).withDefault false⟩
  exact ⟨fun id p hp => (hentry id p hp).1, fun id p hp => (hentry id p hp).2, .inr ⟨d, hd⟩⟩

/-- Taking out a profile keeps a registry well kept if it keeps one default. -/
theorem WellKept.erase {r : ProfileRegistry} (hr : r.WellKept) {id d : ProfileId}
    (hd : HasDefault ⟨r.profiles.erase id⟩ d) : WellKept ⟨r.profiles.erase id⟩ := by
  have hentry : ∀ i p, get? ⟨r.profiles.erase id⟩ i = some p → r.get? i = some p := by
    intro i p hp
    rw [get?, OrderedMap.get?_erase] at hp
    split at hp
    · cases hp
    · exact hp
  exact ⟨fun i p hp => hr.id_eq i p (hentry i p hp), fun i p hp => hr.sound i p (hentry i p hp),
    .inr ⟨d, hd⟩⟩

/-- **The default after a profile was created**: the new one if it is marked or the first one, else
the one before. -/
theorem hasDefault_create {r r' : ProfileRegistry} {p q : LanguageProfile}
    (h : r.create p = ⟨r', .ok q⟩) :
    (r = empty → r'.HasDefault p.id) ∧
      ∀ d, r.HasDefault d → r'.HasDefault (if p.isDefault then p.id else d) := by
  obtain ⟨-, hnew, rfl, rfl⟩ := create_eq_ok h
  constructor
  · rintro rfl
    refine hasDefault_put_self (q := { p with isDefault := _ }) rfl (.inr ?_)
    rintro i ⟨o, ho, -⟩
    cases ho
  · intro d hd
    cases hmark : p.isDefault with
    | true => exact hasDefault_put_self (q := { p with isDefault := _ }) (by simp) (.inl rfl)
    | false =>
      refine hasDefault_put_of_ne hd ?_ ?_
      · rintro rfl
        obtain ⟨o, ho, -⟩ := (hd p.id).2 rfl
        rw [hnew] at ho
        cases ho
      · simp [isEmpty_profiles r hd.ne_empty]

/-- **The default after a profile was replaced**: that one if it is marked, else the one before. -/
theorem hasDefault_update {r r' : ProfileRegistry} {p q : LanguageProfile}
    (h : r.update p = ⟨r', .ok q⟩) {d : ProfileId} (hd : r.HasDefault d) :
    r'.HasDefault (if p.isDefault then p.id else d) := by
  obtain ⟨-, previous, hprevious, rfl, rfl⟩ := update_eq_ok h
  have hwas : previous.isDefault = true ↔ p.id = d := by
    rw [← hd p.id]
    constructor
    · intro hmark
      exact ⟨previous, hprevious, hmark⟩
    · rintro ⟨o, ho, hmark⟩
      rw [hprevious] at ho
      cases ho
      exact hmark
  cases hold : previous.isDefault with
  | true =>
    -- the default is replaced, so no other profile has the mark
    obtain rfl := hwas.1 hold
    rw [ite_self]
    exact hasDefault_put_self (q := { p with isDefault := _ }) rfl (.inr fun i => (hd i).1)
  | false =>
    have hne : d ≠ p.id := by
      rintro rfl
      rw [hwas.2 rfl] at hold
      cases hold
    cases hmark : p.isDefault with
    | true => exact hasDefault_put_self (q := { p with isDefault := _ }) rfl (.inl rfl)
    | false => exact hasDefault_put_of_ne hd hne rfl

/-- **The default stays the default** when a profile is deleted. -/
theorem hasDefault_delete {r r' : ProfileRegistry} {id : ProfileId} {q : LanguageProfile}
    (h : r.delete id = ⟨r', .ok q⟩) {d : ProfileId} (hd : r.HasDefault d) : r'.HasDefault d := by
  obtain ⟨hq, hmark, rfl⟩ := delete_eq_ok h
  intro i
  rw [← hd i]
  unfold IsDefault
  by_cases hid : id = i
  · subst hid
    rw [get?, OrderedMap.get?_erase, if_pos rfl, hq]
    simp [hmark]
  · rw [get?, OrderedMap.get?_erase, if_neg hid]
    rfl

/-! ### One request -/

/-- **Who is the default after a request was granted**: the profile that it stores if that is
marked, else the one before. -/
theorem hasDefault_of_ok {r r' : ProfileRegistry} {request : Request} {q : LanguageProfile}
    (h : r.outcome request = ⟨r', .ok q⟩) {d : ProfileId} (hd : r.HasDefault d) :
    r'.HasDefault d ∨
      ∃ p, request.profile? = some p ∧ p.isDefault = true ∧ r'.HasDefault p.id := by
  have hstore : ∀ p, request.profile? = some p →
      r'.HasDefault (if p.isDefault then p.id else d) → r'.HasDefault d ∨
        ∃ p, request.profile? = some p ∧ p.isDefault = true ∧ r'.HasDefault p.id := by
    intro p hp hd'
    cases hmark : p.isDefault with
    | true =>
      rw [hmark, if_pos rfl] at hd'
      exact .inr ⟨p, hp, hmark, hd'⟩
    | false =>
      rw [hmark, if_neg Bool.false_ne_true] at hd'
      exact .inl hd'
  cases request with
  | create p => exact hstore p rfl ((hasDefault_create h).2 d hd)
  | update p => exact hstore p rfl (hasDefault_update h hd)
  | delete id => exact .inl (hasDefault_delete h hd)

/-- **Every request leaves a well-kept registry well kept.** -/
theorem WellKept.after {r : ProfileRegistry} (hr : r.WellKept) (request : Request) :
    (r.after request).WellKept := by
  rcases r.outcome_cases request with ⟨f, hrefused⟩ | ⟨q, houtcome⟩
  · rw [ProfileRegistry.after, hrefused]
    exact hr
  · generalize r.after request = r' at houtcome ⊢
    cases request with
    | create p =>
      have hdefault : ∃ d, r'.HasDefault d := by
        rcases hr.oneDefault with hempty | ⟨d, hd⟩
        · exact ⟨_, (hasDefault_create houtcome).1 hempty⟩
        · exact ⟨_, (hasDefault_create houtcome).2 d hd⟩
      obtain ⟨d, hd⟩ := hdefault
      obtain ⟨hp, -, rfl, rfl⟩ := create_eq_ok houtcome
      exact hr.put (hp.withDefault _) hd
    | update p =>
      obtain ⟨hp, previous, hprevious, rfl, rfl⟩ := update_eq_ok houtcome
      obtain ⟨d, hd⟩ := hr.exists_hasDefault (ne_empty_of_get? hprevious)
      exact hr.put (hp.withDefault _) (hasDefault_update houtcome hd)
    | delete id =>
      obtain ⟨hq, -, rfl⟩ := delete_eq_ok houtcome
      obtain ⟨d, hd⟩ := hr.exists_hasDefault (ne_empty_of_get? hq)
      exact hr.erase (hasDefault_delete houtcome hd)

/-- No request empties a well-kept registry. -/
theorem WellKept.after_ne_empty {r : ProfileRegistry} (hr : r.WellKept) (h : r ≠ empty)
    (request : Request) : r.after request ≠ empty := by
  rcases r.outcome_cases request with ⟨f, hrefused⟩ | ⟨q, houtcome⟩
  · rw [ProfileRegistry.after, hrefused]
    exact h
  · obtain ⟨d, hd⟩ := hr.exists_hasDefault h
    rcases hasDefault_of_ok houtcome hd with hd' | ⟨p, -, -, hd'⟩
    · exact hd'.ne_empty
    · exact hd'.ne_empty

/-- A request to store a profile stores it, but for the mark, and changes no other profile, but for
the mark. -/
theorem get?_of_ok {r r' : ProfileRegistry} {request : Request} {p q : LanguageProfile}
    (hp : request.profile? = some p) (h : r.outcome request = ⟨r', .ok q⟩) :
    q = { p with isDefault := q.isDefault } ∧ r'.get? p.id = some q ∧
      ∀ id, id ≠ p.id → r'.get? id = r.get? id ∨ r'.get? id = (r.get? id).map (·.demoted) := by
  cases request with
  | create p' =>
    cases hp
    obtain ⟨-, -, rfl, rfl⟩ := create_eq_ok h
    exact ⟨rfl, get?_put_self r _ _, fun id hid => get?_put_eq_or r _ _ (by exact hid)⟩
  | update p' =>
    cases hp
    obtain ⟨-, previous, -, rfl, rfl⟩ := update_eq_ok h
    exact ⟨rfl, get?_put_self r _ _, fun id hid => get?_put_eq_or r _ _ (by exact hid)⟩
  | delete id => cases hp

/-! ### All requests -/

theorem WellKept.run {r : ProfileRegistry} (hr : r.WellKept) (requests : List Request) :
    (r.run requests).WellKept := by
  induction requests generalizing r with
  | nil => exact hr
  | cons request requests ih => exact ih (hr.after request)

theorem WellKept.run_ne_empty {r : ProfileRegistry} (hr : r.WellKept) (h : r ≠ empty)
    (requests : List Request) : r.run requests ≠ empty := by
  induction requests generalizing r with
  | nil => exact h
  | cons request requests ih => exact ih (hr.after request) (hr.after_ne_empty h request)

/-- **Whatever was requested, the registry is well kept**, with one default that can be found, and
once there are profiles there will be some.  A request that is refused changes nothing; one that is
granted stores its profile and takes no more than a mark from others, and the default moves only to
a profile that was marked and stored. -/
theorem one_default_of_run (requests : List Request) :
    let r := empty.run requests
    r.WellKept ∧
    (∀ d, r.HasDefault d → r.default? = r.get? d) ∧
    (r ≠ empty → ∀ later, r.run later ≠ empty) ∧
    ∀ request,
      (∀ f, (r.outcome request).answer = .error f → r.after request = r) ∧
      (∀ p q, request.profile? = some p → (r.outcome request).answer = .ok q →
        q = { p with isDefault := q.isDefault } ∧ (r.after request).get? p.id = some q ∧
        ∀ id, id ≠ p.id → (r.after request).get? id = r.get? id ∨
          (r.after request).get? id = (r.get? id).map (·.demoted)) ∧
      ∀ d, r.HasDefault d → (r.after request).HasDefault d ∨
        ∃ p q, request.profile? = some p ∧ p.isDefault = true ∧
          (r.outcome request).answer = .ok q ∧ (r.after request).HasDefault p.id := by
  intro r
  have hr : r.WellKept := wellKept_empty.run requests
  refine ⟨hr, fun d hd => hd.default?_eq, fun hne later => hr.run_ne_empty hne later, ?_⟩
  intro request
  refine ⟨fun f hf => after_of_error hf, fun p q hp h => get?_of_ok hp (outcome_of_ok h), ?_⟩
  intro d hd
  rcases r.outcome_cases request with ⟨f, hrefused⟩ | ⟨q, houtcome⟩
  · left
    rw [after, hrefused]
    exact hd
  · rcases hasDefault_of_ok houtcome hd with hd' | ⟨p, hp, hmark, hd'⟩
    · exact .inl hd'
    · exact .inr ⟨p, q, hp, hmark, congrArg Changed.answer houtcome, hd'⟩

/-- The default is replaced by itself without its mark, then another profile comes with one. -/
example :
    let p : LanguageProfile := ⟨⟨1⟩, "", "en", ["de"], "", [], .disabled, false⟩
    let r := empty.run [.create p, .update p, .create { p with id := ⟨2⟩, isDefault := true }]
    r.toList.map (fun q => (q.id, q.isDefault)) = [(⟨1⟩, false), (⟨2⟩, true)] := by decide +kernel

end ProfileRegistry

end SubtitleCoverage
