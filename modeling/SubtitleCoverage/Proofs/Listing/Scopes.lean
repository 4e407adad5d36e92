import SubtitleCoverage.Listing.Selection

/-!
# Scopes that do not interfere

Everything that is asked of a selection store names one scope, and looks up that scope only.  So what
is seen of a scope is decided by what was asked about it, whatever was asked about others in between.

## Main definitions

* `SelectionRequest`, `SelectionReply` — what is asked of a selection store, and what it replies.
* `SelectionStore.perform`, `performAll`, `history` — what comes of one request, and of several.
* `SelectionStore.LooksAlike name s s'` — nothing that can be seen of a scope tells two stores apart.

## Main results

* `scope_perform_of_ne`, `perform_congr` — a request changes its own scope only, and what comes of it
  depends on that scope only.
* `scopes_isolated` — **a scope is seen as if there were no others**, in the end and in every reply.
-/

namespace SubtitleCoverage

variable {κ : Type} [KeyOrder κ]

/-! ### Requests and replies -/

/-- What is asked of a selection store. -/
inductive SelectionRequest (κ : Type) where
  | toggle (scope : String) (id : κ) (place : Nat) (range : Bool) (visible : List κ)
  | selectAll (scope : String) (ids : List κ)
  | clear (scope : String)
  | isSelected (scope : String) (id : κ)
  | selectedCount (scope : String)
  | anchor (scope : String)
  | selectedVisible (scope : String) (visible : List κ)

/-- What a selection store replies. -/
inductive SelectionReply (κ : Type) where
  | done
  | selected (b : Bool)
  | count (n : Nat)
  | anchor (place : Option Nat)
  | ids (ids : List κ)

namespace SelectionRequest

/-- The scope that a request names. -/
def scope : SelectionRequest κ → String
  | .toggle name .. | .selectAll name _ | .clear name | .isSelected name _ | .selectedCount name
  | .anchor name | .selectedVisible name _ => name

/-- A request only looks at what is selected. -/
def IsQuery : SelectionRequest κ → Prop
  | .toggle .. | .selectAll .. | .clear _ => False
  | .isSelected .. | .selectedCount _ | .anchor _ | .selectedVisible .. => True

end SelectionRequest

namespace SelectionStore

/-- What comes of a request. -/
def perform (s : SelectionStore κ) : SelectionRequest κ → SelectionReply κ × SelectionStore κ
  | .toggle name id place range visible => (.done, s.toggle name id place range visible)
  | .selectAll name ids => (.done, s.selectAll name ids)
  | .clear name => (.done, s.clear name)
  | .isSelected name id => (.selected (s.isSelected name id), s)
  | .selectedCount name => (.count (s.selectedCount name), s)
  | .anchor name => (.anchor (s.anchor name), s)
  | .selectedVisible name visible => (.ids (s.selectedVisible name visible), s)

/-- The store after some requests. -/
def performAll (s : SelectionStore κ) (qs : List (SelectionRequest κ)) : SelectionStore κ :=
  qs.foldl (fun s q => (s.perform q).2) s

/-- Some requests with their replies. -/
def history (s : SelectionStore κ) :
    List (SelectionRequest κ) → List (SelectionRequest κ × SelectionReply κ)
  | [] => []
  | q :: qs => (q, (s.perform q).1) :: history (s.perform q).2 qs

/-- Nothing that can be seen of a scope tells two stores apart. -/
structure LooksAlike (name : String) (s s' : SelectionStore κ) : Prop where
  isSelected : ∀ id, s.isSelected name id = s'.isSelected name id
  selectedCount : s.selectedCount name = s'.selectedCount name
  anchor : s.anchor name = s'.anchor name
  selectedVisible : ∀ visible, s.selectedVisible name visible = s'.selectedVisible name visible

/-! ### One scope -/

/-- A scope that has been written is found, and the others are as they were.  A scope that nobody has
written is found empty. -/
theorem scope_insert (s : SelectionStore κ) (name name' : String) (v : ScopeSelection κ) :
    (⟨s.scopes.insert name v⟩ : SelectionStore κ).scope name' =
      if name = name' then v else s.scope name' := by
  unfold scope
  rw [OrderedMap.get?_insert]
  split <;> rfl

/-- A scope that has been cleared is empty, whether it had been made or not. -/
theorem scope_clear (s : SelectionStore κ) (name name' : String) :
    (s.clear name).scope name' = if name = name' then {} else s.scope name' := by
  unfold clear
  split
  · exact scope_insert ..
  · next hnone =>
    split
    · next heq => rw [← heq, scope, hnone, Option.getD_none]
    · rfl

theorem looksAlike_of_scope_eq {name : String} {s s' : SelectionStore κ}
    (h : s.scope name = s'.scope name) : LooksAlike name s s' := by
  have hselected : s.isSelected name = s'.isSelected name := by
    funext id
    rw [isSelected, isSelected, h]
  constructor
  · intro id
    rw [hselected]
  · rw [selectedCount, selectedCount, h]
  · rw [anchor, anchor, h]
  · intro visible
    rw [selectedVisible, selectedVisible, hselected]

/-! ### One request -/

/-- A query leaves the store as it is. -/
theorem perform_of_isQuery {q : SelectionRequest κ} (h : q.IsQuery) (s : SelectionStore κ) :
    (s.perform q).2 = s := by
  cases q with
  | toggle | selectAll | clear => exact h.elim
  | isSelected | selectedCount | anchor | selectedVisible => rfl

/-- **A request changes its own scope only.** -/
theorem scope_perform_of_ne {q : SelectionRequest κ} {name : String} (h : q.scope ≠ name)
    (s : SelectionStore κ) : (s.perform q).2.scope name = s.scope name := by
  cases q with
  | toggle | selectAll => exact (scope_insert ..).trans (if_neg h)
  | clear => exact (scope_clear ..).trans (if_neg h)
  | isSelected | selectedCount | anchor | selectedVisible => rfl

/-- **What comes of a request depends on its own scope only.** -/
theorem perform_congr {q : SelectionRequest κ} {s s' : SelectionStore κ}
    (h : s.scope q.scope = s'.scope q.scope) :
    (s.perform q).1 = (s'.perform q).1 ∧
      (s.perform q).2.scope q.scope = (s'.perform q).2.scope q.scope := by
  have hseen := looksAlike_of_scope_eq h
  cases q with
  | toggle name id place range visible =>
    refine ⟨rfl, ?_⟩
    rw [SelectionRequest.scope] at h ⊢
    simp only [perform, toggle, scope_insert, h]
  | selectAll name ids =>
    refine ⟨rfl, ?_⟩
    rw [SelectionRequest.scope] at h ⊢
    simp only [perform, selectAll, scope_insert, h]
  | clear name =>
    refine ⟨rfl, ?_⟩
    simp only [perform, SelectionRequest.scope, scope_clear, if_true]
  | isSelected name id => exact ⟨congrArg SelectionReply.selected (hseen.isSelected id), h⟩
  | selectedCount name => exact ⟨congrArg SelectionReply.count hseen.selectedCount, h⟩
  | anchor name => exact ⟨congrArg SelectionReply.anchor hseen.anchor, h⟩
  | selectedVisible name visible =>
    exact ⟨congrArg SelectionReply.ids (hseen.selectedVisible visible), h⟩

/-! ### Several requests -/

/-- Two stores that agree on a scope agree on it after some requests, of which the second store is
asked only those that name the scope, and they reply to these alike. -/
theorem perform_filter (name : String) (qs : List (SelectionRequest κ)) :
    ∀ {s s' : SelectionStore κ}, s.scope name = s'.scope name →
      (s.performAll qs).scope name = (s'.performAll (qs.filter (·.scope = name))).scope name ∧
        (s.history qs).filter (·.1.scope = name) = s'.history (qs.filter (·.scope = name)) := by
  induction qs with
  | nil =>
    intro s s' h
    exact ⟨h, rfl⟩
  | cons q qs ih =>
    intro s s' h
    by_cases hq : q.scope = name
    · subst hq
      -- both stores are asked
      obtain ⟨hreply, hscope⟩ := perform_congr h
      obtain ⟨hend, hhistory⟩ := ih hscope
      rw [List.filter_cons_of_pos (by simp), history, history, List.filter_cons_of_pos (by simp),
        hreply, hhistory]
      exact ⟨hend, rfl⟩
    · -- only the first one is
      obtain ⟨hend, hhistory⟩ := ih ((scope_perform_of_ne hq s).trans h)
      rw [List.filter_cons_of_neg (by simpa using hq), history,
        List.filter_cons_of_neg (by simpa using hq)]
      exact ⟨hend, hhistory⟩

/-- **A scope is seen as if there were no others.**  After any requests a scope looks as it does after
those that name it, and each of these is replied to alike.  A request that names another scope changes
nothing that can be seen of it, and a query changes nothing in any scope. -/
theorem scopes_isolated (s : SelectionStore κ) (qs : List (SelectionRequest κ)) (name : String) :
    LooksAlike name (s.performAll qs) (s.performAll (qs.filter (·.scope = name))) ∧
      (s.history qs).filter (·.1.scope = name) = s.history (qs.filter (·.scope = name)) ∧
      (∀ q : SelectionRequest κ, q.scope ≠ name → LooksAlike name (s.perform q).2 s) ∧
      ∀ q : SelectionRequest κ, q.IsQuery → (s.perform q).2 = s := by
  obtain ⟨hend, hhistory⟩ := perform_filter name qs (s := s) rfl
  refine ⟨looksAlike_of_scope_eq hend, hhistory, fun q hq => ?_, fun q hq => perform_of_isQuery hq s⟩
  exact looksAlike_of_scope_eq (scope_perform_of_ne hq s)

end SelectionStore

end SubtitleCoverage
