import Mathlib.Data.List.Induction
import Picklists.Registry

/-!
# Histories of the registry

To which provider a name belongs after any history of registrations and removals.  Providers are
known by handles; the list names of every handle are fixed, may repeat, and may be those of other
handles too.

* `Registry.Change` : a registration or a removal; `Registry.apply` is what it makes of a registry.
* `Registry.Owns` : the last registration of the name in the history was one of the handle, and no
  removal of the handle came after it.
* `Registry.route?_apply`, `Registry.owns_concat` : what one change does to the routes is what it
  does to the ownership.
* `Registry.route?_foldl_apply` : **the registry routes a name to the handle that owns it**, after
  every history.
-/

namespace Picklists

namespace Registry

variable {registry : Registry} {listName : String} {handle : Handle}

/-! ### Routes -/

/-- Without one name, the others keep their routes. -/
theorem route?_filter (registry : Registry) (gone listName : String) :
    route? ⟨registry.routes.filter (·.1 != gone)⟩ listName =
      if listName = gone then none else registry.route? listName := by
  simp only [route?, List.find?_filter]
  by_cases h : listName = gone
  · subst h
    simp [List.find?_eq_none]
  · rw [if_neg h]
    congr 2
    funext route
    by_cases hroute : route.1 = listName
    · simp [hroute, h]
    · simp [hroute]

theorem route?_put (registry : Registry) (given : String) (handle : Handle) (listName : String) :
    (registry.put given handle).route? listName =
      if listName = given then some handle else registry.route? listName := by
  by_cases h : listName = given
  · simp [put, route?, h]
  · have hfilter := route?_filter registry given listName
    rw [if_neg h] at hfilter ⊢
    rw [← hfilter]
    simp [put, route?, Ne.symm h]

theorem route?_drop (registry : Registry) (handle : Handle) (given listName : String) :
    (registry.drop handle given).route? listName =
      if listName = given ∧ registry.route? listName = some handle then none
      else registry.route? listName := by
  rw [drop]
  by_cases h : registry.route? given = some handle
  · rw [if_pos h, route?_filter]
    by_cases hname : listName = given
    · simp [hname, h]
    · simp [hname]
  · rw [if_neg h, if_neg]
    rintro ⟨rfl, hroute⟩
    exact h hroute

/-- Registration takes over all names of the provider. -/
theorem route?_putAll (handle : Handle) (registry : Registry) (listNames : List String)
    (listName : String) :
    (putAll handle registry listNames).1.route? listName =
      if listName ∈ listNames then some handle else registry.route? listName := by
  induction listNames generalizing registry with
  | nil => simp [putAll]
  | cons given listNames ih =>
    simp only [putAll, ih, route?_put]
    by_cases hrest : listName ∈ listNames
    · simp [hrest]
    · by_cases hgiven : listName = given
      · simp [hgiven]
      · simp [hrest, hgiven]

/-- Removal gives up the names that still belong to the provider, and no others. -/
theorem route?_remove (registry : Registry) (handle : Handle) (listNames : List String)
    (listName : String) :
    (registry.remove handle listNames).route? listName =
      if listName ∈ listNames ∧ registry.route? listName = some handle then none
      else registry.route? listName := by
  rw [remove]
  induction listNames generalizing registry with
  | nil => simp
  | cons given listNames ih =>
    rw [List.foldl_cons, ih, route?_drop]
    by_cases hroute : registry.route? listName = some handle
    · by_cases hgiven : listName = given
      · simp [hgiven]
      · simp [hgiven]
    · simp [hroute]

/-- The names are those with a route. -/
theorem mem_listNames :
    listName ∈ registry.listNames ↔ ∃ handle, registry.route? listName = some handle := by
  rw [listNames, mem_ascending, ← Option.isSome_iff_exists, route?, Option.isSome_map,
    List.find?_isSome]
  simp

/-! ### Changes -/

/-- A change of the registry. -/
inductive Change where
  /-- A provider is registered. -/
  | add (handle : Handle)
  /-- A provider is removed. -/
  | remove (handle : Handle)
deriving DecidableEq

/-- The registry after a change, given the list names of the providers. -/
def apply (names : Handle → List String) (registry : Registry) : Change → Registry
  | .add handle => (putAll handle registry (names handle)).1
  | .remove handle => registry.remove handle (names handle)

variable {names : Handle → List String} {change : Change} {history : List Change}

/-- **One change.**  A route is new, or it is an old one that the change neither takes over nor
gives up.  Removal gives the name up only if it is one of the provider's own. -/
theorem route?_apply (hown : registry.route? listName = some handle → listName ∈ names handle) :
    (registry.apply names change).route? listName = some handle ↔
      change = .add handle ∧ listName ∈ names handle ∨
        registry.route? listName = some handle ∧
          (∀ other, change = .add other → listName ∉ names other) ∧ change ≠ .remove handle := by
  cases change with
  | add other =>
    rw [apply, route?_putAll]
    by_cases h : listName ∈ names other
    · simp only [h, if_true, Option.some.injEq]
      constructor
      · rintro rfl
        exact Or.inl ⟨rfl, h⟩
      · rintro (⟨hadd, -⟩ | ⟨-, hfree, -⟩)
        · exact Change.add.inj hadd
        · exact absurd h (hfree other rfl)
    · simp only [h, if_false]
      constructor
      · intro hroute
        refine Or.inr ⟨hroute, ?_, Change.noConfusion⟩
        rintro _ ⟨⟩
        exact h
      · rintro (⟨⟨⟩, hmem⟩ | ⟨hroute, -⟩)
        · exact absurd hmem h
        · exact hroute
  | remove other =>
    rw [apply, route?_remove]
    by_cases hroute : registry.route? listName = some handle
    · by_cases hother : other = handle
      · simp [hother, hroute, hown hroute]
      · simp [hroute, hother, Ne.symm hother]
    · simp [hroute]

/-! ### Ownership -/

/-- After a history of changes, a name belongs to a provider: the last registration of a provider
with that name was one of this provider, and this provider has not been removed since. -/
def Owns (names : Handle → List String) (history : List Change) (listName : String)
    (handle : Handle) : Prop :=
  ∃ before after, history = before ++ .add handle :: after ∧ listName ∈ names handle ∧
    (∀ other, .add other ∈ after → listName ∉ names other) ∧ .remove handle ∉ after

theorem Owns.mem (h : Owns names history listName handle) : listName ∈ names handle := by
  obtain ⟨_, _, -, hmem, -⟩ := h
  exact hmem

theorem not_owns_nil : ¬ Owns names [] listName handle := by
  rintro ⟨before, after, hhistory, -⟩
  simp at hhistory

/-- One more change does to the ownership what it does to the routes. -/
theorem owns_concat :
    Owns names (history ++ [change]) listName handle ↔
      change = .add handle ∧ listName ∈ names handle ∨
        Owns names history listName handle ∧
          (∀ other, change = .add other → listName ∉ names other) ∧ change ≠ .remove handle := by
  constructor
  · rintro ⟨before, after, hhistory, hmem, hfree, hkept⟩
    -- the change is the registration that counts, or it came after it
    cases after using List.reverseRecOn with
    | nil =>
      obtain ⟨-, rfl⟩ := List.append_singleton_inj.1 hhistory
      exact Or.inl ⟨rfl, hmem⟩
    | append_singleton after last =>
      rw [← List.cons_append, ← List.append_assoc] at hhistory
      obtain ⟨rfl, rfl⟩ := List.append_singleton_inj.1 hhistory
      refine Or.inr ⟨⟨before, after, rfl, hmem, ?_, ?_⟩, ?_, ?_⟩
      · exact fun other hother => hfree other (List.mem_append_left _ hother)
      · exact fun hremove => hkept (List.mem_append_left _ hremove)
      · rintro other rfl
        exact hfree other (by simp)
      · rintro rfl
        exact hkept (by simp)
  · rintro (⟨rfl, hmem⟩ | ⟨⟨before, after, rfl, hmem, hfree, hkept⟩, htaken, hremoved⟩)
    · exact ⟨history, [], rfl, hmem, by simp, by simp⟩
    · refine ⟨before, after ++ [change], by simp, hmem, ?_, ?_⟩
      · intro other hother
        rcases List.mem_append.1 hother with hearlier | hlast
        · exact hfree other hearlier
        · exact htaken other (List.mem_singleton.1 hlast).symm
      · intro hremove
        rcases List.mem_append.1 hremove with hearlier | hlast
        · exact hkept hearlier
        · exact hremoved (List.mem_singleton.1 hlast).symm

/-- **Histories.**  After every history, the registry routes a name to the provider to which it
belongs. -/
theorem route?_foldl_apply (names : Handle → List String) (history : List Change)
    (listName : String) (handle : Handle) :
    (history.foldl (apply names) empty).route? listName = some handle ↔
      Owns names history listName handle := by
  -- the latest change decides, and a route only ever leads to a provider that has the name
  induction history using List.reverseRecOn with
  | nil =>
    exact iff_of_false (by simp [empty, route?]) not_owns_nil
  | append_singleton history change ih =>
    have hown := fun hroute => (ih.1 hroute).mem
    rw [List.foldl_append, List.foldl_cons, List.foldl_nil, route?_apply hown, owns_concat, ih]

end Registry

end Picklists
