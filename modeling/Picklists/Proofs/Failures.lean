import Picklists.Proofs.Exchange

/-!
# Failures of providers

That nobody offers a listing is said by the service alone (`Failure.OfProvider`).  The searches
inherit this from the exchanges, and the listings from the searches (`Provider.list_fails`).
-/

namespace Picklists

variable {σ : Type}

/-- A failure of a provider.  It does not say that nobody offers a listing. -/
def Failure.OfProvider (failure : Failure) : Prop := ∀ listName, failure ≠ .unknownList listName

theorem Failure.ofProvider_unwritable : unwritable.OfProvider := fun _ => Failure.noConfusion

/-- Nor does a misfit, whoever takes it over. -/
theorem Misfit.ofProvider_failure (misfit : Misfit) (taken : List MisfitKind) (fault : IndexFault) :
    (misfit.failure taken fault).OfProvider := by
  intro listName
  rw [failure]
  split
  · exact Failure.noConfusion
  · cases misfit <;> exact Failure.noConfusion

open Picklists.Action (FailsOnly)

theorem log_fails (event : Event) :
    FailsOnly Failure.OfProvider (Action.log event : Action σ Unit) :=
  .log Failure.ofProvider_unwritable event

theorem logAll_fails (events : List Event) :
    FailsOnly Failure.OfProvider (Action.logAll events : Action σ Unit) :=
  .logAll Failure.ofProvider_unwritable events

namespace SearchIndex

variable (index : SearchIndex) (transport : Transport σ)

theorem search_fails (documentType : String) (body : SearchBody) :
    FailsOnly Failure.OfProvider (index.search transport documentType body) := by
  intro link failure h
  rw [index.run_search] at h
  rcases Exchange.index_or_raises h with ⟨fault, rfl⟩ | hraises
  · exact fun _ => Failure.noConfusion
  · exact hraises.ne_unknownList

theorem terms_fails (field documentType : String) :
    FailsOnly Failure.OfProvider (index.terms transport field documentType) := by
  refine .bind (index.search_fails _ _ _) fun answer => ?_
  split
  · exact .fail (Misfit.ofProvider_failure _ _ _)
  · split
    · exact .bind (log_fails _) fun _ => .bind (log_fails _) fun _ => .pure _
    · exact .bind (log_fails _) fun _ => .pure _

theorem themes_fails (query : ThemeQuery) :
    FailsOnly Failure.OfProvider (index.themes transport query) := by
  refine .bind (log_fails _) fun _ => .bind (index.search_fails _ _ _) fun answer => ?_
  split
  · rw [PageFault.failure_eq]
    exact .bind (logAll_fails _) fun _ => .fail fun _ => Failure.noConfusion
  · exact .bind (logAll_fails _) fun _ => .pure _

end SearchIndex

variable (sources : Sources σ) (window : Option Window)

theorem selectWithin_fails (listing : Listing) :
    FailsOnly Failure.OfProvider (selectWithin window listing : Action σ Listing) := by
  refine .ofExcept fun failure h => ?_
  split at h <;> cases h
  exact fun _ => Failure.noConfusion

theorem listThemes_fails (listName : String) :
    FailsOnly Failure.OfProvider (listThemes sources listName window) := by
  -- the page is asked for in the same way, whichever part of the themes is listed
  have hpage : FailsOnly Failure.OfProvider
      (Action.onIndexFault
        (sources.index.themes sources.transport (Theme.query sources.caller window))
        fun fault => do
          Action.log (.themesUnavailable fault)
          Action.fail (.unavailable listName)) :=
    .onIndexFault (SearchIndex.themes_fails _ _ _) fun _ =>
      .bind (log_fails _) fun _ => .fail fun _ => Failure.noConfusion
  simp only [listThemes]
  split
  · exact .bind hpage fun _ => .written Failure.ofProvider_unwritable _
  · exact .bind hpage fun _ => .written Failure.ofProvider_unwritable _
  · exact .pure _

theorem visibleAccounts_fails (excluded : Exclusion) :
    FailsOnly Failure.OfProvider (visibleAccounts sources excluded) := by
  rw [visibleAccounts]
  split
  · exact .pure _
  · refine .bind (.ofExcept fun failure h => ?_) fun _ => .pure _
    unfold Directory.find at h
    split at h <;> cases h
    exact fun _ => Failure.noConfusion

theorem fieldTerms_fails (fields : List IndexField) :
    FailsOnly Failure.OfProvider (fieldTerms sources fields) :=
  .forEach (fun _ => SearchIndex.terms_fails _ _ _ _) fields

theorem listContributors_fails (excluded : Exclusion) (list : ContributorsList) :
    FailsOnly Failure.OfProvider (listContributors sources excluded list window) := by
  refine .bind (visibleAccounts_fails sources excluded) fun accounts => ?_
  cases list with
  | names =>
    exact .bind (fieldTerms_fails sources _) fun _ => .bind (log_fails _) fun _ => .pure _
  | usernames => exact selectWithin_fails window _
  | namesToUsernames =>
    exact .bind (fieldTerms_fails sources _) fun _ => selectWithin_fails window _

/-- **No provider says that nobody offers a listing**, whatever it draws on. -/
theorem Provider.list_fails (provider : Provider) (listName : String) :
    FailsOnly Failure.OfProvider (provider.list sources listName window) := by
  cases provider with
  | themes => exact listThemes_fails sources window listName
  | contributors excluded => exact listContributors_fails sources window excluded _
  | fixed kind listNames listing => exact selectWithin_fails window listing

end Picklists
