import Picklists.Proofs.Visibility
import Picklists.Proofs.Window

/-!
# What a listing of contributors is made from

Whatever its kind and its window, a listing of contributors gathers the visible accounts and the
terms of some fields, and puts the listing together from these alone.

* `ContributorsList.fields` : the fields whose terms belong to a listing.
* `ContributorsList.assemble` : the listing that accounts and terms give within a window.
* `outcome_listContributors` : **a listing is gathered and then assembled**; the window plays no
  part before.  `outcome_eq_ok_iff` says the same of the listings that come about.
-/

namespace Picklists

variable {σ : Type}

/-! ### Terms -/

/-- The fields whose terms belong to a listing. -/
def ContributorsList.fields : ContributorsList → List IndexField
  | .names => Contributors.nameFields
  | .usernames => []
  | .namesToUsernames => Contributors.presenterFields

/-! ### The listing -/

/-- The listing that visible accounts and terms give within a window. -/
def ContributorsList.assemble (list : ContributorsList) (window : Option Window)
    (accounts : List Account) (terms : List (List Text)) : Except Failure Listing :=
  match list with
  | .names =>
    .ok (Contributors.names
      (Contributors.namesWithin window (Contributors.allNames accounts terms.flatten)))
  | .usernames => (Contributors.userNames accounts).within window
  | .namesToUsernames => (Contributors.namesToUsernames accounts terms).within window

/-- **A listing is gathered and then assembled.** -/
theorem outcome_listContributors (sources : Sources σ) (excluded : Exclusion)
    (list : ContributorsList) (window : Option Window) (link : σ) :
    (listContributors sources excluded list window link).outcome =
      (do
        let accounts ← sources.directory.shown excluded
        let terms ← (fieldTerms sources list.fields link).outcome
        list.assemble window accounts terms) := by
  have haccounts := visibleAccounts_eq sources excluded link
  simp only [listContributors]
  cases hshown : sources.directory.shown excluded with
  | error failure =>
    rw [hshown] at haccounts
    rw [Action.bind_of_error (congrArg Run.outcome haccounts)]
    rfl
  | ok accounts =>
    rw [hshown] at haccounts
    rw [Action.bind_of_ok (congrArg Run.outcome haccounts), haccounts]
    cases list with
    | usernames => rfl
    | names | namesToUsernames =>
      simp only [Run.followedBy, ContributorsList.fields]
      cases hterms : (fieldTerms sources _ link).outcome with
      | error failure =>
        rw [Action.bind_of_error hterms]
        rfl
      | ok terms =>
        rw [Action.bind_of_ok hterms]
        rfl

/-- Once the accounts and the terms are gathered, the listing only depends on them. -/
theorem outcome_of_gathered (list : ContributorsList) {sources : Sources σ} {excluded : Exclusion}
    {link : σ} {accounts : List Account} {terms : List (List Text)}
    (hshown : sources.directory.shown excluded = .ok accounts)
    (hterms : (fieldTerms sources list.fields link).outcome = .ok terms) (window : Option Window) :
    (listContributors sources excluded list window link).outcome =
      list.assemble window accounts terms := by
  rw [outcome_listContributors, hshown, hterms]
  rfl

/-- **The listings that come about** are assembled from what could be gathered. -/
theorem outcome_eq_ok_iff {sources : Sources σ} {excluded : Exclusion} {list : ContributorsList}
    {window : Option Window} {link : σ} {listing : Listing} :
    (listContributors sources excluded list window link).outcome = .ok listing ↔
      ∃ accounts terms, sources.directory.shown excluded = .ok accounts ∧
        (fieldTerms sources list.fields link).outcome = .ok terms ∧
        list.assemble window accounts terms = .ok listing := by
  rw [outcome_listContributors]
  cases sources.directory.shown excluded with
  | error failure => simp [bind, Except.bind]
  | ok accounts =>
    cases (fieldTerms sources list.fields link).outcome with
    | error failure => simp [bind, Except.bind]
    | ok terms => simp [bind, Except.bind]

end Picklists
