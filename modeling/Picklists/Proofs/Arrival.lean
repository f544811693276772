import Picklists.Proofs.Concealment
import Picklists.Proofs.Labels

/-!
# The order of arrival

Neither the order in which the index reports terms nor the order of the directory decides what a
listing of contributors holds and in which order.

* `Contributors.namesToUsernames_congr` : a listing of names to login names knows the terms as a
  set, and of the order of accounts only that of accounts with one label.
* `ContributorsList.assemble_congr` : the same of all three listings, within every window.
* `Contributors.list_order_independent` : **the order of arrival does not count**, neither that of
  terms, however they are repeated and spread over the fields, nor that of accounts, as long as
  accounts that share a label share their login name.
-/

namespace Picklists

variable {accounts others : List Account} {terms found : List (List Text)}

namespace Contributors

/-! ### Terms as a set -/

theorem nodup_unclaimed (accounts : List Account) (terms : List Text) :
    (unclaimed accounts terms).Nodup := nodup_distinctFrom

theorem mem_labels_iff {label : Text} :
    label ∈ accounts.map (·.label) ↔
      ∃ contributor ∈ accounts.map ofAccount, contributor.label = label := by
  simp [ofAccount]

theorem mem_usernames_iff {username : Text} :
    username ∈ accounts.map (·.username) ↔
      ∃ contributor ∈ accounts.map ofAccount, contributor.key = username := by
  simp [ofAccount]

/-- The order of accounts does not show in those of one label if they share their login name. -/
theorem filter_label_of_perm (hperm : accounts.Perm others)
    (hlogin : ∀ a ∈ accounts, ∀ b ∈ accounts, a.label = b.label → a.username = b.username)
    (label : Text) :
    (accounts.map ofAccount).filter (·.label = label) =
      (others.map ofAccount).filter (·.label = label) := by
  refine filter_key_of_perm (hperm.map ofAccount) (fun a ha b hb hlabel => ?_) label
  obtain ⟨account, haccount, rfl⟩ := List.mem_map.1 ha
  obtain ⟨other, hother, rfl⟩ := List.mem_map.1 hb
  have husername := hlogin account haccount other hother hlabel
  rw [ofAccount, ofAccount, husername]
  exact congrArg (Contributor.mk other.username) hlabel

/-- The terms that belong to no account are the same in another order. -/
theorem perm_unclaimed {terms found : List Text}
    (haccounts : ∀ contributor,
      contributor ∈ accounts.map ofAccount ↔ contributor ∈ others.map ofAccount)
    (hterms : ∀ term, term ∈ terms ↔ term ∈ found) :
    (unclaimed accounts terms).Perm (unclaimed others found) := by
  have hlabel : ∀ label, label ∈ accounts.map (·.label) ↔ label ∈ others.map (·.label) := by
    intro label
    simp only [mem_labels_iff, haccounts]
  have husername : ∀ username,
      username ∈ accounts.map (·.username) ↔ username ∈ others.map (·.username) := by
    intro username
    simp only [mem_usernames_iff, haccounts]
  rw [List.perm_ext_iff_of_nodup (nodup_unclaimed accounts terms) (nodup_unclaimed others found)]
  intro term
  rw [mem_unclaimed, mem_unclaimed, hterms, hlabel, husername]

/-- **A listing of names to login names knows the terms as a set**, and of the order of accounts
only that of accounts with one label. -/
theorem namesToUsernames_congr
    (haccounts : ∀ label, (accounts.map ofAccount).filter (·.label = label) =
      (others.map ofAccount).filter (·.label = label))
    (hterms : ∀ term, term ∈ terms.flatten ↔ term ∈ found.flatten) :
    namesToUsernames accounts terms = namesToUsernames others found := by
  have hperm : ((unclaimed accounts terms.flatten).map Contributor.ofName).Perm
      ((unclaimed others found.flatten).map Contributor.ofName) :=
    (perm_unclaimed (mem_iff_of_filter_key haccounts) hterms).map _
  have hown : ∀ a ∈ (unclaimed accounts terms.flatten).map Contributor.ofName,
      ∀ b ∈ (unclaimed accounts terms.flatten).map Contributor.ofName,
        a.label = b.label → a = b := by
    intro a ha b hb hlabel
    obtain ⟨term, -, rfl⟩ := List.mem_map.1 ha
    obtain ⟨other, -, rfl⟩ := List.mem_map.1 hb
    exact congrArg Contributor.ofName hlabel
  rw [namesToUsernames_eq, namesToUsernames_eq]
  refine byLabel_congr fun label => ?_
  rw [List.filter_append, List.filter_append, haccounts, filter_key_of_perm hperm hown]

end Contributors

open Contributors (ofAccount)

/-- **What a listing knows of accounts and terms**, within every window. -/
theorem ContributorsList.assemble_congr {list : ContributorsList}
    (hlabels : ∀ label, label ∈ accounts.map (·.label) ↔ label ∈ others.map (·.label))
    (haccounts : list = .names ∨ ∀ label, (accounts.map ofAccount).filter (·.label = label) =
      (others.map ofAccount).filter (·.label = label))
    (hterms : ∀ term, term ∈ terms.flatten ↔ term ∈ found.flatten) (window : Option Window) :
    list.assemble window accounts terms = list.assemble window others found := by
  cases list with
  | names =>
    have hall : Contributors.allNames accounts terms.flatten =
        Contributors.allNames others found.flatten := by
      refine ascending_congr fun name => ?_
      rw [List.mem_append, List.mem_append, hterms]
      exact or_congr_left (hlabels name)
    rw [assemble, assemble, hall]
  | usernames =>
    have hsame := Contributors.byLabel_congr (haccounts.resolve_left (by simp))
    rw [assemble, assemble, Contributors.userNames, Contributors.userNames, hsame]
  | namesToUsernames =>
    have hsame := Contributors.namesToUsernames_congr (haccounts.resolve_left (by simp)) hterms
    rw [assemble, assemble, hsame]

namespace Contributors

/-- **The order of arrival does not count.** -/
theorem list_order_independent (excluded : Exclusion) (listName : String)
    (window : Option Window) :
    let list := ContributorsList.lookup listName
    (∀ {σ τ : Type} (sources : Sources σ) (other : Sources τ) (link : σ) (place : τ)
        (terms found : List (List Text)), other.directory = sources.directory →
      (fieldTerms sources list.fields link).outcome = .ok terms →
      (fieldTerms other list.fields place).outcome = .ok found →
      (∀ term, term ∈ terms.flatten ↔ term ∈ found.flatten) →
      ((Provider.contributors excluded).list sources listName window link).outcome =
        ((Provider.contributors excluded).list other listName window place).outcome) ∧
    ∀ {σ : Type} (sources : Sources σ) (link : σ) (accounts others : List Account),
      accounts.Perm others →
      (list = .names ∨ ∀ a ∈ accounts, ∀ b ∈ accounts, ¬ excluded.Hides a → ¬ excluded.Hides b →
        a.label = b.label → a.username = b.username) →
      ((Provider.contributors excluded).list (sources.withDirectory (.holding accounts)) listName
          window link).outcome =
        ((Provider.contributors excluded).list (sources.withDirectory (.holding others)) listName
          window link).outcome := by
  intro list
  refine ⟨fun sources other link place terms found hdirectory hterms hfound hsame => ?_,
    fun sources link accounts others hperm haccounts => ?_⟩
  · rw [Provider.list, Provider.list, outcome_listContributors, outcome_listContributors, hterms,
      hfound, hdirectory]
    cases sources.directory.shown excluded with
    | error failure => rfl
    | ok accounts =>
      exact list.assemble_congr (fun _ => Iff.rfl) (Or.inr fun _ => rfl) hsame window
  · have hshown : (visible excluded accounts).Perm (visible excluded others) := by
      rw [visible_eq_filter, visible_eq_filter]
      exact hperm.filter _
    have hsame : list = .names ∨ ∀ label,
        ((visible excluded accounts).map ofAccount).filter (·.label = label) =
          ((visible excluded others).map ofAccount).filter (·.label = label) := by
      refine haccounts.imp_right fun hlogin => filter_label_of_perm hshown fun a ha b hb => ?_
      rw [mem_visible] at ha hb
      exact hlogin a ha.1 b hb.1 ha.2 hb.2
    have hlabels := fun label => (hshown.map Account.label).mem_iff (a := label)
    have hassemble (terms : List (List Text)) :
        list.assemble window (visible excluded accounts) terms =
          list.assemble window (visible excluded others) terms :=
      list.assemble_congr hlabels hsame (fun _ => Iff.rfl) window
    rw [Provider.list, Provider.list, outcome_listContributors, outcome_listContributors]
    simp only [Sources.withDirectory, Directory.shown_holding]
    -- the index is asked the same, whatever the directory
    exact congrArg ((fieldTerms sources list.fields link).outcome >>= ·) (funext hassemble)

/-- Terms that are reported in another order and not twice, and accounts in another order. -/
theorem list_order_independent_meeting :
    let listName := "CONTRIBUTORS.NAMES.TO.USERNAMES"
    let list (sources : Sources Unit) (window : Option Window) :=
      ((Provider.contributors hiddenGuests).list sources listName window ()).outcome
    list (meeting ["zoe", "dora", "zoe", "adam"]) (some ⟨some 1, some 2⟩) =
        list (meeting ["adam", "zoe", "dora"]) (some ⟨some 1, some 2⟩) ∧
      list ((meeting ["zoe"]).withDirectory (.holding homonyms)) none =
        list ((meeting ["zoe"]).withDirectory (.holding homonyms.reverse)) none := by
  intro listName list
  have hname : ContributorsList.lookup listName = .namesToUsernames := by decide
  let reported : List (List Text) := [["zoe", "dora", "zoe", "adam"], [], [], [], []]
  let again : List (List Text) := [["adam", "zoe", "dora"], [], [], [], []]
  have hreported : (fieldTerms (meeting ["zoe", "dora", "zoe", "adam"])
      (ContributorsList.lookup listName).fields ()).outcome = .ok reported := by
    rw [hname]
    rfl
  have hagain : (fieldTerms (meeting ["adam", "zoe", "dora"])
      (ContributorsList.lookup listName).fields ()).outcome = .ok again := by
    rw [hname]
    rfl
  have hkept : reported.flatten ⊆ again.flatten := by decide
  have hback : again.flatten ⊆ reported.flatten := by decide
  obtain ⟨hterms, -⟩ := list_order_independent hiddenGuests listName (some ⟨some 1, some 2⟩)
  obtain ⟨-, haccounts⟩ := list_order_independent hiddenGuests listName none
  refine ⟨hterms _ _ () () _ _ rfl hreported hagain fun _ => ⟨@hkept _, @hback _⟩, ?_⟩
  exact haccounts _ () _ _ (List.reverse_perm _).symm (Or.inr (by decide))

end Contributors

end Picklists
