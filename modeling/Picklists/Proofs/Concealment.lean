import Mathlib.Logic.Relation
import Picklists.Proofs.Contributors

/-!
# What hidden accounts cannot do

A listing of contributors tells nothing of hidden accounts, neither by its entries nor by what is
sent and recorded on the way.

* `listContributors_congr` : a listing knows the directory by its visible accounts only.
* `Exclusion.Edit` : an account of an excluded provider joins the directory or leaves it.  This
  leaves the visible accounts as they are (`Exclusion.Edit.visible_eq`), and so do any number of
  such changes (`Exclusion.visible_eq_of_edits`).
* `ContributorsList.keyOf_mem_keys` : a visible account has its key in every listing.
* `Contributors.list_noninterference` : **hidden accounts do not interfere**, and an account without
  a provider is only hidden together with everyone.
-/

namespace Picklists

open Relation (ReflTransGen)

variable {σ : Type}

/-! ### The directory behind a listing -/

/-- The same sources with another directory. -/
def Sources.withDirectory (sources : Sources σ) (directory : Directory) : Sources σ :=
  { sources with directory := directory }

/-- **A listing knows the directory by its visible accounts only.** -/
theorem listContributors_congr {sources : Sources σ} {excluded : Exclusion}
    {directory other : Directory} (h : directory.shown excluded = other.shown excluded)
    (list : ContributorsList) (window : Option Window) :
    listContributors (sources.withDirectory directory) excluded list window =
      listContributors (sources.withDirectory other) excluded list window := by
  have haccounts : visibleAccounts (sources.withDirectory directory) excluded =
      visibleAccounts (sources.withDirectory other) excluded := by
    funext link
    rw [visibleAccounts_eq, visibleAccounts_eq]
    simp only [Sources.withDirectory, h]
  -- the index, the connection and the caller are those of the same sources
  simp only [listContributors, haccounts]
  rfl

/-! ### Changes of hidden accounts -/

/-- One change of a directory: an account of an excluded provider joins or leaves, at any place. -/
inductive Exclusion.Edit (excluded : Exclusion) : List Account → List Account → Prop where
  /-- An account joins. -/
  | join (front back : List Account) {account : Account} {tag : Text} (htag : tag ∈ excluded.tags)
      (hprovider : account.provider = some tag) :
      Edit excluded (front ++ back) (front ++ account :: back)
  /-- An account leaves. -/
  | leave (front back : List Account) {account : Account} {tag : Text} (htag : tag ∈ excluded.tags)
      (hprovider : account.provider = some tag) :
      Edit excluded (front ++ account :: back) (front ++ back)

namespace Exclusion

variable {excluded : Exclusion}

/-- Among others, an account of an excluded provider is not seen. -/
theorem visible_append_cons (front back : List Account) {account : Account} {tag : Text}
    (htag : tag ∈ excluded.tags) (hprovider : account.provider = some tag) :
    Contributors.visible excluded (front ++ account :: back) =
      Contributors.visible excluded (front ++ back) := by
  have hhidden : excluded.Hides account := Or.inr ⟨tag, htag, hprovider⟩
  simp only [Contributors.visible_eq_filter, List.filter_append]
  rw [List.filter_cons_of_neg (by simpa using hhidden)]

/-- **One change** leaves the visible accounts as they are. -/
theorem Edit.visible_eq {accounts others : List Account} (h : excluded.Edit accounts others) :
    Contributors.visible excluded accounts = Contributors.visible excluded others := by
  cases h with
  | join front back htag hprovider => exact (visible_append_cons front back htag hprovider).symm
  | leave front back htag hprovider => exact visible_append_cons front back htag hprovider

/-- **Any number of changes** leave the visible accounts as they are. -/
theorem visible_eq_of_edits {accounts others : List Account}
    (h : ReflTransGen excluded.Edit accounts others) :
    Contributors.visible excluded accounts = Contributors.visible excluded others := by
  induction h with
  | refl => rfl
  | tail _ hedit ih => rw [ih, hedit.visible_eq]

/-- An account without a provider is hidden if everyone is, and not otherwise. -/
theorem hides_of_provider_eq_none {account : Account} (h : account.provider = none) :
    excluded.Hides account ↔ ("*" : Text) ∈ excluded.tags := by
  simp [Hides, h]

end Exclusion

/-! ### Accounts that show -/

/-- The key under which a listing shows an account. -/
def ContributorsList.keyOf : ContributorsList → Account → Text
  | .names, account => account.label
  | .usernames, account | .namesToUsernames, account => account.username

/-- A listing without a window has the keys of all accounts that it is made from. -/
theorem ContributorsList.keyOf_mem_keys {list : ContributorsList} {accounts : List Account}
    {terms : List (List Text)} {listing : Listing}
    (h : list.assemble none accounts terms = .ok listing) {account : Account}
    (haccount : account ∈ accounts) : list.keyOf account ∈ listing.keys := by
  cases list with
  | names =>
    cases h
    have hlabel : account.label ∈ Contributors.allNames accounts terms.flatten :=
      mem_ascending.2 (List.mem_append_left _ (List.mem_map_of_mem haccount))
    rw [Contributors.names, Listing.keys_ofPairs, mem_distinct, List.map_map]
    exact List.mem_map_of_mem hlabel
  | usernames =>
    cases h
    exact Contributors.mem_keys_byLabel.2 ⟨_, List.mem_map_of_mem haccount, rfl⟩
  | namesToUsernames =>
    cases h
    exact Contributors.mem_keys_namesToUsernames.2 (Or.inl (List.mem_map_of_mem haccount))

/-! ### Noninterference -/

namespace Contributors

/-- **Hidden accounts do not interfere.** -/
theorem list_noninterference (sources : Sources σ) (excluded : Exclusion) (listName : String) :
    let list (directory : Directory) (window : Option Window) : Action σ Listing :=
      (Provider.contributors excluded).list (sources.withDirectory directory) listName window
    (("*" : Text) ∈ excluded.tags →
      ∀ directory other window, list directory window = list other window) ∧
    (∀ accounts others, ReflTransGen excluded.Edit accounts others →
      ∀ window, list (.holding accounts) window = list (.holding others) window) ∧
    ∀ accounts, ∀ account ∈ accounts, account.provider = none →
      (account ∈ visible excluded accounts ↔ ("*" : Text) ∉ excluded.tags) ∧
      (("*" : Text) ∉ excluded.tags → ∀ link listing,
        (list (.holding accounts) none link).outcome = .ok listing →
        (ContributorsList.lookup listName).keyOf account ∈ listing.keys) := by
  intro list
  refine ⟨fun hall directory other window => ?_, fun accounts others hedits window => ?_,
    fun accounts account haccount hprovider => ?_⟩
  · have hall := Exclusion.excludesAll_iff.2 hall
    refine listContributors_congr ?_ _ window
    rw [directory.shown_of_excludesAll hall, other.shown_of_excludesAll hall]
  · refine listContributors_congr ?_ _ window
    rw [Directory.shown_holding, Directory.shown_holding, Exclusion.visible_eq_of_edits hedits]
  · have hvisible : account ∈ visible excluded accounts ↔ ("*" : Text) ∉ excluded.tags := by
      rw [mem_visible, Exclusion.hides_of_provider_eq_none hprovider]
      exact and_iff_right haccount
    refine ⟨hvisible, fun hnotAll link listing houtcome => ?_⟩
    obtain ⟨shown, terms, hshown, -, hlisting⟩ := outcome_eq_ok_iff.1 houtcome
    have hshown : visible excluded accounts = shown := by
      simpa [Sources.withDirectory, Directory.shown_holding] using hshown
    exact ContributorsList.keyOf_mem_keys hlisting (hshown ▸ hvisible.2 hnotAll)

/-- With everyone hidden, a directory that cannot be reached will do.  With guests hidden, one guest
may take the place of another, and an account without a provider is listed. -/
theorem list_noninterference_guests :
    let ann : Account := ⟨"ann", some "Ann Lee", none, none, none⟩
    let eve : Account := ⟨"eve", some "Eve", some "guest", none, none⟩
    let gus : Account := ⟨"gus", none, some "guest", none, none⟩
    let everyone : Exclusion := ⟨["*"], List.pairwise_singleton ..⟩
    let list (excluded : Exclusion) (directory : Directory) (window : Option Window) :=
      (Provider.contributors excluded).list ((meeting ["eve", "gus"]).withDirectory directory)
        "CONTRIBUTORS.NAMES.TO.USERNAMES" window
    list everyone (.unreachable ⟨"ConnectionError", "down"⟩) (some ⟨some 1, none⟩) =
        list everyone (.holding [ann, eve]) (some ⟨some 1, none⟩) ∧
      list hiddenGuests (.holding [ann, eve]) (some ⟨none, some 2⟩) =
        list hiddenGuests (.holding [gus, ann]) (some ⟨none, some 2⟩) ∧
      ∃ listing, (list hiddenGuests (.holding [ann, eve]) none ()).outcome = .ok listing ∧
        ("ann" : Text) ∈ listing.keys := by
  intro ann eve gus everyone list
  obtain ⟨hall, -, -⟩ :=
    list_noninterference (meeting ["eve", "gus"]) everyone "CONTRIBUTORS.NAMES.TO.USERNAMES"
  obtain ⟨-, hedits, hvisible⟩ :=
    list_noninterference (meeting ["eve", "gus"]) hiddenGuests "CONTRIBUTORS.NAMES.TO.USERNAMES"
  have hguest : ("guest" : Text) ∈ hiddenGuests.tags := by decide
  have hleaves : hiddenGuests.Edit [ann, eve] [ann] := .leave [ann] [] hguest rfl
  have hjoins : hiddenGuests.Edit [ann] [gus, ann] := .join [] [ann] hguest rfl
  have hmember : ann ∈ [ann, eve] := List.mem_cons_self
  have hlisted := (hvisible [ann, eve] ann hmember rfl).2 (by decide) ()
  refine ⟨hall (by decide) _ _ _, hedits _ _ (.tail (.single hleaves) hjoins) _, ?_⟩
  have houtcome : (list hiddenGuests (.holding [ann, eve]) none ()).outcome =
      .ok (namesToUsernames (visible hiddenGuests [ann, eve]) [["eve", "gus"], [], [], [], []]) :=
    outcome_of_gathered .namesToUsernames (Directory.shown_holding _ _) rfl none
  exact ⟨_, houtcome, hlisted _ houtcome⟩

end Contributors

end Picklists
