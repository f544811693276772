import Picklists.Proofs.Contributors

/-!
# Labels

Which labels the listings of login names show, and in which order.  Accounts may share a login name,
and then one entry stands for all of them.

* `Contributors.labels_ascending` : **the labels of a listing ascend** within every window, if
  accounts that share a login name share their label.  Else they need not
  (`Contributors.labels_descending`).
* `Contributors.names_kept_iff` : **which names a listing keeps**: a label if it is the greatest one
  of a login name, and a term unless it is lost as a label (`Contributors.name_lost`).
-/

namespace Picklists

variable {σ : Type} {sources : Sources σ} {excluded : Exclusion} {accounts : List Account}
  {terms : List (List Text)} {link : σ}

/-- Three accounts, two of them with one login name, each kept by a provider of its own. -/
def homonyms : List Account :=
  [⟨"ann", some "Adams", some "ldap", none, none⟩, ⟨"bob", some "Baker", none, none, none⟩,
    ⟨"ann", some "Clark", some "jpa", none, none⟩]

/-- The accounts of one of the two providers are hidden. -/
def hiddenHomonyms : Exclusion := ⟨["jpa"], List.pairwise_singleton ..⟩

namespace Contributors

/-! ### The order of labels -/

/-- A term that belongs to no account is not the login name of one. -/
theorem username_ne_of_mem_unclaimed {terms : List Text} {account : Account} {term : Text}
    (haccount : account ∈ accounts) (hterm : term ∈ unclaimed accounts terms) :
    account.username ≠ term := by
  rintro rfl
  exact (mem_unclaimed.1 hterm).2.2 (List.mem_map_of_mem haccount)

/-- Among accounts and the terms that belong to none of them, the key determines the label if the
login name of an account does. -/
theorem label_eq_of_key_eq {terms : List Text}
    (hlogin : ∀ a ∈ accounts, ∀ b ∈ accounts, a.username = b.username → a.label = b.label) :
    ∀ a ∈ accounts.map ofAccount ++ (unclaimed accounts terms).map .ofName,
      ∀ b ∈ accounts.map ofAccount ++ (unclaimed accounts terms).map .ofName,
        a.key = b.key → a.label = b.label := by
  intro a ha b hb hkey
  simp only [List.mem_append, List.mem_map] at ha hb
  rcases ha with ⟨account, haccount, rfl⟩ | ⟨term, hterm, rfl⟩
  · rcases hb with ⟨other, hother, rfl⟩ | ⟨term, hterm, rfl⟩
    · exact hlogin account haccount other hother hkey
    · exact absurd hkey (username_ne_of_mem_unclaimed haccount hterm)
  · rcases hb with ⟨account, haccount, rfl⟩ | ⟨other, -, rfl⟩
    · exact absurd hkey.symm (username_ne_of_mem_unclaimed haccount hterm)
    · exact hkey

/-- A window leaves the labels of a listing in their order. -/
theorem pairwise_labels_within {listing part : Listing} {window : Option Window}
    (h : listing.within window = .ok part) (hlabels : listing.labels.Pairwise (· ≤ ·)) :
    part.labels.Pairwise (· ≤ ·) :=
  hlabels.sublist ((Listing.within_sublist h).map _)

/-- **The labels of a listing ascend**, if accounts that share a login name share their label. -/
theorem labels_ascending
    (hdirectory : excluded.excludesAll = false → sources.directory = .holding accounts)
    (hlogin : ∀ a ∈ accounts, ∀ b ∈ accounts, ¬ excluded.Hides a → ¬ excluded.Hides b →
      a.username = b.username → a.label = b.label)
    {listName : String} (hlist : ContributorsList.lookup listName ≠ .names)
    {window : Option Window} {listing : Listing}
    (houtcome : ((Provider.contributors excluded).list sources listName window link).outcome =
      .ok listing) :
    listing.labels.Pairwise (· ≤ ·) := by
  obtain ⟨shown, terms, hshown, -, hlisting⟩ := outcome_eq_ok_iff.1 houtcome
  obtain rfl := Except.ok.inj ((Directory.shown_of_holding hdirectory).symm.trans hshown)
  have hshownLogin : ∀ a ∈ visible excluded accounts, ∀ b ∈ visible excluded accounts,
      a.username = b.username → a.label = b.label := by
    intro a ha b hb
    rw [mem_visible] at ha hb
    exact hlogin a ha.1 b hb.1 ha.2 hb.2
  cases hkind : ContributorsList.lookup listName with
  | names => exact absurd hkind hlist
  | usernames =>
    rw [hkind] at hlisting
    refine pairwise_labels_within hlisting (pairwise_labels_byLabel fun a ha b hb hkey => ?_)
    obtain ⟨account, haccount, rfl⟩ := List.mem_map.1 ha
    obtain ⟨other, hother, rfl⟩ := List.mem_map.1 hb
    exact hshownLogin account haccount other hother hkey
  | namesToUsernames =>
    rw [hkind] at hlisting
    refine pairwise_labels_within hlisting ?_
    rw [namesToUsernames_eq]
    exact pairwise_labels_byLabel (label_eq_of_key_eq hshownLogin)

/-- Accounts that share a login name do not disturb the order if one of them is hidden. -/
theorem labels_ascending_hidden :
    let sources := Sources.constant (.presenters ["Dora", "Adams", "Clark"]) homonyms
    ∃ listing, ((Provider.contributors hiddenHomonyms).list sources
        "CONTRIBUTORS.NAMES.TO.USERNAMES" (some ⟨some 1, some 2⟩) ()).outcome = .ok listing ∧
      listing.labels.Pairwise (· ≤ ·) := by
  intro sources
  obtain ⟨listing, hwithin, -⟩ := Listing.within_of_fits
    (namesToUsernames (visible hiddenHomonyms homonyms)
      [["Dora", "Adams", "Clark"], [], [], [], []])
    (show (⟨some 1, some 2⟩ : Window).Fits by decide)
  have houtcome : ((Provider.contributors hiddenHomonyms).list sources
      "CONTRIBUTORS.NAMES.TO.USERNAMES" (some ⟨some 1, some 2⟩) ()).outcome = .ok listing :=
    outcome_eq_ok_iff.2 ⟨_, _, Directory.shown_holding _ _, rfl, hwithin⟩
  refine ⟨listing, houtcome, labels_ascending (fun _ => rfl) ?_ ?_ houtcome⟩
  · decide
  · decide

/-- A login name that is placed by the lesser of its labels and shows the greater one. -/
theorem labels_descending :
    ∃ listing, ((Provider.contributors .empty).list (.constant (.presenters []) homonyms)
        "CONTRIBUTORS.USERNAMES" none ()).outcome = .ok listing ∧
      ¬ listing.labels.Pairwise (· ≤ ·) := by
  refine ⟨userNames homonyms, ?_, ?_⟩
  · exact outcome_of_gathered .usernames (Directory.shown_holding _ _) rfl none
  · have hadams : (⟨"ann", "Adams"⟩ : Contributor) ∈ homonyms.map ofAccount := by decide
    have hbaker : (⟨"bob", "Baker"⟩ : Contributor) ∈ homonyms.map ofAccount := by decide
    have hclark : (⟨"ann", "Clark"⟩ : Contributor) ∈ homonyms.map ofAccount := by decide
    exact not_pairwise_labels_byLabel hadams hbaker hclark rfl (by decide) (by decide)

/-! ### The names that are kept -/

/-- No other account of the same login name has a greater label. -/
def Leads (accounts : List Account) (account : Account) : Prop :=
  ∀ other ∈ accounts, other.username = account.username → other.label ≤ account.label

instance (accounts : List Account) : DecidablePred (Leads accounts) := fun account =>
  inferInstanceAs (Decidable
    (∀ other ∈ accounts, other.username = account.username → other.label ≤ account.label))

/-- **The labels of a listing of names to login names**: the greatest label of every login name, and
the terms that belong to no account. -/
theorem mem_labels_namesToUsernames {label : Text} :
    label ∈ (namesToUsernames accounts terms).labels ↔
      (∃ account ∈ accounts, Leads accounts account ∧ account.label = label) ∨
        label ∈ unclaimed accounts terms.flatten := by
  simp only [Listing.labels, List.mem_map, Prod.exists, exists_eq_right, namesToUsernames_eq,
    mem_byLabel, List.mem_append]
  constructor
  · rintro ⟨key, ⟨account, haccount, heq⟩ | ⟨term, hterm, heq⟩, hgreatest⟩
    · cases heq
      refine Or.inl ⟨account, haccount, fun other hother husername => ?_, rfl⟩
      exact hgreatest (ofAccount other) (Or.inl ⟨other, hother, rfl⟩) husername
    · cases heq
      exact Or.inr hterm
  · rintro (⟨account, haccount, hleads, rfl⟩ | hterm)
    · refine ⟨account.username, Or.inl ⟨account, haccount, rfl⟩, ?_⟩
      rintro contributor (⟨other, hother, rfl⟩ | ⟨term, hterm, rfl⟩) hkey
      · exact hleads other hother hkey
      · exact absurd hkey.symm (username_ne_of_mem_unclaimed haccount hterm)
    · refine ⟨label, Or.inr ⟨label, hterm, rfl⟩, ?_⟩
      rintro contributor (⟨other, hother, rfl⟩ | ⟨term, -, rfl⟩) hkey
      · exact absurd hkey (username_ne_of_mem_unclaimed hother hterm)
      · exact hkey ▸ Std.le_refl _

/-- **Which names a listing keeps.** -/
theorem names_kept_iff
    (hdirectory : excluded.excludesAll = false → sources.directory = .holding accounts)
    {listName : String} (hlist : ContributorsList.lookup listName = .namesToUsernames)
    (hterms : (fieldTerms sources presenterFields link).outcome = .ok terms) {window : Option Window}
    (hwindow : ∀ bounds ∈ window, bounds.isBounded = false) :
    let shown := accounts.filter fun account => ¬ excluded.Hides account
    ∃ listing, ((Provider.contributors excluded).list sources listName window link).outcome =
        .ok listing ∧
      (∀ account ∈ shown, account.label ∈ listing.labels ↔
        ∃ other ∈ shown, Leads shown other ∧ other.label = account.label) ∧
      ∀ term ∈ terms.flatten, term ∈ listing.keys ∨ term ∈ listing.labels ↔
        (term ∈ shown.map (·.label) → term ∈ shown.map (·.username) ∨
          ∃ other ∈ shown, Leads shown other ∧ other.label = term) := by
  intro shown
  refine ⟨namesToUsernames shown terms, ?_, fun account haccount => ?_, fun term hterm => ?_⟩
  · rw [Provider.list, hlist, outcome_namesToUsernames hdirectory hterms, visible_eq_filter,
      Listing.select_unbounded _ hwindow]
    rfl
  · rw [mem_labels_namesToUsernames]
    refine or_iff_left fun hfree => ?_
    exact (mem_unclaimed.1 hfree).2.1 (List.mem_map_of_mem haccount)
  · rw [mem_keys_namesToUsernames, mem_labels_namesToUsernames, mem_unclaimed]
    constructor
    · rintro ((husername | ⟨-, hfree, -⟩) | hkept | ⟨-, hfree, -⟩) hlabel
      · exact Or.inl husername
      · exact absurd hlabel hfree
      · exact Or.inr hkept
      · exact absurd hlabel hfree
    · intro h
      by_cases hlabel : term ∈ shown.map (·.label)
      · exact (h hlabel).imp Or.inl Or.inl
      · by_cases husername : term ∈ shown.map (·.username)
        · exact Or.inl (Or.inl husername)
        · exact Or.inl (Or.inr ⟨hterm, hlabel, husername⟩)

/-- Of two labels of one login name the greater one is kept.  A term that is no label is kept. -/
theorem names_kept_iff_homonyms :
    let sources := Sources.constant (.presenters ["Dora", "Adams", "Clark"]) homonyms
    ∃ listing, ((Provider.contributors .empty).list sources "CONTRIBUTORS.NAMES.TO.USERNAMES" none
        ()).outcome = .ok listing ∧
      ("Clark" : Text) ∈ listing.labels ∧ ("Adams" : Text) ∉ listing.labels ∧
      (("Dora" : Text) ∈ listing.keys ∨ ("Dora" : Text) ∈ listing.labels) := by
  intro sources
  have hterms : (fieldTerms sources presenterFields ()).outcome =
      .ok [["Dora", "Adams", "Clark"], [], [], [], []] := rfl
  have hlist : ContributorsList.lookup "CONTRIBUTORS.NAMES.TO.USERNAMES" = .namesToUsernames := by
    decide
  have hdirectory : Exclusion.empty.excludesAll = false → sources.directory = .holding homonyms :=
    fun _ => rfl
  have hwindow : ∀ bounds ∈ (none : Option Window), bounds.isBounded = false := by simp
  obtain ⟨listing, houtcome, hlabels, hkept⟩ := names_kept_iff hdirectory hlist hterms hwindow
  refine ⟨listing, houtcome, ?_, ?_, (hkept "Dora" ?_).2 ?_⟩
  · exact (hlabels ⟨"ann", some "Clark", some "jpa", none, none⟩ (by decide)).2 (by decide)
  · exact mt (hlabels ⟨"ann", some "Adams", some "ldap", none, none⟩ (by decide)).1 (by decide)
  · decide
  · decide

/-- A term that is the label of an account is lost together with the label. -/
theorem name_lost :
    let sources := Sources.constant (.presenters ["Adams"]) homonyms
    (fieldTerms sources presenterFields ()).outcome = .ok [["Adams"], [], [], [], []] ∧
      ∃ listing, ((Provider.contributors .empty).list sources "CONTRIBUTORS.NAMES.TO.USERNAMES" none
          ()).outcome = .ok listing ∧
        ("Adams" : Text) ∉ listing.keys ∧ ("Adams" : Text) ∉ listing.labels := by
  intro sources
  refine ⟨rfl, namesToUsernames homonyms [["Adams"], [], [], [], []], ?_, ?_, ?_⟩
  · exact outcome_eq_ok_iff.2 ⟨_, _, Directory.shown_holding _ _, rfl, rfl⟩
  · rw [mem_keys_namesToUsernames]
    decide
  · rw [mem_labels_namesToUsernames, mem_unclaimed]
    decide

end Contributors

end Picklists
