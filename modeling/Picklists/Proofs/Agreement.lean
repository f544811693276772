import Picklists.Proofs.Labels

/-!
# How the listings of contributors agree

The three listings are put together in three ways from the same accounts and terms.  Without a
window they tell the same of an account and of a term.

* `Sources.Answers` : an index that always answers with the same terms for a field.
* `Contributors.filter_namesToUsernames` : names of the index neither move the entries of accounts
  nor change their labels.
* `Contributors.listings_agree` : **the three listings agree**: the listing of login names is the
  part of the listing of names to login names that belongs to accounts, and every other entry of the
  latter, like every label, is a name in the listing of all names.
-/

namespace Picklists

variable {σ : Type} {sources : Sources σ} {excluded : Exclusion} {accounts : List Account}
  {terms : List (List Text)}

/-! ### An index that does not change its answers -/

/-- The index answers with the same terms for a field whenever it is asked. -/
def Sources.Answers (sources : Sources σ) (answer : IndexField → List Text) : Prop :=
  ∀ asked ∈ Contributors.nameFields, ∀ link,
    (sources.index.terms sources.transport asked.field asked.documentType link).outcome =
      .ok (answer asked)

theorem Sources.Answers.outcome_fieldTerms {answer : IndexField → List Text}
    (h : sources.Answers answer) {fields : List IndexField}
    (hfields : fields ⊆ Contributors.nameFields) (link : σ) :
    (fieldTerms sources fields link).outcome = .ok (fields.map answer) :=
  Action.outcome_forEach (fun asked hasked => h asked (hfields hasked)) link

theorem Contributors.presenterFields_subset_nameFields : presenterFields ⊆ nameFields := by decide

/-! ### The listings without a window -/

/-- A window without bounds makes no difference. -/
theorem ContributorsList.assemble_unbounded (list : ContributorsList) {window : Option Window}
    (h : ∀ bounds ∈ window, bounds.isBounded = false) (accounts : List Account)
    (terms : List (List Text)) :
    list.assemble window accounts terms = list.assemble none accounts terms := by
  cases window with
  | none => rfl
  | some bounds =>
    have hbounds := h bounds rfl
    obtain ⟨_ | offset, _ | limit⟩ := bounds
    · cases list <;> rfl
    all_goals cases hbounds

namespace Contributors

theorem mem_keys_names {shown : List Text} {name : Text} :
    name ∈ (names shown).keys ↔ name ∈ shown := by
  rw [names, Listing.keys_ofPairs, mem_distinct, List.map_map]
  simp

theorem mem_keys_allNames {name : Text} :
    name ∈ (names (allNames accounts terms.flatten)).keys ↔
      name ∈ accounts.map (·.label) ∨ name ∈ terms.flatten := by
  rw [mem_keys_names, allNames, mem_ascending, List.mem_append]

/-- **Names of the index do not interfere with accounts**: the entries of the login names are those
of the listing of login names, in its order. -/
theorem filter_namesToUsernames (accounts : List Account) (terms : List (List Text)) :
    (namesToUsernames accounts terms).entries.filter
        (fun entry => entry.1 ∈ accounts.map (·.username)) =
      (userNames accounts).entries := by
  have haccounts : (accounts.map ofAccount).filter
      (fun contributor => contributor.key ∈ accounts.map (·.username)) =
        accounts.map ofAccount := by
    refine List.filter_eq_self.2 fun contributor hcontributor => ?_
    obtain ⟨account, haccount, rfl⟩ := List.mem_map.1 hcontributor
    exact decide_eq_true (List.mem_map_of_mem haccount)
  have hterms : ((unclaimed accounts terms.flatten).map Contributor.ofName).filter
      (fun contributor => contributor.key ∈ accounts.map (·.username)) = [] := by
    refine List.filter_eq_nil_iff.2 fun contributor hcontributor => ?_
    obtain ⟨term, hterm, rfl⟩ := List.mem_map.1 hcontributor
    exact fun hmem => (mem_unclaimed.1 hterm).2.2 (of_decide_eq_true hmem)
  rw [namesToUsernames_eq,
    filter_byLabel _ fun key => decide (key ∈ accounts.map (·.username)), List.filter_append,
    haccounts, hterms, List.append_nil, userNames]

/-- Whatever an entry of the listing of names to login names shows is the label of an account or a
term. -/
theorem mem_labels_or_mem_terms {key label : Text}
    (h : (key, label) ∈ (namesToUsernames accounts terms).entries) :
    label ∈ accounts.map (·.label) ∨ label ∈ terms.flatten := by
  rw [namesToUsernames_eq] at h
  rcases List.mem_append.1 (mem_byLabel.1 h).1 with hof | hof
  · obtain ⟨account, haccount, heq⟩ := List.mem_map.1 hof
    cases heq
    exact Or.inl (List.mem_map_of_mem haccount)
  · obtain ⟨term, hterm, heq⟩ := List.mem_map.1 hof
    cases heq
    exact Or.inr (mem_unclaimed.1 hterm).1

/-- An entry that belongs to no account shows a term under itself. -/
theorem own_of_not_mem_usernames {key label : Text}
    (h : (key, label) ∈ (namesToUsernames accounts terms).entries)
    (hkey : key ∉ accounts.map (·.username)) : label = key ∧ key ∈ terms.flatten := by
  constructor
  · rcases mem_namesToUsernames h with ⟨account, haccount, rfl, -⟩ | ⟨hown, -, -⟩
    · exact absurd (List.mem_map_of_mem haccount) hkey
    · exact hown
  · rcases mem_keys_namesToUsernames.1 (Listing.mem_keys.2 ⟨label, h⟩) with hof | hof
    · exact absurd hof hkey
    · exact hof.1

/-- A listing without a window is put together from the accounts that are not hidden and the terms
that the index answers with. -/
theorem outcome_unbounded
    (hdirectory : excluded.excludesAll = false → sources.directory = .holding accounts)
    {answer : IndexField → List Text} (hanswers : sources.Answers answer) {window : Option Window}
    (hwindow : ∀ bounds ∈ window, bounds.isBounded = false) (list : ContributorsList)
    (hfields : list.fields ⊆ nameFields) (link : σ) :
    ((Provider.contributors excluded).list sources list.listName window link).outcome =
      list.assemble none (accounts.filter fun account => ¬ excluded.Hides account)
        (list.fields.map answer) := by
  have hname : ContributorsList.lookup list.listName = list := by cases list <;> decide
  have hshown := Directory.shown_of_holding hdirectory
  rw [visible_eq_filter] at hshown
  rw [Provider.list, hname,
    outcome_of_gathered list hshown (hanswers.outcome_fieldTerms hfields link),
    list.assemble_unbounded hwindow]

/-- **The three listings agree.** -/
theorem listings_agree
    (hdirectory : excluded.excludesAll = false → sources.directory = .holding accounts)
    {answer : IndexField → List Text} (hanswers : sources.Answers answer) {window : Option Window}
    (hwindow : ∀ bounds ∈ window, bounds.isBounded = false) :
    let shown := accounts.filter fun account => ¬ excluded.Hides account
    let usernames := shown.map (·.username)
    let Gives (list : ContributorsList) (listing : Listing) : Prop :=
      ∀ link, ((Provider.contributors excluded).list sources list.listName window link).outcome =
        .ok listing
    ∃ all users both : Listing,
      Gives .names all ∧ Gives .usernames users ∧ Gives .namesToUsernames both ∧
      users.entries = both.entries.filter (fun entry => entry.1 ∈ usernames) ∧
      (∀ label, label ∈ users.labels ∨ label ∈ both.labels → label ∈ all.keys) ∧
      ∀ key label, (key, label) ∈ both.entries → key ∉ usernames →
        label = key ∧ (∃ asked ∈ presenterFields, key ∈ answer asked) ∧ key ∈ all.keys := by
  intro shown usernames Gives
  have houtcome := outcome_unbounded hdirectory hanswers hwindow
  let given := presenterFields.map answer
  let all := names (allNames shown (nameFields.map answer).flatten)
  have hgiven : ∀ term ∈ given.flatten, term ∈ (nameFields.map answer).flatten := by
    intro term hterm
    rw [List.mem_flatten] at hterm ⊢
    obtain ⟨found, hfound, hterm⟩ := hterm
    exact ⟨found, List.map_subset answer presenterFields_subset_nameFields hfound, hterm⟩
  have hlabels : ∀ label ∈ (namesToUsernames shown given).labels, label ∈ all.keys := by
    intro label hlabel
    obtain ⟨⟨key, shows⟩, hentry, rfl⟩ := List.mem_map.1 hlabel
    exact mem_keys_allNames.2 ((mem_labels_or_mem_terms hentry).imp_right (hgiven shows))
  have hpart := filter_namesToUsernames shown given
  refine ⟨all, userNames shown, namesToUsernames shown given,
    houtcome .names (List.Subset.refl _), houtcome .usernames (List.nil_subset _),
    houtcome .namesToUsernames presenterFields_subset_nameFields, hpart.symm, ?_, ?_⟩
  · rintro label (hlabel | hlabel)
    · -- a label of the part is a label of the whole
      rw [Listing.labels, ← hpart] at hlabel
      exact hlabels label ((List.filter_sublist.map _).subset hlabel)
    · exact hlabels label hlabel
  · intro key label hentry hkey
    obtain ⟨hown, hterm⟩ := own_of_not_mem_usernames hentry hkey
    obtain ⟨found, hfound, hmem⟩ := List.mem_flatten.1 hterm
    obtain ⟨asked, hasked, rfl⟩ := List.mem_map.1 hfound
    exact ⟨hown, ⟨asked, hasked, hmem⟩, mem_keys_allNames.2 (Or.inr (hgiven key hterm))⟩

/-- Accounts that share a login name, and a term that is the label of one of them. -/
theorem listings_agree_homonyms :
    let list := (Provider.contributors .empty).list
      (.constant (.presenters ["Dora", "Baker"]) homonyms)
    ∃ all users both : Listing,
      (list "CONTRIBUTORS" none ()).outcome = .ok all ∧
      (list "CONTRIBUTORS.USERNAMES" none ()).outcome = .ok users ∧
      (list "CONTRIBUTORS.NAMES.TO.USERNAMES" none ()).outcome = .ok both ∧
      users.entries = both.entries.filter
        (fun entry => entry.1 ∈ (["ann", "bob", "ann"] : List Text)) ∧
      (∀ label ∈ both.labels, label ∈ all.keys) ∧
      ∀ label, (("Dora", label) : Text × Text) ∈ both.entries → label = "Dora" := by
  intro list
  have hanswers : (Sources.constant (.presenters ["Dora", "Baker"]) homonyms).Answers fun asked =>
      if asked.field = "presenter" then ["Dora", "Baker"] else [] := by
    rintro asked hasked ⟨⟩
    revert asked
    decide
  have hdirectory : Exclusion.empty.excludesAll = false →
      (Sources.constant (.presenters ["Dora", "Baker"]) homonyms).directory =
        .holding homonyms := fun _ => rfl
  have hwindow : ∀ bounds ∈ (none : Option Window), bounds.isBounded = false := by simp
  obtain ⟨all, users, both, hall, husers, hboth, hpart, hlabels, hrest⟩ :=
    listings_agree hdirectory hanswers hwindow
  refine ⟨all, users, both, hall (), husers (), hboth (), hpart, fun label hlabel =>
    hlabels label (Or.inr hlabel), fun label hlabel => (hrest "Dora" label hlabel ?_).1⟩
  decide

end Contributors

end Picklists
