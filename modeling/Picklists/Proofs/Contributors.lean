import Picklists.Proofs.Exchange
import Picklists.Proofs.Gathering
import Picklists.Proofs.Roster

/-!
# What the listings of contributors hold

The listing of all names and the listing of names to login names, given the accounts of the
directory and the terms of the index.  An account counts if it is not hidden
(`Exclusion.Hides`).  The directory need not be reached if everyone is hidden.

* `Contributors.names_positions` : **the listing of all names**, for every window: of the strictly
  ascending enumeration of all labels and terms it holds exactly the names at the positions that the
  window shows (`Window.showsName`), each under itself.
* `Contributors.namesToUsernames_holds` : **the listing of names to login names**, without a window:
  its keys are the login names and the terms that belong to no account, each once; a login name
  stands for the label of one of its accounts and a term for itself.
-/

namespace Picklists

variable {σ : Type} {sources : Sources σ} {excluded : Exclusion} {accounts : List Account}
  {terms : List (List Text)} {link : σ}

/-- An index with some names of presenters, and a directory of four accounts: the label of the
second is its login name, and the last one is a guest. -/
def meeting (names : List Text) : Sources Unit :=
  .constant (.presenters names)
    [⟨"ann", some "Ann Lee", some "ldap", none, none⟩, ⟨"bob", some " ", none, none, none⟩,
      ⟨"carl", some "dora", none, none, none⟩, ⟨"eve", some "Eve", some "guest", none, none⟩]

/-- Guests are hidden. -/
def hiddenGuests : Exclusion := ⟨["guest"], List.pairwise_singleton ..⟩

/-! ### All names -/

/-- Whether a window shows the name at a position.  A limit of zero is no limit here. -/
def Window.showsName : Option Window → Nat → Bool
  | none, _ => true
  | some window, position =>
    window.offset.getD 0 ≤ position &&
      window.limit.all fun limit => limit = 0 || position < window.offset.getD 0 + limit

/-- The outcome of the listing of all names, once the directory and the index have answered. -/
theorem outcome_names
    (hdirectory : excluded.excludesAll = false → sources.directory = .holding accounts)
    (hterms : (fieldTerms sources Contributors.nameFields link).outcome = .ok terms)
    (window : Option Window) :
    (listContributors sources excluded .names window link).outcome =
      .ok (Contributors.names (Contributors.namesWithin window
        (Contributors.allNames (Contributors.visible excluded accounts) terms.flatten))) :=
  outcome_of_gathered .names (Directory.shown_of_holding hdirectory) hterms window

namespace Contributors

theorem namesWithin_eq_filter (window : Option Window) (names : List Text) :
    namesWithin window names =
      (names.zipIdx.filter fun place => Window.showsName window place.2).map (·.1) := by
  rw [namesWithin, Listing.cut_eq_filter]
  congr 2
  funext place
  rcases window with _ | ⟨offset, limit⟩
  · simp [Window.showsName]
  · cases limit with
    | none => simp [Window.showsName]
    | some limit => by_cases hlimit : limit = 0 <;> simp [Window.showsName, hlimit]

/-- Different names are listed as they are, each under itself. -/
theorem entries_names {shown : List Text} (h : shown.Nodup) :
    (names shown).entries = shown.map fun name => (name, name) := by
  refine Listing.entries_ofPairs_of_nodup ?_
  rw [List.map_map]
  simpa [Function.comp_def] using h

/-- **The listing of all names.** -/
theorem names_positions
    (hdirectory : excluded.excludesAll = false → sources.directory = .holding accounts)
    {listName : String} (husernames : ContributorsList.lookup listName ≠ .usernames)
    (hboth : ContributorsList.lookup listName ≠ .namesToUsernames)
    (hterms : (fieldTerms sources nameFields link).outcome = .ok terms) (window : Option Window) :
    let shown := accounts.filter fun account => ¬ excluded.Hides account
    ∃ all : List Text, all.Pairwise (· < ·) ∧
      (∀ name, name ∈ all ↔ name ∈ shown.map (·.label) ∨ name ∈ terms.flatten) ∧
      ∃ listing, ((Provider.contributors excluded).list sources listName window link).outcome =
          .ok listing ∧
        listing.entries =
          (all.zipIdx.filter fun place => Window.showsName window place.2).map
            fun place => (place.1, place.1) := by
  intro shown
  have hlist : ContributorsList.lookup listName = .names := by
    cases hlookup : ContributorsList.lookup listName with
    | names => rfl
    | usernames => exact absurd hlookup husernames
    | namesToUsernames => exact absurd hlookup hboth
  let all := allNames shown terms.flatten
  have hwithin : (namesWithin window all).Nodup :=
    (nodup_ascending _).sublist (Listing.cut_sublist ..)
  refine ⟨all, pairwise_ascending _, fun name => ?_, names (namesWithin window all), ?_, ?_⟩
  · exact mem_ascending.trans List.mem_append
  · rw [Provider.list, hlist, outcome_names hdirectory hterms, visible_eq_filter]
  · rw [entries_names hwithin, namesWithin_eq_filter, List.map_map]
    rfl

/-- A window with limit zero leaves only the first name out.  The account whose display name is
blank counts under its login name. -/
theorem names_positions_limit_zero :
    ∃ listing, ((Provider.contributors hiddenGuests).list (meeting ["zoe", "dora", "zoe"])
        "CONTRIBUTORS.OF.ALL.KINDS" (some ⟨some 1, some 0⟩) ()).outcome = .ok listing ∧
      ∃ all : List Text, all.Pairwise (· < ·) ∧ ("zoe" : Text) ∈ all ∧ ("dora" : Text) ∈ all ∧
        ("bob" : Text) ∈ all ∧ (" " : Text) ∉ all ∧ ("Eve" : Text) ∉ all ∧
        listing.entries = (all.zipIdx.filter fun place => 1 ≤ place.2).map
          fun place => (place.1, place.1) := by
  have hterms : (fieldTerms (meeting ["zoe", "dora", "zoe"]) nameFields ()).outcome =
      .ok [[], ["zoe", "dora", "zoe"], [], [], [], []] := rfl
  have hname : ContributorsList.lookup "CONTRIBUTORS.OF.ALL.KINDS" ≠ .usernames := by decide
  obtain ⟨all, hascending, hall, listing, houtcome, hentries⟩ :=
    names_positions (fun _ => rfl) hname (by decide) hterms (some ⟨some 1, some 0⟩)
  have hbob : Account.label ⟨"bob", some " ", none, none, none⟩ = "bob" :=
    Account.label_of_blank (by decide)
  refine ⟨listing, houtcome, all, hascending, (hall _).2 ?_, (hall _).2 ?_,
    (hall _).2 (Or.inl (List.mem_map.2 ⟨_, ?_, hbob⟩)), mt (hall _).1 ?_, mt (hall _).1 ?_, ?_⟩
  · decide
  · decide
  · decide
  · decide
  · decide
  · simpa [Window.showsName] using hentries

end Contributors

/-! ### Names to login names -/

/-- The outcome of the listing of names to login names, once the directory and the index have
answered. -/
theorem outcome_namesToUsernames
    (hdirectory : excluded.excludesAll = false → sources.directory = .holding accounts)
    (hterms : (fieldTerms sources Contributors.presenterFields link).outcome = .ok terms)
    (window : Option Window) :
    (listContributors sources excluded .namesToUsernames window link).outcome =
      match (Contributors.namesToUsernames (Contributors.visible excluded accounts) terms).select
        window with
      | .ok selection => .ok selection.listing
      | .error fault => .error (.window fault) :=
  outcome_of_gathered .namesToUsernames (Directory.shown_of_holding hdirectory) hterms window

namespace Contributors

theorem mem_keys_namesToUsernames {accounts : List Account} {terms : List (List Text)}
    {key : Text} :
    key ∈ (namesToUsernames accounts terms).keys ↔
      key ∈ accounts.map (·.username) ∨
        key ∈ terms.flatten ∧ key ∉ accounts.map (·.label) ∧ key ∉ accounts.map (·.username) := by
  rw [namesToUsernames_eq, mem_keys_byLabel, ← mem_unclaimed]
  simp only [List.mem_append, List.mem_map, or_and_right, exists_or]
  simp [ofAccount, Contributor.ofName]

/-- An entry is that of an account, or that of a term that belongs to no account. -/
theorem mem_namesToUsernames {accounts : List Account} {terms : List (List Text)}
    {key label : Text} (h : (key, label) ∈ (namesToUsernames accounts terms).entries) :
    (∃ account ∈ accounts, account.username = key ∧ account.label = label) ∨
      label = key ∧ key ∉ accounts.map (·.label) ∧ key ∉ accounts.map (·.username) := by
  rw [namesToUsernames_eq] at h
  rcases List.mem_append.1 (mem_byLabel.1 h).1 with hof | hof
  · obtain ⟨account, haccount, heq⟩ := List.mem_map.1 hof
    cases heq
    exact Or.inl ⟨account, haccount, rfl, rfl⟩
  · obtain ⟨term, hterm, heq⟩ := List.mem_map.1 hof
    cases heq
    exact Or.inr ⟨rfl, (mem_unclaimed.1 hterm).2⟩

/-- **The listing of names to login names.** -/
theorem namesToUsernames_holds
    (hdirectory : excluded.excludesAll = false → sources.directory = .holding accounts)
    {listName : String} (hlist : ContributorsList.lookup listName = .namesToUsernames)
    (hterms : (fieldTerms sources presenterFields link).outcome = .ok terms) {window : Option Window}
    (hwindow : ∀ bounds ∈ window, bounds.isBounded = false) :
    let shown := accounts.filter fun account => ¬ excluded.Hides account
    let usernames := shown.map (·.username)
    let labels := shown.map (·.label)
    ∃ listing, ((Provider.contributors excluded).list sources listName window link).outcome =
        .ok listing ∧
      listing.keys.Nodup ∧
      (∀ key, key ∈ listing.keys ↔
        key ∈ usernames ∨ key ∈ terms.flatten ∧ key ∉ labels ∧ key ∉ usernames) ∧
      (∀ username ∈ usernames, ∃ account ∈ shown, account.username = username ∧
        (username, account.label) ∈ listing.entries) ∧
      (∀ term ∈ terms.flatten, term ∉ labels → term ∉ usernames →
        (term, term) ∈ listing.entries) ∧
      ∀ term, term ∈ labels ∨ term ∈ usernames → ∀ label, (term, label) ∈ listing.entries →
        ∃ account ∈ shown, account.username = term ∧ account.label = label := by
  intro shown usernames labels
  let listing := namesToUsernames shown terms
  -- the entry of every key is known, since keys with and without an account do not overlap
  have hentry : ∀ key ∈ listing.keys, ∃ label, (key, label) ∈ listing.entries ∧
      ((∃ account ∈ shown, account.username = key ∧ account.label = label) ∨
        label = key ∧ key ∉ labels ∧ key ∉ usernames) := by
    intro key hkey
    obtain ⟨label, hlabel⟩ := Listing.mem_keys.1 hkey
    exact ⟨label, hlabel, mem_namesToUsernames hlabel⟩
  refine ⟨listing, ?_, listing.nodup, fun key => mem_keys_namesToUsernames, ?_, ?_, ?_⟩
  · rw [Provider.list, hlist, outcome_namesToUsernames hdirectory hterms, visible_eq_filter,
      Listing.select_unbounded _ hwindow]
    rfl
  · intro username husername
    obtain ⟨label, hlabel, hcase⟩ :=
      hentry username (mem_keys_namesToUsernames.2 (Or.inl husername))
    rcases hcase with ⟨account, haccount, hname, rfl⟩ | ⟨-, -, hfree⟩
    · exact ⟨account, haccount, hname, hlabel⟩
    · exact absurd husername hfree
  · intro term hterm hlabels husernames
    obtain ⟨label, hlabel, hcase⟩ :=
      hentry term (mem_keys_namesToUsernames.2 (Or.inr ⟨hterm, hlabels, husernames⟩))
    rcases hcase with ⟨account, haccount, rfl, -⟩ | ⟨rfl, -, -⟩
    · exact absurd (List.mem_map_of_mem haccount) husernames
    · exact hlabel
  · intro term hclaimed label hlabel
    rcases mem_namesToUsernames hlabel with haccount | ⟨-, hlabels, husernames⟩
    · exact haccount
    · exact absurd hclaimed (not_or.2 ⟨hlabels, husernames⟩)

/-- A name that meets the label of an account gets no entry, one that meets a hidden account gets
its own. -/
theorem namesToUsernames_holds_meeting :
    let sources := meeting ["zoe", "dora", "eve", "zoe"]
    (fieldTerms sources presenterFields ()).outcome =
        .ok [["zoe", "dora", "eve", "zoe"], [], [], [], []] ∧
      ∃ listing, ((Provider.contributors hiddenGuests).list sources
          "contributors.names.to.usernames" (some ⟨none, none⟩) ()).outcome = .ok listing ∧
        (("zoe", "zoe") : Text × Text) ∈ listing.entries ∧
        (("eve", "eve") : Text × Text) ∈ listing.entries ∧ ("dora" : Text) ∉ listing.keys := by
  intro sources
  have hterms : (fieldTerms sources presenterFields ()).outcome =
      .ok [["zoe", "dora", "eve", "zoe"], [], [], [], []] := rfl
  have hlist : ContributorsList.lookup "contributors.names.to.usernames" = .namesToUsernames := by
    decide
  have hwindow : ∀ bounds ∈ some (⟨none, none⟩ : Window), bounds.isBounded = false := by
    rintro bounds ⟨⟩
    rfl
  obtain ⟨listing, houtcome, -, hkeys, -, hown, -⟩ :=
    namesToUsernames_holds (fun _ => rfl) hlist hterms hwindow
  refine ⟨hterms, listing, houtcome, hown "zoe" ?_ ?_ ?_, hown "eve" ?_ ?_ ?_, mt (hkeys _).1 ?_⟩
  all_goals decide

end Contributors

end Picklists
