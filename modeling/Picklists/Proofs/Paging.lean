import Picklists.Proofs.Contributors

/-!
# Pages of a listing

How a listing of contributors within a window compares with the whole one.  The accounts and the
terms are gathered anew for every listing, but the window is only looked at when they are there.

* `ContributorsList.Takes` : the windows that a listing takes.
* `ContributorsList.assemble_some` : **a window that is taken leaves the entries at its positions**,
  and any other one is refused.
* `Contributors.list_within_window` : **the listing within a window is the part of the whole listing
  that the window names**, for every window but those with limit zero.
-/

namespace Picklists

variable {σ : Type} {sources : Sources σ} {excluded : Exclusion} {link : σ}

/-! ### Names within a window -/

namespace Contributors

/-- All names, without a window. -/
theorem namesWithin_none (names : List Text) : namesWithin none names = names := rfl

/-- The names within a window whose limit is not zero. -/
theorem namesWithin_some {window : Window} (h : window.limit ≠ some 0) (names : List Text) :
    namesWithin (some window) names =
      Listing.cut (window.offset.getD 0) window.limit names := by
  obtain ⟨offset, limit⟩ := window
  cases limit with
  | none => rfl
  | some limit =>
    have hlimit : limit ≠ 0 := fun hzero => h (congrArg some hzero)
    simp [namesWithin, hlimit]

end Contributors

/-! ### Listings within a window -/

/-- The windows that a listing takes: the list of all names takes every window, and the other ones
take those that fit. -/
def ContributorsList.Takes (list : ContributorsList) (window : Window) : Prop :=
  list = .names ∨ window.Fits

/-- **A window that is taken leaves the entries at its positions.** -/
theorem ContributorsList.assemble_some {list : ContributorsList} {window : Window}
    (hlimit : window.limit ≠ some 0) {accounts : List Account} {terms : List (List Text)}
    {whole : Listing} (hwhole : list.assemble none accounts terms = .ok whole) :
    (list.Takes window → ∃ part, list.assemble (some window) accounts terms = .ok part ∧
      part.entries = Listing.cut (window.offset.getD 0) window.limit whole.entries) ∧
    (¬ list.Takes window →
      list.assemble (some window) accounts terms = .error (.window window.fault)) := by
  cases list with
  | names =>
    cases hwhole
    refine ⟨fun _ => ⟨_, rfl, ?_⟩, fun hrefused => absurd (Or.inl rfl) hrefused⟩
    have hnodup : (Contributors.allNames accounts terms.flatten).Nodup := nodup_ascending _
    rw [Contributors.namesWithin_some hlimit, Contributors.namesWithin_none,
      Contributors.entries_names hnodup,
      Contributors.entries_names (hnodup.sublist (Listing.cut_sublist ..)), Listing.cut_map]
  | usernames | namesToUsernames =>
    cases hwhole
    refine ⟨fun htakes => ?_, fun hrefused => ?_⟩
    · exact Listing.within_of_fits _ (htakes.resolve_left (by simp))
    · exact Listing.within_of_not_fits _ fun hfits => hrefused (Or.inr hfits)

namespace Contributors

/-- **The listing within a window.** -/
theorem list_within_window {listName : String} {window : Window} (hlimit : window.limit ≠ some 0)
    {whole : Listing}
    (hwhole : ((Provider.contributors excluded).list sources listName none link).outcome =
      .ok whole) :
    let outcome :=
      ((Provider.contributors excluded).list sources listName (some window) link).outcome
    ((ContributorsList.lookup listName).Takes window → ∃ part, outcome = .ok part ∧
      part.entries =
        (whole.entries.zipIdx.filter fun place => window.shows place.2).map (·.1) ∧
      (whole.entries.length ≤ window.offset.getD 0 → part.entries = [])) ∧
    (¬ (ContributorsList.lookup listName).Takes window →
      outcome = .error (.window window.fault)) := by
  intro outcome
  obtain ⟨accounts, terms, hshown, hterms, hlisting⟩ := outcome_eq_ok_iff.1 hwhole
  have houtcome : outcome =
      (ContributorsList.lookup listName).assemble (some window) accounts terms :=
    outcome_of_gathered _ hshown hterms (some window)
  obtain ⟨htaken, hrefused⟩ := ContributorsList.assemble_some hlimit hlisting
  rw [houtcome]
  refine ⟨fun htakes => ?_, hrefused⟩
  obtain ⟨part, hpart, hentries⟩ := htaken htakes
  refine ⟨part, hpart, hentries.trans (Listing.cut_eq_filter ..), fun hlength => ?_⟩
  rw [hentries, Listing.cut_of_length_le hlength]

/-- The rest of a listing after its first entry. -/
theorem list_within_window_rest :
    let list := (Provider.contributors hiddenGuests).list (meeting []) "CONTRIBUTORS.USERNAMES"
    ∃ whole part, (list none ()).outcome = .ok whole ∧
      (list (some ⟨some 1, none⟩) ()).outcome = .ok part ∧
      part.entries = (whole.entries.zipIdx.filter fun place => 1 ≤ place.2).map (·.1) := by
  intro list
  have hwhole : (list none ()).outcome = .ok (userNames (visible hiddenGuests _)) :=
    outcome_of_gathered .usernames (Directory.shown_holding _ _) rfl none
  have hlimit : (⟨some 1, none⟩ : Window).limit ≠ some 0 := by decide
  obtain ⟨htaken, -⟩ := list_within_window hlimit hwhole
  obtain ⟨part, hpart, hentries, -⟩ := htaken (Or.inr (by decide))
  refine ⟨_, part, hwhole, hpart, ?_⟩
  simpa [Window.shows] using hentries

/-- A window after the first entry whose limit is as large as can be is refused, although the
listing without it is to be had. -/
theorem window_refused :
    let list := (Provider.contributors .empty).list (meeting []) "CONTRIBUTORS.USERNAMES"
    (∃ whole, (list none ()).outcome = .ok whole) ∧
      (list (some ⟨some 1, some 9223372036854775807⟩) ()).outcome = .error (.window .stop) := by
  intro list
  have hlist (window : Option Window) :
      (list window ()).outcome = (userNames (visible .empty _)).within window :=
    outcome_of_gathered .usernames (Directory.shown_holding _ _) rfl window
  refine ⟨⟨_, hlist none⟩, ?_⟩
  rw [hlist, Listing.within_of_not_fits _ (by decide)]
  rfl

end Contributors

end Picklists
