import Mathlib.Algebra.Order.Floor.Div
import Picklists.Proofs.FirstFailure

/-!
# Pages of one size

A consumer who wants a whole listing of contributors may ask for it page by page.  Every page is
gathered and put together anew, and then cut from the whole.

* `Listing.length_slice`, `Listing.slice_of_length_le` : how long a page is.
* `Listing.flatMap_slice` : pages of one size, side by side, are the whole.
* `ContributorsList.assemble_slice` : a listing within a window that it takes is a part of the one
  without.
* `Contributors.pages_tile` : **the pages of one size tile the listing**, as long as the index
  answers alike.
-/

namespace Picklists

variable {σ : Type}

/-! ### Parts of a listing -/

namespace Listing

/-- A part that ends before the whole does is full. -/
theorem length_slice {listing : Listing} {offset size : Nat}
    (h : offset + size ≤ listing.entries.length) :
    (listing.slice offset (some size)).entries.length = size := by
  change ((listing.entries.drop offset).take size).length = size
  rw [List.length_take, List.length_drop]
  omega

/-- A part that begins after the end is empty. -/
theorem slice_of_length_le {listing : Listing} {offset : Nat}
    (h : listing.entries.length ≤ offset) (limit : Option Nat) :
    listing.slice offset limit = .empty :=
  eq_of_entries_eq (cut_of_length_le h limit)

/-- Pages of one size, side by side, are the whole. -/
theorem flatMap_slice (listing : Listing) {size : Nat} (hsize : 0 < size) :
    ((List.range (listing.entries.length ⌈/⌉ size)).flatMap fun page =>
      (listing.slice (page * size) (some size)).entries) = listing.entries := by
  refine flatMap_cut_of_length_le ?_
  rw [Nat.mul_comm]
  exact le_smul_ceilDiv hsize

/-- Only the last page may end after the whole does. -/
theorem page_end_le {listing : Listing} {size page : Nat} (hsize : 0 < size)
    (h : page + 1 < listing.entries.length ⌈/⌉ size) :
    page * size + size ≤ listing.entries.length := by
  by_contra hlast
  have hcovers : listing.entries.length ≤ size * (page + 1) := by
    rw [Nat.mul_succ, Nat.mul_comm]
    omega
  exact absurd ((ceilDiv_le_iff_le_mul hsize).2 hcovers) (Nat.not_le.2 h)

end Listing

/-- **A listing within a window that it takes** is a part of the one without. -/
theorem ContributorsList.assemble_slice {list : ContributorsList} {window : Window}
    (hlimit : window.limit ≠ some 0) (htakes : list.Takes window) {accounts : List Account}
    {terms : List (List Text)} {whole : Listing}
    (hwhole : list.assemble none accounts terms = .ok whole) :
    list.assemble (some window) accounts terms =
      .ok (whole.slice (window.offset.getD 0) window.limit) := by
  obtain ⟨part, hpart, hentries⟩ := (assemble_some hlimit hwhole).1 htakes
  have hslice : part = whole.slice (window.offset.getD 0) window.limit :=
    Listing.eq_of_entries_eq hentries
  rw [hpart, hslice]

/-! ### Listings of an index that answers alike -/

namespace Contributors

/-- **The pages of one size tile the listing.**  The index may be in any of the states in which it
answers alike, and in another one for every page. -/
theorem pages_tile {sources : Sources σ} {excluded : Exclusion}
    (havailable : sources.directory.Available excluded) {listName : String} {alike : σ → Prop}
    {found : List (List Text)}
    (hfinds : ∀ link, alike link → ∃ final,
      sources.Finds link (ContributorsList.lookup listName).fields found final)
    {size : Nat} (hsize : 0 < size) :
    let Gives (window : Option Window) (listing : Listing) : Prop := ∀ link, alike link →
      ((Provider.contributors excluded).list sources listName window link).outcome = .ok listing
    ∃ whole, Gives none whole ∧
      let count := whole.entries.length ⌈/⌉ size
      (count * size ≤ Window.maxIndex → ∃ pages : Nat → Listing,
        (∀ page < count, Gives (some ⟨some (page * size), some size⟩) (pages page)) ∧
        (List.range count).flatMap (fun page => (pages page).entries) = whole.entries ∧
        ∀ page, page + 1 < count → (pages page).entries.length = size) ∧
      (∀ page, count ≤ page → page * size + size ≤ Window.maxIndex →
        Gives (some ⟨some (page * size), some size⟩) .empty) ∧
      ∀ offset ≤ Window.maxIndex, ∃ rest,
        Gives (some ⟨some offset, none⟩) rest ∧ rest.entries = whole.entries.drop offset := by
  intro Gives
  obtain ⟨accounts, hshown⟩ := havailable.shown
  have hgives {window : Option Window} {listing : Listing}
      (hlisting : (ContributorsList.lookup listName).assemble window accounts found =
        .ok listing) : Gives window listing := by
    intro link halike
    obtain ⟨final, hfinds⟩ := hfinds link halike
    rw [Provider.list, outcome_of_finds hfinds, hshown]
    exact hlisting
  have hunbounded : ∀ bounds ∈ (none : Option Window), bounds.Fits := by simp
  obtain ⟨whole, hwhole⟩ :=
    (ContributorsList.lookup listName).exists_assemble hunbounded accounts found
  have hpart {offset : Nat} {limit : Option Nat} (hlimit : limit ≠ some 0)
      (hfits : (⟨some offset, limit⟩ : Window).Fits) :
      Gives (some ⟨some offset, limit⟩) (whole.slice offset limit) :=
    hgives (ContributorsList.assemble_slice hlimit (Or.inr hfits) hwhole)
  have hfull : some size ≠ some 0 := by simpa using hsize.ne'
  refine ⟨whole, hgives hwhole, fun hends => ?_, fun page hpage hend => ?_, fun offset hoffset => ?_⟩
  · refine ⟨fun page => whole.slice (page * size) (some size), fun page hpage => ?_,
      whole.flatMap_slice hsize, fun page hpage => ?_⟩
    · -- a page ends where the last one does at the latest
      refine hpart hfull ((Nat.le_trans ?_ hends))
      calc page * size + size = (page + 1) * size := (Nat.succ_mul page size).symm
        _ ≤ whole.entries.length ⌈/⌉ size * size := Nat.mul_le_mul_right size hpage
    · exact Listing.length_slice (Listing.page_end_le hsize hpage)
  · have hbeyond : whole.entries.length ≤ page * size := by
      rw [Nat.mul_comm]
      exact (ceilDiv_le_iff_le_mul hsize).1 hpage
    rw [← Listing.slice_of_length_le hbeyond (some size)]
    exact hpart hfull hend
  · exact ⟨_, hpart (by simp) hoffset, rfl⟩

/-- Pages of two of the three accounts that are not hidden. -/
theorem pages_tile_meeting :
    let list := (Provider.contributors hiddenGuests).list (meeting []) "contributors.usernames"
    ∃ (whole rest : Listing) (pages : Nat → Listing), (list none ()).outcome = .ok whole ∧
      ("ann" : Text) ∈ whole.keys ∧
      (∀ page < whole.entries.length ⌈/⌉ (2 : Nat),
        (list (some ⟨some (page * 2), some 2⟩) ()).outcome = .ok (pages page)) ∧
      (List.range (whole.entries.length ⌈/⌉ (2 : Nat))).flatMap
        (fun page => (pages page).entries) = whole.entries ∧
      (list (some ⟨some 1, none⟩) ()).outcome = .ok rest ∧
      rest.entries = whole.entries.drop 1 := by
  intro list
  have hname : ContributorsList.lookup "contributors.usernames" = .usernames := by decide
  have havailable : (meeting []).directory.Available hiddenGuests := Or.inr ⟨_, rfl⟩
  have hfinds : ∀ link, True → ∃ final, (meeting []).Finds link
      (ContributorsList.lookup "contributors.usernames").fields [] final := by
    rintro link -
    rw [hname]
    exact ⟨link, .done link⟩
  obtain ⟨whole, hwhole, hpages, -, hrest⟩ := pages_tile havailable hfinds Nat.zero_lt_two
  have hall : (list none ()).outcome = .ok (userNames (visible hiddenGuests _)) :=
    outcome_of_gathered .usernames (Directory.shown_holding _ _) rfl none
  have heq := Except.ok.inj ((hwhole () trivial).symm.trans hall)
  have hann : ("ann" : Text) ∈ whole.keys := by
    rw [heq]
    exact mem_keys_byLabel.2 ⟨⟨"ann", "Ann Lee"⟩, by decide, rfl⟩
  have hkeys : whole.keys ⊆ ["ann", "bob", "carl"] := by
    intro key hkey
    rw [heq] at hkey
    obtain ⟨contributor, hcontributor, hown⟩ := mem_keys_byLabel.1 hkey
    rw [← hown]
    clear hown
    revert contributor
    decide
  -- no login name stands twice, so there are no more entries than accounts
  have hlength : whole.entries.length ≤ 3 := by
    have hle := (whole.nodup.subperm hkeys).length_le
    rwa [List.length_map] at hle
  have hends : whole.entries.length ⌈/⌉ 2 * 2 ≤ Window.maxIndex := by
    rw [Nat.ceilDiv_eq_add_pred_div, Window.maxIndex]
    omega
  obtain ⟨pages, hpage, htile, -⟩ := hpages hends
  obtain ⟨rest, hgives, hdrop⟩ := hrest 1 (by decide)
  exact ⟨whole, rest, pages, hwhole () trivial, hann,
    fun page hcount => hpage page hcount () trivial, htile, hgives () trivial, hdrop⟩

end Contributors

end Picklists
