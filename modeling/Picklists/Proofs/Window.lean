import Picklists.Failure
import Picklists.Proofs.Listing

/-!
# Windows

What a window leaves of a listing.

* `Window.shows` : the positions that a window names.
* `Window.Fits` : whether all bounds of a window are positions that may be named.
* `Listing.select_of_fits`, `Listing.select_of_not_fits` : what a window selects.
* `Listing.within_of_fits` : **a window that fits leaves the entries at its positions**, as
  `Listing.cut` gives them.
* `Listing.within_of_not_fits` : a window that does not fit is refused, whatever the listing holds.
* `Listing.select_after` : a window of what is left after some entries is a window that begins later
  (`Window.after`).
* `Listing.select_exact` : **what every window selects, and which windows are refused.**
-/

namespace Picklists

/-! ### Positions -/

namespace Window

/-- Whether a window shows the entry at a position. -/
def shows (window : Window) (position : Nat) : Bool :=
  window.offset.getD 0 ≤ position &&
    window.limit.all fun limit => position < window.offset.getD 0 + limit

/-- The last position that a window names may be named. -/
def Fits (window : Window) : Prop :=
  window.offset.getD 0 + window.limit.getD 0 ≤ maxIndex

instance (window : Window) : Decidable window.Fits :=
  inferInstanceAs (Decidable (window.offset.getD 0 + window.limit.getD 0 ≤ maxIndex))

/-- What is wrong with a window that does not fit. -/
def fault (window : Window) : WindowFault := if window.limit.isSome then .stop else .start

variable {window : Window}

theorem positions_of_fits (h : window.Fits) :
    window.positions = .ok (window.offset.getD 0, window.limit) := by
  obtain ⟨offset, limit⟩ := window
  cases limit with
  | none => exact if_neg (Nat.not_lt.2 h)
  | some limit => exact if_neg (Nat.not_lt.2 h)

theorem positions_of_not_fits (h : ¬ window.Fits) : window.positions = .error window.fault := by
  obtain ⟨offset, limit⟩ := window
  cases limit with
  | none => exact if_pos (Nat.not_le.1 h)
  | some limit => exact if_pos (Nat.not_le.1 h)

theorem isBounded_iff : window.isBounded = true ↔ window.offset ≠ none ∨ window.limit ≠ none := by
  rw [isBounded, Bool.or_eq_true, Option.isSome_iff_ne_none, Option.isSome_iff_ne_none]

/-- A window without bounds names no position, so it fits. -/
theorem fits_of_not_bounded (h : window.isBounded = false) : window.Fits := by
  obtain ⟨_ | offset, _ | limit⟩ := window
  · exact Nat.zero_le _
  all_goals cases h

/-- The window that shows of a whole what a window shows of the rest after some entries. -/
def after (window : Window) (skipped : Nat) : Window :=
  ⟨some (skipped + window.offset.getD 0), window.limit⟩

end Window

/-! ### Parts of a listing -/

namespace Listing

variable {window : Window}

/-- A window with a bound selects a part of its own, if it fits. -/
theorem select_of_fits (listing : Listing) (hbounded : window.isBounded = true)
    (h : window.Fits) :
    listing.select (some window) =
      .ok (.part (listing.slice (window.offset.getD 0) window.limit)) := by
  rw [select, if_pos hbounded, Window.positions_of_fits h]

/-- A window that does not fit is refused, whatever the listing holds. -/
theorem select_of_not_fits (listing : Listing) (h : ¬ window.Fits) :
    listing.select (some window) = .error window.fault := by
  have hbounded : window.isBounded = true := by
    by_contra hbounded
    exact h (Window.fits_of_not_bounded (Bool.not_eq_true _ ▸ hbounded))
  rw [select, if_pos hbounded, Window.positions_of_not_fits h]

/-- The part of a listing that a window asks for, or why it is refused. -/
def within (listing : Listing) (window : Option Window) : Except Failure Listing :=
  match listing.select window with
  | .ok selection => .ok selection.listing
  | .error fault => .error (.window fault)

/-- **A window that fits leaves the entries at its positions.** -/
theorem within_of_fits (listing : Listing) (h : window.Fits) :
    ∃ part, listing.within (some window) = .ok part ∧
      part.entries = cut (window.offset.getD 0) window.limit listing.entries := by
  cases hbounded : window.isBounded with
  | true =>
    refine ⟨listing.slice (window.offset.getD 0) window.limit, ?_, rfl⟩
    rw [within, select_of_fits listing hbounded h]
    rfl
  | false =>
    refine ⟨listing, ?_, ?_⟩
    · rw [within, select, hbounded, if_neg Bool.false_ne_true]
      rfl
    · obtain ⟨_ | offset, _ | limit⟩ := window
      · rfl
      all_goals cases hbounded

/-- **A window that does not fit is refused.** -/
theorem within_of_not_fits (listing : Listing) (h : ¬ window.Fits) :
    listing.within (some window) = .error (.window window.fault) := by
  rw [within, select_of_not_fits listing h]

theorem within_sublist {listing part : Listing} {window : Option Window}
    (h : listing.within window = .ok part) : part.entries.Sublist listing.entries := by
  cases window with
  | none =>
    cases h
    exact List.Sublist.refl _
  | some window =>
    by_cases hfits : window.Fits
    · obtain ⟨_, hpart, hentries⟩ := listing.within_of_fits hfits
      cases hpart.symm.trans h
      exact hentries ▸ cut_sublist ..
    · cases (listing.within_of_not_fits hfits).symm.trans h

/-! ### What windows select -/

/-- **A window of the rest after some entries** selects what a window of the whole selects that
begins as much later. -/
theorem select_after (listing : Listing) {skipped : Nat} (h : (window.after skipped).Fits) :
    (listing.select (some ⟨some skipped, none⟩) >>= fun rest =>
        rest.listing.select (some window)).map Selection.listing =
      (listing.select (some (window.after skipped))).map Selection.listing := by
  have hends : skipped + window.offset.getD 0 + window.limit.getD 0 ≤ Window.maxIndex := h
  have hrest : (⟨some skipped, none⟩ : Window).Fits := by
    change skipped + 0 ≤ Window.maxIndex
    omega
  have hwindow : window.Fits := by
    unfold Window.Fits
    omega
  rw [select_of_fits listing rfl hrest, select_of_fits listing rfl h]
  change ((listing.slice skipped none).select (some window)).map Selection.listing = _
  cases hbounded : window.isBounded with
  | true =>
    rw [select_of_fits _ hbounded hwindow]
    exact congrArg Except.ok (eq_of_entries_eq (cut_cut_none ..))
  | false =>
    obtain ⟨_ | offset, _ | limit⟩ := window
    · rfl
    all_goals cases hbounded

/-- **What every window selects, and which windows are refused.**  Without bounds a window selects
the listing itself.  Else it is refused if it does not fit, and selects the entries at its positions,
in their order, if it does. -/
theorem select_exact (listing : Listing) :
    (∀ window : Option Window, (∀ bounds ∈ window, bounds.offset = none ∧ bounds.limit = none) →
      listing.select window = .ok (.whole listing)) ∧
    (∀ window : Window, window.offset ≠ none ∨ window.limit ≠ none →
      (¬ window.Fits → listing.select (some window) = .error window.fault) ∧
      (window.Fits → ∃ part, listing.select (some window) = .ok (.part part) ∧
        part.entries =
          (listing.entries.zipIdx.filter fun place => window.shows place.2).map (·.1))) ∧
    ∀ (skipped : Nat) (window : Window), (window.after skipped).Fits →
      (listing.select (some ⟨some skipped, none⟩) >>= fun rest =>
          rest.listing.select (some window)).map Selection.listing =
        (listing.select (some (window.after skipped))).map Selection.listing := by
  refine ⟨fun window hnone => ?_, fun window hsome => ⟨listing.select_of_not_fits, fun hfits => ?_⟩,
    fun skipped window => listing.select_after⟩
  · refine listing.select_unbounded fun bounds hbounds => ?_
    rw [Window.isBounded, (hnone bounds hbounds).1, (hnone bounds hbounds).2]
    rfl
  · exact ⟨_, listing.select_of_fits (Window.isBounded_iff.2 hsome) hfits, cut_eq_filter ..⟩

/-- A limit of zero selects an empty part, a limit that is too large is refused, and after one entry
the rest after another one is the rest after two. -/
theorem select_exact_letters :
    let letters := Listing.ofPairs [("a", "A"), ("b", "B"), ("c", "C")]
    letters.select none = .ok (.whole letters) ∧
      (∃ part, letters.select (some ⟨none, some 0⟩) = .ok (.part part) ∧ part.entries = []) ∧
      letters.select (some ⟨some 1, some 9223372036854775807⟩) = .error .stop ∧
      (letters.select (some ⟨some 1, none⟩) >>= fun rest =>
          rest.listing.select (some ⟨some 1, none⟩)).map Selection.listing =
        (letters.select (some ⟨some 2, none⟩)).map Selection.listing := by
  intro letters
  obtain ⟨hwhole, hbounded, hafter⟩ := select_exact letters
  obtain ⟨-, hempty⟩ := hbounded ⟨none, some 0⟩ (by decide)
  obtain ⟨hrefused, -⟩ := hbounded ⟨some 1, some 9223372036854775807⟩ (by decide)
  obtain ⟨part, hpart, hentries⟩ := hempty (by decide)
  refine ⟨hwhole none (by simp), ⟨part, hpart, ?_⟩, hrefused (by decide),
    hafter 1 ⟨some 1, none⟩ (by decide)⟩
  rw [hentries]
  simp [Window.shows]

end Listing

end Picklists
