import Picklists.Contributors
import Picklists.Proofs.Listing
import Picklists.Proofs.Sorting

/-!
# Contributors by label

Contributors are sorted by label before those of one key become one entry.  The entry is placed by
the least label of its key and shows the greatest one.

* `Contributors.mem_byLabel` : **an entry shows the greatest label of its key.**
* `Contributors.pairwise_byLabel` : **the entries stand in the order of the least labels** of their
  keys.
* `Contributors.pairwise_labels_byLabel` : the labels ascend if every key has one label only.
* `Contributors.not_pairwise_labels_byLabel` : they do not if a key has labels before and after all
  labels of another one.
* `Contributors.byLabel_congr` : only contributors of one label have an order of their own to lose.
* `Contributors.filter_byLabel` : the entries of some keys are those of the contributors with these
  keys.
-/

namespace Picklists

namespace Contributors

variable {contributors : List Contributor}

/-! ### Sorted contributors -/

/-- Contributors in the order of their labels, as pairs of key and label. -/
def sortedPairs (contributors : List Contributor) : List (Text × Text) :=
  (contributors.mergeSort fun a b => notAfter a.label b.label).map fun contributor =>
    (contributor.key, contributor.label)

theorem byLabel_eq_ofPairs (contributors : List Contributor) :
    byLabel contributors = .ofPairs (sortedPairs contributors) := rfl

@[simp] theorem mem_sortedPairs {key label : Text} :
    (key, label) ∈ sortedPairs contributors ↔ ⟨key, label⟩ ∈ contributors := by
  rw [sortedPairs, List.mem_map]
  constructor
  · rintro ⟨contributor, hmem, heq⟩
    cases heq
    exact List.mem_mergeSort.1 hmem
  · intro hmem
    exact ⟨⟨key, label⟩, List.mem_mergeSort.2 hmem, rfl⟩

theorem pairwise_sortedPairs (contributors : List Contributor) :
    (sortedPairs contributors).Pairwise fun a b => a.2 ≤ b.2 := by
  rw [sortedPairs, List.pairwise_map]
  exact pairwise_sortedBy Contributor.label contributors

/-! ### Entries -/

@[simp] theorem mem_keys_byLabel {key : Text} :
    key ∈ (byLabel contributors).keys ↔ ∃ contributor ∈ contributors, contributor.key = key := by
  rw [byLabel, Listing.keys_ofPairs, mem_distinct]
  simp [List.mem_mergeSort]

/-- **An entry shows the greatest label of its key.** -/
theorem mem_byLabel {key label : Text} :
    (key, label) ∈ (byLabel contributors).entries ↔
      ⟨key, label⟩ ∈ contributors ∧
        ∀ contributor ∈ contributors, contributor.key = key → contributor.label ≤ label := by
  rw [byLabel_eq_ofPairs, Listing.ofPairs,
    mem_lastWins_of_pairwise (pairwise_sortedPairs contributors), mem_sortedPairs]
  refine and_congr_right fun _ => ⟨fun h contributor hmem hkey => ?_, fun h other hother => ?_⟩
  · subst hkey
    exact h contributor.label (mem_sortedPairs.2 hmem)
  · exact h ⟨key, other⟩ (mem_sortedPairs.1 hother) rfl

/-- **The entries stand in the order of the least labels** of their keys. -/
theorem pairwise_byLabel (contributors : List Contributor) :
    (byLabel contributors).entries.Pairwise fun a b =>
      ∃ first ∈ contributors, first.key = a.1 ∧
        ∀ other ∈ contributors, other.key = b.1 → first.label ≤ other.label := by
  refine (pairwise_lastWins (pairwise_sortedPairs contributors)).imp ?_
  rintro a b ⟨least, hleast, hle⟩
  refine ⟨⟨a.1, least⟩, mem_sortedPairs.1 hleast, rfl, fun other hother hkey => ?_⟩
  exact hle other.label (hkey ▸ mem_sortedPairs.2 hother)

/-! ### Other contributors -/

/-- Contributors are listed alike if those of each label stand in one order. -/
theorem byLabel_congr {others : List Contributor}
    (h : ∀ label, contributors.filter (·.label = label) = others.filter (·.label = label)) :
    byLabel contributors = byLabel others := by
  have hsorted : sortedBy Contributor.label contributors = sortedBy Contributor.label others :=
    sortedBy_congr h
  exact congrArg (fun sorted => Listing.ofPairs (sorted.map fun c => (c.key, c.label))) hsorted

/-- **Contributors with other keys do not interfere**: the entries of some keys are those of the
contributors with these keys. -/
theorem filter_byLabel (contributors : List Contributor) (keep : Text → Bool) :
    (byLabel contributors).entries.filter (keep ·.1) =
      (byLabel (contributors.filter (keep ·.key))).entries := by
  have hpairs : (sortedPairs contributors).filter (keep ·.1) =
      sortedPairs (contributors.filter (keep ·.key)) := by
    have hsorted := filter_sortedBy Contributor.label contributors (keep ·.key)
    rw [sortedPairs, List.filter_map]
    exact congrArg (List.map fun c => (c.key, c.label)) hsorted
  rw [byLabel_eq_ofPairs, byLabel_eq_ofPairs, ← hpairs]
  exact filter_lastWins (sortedPairs contributors) keep

/-! ### Labels -/

/-- The labels ascend if the key of a contributor determines its label. -/
theorem pairwise_labels_byLabel
    (h : ∀ a ∈ contributors, ∀ b ∈ contributors, a.key = b.key → a.label = b.label) :
    (byLabel contributors).labels.Pairwise (· ≤ ·) := by
  rw [Listing.labels, List.pairwise_map]
  refine (pairwise_byLabel contributors).imp_of_mem ?_
  rintro ⟨a, label⟩ ⟨b, other⟩ ha hb ⟨first, hfirst, hkey, hle⟩
  have hlabel : first.label = label := h _ hfirst _ (mem_byLabel.1 ha).1 hkey
  exact hlabel ▸ hle _ (mem_byLabel.1 hb).1 rfl

/-- **The labels do not ascend** if a key has one label before all labels of another key and one
label after all of them. -/
theorem not_pairwise_labels_byLabel {a b c : Contributor} (ha : a ∈ contributors)
    (hb : b ∈ contributors) (hc : c ∈ contributors) (hkey : a.key = c.key)
    (hbefore : ∀ other ∈ contributors, other.key = b.key → ¬ other.label ≤ a.label)
    (hafter : ∀ other ∈ contributors, other.key = b.key → ¬ c.label ≤ other.label) :
    ¬ (byLabel contributors).labels.Pairwise (· ≤ ·) := by
  intro hlabels
  obtain ⟨greatest, hgreatest⟩ := Listing.mem_keys.1 (mem_keys_byLabel.2 ⟨c, hc, rfl⟩)
  obtain ⟨label, hlabel⟩ := Listing.mem_keys.1 (mem_keys_byLabel.2 ⟨b, hb, rfl⟩)
  have hne : (c.key, greatest) ≠ (b.key, label) := fun heq =>
    hbefore a ha (hkey.trans (congrArg Prod.fst heq)) (Std.le_refl _)
  have hordered := (pairwise_byLabel contributors).and (List.pairwise_map.1 hlabels)
  rcases rel_or_rel_of_pairwise hordered hgreatest hlabel hne with
    ⟨-, hle⟩ | ⟨⟨first, hfirst, hfirstKey, hle⟩, -⟩
  · have hshows := (mem_byLabel.1 hgreatest).2 c hc rfl
    exact hafter _ (mem_byLabel.1 hlabel).1 rfl (Std.le_trans hshows hle)
  · exact hbefore first hfirst hfirstKey (hle a ha hkey)

end Contributors

end Picklists
