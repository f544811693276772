import Picklists.Proofs.LabelOrder

/-!
# Where keys stand

A sort by label that keeps the order of contributors with one label decides where a key stands: by
the least of its labels and, among keys with one least label, by the contributor that comes first.

* `Contributors.PlacedBy` : the least label of a key, and the position of the first contributor that
  gives the key this label.
* `Contributors.PlacedBy.of_split` : the first contributor with the key in the sorted list gives the
  place, so every key has one (`Contributors.exists_placedBy`).
* `Contributors.pairwise_keys_byLabel` : **the keys stand in the order of what places them.**
* `Contributors.byLabel_of_nodup_keys` : contributors with distinct keys are sorted, and that is
  all.
* `Contributors.byLabel_sorts` : **what a listing by label holds, and in which order.**
-/

namespace Picklists

namespace Contributors

variable {contributors : List Contributor} {key : Text}

/-! ### Places -/

/-- What places a key: its least label, and the position of the first contributor that gives the key
this label. -/
structure PlacedBy (contributors : List Contributor) (key least : Text) (position : Nat) :
    Prop where
  /-- The contributor at the position gives the key this label. -/
  given : contributors[position]? = some ⟨key, least⟩
  /-- No contributor gives the key a lesser label. -/
  least_le : ∀ other ∈ contributors, other.key = key → least ≤ other.label
  /-- No contributor before the position gives the key this label. -/
  first : ∀ earlier < position, contributors[earlier]? ≠ some ⟨key, least⟩

/-- Whether a key stands before another one by what places them: by its lesser label, or by the
earlier position if their least labels are the same. -/
def Precedes (contributors : List Contributor) (a b : Text) : Prop :=
  ∃ least other i j, PlacedBy contributors a least i ∧ PlacedBy contributors b other j ∧
    (least < other ∨ least = other ∧ i < j)

/-- What comes later in the sorted list has a greater label, or the same one and a later position. -/
theorem ranks_of_mem_back {front back : List (Contributor × Nat)} {first other : Contributor × Nat}
    (hsplit : placedBy Contributor.label contributors = front ++ first :: back)
    (hother : other ∈ back) :
    first.1.label < other.1.label ∨ first.1.label = other.1.label ∧ first.2 ≤ other.2 := by
  have hsorted := pairwise_placedBy Contributor.label contributors
  rw [hsplit] at hsorted
  exact (List.pairwise_cons.1 (List.pairwise_append.1 hsorted).2.1).1 other hother

/-- The first contributor with a key in the sorted list places the key. -/
theorem PlacedBy.of_split {front back : List (Contributor × Nat)} {first : Contributor}
    {position : Nat}
    (hsplit : placedBy Contributor.label contributors = front ++ (first, position) :: back)
    (hfront : ∀ other ∈ front, other.1.key ≠ first.key) :
    PlacedBy contributors first.key first.label position := by
  have hranks : ∀ place other, contributors[place]? = some other → other.key = first.key →
      first.label < other.label ∨ first.label = other.label ∧ position ≤ place := by
    intro place other hother hkey
    have hplaced : (other, place) ∈ placedBy Contributor.label contributors :=
      mem_placedBy.2 hother
    rw [hsplit, List.mem_append, List.mem_cons] at hplaced
    rcases hplaced with hearlier | hsame | hlater
    · exact absurd hkey (hfront _ hearlier)
    · cases hsame
      exact Or.inr ⟨rfl, Nat.le_refl position⟩
    · exact ranks_of_mem_back hsplit hlater
  refine ⟨?_, fun other hother hkey => ?_, fun earlier hearlier hother => ?_⟩
  · exact mem_placedBy.1 (hsplit ▸ List.mem_append_right front List.mem_cons_self)
  · obtain ⟨place, hplace⟩ := List.mem_iff_getElem?.1 hother
    rcases hranks place other hplace hkey with hlt | ⟨hsame, -⟩
    · exact Std.le_of_lt hlt
    · exact hsame ▸ Std.le_refl _
  · rcases hranks earlier _ hother rfl with hlt | ⟨-, hle⟩
    · exact absurd hlt Std.lt_irrefl
    · omega

theorem exists_placedBy (h : ∃ contributor ∈ contributors, contributor.key = key) :
    ∃ least position, PlacedBy contributors key least position := by
  obtain ⟨contributor, hcontributor, hkey⟩ := h
  obtain ⟨place, hplace⟩ := List.mem_iff_getElem?.1 hcontributor
  have hsome : ((placedBy Contributor.label contributors).find? (·.1.key = key)).isSome := by
    rw [List.find?_isSome]
    exact ⟨_, mem_placedBy.2 hplace, decide_eq_true hkey⟩
  obtain ⟨⟨first, position⟩, hfind⟩ := Option.isSome_iff_exists.1 hsome
  obtain ⟨hfirst, front, back, hsplit, hfront⟩ := List.find?_eq_some_iff_append.1 hfind
  obtain rfl : first.key = key := of_decide_eq_true hfirst
  refine ⟨first.label, position, .of_split hsplit fun other hother => ?_⟩
  simpa using hfront other hother

/-! ### The order of keys -/

theorem keys_byLabel (contributors : List Contributor) :
    (byLabel contributors).keys =
      distinct ((placedBy Contributor.label contributors).map (·.1.key)) := by
  have hsorted : (placedBy Contributor.label contributors).map (·.1.key) =
      (sortedPairs contributors).map (·.1) := by
    rw [sortedPairs, List.map_map, ← sortedBy, ← map_fst_placedBy, List.map_map]
    rfl
  rw [byLabel_eq_ofPairs, Listing.keys_ofPairs, hsorted]

/-- **The keys stand in the order of what places them.** -/
theorem pairwise_keys_byLabel (contributors : List Contributor) :
    (byLabel contributors).keys.Pairwise (Precedes contributors) := by
  have hordered := (pairwise_distinct (·.1.key) (placedBy Contributor.label contributors)).and
    (nodup_distinct _)
  rw [← keys_byLabel] at hordered
  refine hordered.imp_of_mem fun {a b} _ hb => ?_
  rintro ⟨⟨front, ⟨first, position⟩, back, hsplit, rfl, hfront, hback⟩, hne⟩
  obtain ⟨least, place, hplaced⟩ := exists_placedBy (mem_keys_byLabel.1 hb)
  refine ⟨first.label, least, position, place, .of_split hsplit hfront, hplaced, ?_⟩
  -- all contributors with the other key come after the first one with this key
  have hlater : (⟨b, least⟩, place) ∈ back := hback _ (mem_placedBy.2 hplaced.given) rfl
  rcases ranks_of_mem_back hsplit hlater with hlt | ⟨hsame, hle⟩
  · exact Or.inl hlt
  · refine Or.inr ⟨hsame, Nat.lt_of_le_of_ne hle ?_⟩
    rintro rfl
    have hgiven := (PlacedBy.of_split hsplit hfront).given
    rw [hplaced.given] at hgiven
    exact hne (congrArg Contributor.key (Option.some.inj hgiven)).symm

/-! ### Contributors with distinct keys -/

/-- Contributors with distinct keys are sorted by label, and those of one label keep their order. -/
theorem byLabel_of_nodup_keys (h : (contributors.map (·.key)).Nodup) :
    (byLabel contributors).entries =
      (sortedBy Contributor.label contributors).map fun contributor =>
        (contributor.key, contributor.label) := by
  refine Listing.entries_ofPairs_of_nodup ?_
  have hperm := (perm_sortedBy Contributor.label contributors).map (·.key)
  rw [List.map_map]
  exact hperm.nodup_iff.2 h

/-- **What a listing by label holds, and in which order.**  Every key stands once, with the greatest
of its labels and in the place of the least one.  If no key repeats, the listing is the contributors
in the order of their labels, and those of one label keep their order. -/
theorem byLabel_sorts (contributors : List Contributor) :
    (∀ key, (byLabel contributors).keys.count key =
      if ∃ contributor ∈ contributors, contributor.key = key then 1 else 0) ∧
    (∀ key label, (key, label) ∈ (byLabel contributors).entries ↔
      ⟨key, label⟩ ∈ contributors ∧
        ∀ contributor ∈ contributors, contributor.key = key → contributor.label ≤ label) ∧
    (byLabel contributors).keys.Pairwise (Precedes contributors) ∧
    ((contributors.map (·.key)).Nodup →
      ∃ sorted : List Contributor,
        (byLabel contributors).entries = sorted.map (fun entry => (entry.key, entry.label)) ∧
        sorted.Perm contributors ∧ sorted.Pairwise (fun a b => a.label ≤ b.label) ∧
        ∀ label, sorted.filter (·.label = label) = contributors.filter (·.label = label)) := by
  refine ⟨fun key => ?_, fun key label => mem_byLabel, pairwise_keys_byLabel contributors,
    fun hkeys => ?_⟩
  · have hkeys : (byLabel contributors).keys.Nodup := (byLabel contributors).nodup
    rw [hkeys.count]
    exact if_congr mem_keys_byLabel rfl rfl
  · exact ⟨sortedBy Contributor.label contributors, byLabel_of_nodup_keys hkeys, perm_sortedBy ..,
      pairwise_sortedBy .., filter_key_sortedBy Contributor.label contributors⟩

/-- Contributors of one label keep their order.  One more contributor for a key changes its label but
not its place. -/
theorem byLabel_sorts_tied :
    let tied : List Contributor := [⟨"zoe", "Lee"⟩, ⟨"bob", "Kay"⟩, ⟨"ann", "Lee"⟩]
    let more : List Contributor := tied ++ [⟨"bob", "Zorn"⟩]
    (∃ sorted : List Contributor,
      (byLabel tied).entries = sorted.map (fun entry => (entry.key, entry.label)) ∧
      sorted.Perm tied ∧
      sorted.filter (·.label = ("Lee" : Text)) = [⟨"zoe", "Lee"⟩, ⟨"ann", "Lee"⟩]) ∧
      (("bob", "Zorn") : Text × Text) ∈ (byLabel more).entries ∧
      (byLabel more).keys.count ("bob" : Text) = 1 ∧
      (byLabel more).keys.Pairwise (Precedes more) := by
  intro tied more
  obtain ⟨-, -, -, hdistinct⟩ := byLabel_sorts tied
  obtain ⟨hcount, hentry, hordered, -⟩ := byLabel_sorts more
  obtain ⟨sorted, hentries, hperm, -, hfilter⟩ := hdistinct (by decide)
  refine ⟨⟨sorted, hentries, hperm, ?_⟩, (hentry "bob" "Zorn").2 (by decide), ?_, hordered⟩
  · rw [hfilter]
    decide
  · rw [hcount, if_pos (by decide)]

end Contributors

end Picklists
