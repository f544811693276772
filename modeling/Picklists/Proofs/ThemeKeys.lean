import Std.Data.String.ToInt
import Picklists.Proofs.Listing
import Picklists.Proofs.ThemeListing

/-!
# Keys of listings of themes

A listing of themes stands under the identifiers of the themes, written as decimal numerals.  An
identifier may come up more than once on a page.

* `Theme.key_injective` : different identifiers have different keys.
* `Theme.keys_listing` : the keys are the identifiers in the order of their first hits.
* `Theme.mem_listing` : each with the label of its last hit (`ThemePage.Last`).
* `Theme.entries_listing` : a page without repetition is listed hit by hit.
* `Theme.listings_keyed` : **names and descriptions stand under the same keys in the same order**.
-/

namespace Picklists

/-! ### Keys -/

/-- The key of a theme: the numeral of its identifier. -/
def Theme.key (identifier : Int) : Text := toString identifier

/-- Different identifiers have different keys. -/
theorem Theme.key_injective : Function.Injective Theme.key :=
  fun _ _ h => Int.repr_injective (Text.ofString_injective h)

/-- A hit is the last one with its identifier on a page. -/
def ThemePage.Last (page : ThemePage) (identifier : Int) (hit : ThemeHit) : Prop :=
  ∃ earlier later, page.hits = earlier ++ hit :: later ∧ hit.theme.identifier = identifier ∧
    ∀ other ∈ later, other.theme.identifier ≠ identifier

namespace Theme

variable (descriptions : Bool)

theorem keys_entries (hits : List ThemeHit) :
    (hits.map (ThemeHit.entry descriptions)).map (·.1) =
      (hits.map (·.theme.identifier)).map key := by
  rw [List.map_map, List.map_map]
  rfl

/-! ### Entries -/

/-- The keys of a listing are the identifiers in the order of their first hits. -/
theorem keys_listing (page : ThemePage) :
    (listing descriptions page).keys =
      (page.hits.map (·.theme.identifier)).eraseDups.map key := by
  calc (listing descriptions page).keys
    _ = distinct ((page.hits.map (ThemeHit.entry descriptions)).map (·.1)) :=
      Listing.keys_ofPairs _
    _ = ((page.hits.map (·.theme.identifier)).map key).eraseDups := by
      rw [distinct_eq_eraseDups, keys_entries]
    _ = (page.hits.map (·.theme.identifier)).eraseDups.map key := eraseDups_map key_injective _

/-- An identifier is listed with the label of its last hit. -/
theorem mem_listing {page : ThemePage} {identifier : Int} {label : Text} :
    (key identifier, label) ∈ (listing descriptions page).entries ↔
      ∃ hit, page.Last identifier hit ∧ label = hit.theme.label descriptions := by
  have hsplit : (key identifier, label) ∈ (listing descriptions page).entries ↔
      ∃ earlier later, page.hits.map (ThemeHit.entry descriptions) =
        earlier ++ (key identifier, label) :: later ∧ ∀ pair ∈ later, pair.1 ≠ key identifier :=
    mem_lastWins_iff_split
  rw [hsplit]
  constructor
  · rintro ⟨front, back, hentries, hback⟩
    obtain ⟨earlier, rest, hhits, rfl, hrest⟩ := List.map_eq_append_iff.1 hentries
    obtain ⟨hit, later, rfl, hhit, rfl⟩ := List.map_eq_cons_iff.1 hrest
    obtain ⟨hkey, rfl⟩ := Prod.mk.inj hhit
    refine ⟨hit, ⟨earlier, later, hhits, key_injective hkey, fun other hother hsame => ?_⟩, rfl⟩
    exact hback _ (List.mem_map_of_mem hother) (congrArg key hsame)
  · rintro ⟨hit, ⟨earlier, later, hhits, rfl, hlater⟩, rfl⟩
    refine ⟨earlier.map (ThemeHit.entry descriptions), later.map (ThemeHit.entry descriptions),
      ?_, fun pair hpair hsame => ?_⟩
    · rw [hhits, List.map_append, List.map_cons]
      rfl
    · obtain ⟨other, hother, rfl⟩ := List.mem_map.1 hpair
      exact hlater other hother (key_injective hsame)

/-- A listing of hits with distinct identifiers has one entry for each of them. -/
theorem entries_listing {page : ThemePage} (h : (page.hits.map (·.theme.identifier)).Nodup) :
    (listing descriptions page).entries = page.hits.map (ThemeHit.entry descriptions) := by
  have hkeys := h.map key_injective
  rw [← keys_entries descriptions] at hkeys
  exact Listing.entries_ofPairs_of_nodup hkeys

/-! ### Names and descriptions -/

variable {σ : Type}

/-- **Names and descriptions stand under the same keys in the same order**, whatever the hits on the
page are: the identifiers in the order of their first hits, each with the name or the description
of its last hit, where a missing description is empty.  If no identifier repeats, there is one entry
for each hit, in the order of the index.  These are the listings that come of such a page, unless an
identifier is too long to be written; then there is neither of them. -/
theorem listings_keyed (page : ThemePage) (sources : Sources σ) (window : Option Window)
    (link : σ) :
    let identifiers := page.hits.map (·.theme.identifier)
    let names := listing false page
    let descriptions := listing true page
    (names.keys = identifiers.eraseDups.map key ∧ descriptions.keys = names.keys) ∧
    (∀ identifier label, (key identifier, label) ∈ names.entries ↔
      ∃ hit, page.Last identifier hit ∧ label = hit.theme.name) ∧
    (∀ identifier label, (key identifier, label) ∈ descriptions.entries ↔
      ∃ hit, page.Last identifier hit ∧ label = hit.theme.description.getD "") ∧
    (identifiers.Nodup →
      names.entries = page.hits.map (fun hit => (key hit.theme.identifier, hit.theme.name)) ∧
      descriptions.entries = page.hits.map
        fun hit => (key hit.theme.identifier, hit.theme.description.getD "")) ∧
    ((sources.index.themes sources.transport (query sources.caller window) link).outcome =
        .ok page →
      let named := (Provider.themes.list sources "THEMES.NAME" window link).outcome
      let described := (Provider.themes.list sources "THEMES.DESCRIPTION" window link).outcome
      (page.Writable → named = .ok names ∧ described = .ok descriptions) ∧
      (¬ page.Writable → named = .error .unwritable ∧ described = .error .unwritable)) := by
  intro identifiers names descriptions
  refine ⟨⟨keys_listing false page, (keys_listing true page).trans (keys_listing false page).symm⟩,
    fun identifier label => mem_listing false, fun identifier label => mem_listing true,
    fun hnodup => ⟨entries_listing false hnodup, entries_listing true hnodup⟩, fun hpage => ?_⟩
  intro named described
  have hnamed : named = listed false page := outcome_themeListing "THEMES.NAME" false hpage
  have hdescribed : described = listed true page :=
    outcome_themeListing "THEMES.DESCRIPTION" true hpage
  rw [hnamed, hdescribed]
  exact ⟨fun hshort => ⟨if_pos hshort, if_pos hshort⟩, fun hlong => ⟨if_neg hlong, if_neg hlong⟩⟩

/-- Two themes, one of them without a description. -/
theorem listings_keyed_pair :
    let document (fields : List (String × Json)) : Json := .ofFields [("_source", .ofFields fields)]
    let found := Json.ofFields [("hits", .array
      [document [("identifier", .int 12), ("name", .text "Blue"), ("description", .text "Sea")],
        document [("identifier", .int (-3)), ("name", .text "Red")]])]
    let sources :=
      Sources.constant (.answered ⟨200, some "OK", .document (.ofFields [("hits", found)])⟩) []
    let list (listName : String) := Provider.themes.list sources listName none ()
    ∃ names descriptions : Listing,
      (list "THEMES.NAME").outcome = .ok names ∧
      (list "THEMES.DESCRIPTION").outcome = .ok descriptions ∧
      names.entries = [⟨"12", "Blue"⟩, ⟨"-3", "Red"⟩] ∧
      descriptions.entries = [⟨"12", "Sea"⟩, ⟨"-3", ""⟩] := by
  intro document found sources list
  let page : ThemePage :=
    ⟨[⟨⟨12, "Blue", some "Sea", none, none, false⟩, .zero⟩,
      ⟨⟨-3, "Red", none, none, none, false⟩, .zero⟩], 2, 0, 10000⟩
  have hpage : (sources.index.themes sources.transport (query sources.caller none) ()).outcome =
      .ok page := by
    rw [sources.index.run_themes _ _ (by decide)]
    rfl
  obtain ⟨-, -, -, hentries, houtcomes⟩ := listings_keyed page sources none ()
  obtain ⟨hnames, hdescriptions⟩ := hentries (by decide)
  obtain ⟨hnamed, hdescribed⟩ := (houtcomes hpage).1 (by decide)
  exact ⟨_, _, hnamed, hdescribed, hnames, hdescriptions⟩

/-- A number that comes up again keeps its place and takes the later name. -/
example :
    let hit (identifier : Int) (name : Text) : ThemeHit :=
      ⟨⟨identifier, name, none, none, none, false⟩, .zero⟩
    (listing false ⟨[hit 7 "Alpine", hit 4 "Beach", hit 7 "City"], 3, 0, 3⟩).entries =
      [⟨"7", "City"⟩, ⟨"4", "Beach"⟩] := by
  cbv

end Theme

end Picklists
