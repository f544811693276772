import Mathlib.Data.Finset.Lattice.Lemmas
import Mathlib.Logic.Relation
import Picklists.Exclusion
import Picklists.Proofs.Order
import Picklists.Proofs.Trimming

/-!
# Lists of tags as text

A set of user providers is configured as a text: tags with commas between them, and white space
around.  Many texts describe one set; one of them is the text of the set.

* `Exclusion.members` : the set, which tells snapshots apart (`Exclusion.members_bijective`).
* `Exclusion.pieces_eq_splitOn` : a text is cut at its commas.
* `Exclusion.mem_parse` : **which tags a text describes**; `Exclusion.members_parse_append` and
  `Exclusion.mem_parse_join` : those of texts with commas between them.
* `Exclusion.IsTag` : which texts are tags.  **The text of a set of tags describes it**
  (`Exclusion.parse_text`), and no other set has this text (`Exclusion.text_round_trip`).
* `Exclusion.Respelling` : a change of the entries that leaves their tags as they are.
* `Exclusion.parse_join_laws` : **a text that is put together of entries describes their tags**,
  however the entries are ordered, repeated, spaced and interspersed with blank ones.
-/

namespace Picklists

/-- A text of white space only. -/
def Text.Blank (text : Text) : Prop := ∀ point ∈ text.points, point.isBlank = true

instance : DecidablePred Text.Blank := fun text =>
  inferInstanceAs (Decidable (∀ point ∈ text.points, point.isBlank = true))

/-- A text without the white space around it. -/
def Text.trimmed (text : Text) : Text := ⟨Text.trim CodePoint.isBlank text.points⟩

theorem Text.trimmed_eq_empty_iff {text : Text} : text.trimmed.points = [] ↔ text.Blank :=
  Text.trim_eq_nil_iff

theorem Text.trimmed_pad {front back : Text} (hfront : front.Blank) (hback : back.Blank)
    (text : Text) : (front ++ text ++ back).trimmed = text.trimmed :=
  congrArg Text.mk (Text.trim_pad hfront hback)

theorem CodePoint.isBlank_comma : (CodePoint.char ',').isBlank = false := by decide

theorem Text.Blank.comma_notMem {text : Text} (h : text.Blank) : .char ',' ∉ text.points :=
  fun hmem => Bool.noConfusion (CodePoint.isBlank_comma.symm.trans (h _ hmem))

namespace Exclusion

/-! ### Sets -/

/-- The tags of a snapshot as a set. -/
def members (excluded : Exclusion) : Finset Text := excluded.tags.toFinset

@[simp] theorem mem_members {excluded : Exclusion} {tag : Text} :
    tag ∈ excluded.members ↔ tag ∈ excluded.tags := List.mem_toFinset

@[simp] theorem mem_members_ofTags {tags : List Text} {tag : Text} :
    tag ∈ (ofTags tags).members ↔ tag ∈ tags := by
  rw [mem_members, ofTags, mem_ascending]

theorem members_injective : Function.Injective members := by
  intro excluded other h
  have htags : excluded.tags = other.tags := by
    refine eq_of_pairwise_lt excluded.ascending other.ascending fun tag => ?_
    rw [← mem_members, ← mem_members, h]
  cases excluded
  cases other
  cases htags
  rfl

/-- Every set of tags has just one snapshot. -/
theorem members_bijective : Function.Bijective members := by
  refine ⟨members_injective, fun tags => ⟨ofTags tags.toList, ?_⟩⟩
  ext tag
  rw [mem_members_ofTags, Finset.mem_toList]

theorem excludesAll_iff {excluded : Exclusion} :
    excluded.excludesAll = true ↔ ("*" : Text) ∈ excluded.tags := by
  rw [excludesAll, allTag, List.contains_iff_mem]

theorem excludes_iff {excluded : Exclusion} {provider : Option Text} :
    excluded.excludes provider = true ↔ ∃ tag ∈ excluded.tags, provider = some tag := by
  cases provider <;> simp [excludes]

/-! ### Pieces -/

/-- A text is cut at its commas. -/
theorem pieces_eq_splitOn (points : List CodePoint) : pieces points = points.splitOn (.char ',') := by
  induction points with
  | nil => rfl
  | cons point points ih =>
    rw [pieces, List.splitOn_cons_eq_if_modifyHead, ih]
    by_cases hcomma : point = .char ','
    · rw [if_pos hcomma, if_pos (beq_iff_eq.2 hcomma)]
    · rw [if_neg hcomma, if_neg (by simpa using hcomma)]
      cases hpieces : points.splitOn (.char ',') with
      | nil => exact absurd hpieces (List.splitOn_ne_nil _ _)
      | cons piece rest => rfl

theorem comma_notMem_of_mem_splitOn {points piece : List CodePoint}
    (h : piece ∈ points.splitOn (.char ',')) : .char ',' ∉ piece := by
  induction points generalizing piece with
  | nil =>
    rw [List.splitOn_nil, List.mem_singleton] at h
    rw [h]
    exact List.not_mem_nil
  | cons point points ih =>
    rw [List.splitOn_cons_eq_if_modifyHead] at h
    split at h
    · rcases List.mem_cons.1 h with rfl | h
      · exact List.not_mem_nil
      · exact ih h
    · rename_i hcomma
      obtain ⟨first, rest, hpieces⟩ :=
        List.exists_cons_of_ne_nil (List.splitOn_ne_nil (.char ',') points)
      rw [hpieces, List.modifyHead_cons] at h
      rcases List.mem_cons.1 h with rfl | h
      · rw [List.mem_cons, not_or]
        exact ⟨fun hpoint => hcomma (beq_iff_eq.2 hpoint.symm), ih (hpieces ▸ List.mem_cons_self)⟩
      · exact ih (hpieces ▸ List.mem_cons_of_mem first h)

/-- **Which tags a text describes**: what is left of its pieces, unless they are blank. -/
theorem mem_parse {text tag : Text} :
    tag ∈ (parse text).members ↔
      tag.points ≠ [] ∧ ∃ piece ∈ text.points.splitOn (.char ','),
        Text.trim CodePoint.isBlank piece = tag.points := by
  rw [parse, mem_members_ofTags, parseTags, pieces_eq_splitOn]
  simp only [List.mem_map, List.mem_filter, Bool.not_eq_true', List.isEmpty_eq_false_iff]
  constructor
  · rintro ⟨_, ⟨⟨piece, hpiece, rfl⟩, hne⟩, rfl⟩
    exact ⟨hne, piece, hpiece, rfl⟩
  · rintro ⟨hne, piece, hpiece, htrim⟩
    exact ⟨tag.points, ⟨⟨piece, hpiece, htrim⟩, hne⟩, rfl⟩

/-! ### Texts with commas between them -/

/-- **A comma unites.**  Two texts with a comma between them describe the tags of both. -/
theorem members_parse_append (front back : Text) :
    (parse (front ++ "," ++ back)).members = (parse front).members ∪ (parse back).members := by
  have hpoints : (front ++ "," ++ back).points = front.points ++ .char ',' :: back.points := by
    change front.points ++ [.char ','] ++ back.points = _
    rw [List.append_assoc, List.singleton_append]
  ext tag
  rw [Finset.mem_union, mem_parse, mem_parse, mem_parse, hpoints, List.splitOn_append_cons_self]
  simp only [List.mem_append, or_and_right, exists_or, and_or_left]

/-- A text without commas describes one tag, or none if it is blank. -/
theorem members_parse_of_notMem {text : Text} (h : .char ',' ∉ text.points) :
    (parse text).members = if text.Blank then ∅ else {text.trimmed} := by
  have hmem : ∀ tag, tag ∈ (parse text).members ↔ tag.points ≠ [] ∧ text.trimmed = tag := by
    intro tag
    rw [mem_parse, List.splitOn_eq_singleton h]
    simp only [List.mem_singleton, exists_eq_left]
    exact and_congr_right fun _ => ⟨congrArg Text.mk, congrArg Text.points⟩
  ext tag
  rw [hmem]
  split
  · rename_i hblank
    refine iff_of_false ?_ (Finset.notMem_empty tag)
    rintro ⟨hne, rfl⟩
    exact hne (Text.trimmed_eq_empty_iff.2 hblank)
  · rename_i hblank
    rw [Finset.mem_singleton]
    constructor
    · rintro ⟨-, rfl⟩
      rfl
    · rintro rfl
      exact ⟨mt Text.trimmed_eq_empty_iff.1 hblank, rfl⟩

/-- No entry holds a comma. -/
def CommaFree (entries : List Text) : Prop := ∀ entry ∈ entries, .char ',' ∉ entry.points

/-- The tags that entries name: what is left of those that are not blank. -/
def named (entries : List Text) : Set Text :=
  {tag | tag.points ≠ [] ∧ ∃ entry ∈ entries, entry.trimmed = tag}

/-- **A text that is put together of entries** describes the tags that they name. -/
theorem mem_parse_join {entries : List Text} (h : CommaFree entries) {tag : Text} :
    tag ∈ (parse (.join "," entries)).members ↔ tag ∈ named entries := by
  rw [mem_parse]
  refine and_congr_right fun hne => ?_
  change (∃ piece ∈ (List.intercalate [.char ','] (entries.map (·.points))).splitOn (.char ','),
    Text.trim CodePoint.isBlank piece = tag.points) ↔ _
  cases entries with
  | nil =>
    -- the empty text has one piece, which is blank
    refine iff_of_false ?_ (by simp)
    rintro ⟨piece, hpiece, htrim⟩
    rw [List.mem_singleton.1 hpiece] at htrim
    exact hne htrim.symm
  | cons entry entries =>
    have hfree : ∀ piece ∈ (entry :: entries).map (·.points), .char ',' ∉ piece := by
      intro piece hpiece
      obtain ⟨other, hother, rfl⟩ := List.mem_map.1 hpiece
      exact h other hother
    rw [List.splitOn_intercalate _ hfree (by simp)]
    constructor
    · rintro ⟨_, hpiece, htrim⟩
      obtain ⟨other, hother, rfl⟩ := List.mem_map.1 hpiece
      exact ⟨other, hother, congrArg Text.mk htrim⟩
    · rintro ⟨other, hother, rfl⟩
      exact ⟨other.points, List.mem_map_of_mem hother, rfl⟩

/-! ### Tags -/

/-- A text is a tag: it is not empty, holds no comma, and neither begins nor ends with white
space. -/
structure IsTag (tag : Text) : Prop where
  /-- It is not empty. -/
  ne_nil : tag.points ≠ []
  /-- It holds no comma. -/
  comma_notMem : .char ',' ∉ tag.points
  /-- It neither begins nor ends with white space. -/
  trimmed : Text.Trimmed CodePoint.isBlank tag.points

instance : DecidablePred IsTag := fun tag =>
  decidable_of_iff (tag.points ≠ [] ∧ .char ',' ∉ tag.points ∧
      Text.Trimmed CodePoint.isBlank tag.points)
    ⟨fun h => ⟨h.1, h.2.1, h.2.2⟩, fun h => ⟨h.ne_nil, h.comma_notMem, h.trimmed⟩⟩

theorem isTag_of_mem_parse {text tag : Text} (h : tag ∈ (parse text).members) : IsTag tag := by
  obtain ⟨hne, piece, hpiece, htrim⟩ := mem_parse.1 h
  refine ⟨hne, ?_, ?_⟩
  · rw [← htrim]
    exact fun hmem => comma_notMem_of_mem_splitOn hpiece (Text.mem_of_mem_trim hmem)
  · rw [← htrim]
    exact Text.trimmed_trim ..

theorem IsTag.trimmed_eq {tag : Text} (h : IsTag tag) : tag.trimmed = tag :=
  congrArg Text.mk (Text.trim_eq_self_iff.2 h.trimmed)

/-- **The text of a set of tags describes it.** -/
theorem parse_text {excluded : Exclusion} (h : ∀ tag ∈ excluded.members, IsTag tag) :
    parse excluded.text = excluded := by
  have htag : ∀ tag ∈ excluded.tags, IsTag tag := fun tag hmem => h tag (mem_members.2 hmem)
  refine members_injective ?_
  ext tag
  rw [text, mem_parse_join fun entry hentry => (htag entry hentry).comma_notMem, mem_members]
  constructor
  · rintro ⟨-, entry, hentry, rfl⟩
    rw [(htag entry hentry).trimmed_eq]
    exact hentry
  · intro hmem
    exact ⟨(htag tag hmem).ne_nil, tag, hmem, (htag tag hmem).trimmed_eq⟩

/-- **Sets of tags survive as text.**  Every set has one snapshot.  Reading a text, writing what it
describes and reading that again changes nothing; the sets that are read are exactly those of tags;
each of them is read back from its text, and different ones have different texts. -/
theorem text_round_trip :
    Function.Bijective members ∧
    (∀ text, parse (parse text).text = parse text) ∧
    (∀ tags : Finset Text, (∃ text, (parse text).members = tags) ↔ ∀ tag ∈ tags, IsTag tag) ∧
    (∀ excluded : Exclusion, (∀ tag ∈ excluded.members, IsTag tag) →
      parse excluded.text = excluded) ∧
    ∀ excluded other : Exclusion, (∀ tag ∈ excluded.members, IsTag tag) →
      (∀ tag ∈ other.members, IsTag tag) → excluded.text = other.text → excluded = other := by
  refine ⟨members_bijective, fun text => ?_, fun tags => ⟨?_, fun h => ?_⟩, fun excluded h => ?_,
    fun excluded other h hother htext => ?_⟩
  · exact parse_text fun tag => isTag_of_mem_parse
  · rintro ⟨text, rfl⟩ tag
    exact isTag_of_mem_parse
  · obtain ⟨excluded, rfl⟩ := members_bijective.2 tags
    exact ⟨excluded.text, congrArg members (parse_text h)⟩
  · exact parse_text h
  · rw [← parse_text h, htext, parse_text hother]

/-- Two sets of tags, one of which holds a tag with white space inside.  It is also read from a text
with white space around its tags and with blank entries, which is not its own. -/
theorem text_round_trip_guests :
    let guests : Exclusion := ⟨["guest", "local users"], by decide⟩
    let others : Exclusion := ⟨["jpa"], by decide⟩
    let spaced : Text := " local users\t, ,guest ,"
    parse guests.text = guests ∧ guests.text ≠ others.text ∧
      parse spaced = guests ∧ guests.text ≠ spaced ∧ parse (parse spaced).text = guests := by
  intro guests others spaced
  obtain ⟨-, hagain, -, hread, hwritten⟩ := text_round_trip
  have hguests : ∀ tag ∈ guests.members, IsTag tag := by decide
  have hothers : ∀ tag ∈ others.members, IsTag tag := by decide
  have htags : parseTags spaced = (["local users", "guest"] : List Text) := by decide
  have hspaced : parse spaced = guests := by
    refine members_injective (Finset.ext fun tag => ?_)
    rw [parse, htags, mem_members_ofTags, mem_members]
    exact (List.Perm.swap ("guest" : Text) "local users" []).mem_iff
  exact ⟨hread guests hguests,
    fun h => absurd (hwritten guests others hguests hothers h) (by decide), hspaced, by decide,
    (hagain spaced).trans hspaced⟩

/-! ### Entries -/

/-- One change of a list of entries that leaves the tags that they name as they are. -/
inductive Respelling : List Text → List Text → Prop where
  /-- The entries change places. -/
  | reorder {entries others : List Text} (h : entries.Perm others) : Respelling entries others
  /-- An entry comes up again, at any place. -/
  | again (front back : List Text) {entry : Text} (h : entry ∈ front ++ back) :
    Respelling (front ++ back) (front ++ entry :: back)
  /-- A blank entry is added, at any place. -/
  | blank (front back : List Text) {entry : Text} (h : entry.Blank) :
    Respelling (front ++ back) (front ++ entry :: back)
  /-- White space is put around an entry. -/
  | pad (front back : List Text) (before entry after : Text) (hbefore : before.Blank)
    (hafter : after.Blank) :
    Respelling (front ++ entry :: back) (front ++ (before ++ entry ++ after) :: back)

variable {entries others : List Text}

/-- A change brings in no comma and takes none away. -/
theorem Respelling.commaFree_iff (h : Respelling entries others) :
    CommaFree entries ↔ CommaFree others := by
  cases h with
  | reorder hperm => simp only [CommaFree, hperm.mem_iff]
  | again front back hentry =>
    simp only [CommaFree, List.forall_mem_append, List.forall_mem_cons]
    constructor
    · rintro ⟨hfront, hback⟩
      exact ⟨hfront, (List.mem_append.1 hentry).elim (hfront _) (hback _), hback⟩
    · rintro ⟨hfront, -, hback⟩
      exact ⟨hfront, hback⟩
  | blank front back hblank =>
    simp only [CommaFree, List.forall_mem_append, List.forall_mem_cons, hblank.comma_notMem,
      not_false_eq_true, true_and]
  | pad front back before entry after hbefore hafter =>
    have hentry : .char ',' ∈ (before ++ entry ++ after).points ↔ .char ',' ∈ entry.points := by
      change .char ',' ∈ before.points ++ entry.points ++ after.points ↔ _
      simp only [List.mem_append, hbefore.comma_notMem, hafter.comma_notMem, false_or, or_false]
    simp only [CommaFree, List.forall_mem_append, List.forall_mem_cons, hentry]

/-- **One change** leaves the named tags as they are. -/
theorem Respelling.named_eq (h : Respelling entries others) : named entries = named others := by
  ext tag
  refine and_congr_right fun hne => ?_
  cases h with
  | reorder hperm => simp only [hperm.mem_iff]
  | again front back hentry =>
    constructor
    · rintro ⟨entry, hmem, htag⟩
      exact ⟨entry, by grind, htag⟩
    · rintro ⟨entry, hmem, htag⟩
      exact ⟨entry, by grind, htag⟩
  | blank front back hblank =>
    have hother := Text.trimmed_eq_empty_iff.2 hblank
    constructor
    · rintro ⟨entry, hmem, htag⟩
      exact ⟨entry, by grind, htag⟩
    · rintro ⟨entry, hmem, rfl⟩
      exact ⟨entry, by grind, rfl⟩
  | pad front back before entry after hbefore hafter =>
    have hentry := Text.trimmed_pad hbefore hafter entry
    simp only [List.mem_append, List.mem_cons, or_and_right, exists_or, exists_eq_left, hentry]

/-- **Any number of changes**, there and back. -/
theorem respellings (h : Relation.EqvGen Respelling entries others) :
    (CommaFree entries ↔ CommaFree others) ∧ named entries = named others := by
  induction h with
  | rel entries others h => exact ⟨h.commaFree_iff, h.named_eq⟩
  | refl entries => exact ⟨Iff.rfl, rfl⟩
  | symm entries others _ ih => exact ⟨ih.1.symm, ih.2.symm⟩
  | trans entries between others _ _ ih ih' => exact ⟨ih.1.trans ih'.1, ih.2.trans ih'.2⟩

/-- Entries that are spelled differently make texts of one set. -/
theorem parse_join_congr (hfree : CommaFree entries) (h : Relation.EqvGen Respelling entries others) :
    parse (.join "," others) = parse (.join "," entries) := by
  obtain ⟨hcommas, hnamed⟩ := respellings h
  refine members_injective ?_
  ext tag
  rw [mem_parse_join hfree, mem_parse_join (hcommas.1 hfree), hnamed]

/-- **A text that is put together of entries describes their tags.**  A comma between two texts
unites what they describe, and a text without commas describes what is left of it, or nothing if it
is blank.  So of entries only the named tags count: neither their order nor repetitions, blank
entries or white space around them change whom the set hides.  It hides everyone exactly if one of
the entries is the tag for that. -/
theorem parse_join_laws :
    (∀ front back : Text,
      (parse (front ++ "," ++ back)).members = (parse front).members ∪ (parse back).members) ∧
    (∀ text : Text, .char ',' ∉ text.points →
      (parse text).members = if text.Blank then ∅ else {text.trimmed}) ∧
    ∀ entries : List Text, (∀ entry ∈ entries, .char ',' ∉ entry.points) →
      let excluded := parse (.join "," entries)
      (∀ others, Relation.EqvGen Respelling entries others →
        let other := parse (.join "," others)
        other = excluded ∧ (∀ provider, other.excludes provider = excluded.excludes provider) ∧
          other.excludesAll = excluded.excludesAll) ∧
      (∀ tag, excluded.excludes (some tag) = true ↔
        tag ≠ "" ∧ ∃ entry ∈ entries, entry.trimmed = tag) ∧
      (excluded.excludesAll = true ↔ ∃ entry ∈ entries, entry.trimmed = "*") := by
  refine ⟨members_parse_append, fun text => members_parse_of_notMem, fun entries hfree => ?_⟩
  intro excluded
  have hmem : ∀ tag, tag ∈ excluded.tags ↔ tag.points ≠ [] ∧ ∃ entry ∈ entries, entry.trimmed = tag :=
    fun tag => mem_members.symm.trans (mem_parse_join hfree)
  refine ⟨fun others hothers => ?_, fun tag => ?_, ?_⟩
  · intro other
    have hsame : other = excluded := parse_join_congr hfree hothers
    rw [hsame]
    exact ⟨rfl, fun _ => rfl, rfl⟩
  · have hempty : tag ≠ "" ↔ tag.points ≠ [] :=
      not_congr ⟨congrArg Text.points, congrArg Text.mk⟩
    rw [excludes_iff, hempty, ← hmem]
    simp
  · rw [excludesAll_iff, hmem]
    exact and_iff_right (by decide)

/-- Blank entries, white space and a repetition among the tags for guests and for everyone. -/
theorem parse_join_laws_everyone :
    let entries : List Text := ["guest", "*"]
    let others : List Text := [" * ", "guest", "", "guest"]
    parse (.join "," others) = parse (.join "," entries) ∧
      (parse (.join "," entries)).excludesAll = true ∧
      (parse (.join "," others)).excludes (some "guest") = true ∧
      (parse "guest").members = {("guest" : Text)} := by
  intro entries others
  obtain ⟨-, hone, hentries⟩ := parse_join_laws
  obtain ⟨hothers, hexcludes, hall⟩ := hentries entries (by decide)
  have hspace : Text.Blank " " := by decide
  have hreordered : Respelling entries ["*", "guest"] := .reorder (by decide)
  have hpadded : Respelling ["*", "guest"] [" * ", "guest"] :=
    .pad [] ["guest"] " " "*" " " hspace hspace
  have hrepeated : Respelling [" * ", "guest"] [" * ", "guest", "guest"] :=
    .again [" * "] ["guest"] (by decide)
  have hblank : Respelling [" * ", "guest", "guest"] others :=
    .blank [" * ", "guest"] ["guest"] (by decide)
  have hrespelled : Relation.EqvGen Respelling entries others :=
    .trans _ _ _ (.rel _ _ hreordered) (.trans _ _ _ (.rel _ _ hpadded)
      (.trans _ _ _ (.rel _ _ hrepeated) (.rel _ _ hblank)))
  obtain ⟨hsame, hguests, -⟩ := hothers others hrespelled
  refine ⟨hsame, hall.2 ⟨"*", by decide, by decide⟩, ?_, ?_⟩
  · rw [hguests, hexcludes]
    exact ⟨by decide, "guest", by decide, by decide⟩
  · rw [hone "guest" (by decide), if_neg (by decide)]
    rfl

end Exclusion

end Picklists
