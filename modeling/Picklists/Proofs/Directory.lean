import Mathlib.Data.List.Forall2
import Picklists.Proofs.Listing
import Picklists.Proofs.Visibility

/-!
# Searches of the directory

What a search gives after any history of a directory that holds its accounts: made of a list or of a
JSON text, and then extended account by account.

* `Account.Matches` : which accounts match a pattern, piece by piece of the names
  (`Account.matchesPattern_iff`).
* `page_eq_cut` : a page whose bounds are not negative is a part of the list.
* `Directory.decodeAccounts_eq_ok_iff`, `Directory.decodeAccounts_of_invalid` : a document is read
  item by item, up to the first one that describes no account.
* `Directory.Searches` : every search goes through some stored accounts, in their order
  (`Directory.searches_holding`).
* `Directory.searches_stored` : **a directory searches what was put into it, and a document with an
  item that describes no account makes none.**
-/

namespace Picklists

/-! ### Matching accounts -/

/-- Whether an account matches a pattern: its login name does, or its display name does and is not
empty. -/
def Account.Matches (account : Account) (pattern : Text) : Prop :=
  let parts := pattern.points.map Pattern.Part.ofPoint
  Pattern.Matches parts account.username.points ∨
    ∃ name, account.name = some name ∧ name.points ≠ [] ∧ Pattern.Matches parts name.points

theorem Account.matchesPattern_iff {account : Account} {pattern : Text} :
    account.matchesPattern pattern = true ↔ account.Matches pattern := by
  rw [matchesPattern, Bool.or_eq_true, Pattern.accepts_iff_matches, Option.any_eq_true]
  refine or_congr_right (exists_congr fun name => and_congr_right fun _ => ?_)
  rw [Bool.and_eq_true, Pattern.accepts_iff_matches, Bool.not_eq_true', Text.isEmpty,
    List.isEmpty_eq_false_iff]

instance (pattern : Text) : DecidablePred fun account : Account => account.Matches pattern :=
  fun _ => decidable_of_iff _ Account.matchesPattern_iff

/-! ### Pages -/

section

variable {α : Type}

theorem position_natCast (length bound : Nat) : position length bound = min bound length := by
  rw [position, if_neg (by omega), Int.toNat_natCast]

/-- Bounds beyond the end stand for the end. -/
theorem take_drop_min (start stop : Nat) (members : List α) :
    (members.drop (min start members.length)).take
        (min stop members.length - min start members.length) =
      (members.drop start).take (stop - start) := by
  by_cases hstart : start ≤ members.length
  · rw [Nat.min_eq_left hstart, List.take_eq_take_iff, List.length_drop]
    omega
  · have hend : members.length ≤ start := by omega
    rw [Nat.min_eq_right hend, List.drop_length, List.drop_of_length_le hend, List.take_nil,
      List.take_nil]

/-- **A page is the part from its offset on**, up to its limit, which is no limit if it is zero. -/
theorem page_eq_cut (offset limit : Nat) (members : List α) :
    page offset limit members =
      Listing.cut offset (if limit = 0 then none else some limit) members := by
  unfold page
  by_cases hlimit : limit = 0
  · subst hlimit
    have hall := take_drop_min offset members.length members
    rw [Nat.min_self] at hall
    simp only [Int.natCast_zero, Int.lt_irrefl, if_false, if_true, position_natCast, hall]
    exact List.take_of_length_le (by rw [List.length_drop])
  · have hpositive : (0 : Int) < limit := by omega
    simp only [hpositive, hlimit, if_true, if_false, ← Int.natCast_add, position_natCast,
      take_drop_min, Nat.add_sub_cancel_left]
    rfl

end

namespace Directory

/-! ### Histories -/

/-- Adds accounts one after the other. -/
def addAll? (directory : Directory) (accounts : List Account) : Option Directory :=
  accounts.foldlM add? directory

/-- The directory of the accounts that a JSON text lists. -/
def load (text : String) : Except Failure Directory := (readAccounts text).map .holding

/-- Adding never fails where accounts are held, and puts them at the end. -/
theorem addAll?_holding (accounts added : List Account) :
    (holding accounts).addAll? added = some (.holding (accounts ++ added)) := by
  induction added generalizing accounts with
  | nil => rw [List.append_nil]; rfl
  | cons account added ih =>
    have hrest := ih (accounts ++ [account])
    rw [List.append_assoc, List.singleton_append] at hrest
    exact hrest

/-- Items are read into accounts if each of them describes one. -/
theorem decodeAccounts_eq_ok_iff {items : List Json} {accounts : List Account} :
    decodeAccounts items = .ok accounts ↔
      List.Forall₂ (fun item account => Account.decode item = .valid account) items accounts := by
  induction items generalizing accounts with
  | nil => simp [decodeAccounts, eq_comm]
  | cons item items ih =>
    rw [decodeAccounts, List.forall₂_cons_left_iff]
    cases hitem : Account.decode item with
    | invalid faults => simp
    | valid account =>
      cases hrest : decodeAccounts items with
      | error failure =>
        simp only [← ih, hrest]
        simp
      | ok rest =>
        simp only [← ih, hrest]
        simp [eq_comm]

/-- **The first item that describes no account decides**: its faults are the failure. -/
theorem decodeAccounts_of_invalid {earlier later : List Json} {item : Json} {faults : List Fault}
    (hearlier : ∀ other ∈ earlier, ∃ account, Account.decode other = .valid account)
    (hitem : Account.decode item = .invalid faults) :
    decodeAccounts (earlier ++ item :: later) = .error (.refused faults) := by
  induction earlier with
  | nil => rw [List.nil_append, decodeAccounts, hitem]
  | cons first earlier ih =>
    obtain ⟨account, hfirst⟩ := hearlier first List.mem_cons_self
    rw [List.cons_append, decodeAccounts, hfirst,
      ih fun other hother => hearlier other (List.mem_cons_of_mem first hother)]
    rfl

theorem load_of_array {text : String} {items : List Json}
    (h : Json.read text = .ok (.array items)) :
    load text = (decodeAccounts items).map .holding := by
  rw [load, readAccounts, h]
  rfl

/-! ### Searches -/

/-- Every search of a directory goes through some stored accounts, in their order. -/
structure Searches (directory : Directory) (stored : List Account) : Prop where
  /-- A search gives the matching accounts at the positions from the offset on, as many as the limit
  says, or all of them if it is zero. -/
  window : ∀ (pattern : Text) (offset limit : Nat), directory.find pattern offset limit =
    .ok (((stored.filter (·.Matches pattern)).zipIdx.filter fun place =>
      offset ≤ place.2 ∧ (limit = 0 ∨ place.2 < offset + limit)).map (·.1))
  /-- The pages of one size, side by side, are what is found without bounds. -/
  pages : ∀ (pattern : Text) (size : Nat), 0 < size → ∃ (whole : List Account)
    (pages : Nat → List Account), directory.find pattern 0 0 = .ok whole ∧
      (∀ page : Nat, directory.find pattern ↑(page * size) size = .ok (pages page)) ∧
      ∀ count, whole.length ≤ count * size → (List.range count).flatMap pages = whole
  /-- All accounts match `%`. -/
  everyone : directory.find "%" 0 0 = .ok stored

theorem find_holding (stored : List Account) (pattern : Text) (offset limit : Nat) :
    (holding stored).find pattern offset limit =
      .ok (Listing.cut offset (if limit = 0 then none else some limit)
        (stored.filter (·.Matches pattern))) := by
  have hmatches : stored.filter (·.matchesPattern pattern) = stored.filter (·.Matches pattern) := by
    refine List.filter_congr fun account _ => ?_
    rw [Bool.eq_iff_iff, decide_eq_true_eq, Account.matchesPattern_iff]
  rw [find, page_eq_cut, hmatches]

theorem searches_holding (stored : List Account) : (holding stored).Searches stored where
  window := by
    intro pattern offset limit
    rw [find_holding, Listing.cut_eq_filter]
    congr 3
    funext place
    by_cases hlimit : limit = 0 <;> simp [hlimit]
  pages := by
    intro pattern size hsize
    have hpage (page : Nat) := find_holding stored pattern (page * size) size
    rw [if_neg hsize.ne'] at hpage
    exact ⟨_, _, find_holding stored pattern 0 0, hpage, fun count =>
      Listing.flatMap_cut_of_length_le⟩
  everyone := find_all stored

/-- **A directory searches what was put into it.**  It stores the accounts that it was made of, from
a list or from a JSON text, and then the added ones.  A text with an item that describes no account
makes no directory, and the first such item says why. -/
theorem searches_stored :
    (∀ accounts added : List Account, ∃ directory,
      (holding accounts).addAll? added = some directory ∧
        directory.Searches (accounts ++ added)) ∧
    ∀ (text : String) (items : List Json), Json.read text = .ok (.array items) →
      (∀ accounts : List Account,
        List.Forall₂ (fun item account => Account.decode item = .valid account) items accounts →
        ∀ added, ∃ loaded directory, load text = .ok loaded ∧
          loaded.addAll? added = some directory ∧ directory.Searches (accounts ++ added)) ∧
      ∀ earlier item later faults, items = earlier ++ item :: later →
        (∀ other ∈ earlier, ∃ account, Account.decode other = .valid account) →
        Account.decode item = .invalid faults → load text = .error (.refused faults) := by
  refine ⟨fun accounts added => ?_, fun text items hread => ⟨fun accounts hitems added => ?_, ?_⟩⟩
  · exact ⟨_, addAll?_holding accounts added, searches_holding _⟩
  · refine ⟨.holding accounts, _, ?_, addAll?_holding accounts added, searches_holding _⟩
    rw [load_of_array hread, decodeAccounts_eq_ok_iff.2 hitems]
    rfl
  · rintro earlier item later faults rfl hearlier hitem
    rw [load_of_array hread, decodeAccounts_of_invalid hearlier hitem]
    rfl

/-- Two accounts from a text and one more, searched by display name.  A text whose second and third
items describe no accounts fails for the second one. -/
theorem searches_stored_loaded :
    let ann : Account := ⟨"ann", none, none, none, none⟩
    let bob : Account := ⟨"bob", some "Jane Roe", none, none, none⟩
    let carl : Account := ⟨"JANE", some "", none, none, none⟩
    (∃ loaded directory,
      load "[\x7b\"username\": \"ann\"\x7d, \x7b\"username\": \"bob\", \"name\": \"Jane Roe\"\x7d]" =
        .ok loaded ∧
      loaded.addAll? [carl, bob] = some directory ∧
      directory.find "j_n%" 1 2 = .ok [carl, bob] ∧
      directory.find "%" 0 0 = .ok [ann, bob, carl, bob]) ∧
    load "[\x7b\"username\": \"ann\"\x7d, \x7b\"name\": \"x\"\x7d, \"y\"]" =
      .error (.refused [⟨[.field "username"], .missing⟩]) := by
  intro ann bob carl
  -- the members of an object are read as they stand, since no name comes twice
  let annDocument : Json := .object (lastWins [("username", .text "ann")])
  let bobDocument : Json :=
    .object (lastWins [("username", .text "bob"), ("name", .text "Jane Roe")])
  let nameless : Json := .object (lastWins [("name", .text "x")])
  have hann : Account.decode annDocument = .valid ann := by
    unfold annDocument
    rw [lastWins_of_nodup (by decide)]
    rfl
  have hbob : Account.decode bobDocument = .valid bob := by
    unfold bobDocument
    rw [lastWins_of_nodup (by decide)]
    rfl
  have hnameless : Account.decode nameless = .invalid [⟨[.field "username"], .missing⟩] := by
    unfold nameless
    rw [lastWins_of_nodup (by decide)]
    rfl
  have hread : Json.read
      "[\x7b\"username\": \"ann\"\x7d, \x7b\"username\": \"bob\", \"name\": \"Jane Roe\"\x7d]" =
        .ok (.array [annDocument, bobDocument]) := by
    unfold Json.read
    iterate 17 rw [Json.readFrom_of_token (by cbv) (by rfl)]
    exact Json.readFrom_of_end (by cbv) (by rfl)
  have hreadFaulty : Json.read "[\x7b\"username\": \"ann\"\x7d, \x7b\"name\": \"x\"\x7d, \"y\"]" =
      .ok (.array ([annDocument] ++ nameless :: [.text "y"])) := by
    unfold Json.read
    iterate 15 rw [Json.readFrom_of_token (by cbv) (by rfl)]
    exact Json.readFrom_of_end (by cbv) (by rfl)
  obtain ⟨-, htexts⟩ := searches_stored
  obtain ⟨hvalid, -⟩ := htexts _ _ hread
  obtain ⟨-, hfaulty⟩ := htexts _ _ hreadFaulty
  obtain ⟨loaded, directory, hloaded, hadded, hsearches⟩ :=
    hvalid [ann, bob] (.cons hann (.cons hbob .nil)) [carl, bob]
  refine ⟨⟨loaded, directory, hloaded, hadded, ?_, hsearches.everyone⟩, ?_⟩
  · exact (hsearches.window "j_n%" 1 2).trans (congrArg Except.ok (by decide))
  · refine hfaulty _ _ _ _ rfl (fun other hother => ?_) hnameless
    exact ⟨ann, List.mem_singleton.1 hother ▸ hann⟩

end Directory

end Picklists
