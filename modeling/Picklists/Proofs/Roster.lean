import Picklists.Proofs.LabelOrder

/-!
# Rosters

How names join the contributors of a roster.  A name that joins becomes a contributor, a label and a
key at once (`Roster.Gains`), so it is taken from then on.

* `Roster.gains_addNames` : **what a roster gains from names**: the first occurrence of every name
  that is not taken, in order (`Roster.newNames`).
* `Roster.addNames_of_taken` : names that are taken change nothing.
* `Roster.Gains.exact` : a roster that has taken the labels and the keys of its contributors and no
  other ones (`Roster.Exact`) stays so.
* `Roster.addNames_laws` : **the names of any number of calls** join as if they came at once, and
  none of them joins again.
* `namesToUsernames_eq` : the listing of accounts and terms is sorted from the accounts, followed by
  the terms that belong to none of them (`unclaimed`, `mem_unclaimed`).
-/

namespace Picklists

/-- The contributor that a name of the index is: its own key and label. -/
def Contributor.ofName (name : Text) : Contributor := ⟨name, name⟩

namespace Contributors

/-! ### Names that join a roster -/

namespace Roster

/-- The names that are taken as a label or as a key. -/
def taken (roster : Roster) : Std.HashSet Text := roster.labels ∪ roster.keys

@[simp] theorem mem_taken {roster : Roster} {name : Text} :
    name ∈ roster.taken ↔ name ∈ roster.labels ∨ name ∈ roster.keys := Std.HashSet.mem_union_iff

/-- The first occurrences of the names that are not taken. -/
def newNames (roster : Roster) (names : List Text) : List Text := distinctFrom roster.taken names

theorem mem_newNames {roster : Roster} {names : List Text} {name : Text} :
    name ∈ roster.newNames names ↔ name ∈ names ∧ name ∉ roster.labels ∧ name ∉ roster.keys := by
  rw [newNames, mem_distinctFrom, mem_taken, not_or]

theorem newNames_eq_eraseDups (roster : Roster) (names : List Text) :
    roster.newNames names =
      (names.filter fun name => name ∉ roster.labels ∧ name ∉ roster.keys).eraseDups := by
  rw [newNames, distinctFrom_eq_distinct_filter, distinct_eq_eraseDups]
  simp only [mem_taken, not_or]

/-- A name that is taken changes nothing. -/
theorem addName_of_taken {roster : Roster} {name : Text}
    (h : name ∈ roster.labels ∨ name ∈ roster.keys) : roster.addName name = roster := by
  rw [addName, if_pos (by simpa using h)]

/-- A name that is free becomes a label, a key and the last contributor. -/
theorem addName_of_free {roster : Roster} {name : Text}
    (h : ¬ (name ∈ roster.labels ∨ name ∈ roster.keys)) :
    roster.addName name =
      ⟨roster.labels.insert name, roster.keys.insert name,
        roster.contributors.push (.ofName name)⟩ := by
  rw [addName, if_neg (by simpa using h)]
  rfl

/-- The first name joins if it is free, and the later ones find it taken. -/
theorem newNames_cons (roster : Roster) (name : Text) (names : List Text) :
    roster.newNames (name :: names) =
      roster.newNames [name] ++ (roster.addName name).newNames names := by
  by_cases hname : name ∈ roster.labels ∨ name ∈ roster.keys
  · have htaken : roster.taken.contains name = true := by simpa using hname
    rw [addName_of_taken hname]
    simp [newNames, distinctFrom, htaken]
  · have hfree : roster.taken.contains name = false := by simpa using hname
    -- what is seen and what is taken are built differently, but they agree on every name
    have hnext : distinctFrom (roster.taken.insert name) names =
        distinctFrom (roster.addName name).taken names := by
      refine distinctFrom_congr fun other _ => ?_
      rw [addName_of_free hname]
      simp only [mem_taken, Std.HashSet.mem_insert]
      tauto
    simp [newNames, distinctFrom, hfree, hnext]

/-! ### What a roster gains -/

/-- Some names have joined a roster, each of them as a contributor, as a label and as a key, and
nothing else has changed. -/
structure Gains (roster grown : Roster) (added : List Text) : Prop where
  /-- The contributors that were there come first, then the names in order. -/
  contributors : grown.contributors.toList = roster.contributors.toList ++ added.map .ofName
  /-- The names are the labels that are taken besides. -/
  mem_labels : ∀ name, name ∈ grown.labels ↔ name ∈ roster.labels ∨ name ∈ added
  /-- The names are the keys that are taken besides. -/
  mem_keys : ∀ name, name ∈ grown.keys ↔ name ∈ roster.keys ∨ name ∈ added

theorem Gains.refl (roster : Roster) : roster.Gains roster [] := by
  constructor <;> simp

theorem Gains.trans {roster middle grown : Roster} {first later : List Text}
    (hfirst : roster.Gains middle first) (hlater : middle.Gains grown later) :
    roster.Gains grown (first ++ later) := by
  constructor
  · rw [hlater.contributors, hfirst.contributors, List.map_append, List.append_assoc]
  · intro name
    rw [hlater.mem_labels, hfirst.mem_labels, List.mem_append, or_assoc]
  · intro name
    rw [hlater.mem_keys, hfirst.mem_keys, List.mem_append, or_assoc]

theorem gains_addName (roster : Roster) (name : Text) :
    roster.Gains (roster.addName name) (roster.newNames [name]) := by
  by_cases hname : name ∈ roster.labels ∨ name ∈ roster.keys
  · have hnone : roster.newNames [name] = [] := by simp [newNames, distinctFrom, hname]
    rw [addName_of_taken hname, hnone]
    exact .refl roster
  · have hone : roster.newNames [name] = [name] := by simp [newNames, distinctFrom, hname]
    rw [addName_of_free hname, hone]
    constructor
    · simp
    · intro other
      rw [Std.HashSet.mem_insert, List.mem_singleton, beq_iff_eq, eq_comm, or_comm]
    · intro other
      rw [Std.HashSet.mem_insert, List.mem_singleton, beq_iff_eq, eq_comm, or_comm]

/-- **What a roster gains from names.** -/
theorem gains_addNames (roster : Roster) (names : List Text) :
    roster.Gains (roster.addNames names) (roster.newNames names) := by
  induction names generalizing roster with
  | nil => exact .refl roster
  | cons name names ih =>
    rw [newNames_cons]
    exact (gains_addName roster name).trans (ih (roster.addName name))

theorem contributors_addNames (roster : Roster) (names : List Text) :
    (roster.addNames names).contributors.toList =
      roster.contributors.toList ++ (roster.newNames names).map .ofName :=
  (gains_addNames roster names).contributors

/-! ### Names of several calls -/

/-- Names that come field by field join a roster as if they came at once. -/
theorem foldl_addNames (roster : Roster) (terms : List (List Text)) :
    terms.foldl addNames roster = roster.addNames terms.flatten := by
  rw [addNames, List.foldl_flatten]
  rfl

/-- Names that are taken change nothing. -/
theorem addNames_of_taken {roster : Roster} {names : List Text}
    (h : ∀ name ∈ names, name ∈ roster.labels ∨ name ∈ roster.keys) :
    roster.addNames names = roster := by
  induction names with
  | nil => rfl
  | cons name names ih =>
    obtain ⟨hname, hnames⟩ := List.forall_mem_cons.1 h
    have hstep : roster.addNames (name :: names) = (roster.addName name).addNames names := rfl
    rw [hstep, addName_of_taken hname, ih hnames]

/-- A name is taken once it is given. -/
theorem taken_of_mem {names : List Text} {name : Text} (h : name ∈ names) (roster : Roster) :
    name ∈ (roster.addNames names).labels ∨ name ∈ (roster.addNames names).keys := by
  rw [(gains_addNames roster names).mem_labels, (gains_addNames roster names).mem_keys,
    mem_newNames]
  tauto

/-- The labels and the keys that are taken are those of the contributors. -/
structure Exact (roster : Roster) : Prop where
  /-- The labels that are taken are those of the contributors. -/
  mem_labels : ∀ label, label ∈ roster.labels ↔ label ∈ roster.contributors.toList.map (·.label)
  /-- The keys that are taken are those of the contributors. -/
  mem_keys : ∀ key, key ∈ roster.keys ↔ key ∈ roster.contributors.toList.map (·.key)

theorem exact_ofContributors (contributors : List Contributor) :
    (ofContributors contributors).Exact := by
  constructor <;> simp [ofContributors, Std.HashSet.mem_ofList]

theorem Gains.exact {roster grown : Roster} {added : List Text} (h : roster.Gains grown added)
    (hexact : roster.Exact) : grown.Exact := by
  constructor
  · intro label
    rw [h.mem_labels, hexact.mem_labels, h.contributors]
    simp [Contributor.ofName]
  · intro key
    rw [h.mem_keys, hexact.mem_keys, h.contributors]
    simp [Contributor.ofName]

/-- **The names of any number of calls.**  Names join a roster as if they came at once: those that
are not taken, each at its first occurrence.  All of them are taken from then on, so no name that was
given in some call joins again, and a roster that has taken what its contributors have and nothing
else stays so. -/
theorem addNames_laws (roster : Roster) (names : List Text) :
    roster.Gains (roster.addNames names)
        (names.filter fun name => name ∉ roster.labels ∧ name ∉ roster.keys).eraseDups ∧
      (∀ name ∈ names,
        name ∈ (roster.addNames names).labels ∨ name ∈ (roster.addNames names).keys) ∧
      (∀ more, (roster.addNames names).addNames more = roster.addNames (names ++ more)) ∧
      ∀ calls : List (List Text),
        (∀ again : List Text, (∀ name ∈ again, ∃ call ∈ calls, name ∈ call) →
          (calls.foldl addNames roster).addNames again = calls.foldl addNames roster) ∧
        (roster.Exact → (calls.foldl addNames roster).Exact) := by
  refine ⟨?_, fun name hname => taken_of_mem hname roster, fun more => ?_, fun calls => ?_⟩
  · rw [← newNames_eq_eraseDups]
    exact gains_addNames roster names
  · rw [addNames, addNames, addNames, List.foldl_append]
  · rw [foldl_addNames]
    refine ⟨fun again hagain => addNames_of_taken fun name hname => ?_, ?_⟩
    · exact taken_of_mem (List.mem_flatten.2 (hagain name hname)) roster
    · exact (gains_addNames roster calls.flatten).exact

/-- Of the names of two calls, one is a label, one is a key, and one comes three times. -/
theorem addNames_laws_repeated :
    let roster := ofContributors [⟨"ann", "Ann Lee"⟩, ⟨"bob", "bob"⟩]
    let first : List Text := ["zoe", "Ann Lee", "zoe"]
    let second : List Text := ["ann", "zoe", "dora"]
    let called := (roster.addNames first).addNames second
    called.contributors.toList =
        [⟨"ann", "Ann Lee"⟩, ⟨"bob", "bob"⟩, ⟨"zoe", "zoe"⟩, ⟨"dora", "dora"⟩] ∧
      (("zoe" : Text) ∈ called.labels ∨ ("zoe" : Text) ∈ called.keys) ∧
      called.addNames ["dora", "Ann Lee"] = called ∧ called.Exact := by
  intro roster first second called
  have hstart : roster.Exact := exact_ofContributors _
  obtain ⟨-, -, hmore, hlaws⟩ := addNames_laws roster first
  obtain ⟨hagain, hexact⟩ := hlaws [first, second]
  obtain ⟨hgains, htaken, -, -⟩ := addNames_laws roster (first ++ second)
  have hcalled : called = roster.addNames (first ++ second) := hmore second
  have hcalls : [first, second].foldl addNames roster = called := by
    rw [List.foldl_cons, List.foldl_cons, List.foldl_nil]
  rw [hcalls] at hagain hexact
  refine ⟨?_, ?_, hagain _ (by decide), hexact hstart⟩
  · rw [hcalled, hgains.contributors]
    simp only [hstart.mem_labels, hstart.mem_keys]
    decide
  · rw [hcalled]
    exact htaken "zoe" (by decide)

end Roster

/-! ### Accounts and terms -/

/-- The first occurrences of the terms that are neither the label nor the login name of an
account. -/
def unclaimed (accounts : List Account) (terms : List Text) : List Text :=
  (Roster.ofContributors (accounts.map ofAccount)).newNames terms

theorem mem_unclaimed {accounts : List Account} {terms : List Text} {term : Text} :
    term ∈ unclaimed accounts terms ↔
      term ∈ terms ∧ term ∉ accounts.map (·.label) ∧ term ∉ accounts.map (·.username) := by
  rw [unclaimed, Roster.mem_newNames]
  simp [Roster.ofContributors, ofAccount, Std.HashSet.mem_ofList]

/-- The listing of accounts and terms is sorted from the accounts and the terms that belong to none
of them. -/
theorem namesToUsernames_eq (accounts : List Account) (terms : List (List Text)) :
    namesToUsernames accounts terms =
      byLabel (accounts.map ofAccount ++ (unclaimed accounts terms.flatten).map .ofName) := by
  simp only [namesToUsernames, Roster.foldl_addNames, Roster.contributors_addNames]
  rfl

end Contributors

end Picklists
