import Mathlib.Data.List.Induction
import Mathlib.Data.List.Nodup
import Mathlib.Data.List.Pairwise
import Picklists.Order
import Std.Data.HashMap.Lemmas

/-!
# Repeated keys

What `lastWins` makes of pairs whose keys repeat: the keys stand in the order of their first
occurrences (`keys_lastWins`, `distinct_eq_eraseDups`, `pairwise_distinct`), each with the value
that is given to it last (`mem_lastWins`, `mem_lastWins_iff_split`).  Nothing changes if no key
repeats (`lastWins_of_nodup`), and a key does not interfere with other ones (`filter_lastWins`).

If the pairs stand in the order of their values, every key has the greatest of its values
(`mem_lastWins_of_pairwise`), but its place is that of the least one (`pairwise_lastWins`).

In ascending order only the members of a list count, not their order (`eq_of_pairwise_lt`,
`ascending_congr`).
-/

namespace Picklists

section

variable {κ α : Type} [DecidableEq κ] [Hashable κ]

/-! ### First occurrences -/

theorem distinctFrom_of_nodup {seen : Std.HashSet κ} {keys : List κ} (h : keys.Nodup)
    (hseen : ∀ key ∈ keys, key ∉ seen) : distinctFrom seen keys = keys := by
  induction keys generalizing seen with
  | nil => rfl
  | cons key keys ih =>
    obtain ⟨hkey, hkeys⟩ := List.nodup_cons.1 h
    have hnew : seen.contains key = false := by simpa using hseen key List.mem_cons_self
    rw [distinctFrom, hnew, if_neg Bool.false_ne_true, ih hkeys]
    intro other hother
    rw [Std.HashSet.mem_insert, not_or]
    refine ⟨?_, hseen other (List.mem_cons_of_mem key hother)⟩
    rw [beq_iff_eq]
    rintro rfl
    exact hkey hother

/-- The seen keys that are not in the list do not count. -/
theorem distinctFrom_congr {seen other : Std.HashSet κ} {keys : List κ}
    (h : ∀ key ∈ keys, key ∈ seen ↔ key ∈ other) :
    distinctFrom seen keys = distinctFrom other keys := by
  induction keys generalizing seen other with
  | nil => rfl
  | cons key keys ih =>
    have hkeys := fun later (hlater : later ∈ keys) => h later (List.mem_cons_of_mem key hlater)
    have hkey : seen.contains key = other.contains key := by
      rw [Bool.eq_iff_iff, Std.HashSet.contains_iff_mem, Std.HashSet.contains_iff_mem]
      exact h key List.mem_cons_self
    have hnext : distinctFrom (seen.insert key) keys = distinctFrom (other.insert key) keys := by
      refine ih fun later hlater => ?_
      rw [Std.HashSet.mem_insert, Std.HashSet.mem_insert, hkeys later hlater]
    rw [distinctFrom, distinctFrom, hkey, ih hkeys, hnext]

/-- Leaving keys out does not change which occurrences of the other ones are first. -/
theorem filter_distinctFrom (seen : Std.HashSet κ) (keys : List κ) (keep : κ → Bool) :
    (distinctFrom seen keys).filter keep = distinctFrom seen (keys.filter keep) := by
  induction keys generalizing seen with
  | nil => rfl
  | cons key keys ih =>
    by_cases hseen : seen.contains key = true
    · have hskip : distinctFrom seen (key :: keys) = distinctFrom seen keys := by
        rw [distinctFrom, if_pos hseen]
      rw [hskip, ih, List.filter_cons]
      split
      · rw [distinctFrom, if_pos hseen]
      · rfl
    · have htake : distinctFrom seen (key :: keys) =
          key :: distinctFrom (seen.insert key) keys := by
        rw [distinctFrom, if_neg hseen]
      rw [htake, List.filter_cons, List.filter_cons, ih]
      split
      · rw [distinctFrom, if_neg hseen]
      · rename_i hkeep
        -- the key is left out, so it need not be remembered either
        refine distinctFrom_congr fun later hlater => ?_
        have hne : key ≠ later := by
          rintro rfl
          exact hkeep (List.mem_filter.1 hlater).2
        simp [hne]

/-- The seen keys are left out, whether before the first occurrences are taken or while they are. -/
theorem distinctFrom_eq_distinct_filter (seen : Std.HashSet κ) (keys : List κ) :
    distinctFrom seen keys = distinct (keys.filter fun key => key ∉ seen) := by
  have hunseen : (distinctFrom seen keys).filter (fun key => key ∉ seen) =
      distinctFrom seen keys :=
    List.filter_eq_self.2 fun key hkey => decide_eq_true (mem_distinctFrom.1 hkey).2
  rw [← hunseen, filter_distinctFrom, distinct]
  refine distinctFrom_congr fun key hkey => ?_
  have hnew : key ∉ seen := of_decide_eq_true (List.mem_filter.1 hkey).2
  exact iff_of_false hnew Std.HashSet.not_mem_empty

/-- A list without repetition is the list of its first occurrences. -/
theorem distinct_of_nodup {keys : List κ} (h : keys.Nodup) : distinct keys = keys :=
  distinctFrom_of_nodup h fun _ _ => Std.HashSet.not_mem_empty

/-- A key at the end is listed there, unless it is known already. -/
theorem distinctFrom_concat (seen : Std.HashSet κ) (keys : List κ) (key : κ) :
    distinctFrom seen (keys ++ [key]) =
      distinctFrom seen keys ++ if key ∈ seen ∨ key ∈ keys then [] else [key] := by
  induction keys generalizing seen with
  | nil => by_cases hseen : key ∈ seen <;> simp [distinctFrom, hseen]
  | cons first keys ih =>
    rw [List.cons_append, distinctFrom, distinctFrom]
    split
    · rename_i hseen
      rw [ih]
      congr 2
      grind
    · rename_i hseen
      rw [ih, List.cons_append]
      congr 3
      grind

omit [Hashable κ] in
theorem eraseDups_concat (keys : List κ) (key : κ) :
    (keys ++ [key]).eraseDups = keys.eraseDups ++ if key ∈ keys then [] else [key] := by
  rw [List.eraseDups_append, List.removeAll]
  by_cases h : key ∈ keys
  · simp [h]
  · simp [h, List.eraseDups_cons]

/-- The first occurrences are what is left when the later ones are erased. -/
theorem distinct_eq_eraseDups (keys : List κ) : distinct keys = keys.eraseDups := by
  induction keys using List.reverseRecOn with
  | nil => rfl
  | append_singleton front key ih =>
    rw [eraseDups_concat, ← ih, distinct, distinctFrom_concat]
    simp [distinct]

/-- **The first member with a key** stands before all members with the keys that are listed later. -/
theorem pairwise_distinct {ι : Type} (key : ι → κ) (members : List ι) :
    (distinct (members.map key)).Pairwise fun a b =>
      ∃ front first back, members = front ++ first :: back ∧ key first = a ∧
        (∀ other ∈ front, key other ≠ a) ∧ ∀ other ∈ members, key other = b → other ∈ back := by
  induction members using List.reverseRecOn with
  | nil => exact List.Pairwise.nil
  | append_singleton members last ih =>
    rw [List.map_append, List.map_singleton, distinct_eq_eraseDups, eraseDups_concat,
      ← distinct_eq_eraseDups]
    refine List.pairwise_append.2 ⟨ih.imp ?_, by split <;> simp, fun a ha b hb => ?_⟩
    · rintro a b ⟨front, first, back, hsplit, hfirst, hfront, hback⟩
      refine ⟨front, first, back ++ [last], by simp [hsplit], hfirst, hfront, ?_⟩
      intro other hother hkey
      rcases List.mem_append.1 hother with hearlier | hlast
      · exact List.mem_append_left _ (hback other hearlier hkey)
      · exact List.mem_append_right _ hlast
    · split at hb
      · cases hb
      · rename_i hnew
        obtain rfl := List.mem_singleton.1 hb
        obtain ⟨before, after, hsplit, hbefore⟩ := List.eq_append_cons_of_mem (mem_distinct.1 ha)
        obtain ⟨front, rest, rfl, rfl, hrest⟩ := List.map_eq_append_iff.1 hsplit
        obtain ⟨first, back, rfl, rfl, rfl⟩ := List.map_eq_cons_iff.1 hrest
        refine ⟨front, first, back ++ [last], by simp, rfl, fun other hother h => ?_, ?_⟩
        · exact hbefore (h ▸ List.mem_map_of_mem hother)
        · intro other hother hkey
          -- the key is new, so only the last member has it
          rcases List.mem_append.1 hother with hearlier | hlast
          · exact absurd (hkey ▸ List.mem_map_of_mem hearlier) hnew
          · exact List.mem_append_right _ hlast

omit [Hashable κ] in
/-- Keys that are told apart repeat where what they stand for repeats. -/
theorem eraseDups_map {ι : Type} [DecidableEq ι] {f : ι → κ} (hf : Function.Injective f)
    (members : List ι) : (members.map f).eraseDups = members.eraseDups.map f := by
  induction members using List.reverseRecOn with
  | nil => rfl
  | append_singleton front a ih =>
    rw [List.map_append, List.map_singleton, eraseDups_concat, eraseDups_concat, ih]
    simp only [List.mem_map_of_injective hf, List.map_append]
    split <;> rfl

/-! ### Last values -/

/-- The value of a key is the one that is given to it last. -/
theorem getElem?_lastValues (pairs : List (κ × α)) (key : κ) :
    (lastValues pairs)[key]? = (pairs.reverse.find? (·.1 == key)).map (·.2) := by
  -- from the end of the list, since every pair overrides the pairs before it
  induction pairs using List.reverseRecOn with
  | nil => simp [lastValues]
  | append_singleton front pair ih =>
    have hstep : lastValues (front ++ [pair]) = (lastValues front).insert pair.1 pair.2 := by
      simp [lastValues]
    rw [hstep, Std.HashMap.getElem?_insert, List.reverse_concat, List.find?_cons, ih]
    cases pair.1 == key <;> rfl

theorem getElem?_lastValues_eq_none {pairs : List (κ × α)} {key : κ} :
    (lastValues pairs)[key]? = none ↔ key ∉ pairs.map (·.1) := by
  simp only [getElem?_lastValues, Option.map_eq_none_iff, List.find?_eq_none, List.mem_reverse,
    beq_iff_eq, List.mem_map, not_exists, not_and]

theorem mem_of_getElem?_lastValues {pairs : List (κ × α)} {key : κ} {value : α}
    (h : (lastValues pairs)[key]? = some value) : (key, value) ∈ pairs := by
  rw [getElem?_lastValues, Option.map_eq_some_iff] at h
  obtain ⟨⟨other, _⟩, hfind, rfl⟩ := h
  have hkey : other = key := by simpa using List.find?_some hfind
  rw [← hkey]
  exact List.mem_reverse.1 (List.mem_of_find?_eq_some hfind)

/-! ### The listed pairs -/

omit [DecidableEq κ] [Hashable κ] in
theorem keys_filterMap {value : κ → Option α} {keys : List κ}
    (h : ∀ key ∈ keys, (value key).isSome) :
    (keys.filterMap fun key => (value key).map fun v => (key, v)).map (·.1) = keys := by
  induction keys with
  | nil => rfl
  | cons key keys ih =>
    obtain ⟨v, hv⟩ := Option.isSome_iff_exists.1 (h key List.mem_cons_self)
    have hkeys := ih fun other hother => h other (List.mem_cons_of_mem key hother)
    simp only [List.filterMap_cons, hv, Option.map_some, List.map_cons, hkeys]

/-- Every key is listed once, at its first place. -/
theorem keys_lastWins (pairs : List (κ × α)) :
    (lastWins pairs).map (·.1) = distinct (pairs.map (·.1)) := by
  refine keys_filterMap fun key hkey => ?_
  rw [mem_distinct] at hkey
  rw [Option.isSome_iff_ne_none]
  exact fun hnone => getElem?_lastValues_eq_none.1 hnone hkey

/-- **A key is listed with the value that is given to it last.** -/
theorem mem_lastWins {pairs : List (κ × α)} {key : κ} {value : α} :
    (key, value) ∈ lastWins pairs ↔ (lastValues pairs)[key]? = some value := by
  simp only [lastWins, List.mem_filterMap, mem_distinct, Option.map_eq_some_iff, Prod.mk.injEq]
  constructor
  · rintro ⟨key, -, value, hvalue, rfl, rfl⟩
    exact hvalue
  · intro hvalue
    exact ⟨key, List.mem_map_of_mem (mem_of_getElem?_lastValues hvalue), value, hvalue, rfl, rfl⟩

/-- A pair is listed if no later pair has its key. -/
theorem mem_lastWins_iff_split {pairs : List (κ × α)} {key : κ} {value : α} :
    (key, value) ∈ lastWins pairs ↔
      ∃ earlier later, pairs = earlier ++ (key, value) :: later ∧ ∀ pair ∈ later, pair.1 ≠ key := by
  rw [mem_lastWins, getElem?_lastValues, Option.map_eq_some_iff]
  constructor
  · rintro ⟨⟨_, _⟩, hfind, rfl⟩
    obtain ⟨hkey, later, earlier, hsplit, hlater⟩ := List.find?_eq_some_iff_append.1 hfind
    obtain rfl := beq_iff_eq.1 hkey
    refine ⟨earlier.reverse, later.reverse, ?_, fun pair hpair => ?_⟩
    · simpa using congrArg List.reverse hsplit
    · simpa using hlater pair (List.mem_reverse.1 hpair)
  · rintro ⟨earlier, later, rfl, hlater⟩
    refine ⟨(key, value), List.find?_eq_some_iff_append.2 ⟨beq_self_eq_true key, later.reverse,
      earlier.reverse, by simp, fun pair hpair => ?_⟩, rfl⟩
    simpa using hlater pair (List.mem_reverse.1 hpair)

/-- Leaving keys out, with all their pairs, does not change what is listed of the other ones. -/
theorem filter_lastWins (pairs : List (κ × α)) (keep : κ → Bool) :
    (lastWins pairs).filter (keep ·.1) = lastWins (pairs.filter (keep ·.1)) := by
  have hvalue : ∀ key, keep key = true →
      (lastValues (pairs.filter (keep ·.1)))[key]? = (lastValues pairs)[key]? := by
    intro key hkeep
    rw [getElem?_lastValues, getElem?_lastValues, ← List.filter_reverse, List.find?_filter]
    congr 2
    funext pair
    by_cases hkey : pair.1 = key <;> simp [hkey, hkeep]
  have hkeys : (pairs.filter (keep ·.1)).map (·.1) = (pairs.map (·.1)).filter keep := by
    rw [List.filter_map]
    rfl
  rw [lastWins, lastWins, List.filter_filterMap, hkeys, distinct, distinct, ← filter_distinctFrom,
    List.filterMap_filter]
  refine List.filterMap_congr fun key _ => ?_
  cases hkeep : keep key with
  | true =>
    rw [if_pos rfl, hvalue key hkeep]
    cases (lastValues pairs)[key]? <;> simp [hkeep]
  | false => cases (lastValues pairs)[key]? <;> simp [hkeep]

/-- Pairs whose keys do not repeat are listed as they are. -/
theorem lastWins_of_nodup {pairs : List (κ × α)} (h : (pairs.map (·.1)).Nodup) :
    lastWins pairs = pairs := by
  have hvalue : ∀ pair ∈ pairs,
      ((lastValues pairs)[pair.1]?.map fun value => (pair.1, value)) = some pair := by
    intro pair hpair
    cases hlast : (lastValues pairs)[pair.1]? with
    | none => exact absurd (List.mem_map_of_mem hpair) (getElem?_lastValues_eq_none.1 hlast)
    | some value =>
      have hsame : (pair.1, value) = pair :=
        List.inj_on_of_nodup_map h (mem_of_getElem?_lastValues hlast) hpair rfl
      rw [Option.map_some, hsame]
  calc lastWins pairs
    _ = pairs.filterMap fun pair =>
          (lastValues pairs)[pair.1]?.map fun value => (pair.1, value) := by
      simp only [lastWins, distinct_of_nodup h, List.filterMap_map, Function.comp_def]
    _ = pairs.filterMap some := List.filterMap_congr hvalue
    _ = pairs := List.filterMap_some

end

/-! ### Ordered lists -/

/-- Of two members of an ordered list, one stands before the other. -/
theorem rel_or_rel_of_pairwise {α : Type} {r : α → α → Prop} {members : List α}
    (h : members.Pairwise r) {a b : α} (ha : a ∈ members) (hb : b ∈ members) (hne : a ≠ b) :
    r a b ∨ r b a := by
  have hsymm : Std.Symm fun x y => r x y ∨ r y x := ⟨fun _ _ => Or.symm⟩
  have heither : members.Pairwise fun x y => r x y ∨ r y x := h.imp Or.inl
  exact heither.forall ha hb hne

section

variable {κ : Type} [LE κ] [Std.IsLinearOrder κ] [LT κ] [Std.LawfulOrderLT κ]

/-- A strictly ascending list is determined by its members. -/
theorem eq_of_pairwise_lt {keys others : List κ} (hkeys : keys.Pairwise (· < ·))
    (hothers : others.Pairwise (· < ·)) (h : ∀ key, key ∈ keys ↔ key ∈ others) : keys = others := by
  have hnodup : ∀ {members : List κ}, members.Pairwise (· < ·) → members.Nodup := by
    refine fun hmembers => hmembers.imp fun {a b} hlt hsame => ?_
    rw [hsame] at hlt
    exact Std.lt_irrefl hlt
  have hperm : keys.Perm others := (List.perm_ext_iff_of_nodup (hnodup hkeys) (hnodup hothers)).2 h
  refine hperm.eq_of_pairwise (fun a b _ _ hab hba => ?_) hkeys hothers
  exact absurd (Std.lt_trans hab hba) Std.lt_irrefl

/-- Lists with the same members are the same in ascending order. -/
theorem ascending_congr [DecidableLE κ] [DecidableEq κ] [Hashable κ] {keys others : List κ}
    (h : ∀ key, key ∈ keys ↔ key ∈ others) : ascending keys = ascending others := by
  refine eq_of_pairwise_lt (pairwise_ascending keys) (pairwise_ascending others) fun key => ?_
  rw [mem_ascending, mem_ascending, h]

end

section

variable {κ α : Type} [DecidableEq κ] [Hashable κ] [LE α] {pairs : List (κ × α)}

/-- **Pairs in the order of their values are listed in the order of the least values** of their
keys. -/
theorem pairwise_lastWins (h : pairs.Pairwise fun a b => a.2 ≤ b.2) :
    (lastWins pairs).Pairwise fun a b =>
      ∃ least, (a.1, least) ∈ pairs ∧ ∀ value, (b.1, value) ∈ pairs → least ≤ value := by
  have hkeys := pairwise_distinct (·.1) pairs
  rw [← keys_lastWins] at hkeys
  refine (List.pairwise_map.1 hkeys).imp ?_
  rintro a b ⟨front, ⟨_, least⟩, back, hsplit, rfl, -, hback⟩
  rw [hsplit] at h
  refine ⟨least, hsplit ▸ List.mem_append_right front List.mem_cons_self, fun value hvalue => ?_⟩
  exact (List.pairwise_cons.1 (List.pairwise_append.1 h).2.1).1 _ (hback _ hvalue rfl)

/-- **Pairs in the order of their values are listed with the greatest value** of their keys. -/
theorem mem_lastWins_of_pairwise [Std.IsPartialOrder α] (h : pairs.Pairwise fun a b => a.2 ≤ b.2)
    {key : κ} {value : α} :
    (key, value) ∈ lastWins pairs ↔
      (key, value) ∈ pairs ∧ ∀ other, (key, other) ∈ pairs → other ≤ value := by
  -- the last pair of a key is the one that counts, and its value is the greatest
  have hgreatest : ∀ {last}, (key, last) ∈ lastWins pairs →
      (key, last) ∈ pairs ∧ ∀ other, (key, other) ∈ pairs → other ≤ last := by
    intro last hlast
    obtain ⟨earlier, later, rfl, hlater⟩ := mem_lastWins_iff_split.1 hlast
    refine ⟨List.mem_append_right earlier List.mem_cons_self, fun other hother => ?_⟩
    rcases List.mem_append.1 hother with hmem | hmem
    · exact (List.pairwise_append.1 h).2.2 _ hmem _ List.mem_cons_self
    · rcases List.mem_cons.1 hmem with hsame | hmem
      · rw [(Prod.mk.inj hsame).2]
        exact Std.le_refl last
      · exact absurd rfl (hlater _ hmem)
  refine ⟨hgreatest, ?_⟩
  rintro ⟨hmem, hle⟩
  have hkey : key ∈ (lastWins pairs).map (·.1) := by
    rw [keys_lastWins, mem_distinct]
    exact List.mem_map_of_mem hmem
  obtain ⟨⟨_, last⟩, hlast, rfl⟩ := List.mem_map.1 hkey
  obtain ⟨hlastMem, hlastLe⟩ := hgreatest hlast
  rw [Std.le_antisymm (hlastLe value hmem) (hle last hlastMem)]
  exact hlast

end

end Picklists
