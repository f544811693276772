import Picklists.Proofs.Action
import Picklists.Proofs.ExclusionText
import Picklists.Proofs.Pattern
import Picklists.Provider

/-!
# Who is visible

Which accounts of the directory a listing of contributors starts from.

* `Directory.find_all` : the search for `%` without bounds gives all accounts.
* `Exclusion.Hides` : what it means that an account is hidden (`Contributors.visible_eq_filter`,
  `Contributors.mem_visible`).
* `Directory.shown` : the visible accounts of a directory (`Directory.shown_of_holding`).  If
  everyone is hidden, the directory need not be reached.
* `visibleAccounts_eq` : asking for them sends nothing and records nothing.
* `Account.label_of_name`, `Account.label_of_blank` : **under which label an account is visible**,
  with a display name to show and without one.
-/

namespace Picklists

/-! ### The whole directory -/

/-- A page without bounds is the whole list. -/
theorem page_all {α : Type} (members : List α) : page 0 0 members = members := by
  simp [page, position]

theorem Directory.find_all (accounts : List Account) :
    (Directory.holding accounts).find "%" 0 0 = .ok accounts := by
  have hall : accounts.filter (·.matchesPattern "%") = accounts := by
    refine List.filter_eq_self.2 fun account _ => ?_
    rw [Account.matchesPattern, Pattern.accepts_percent, Bool.true_or]
  rw [Directory.find, hall, page_all]

/-! ### Hidden accounts -/

/-- An account is hidden if everyone is, or if its provider is excluded. -/
def Exclusion.Hides (excluded : Exclusion) (account : Account) : Prop :=
  ("*" : Text) ∈ excluded.tags ∨ ∃ tag ∈ excluded.tags, account.provider = some tag

instance (excluded : Exclusion) : DecidablePred excluded.Hides := fun account =>
  inferInstanceAs
    (Decidable (("*" : Text) ∈ excluded.tags ∨ ∃ tag ∈ excluded.tags, account.provider = some tag))

/-- **The visible accounts are those that are not hidden**, in the order of the directory. -/
theorem Contributors.visible_eq_filter (excluded : Exclusion) (accounts : List Account) :
    visible excluded accounts = accounts.filter fun account => ¬ excluded.Hides account := by
  have hhides : ∀ account, excluded.Hides account ↔
      excluded.excludesAll = true ∨ excluded.excludes account.provider = true := by
    intro account
    rw [Exclusion.excludesAll_iff, Exclusion.excludes_iff, Exclusion.Hides]
  simp only [visible, hhides]
  cases excluded.excludesAll <;> simp

theorem Contributors.mem_visible {excluded : Exclusion} {accounts : List Account}
    {account : Account} :
    account ∈ visible excluded accounts ↔ account ∈ accounts ∧ ¬ excluded.Hides account := by
  rw [visible_eq_filter, List.mem_filter, decide_eq_true_eq]

/-! ### The accounts of a listing -/

/-- The visible accounts of a directory.  If everyone is hidden, there are none to be had, and the
directory does not count. -/
def Directory.shown (directory : Directory) (excluded : Exclusion) : Except Failure (List Account) :=
  if excluded.excludesAll then .ok []
  else match directory with
    | .holding accounts => .ok (Contributors.visible excluded accounts)
    | .unreachable outage => .error (.foreign outage)

theorem Directory.shown_of_excludesAll (directory : Directory) {excluded : Exclusion}
    (h : excluded.excludesAll = true) : directory.shown excluded = .ok [] := if_pos h

/-- A directory that holds accounts shows the visible ones.  If everyone is hidden, it need not be
reached. -/
theorem Directory.shown_of_holding {directory : Directory} {excluded : Exclusion}
    {accounts : List Account} (h : excluded.excludesAll = false → directory = .holding accounts) :
    directory.shown excluded = .ok (Contributors.visible excluded accounts) := by
  cases hall : excluded.excludesAll with
  | true => rw [directory.shown_of_excludesAll hall, Contributors.visible, if_pos hall]
  | false => rw [h hall, shown, hall, if_neg Bool.false_ne_true]

theorem Directory.shown_holding (accounts : List Account) (excluded : Exclusion) :
    (holding accounts).shown excluded = .ok (Contributors.visible excluded accounts) :=
  shown_of_holding fun _ => rfl

/-- Asking a directory for its visible accounts sends nothing and records nothing. -/
theorem visibleAccounts_eq {σ : Type} (sources : Sources σ) (excluded : Exclusion) (link : σ) :
    visibleAccounts sources excluded link = ⟨sources.directory.shown excluded, [], [], link⟩ := by
  unfold visibleAccounts Directory.shown
  split
  · rfl
  · cases sources.directory with
    | holding accounts =>
      rw [Directory.find_all, Action.bind_of_ok rfl]
      rfl
    | unreachable outage =>
      rw [Action.bind_of_error rfl]
      rfl

/-! ### Labels -/

/-- An account shows its display name if that holds more than white space. -/
theorem Account.label_of_name {account : Account} {name : Text} (h : account.name = some name)
    (hname : ¬ name.Blank) : account.label = name := by
  rw [label, h]
  exact if_neg fun hall => hname (List.all_eq_true.1 hall)

/-- An account without a display name, or with a blank one, shows its login name. -/
theorem Account.label_of_blank {account : Account} (h : ∀ name ∈ account.name, name.Blank) :
    account.label = account.username := by
  rw [label]
  cases hname : account.name with
  | none => rfl
  | some name => exact if_pos (List.all_eq_true.2 (h name hname))

end Picklists
