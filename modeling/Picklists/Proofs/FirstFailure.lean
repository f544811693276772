import Picklists.Proofs.Lookups
import Picklists.Proofs.Paging
import Picklists.Proofs.Steps

/-!
# The first failure of a listing

A listing of contributors draws on a directory and on an index, and both may fail.  It stops at the
first failure, which comes out unchanged, and it leaves nothing behind but the connection.

* `Directory.Available` : the directory gives its accounts, or it is not asked.
* `Session.FailsFast` : what is sent for a listing, how it ends, and what is left of it.
* `Session.list_fails_fast` : **listings of contributors fail fast and leave no trace**.
-/

namespace Picklists

variable {σ : Type}

/-! ### The directory -/

/-- The directory gives its accounts, or it is not asked because everyone is hidden. -/
def Directory.Available (directory : Directory) (excluded : Exclusion) : Prop :=
  ("*" : Text) ∈ excluded.tags ∨ ∃ accounts, directory = .holding accounts

theorem Directory.Available.shown {directory : Directory} {excluded : Exclusion}
    (h : directory.Available excluded) : ∃ accounts, directory.shown excluded = .ok accounts := by
  rcases h with hall | ⟨accounts, rfl⟩
  · exact ⟨[], directory.shown_of_excludesAll (Exclusion.excludesAll_iff.2 hall)⟩
  · exact ⟨_, Directory.shown_holding accounts excluded⟩

theorem Directory.shown_unreachable {excluded : Exclusion} (h : ("*" : Text) ∉ excluded.tags)
    (outage : Foreign) : (unreachable outage).shown excluded = .error (.foreign outage) := by
  rw [shown, if_neg (mt Exclusion.excludesAll_iff.1 h)]

/-- A directory that is not available is one that is asked and cannot be reached. -/
theorem Directory.unreachable_of_not_available {directory : Directory} {excluded : Exclusion}
    (h : ¬ directory.Available excluded) :
    ("*" : Text) ∉ excluded.tags ∧ ∃ outage, directory = .unreachable outage := by
  refine ⟨fun hall => h (Or.inl hall), ?_⟩
  cases directory with
  | holding accounts => exact absurd (Or.inr ⟨accounts, rfl⟩) h
  | unreachable outage => exact ⟨outage, rfl⟩

/-! ### One listing -/

/-- A window that fits is taken by every listing. -/
theorem ContributorsList.exists_assemble (list : ContributorsList) {window : Option Window}
    (h : ∀ bounds ∈ window, bounds.Fits) (accounts : List Account) (terms : List (List Text)) :
    ∃ listing, list.assemble window accounts terms = .ok listing := by
  have hwithin (whole : Listing) : ∃ listing, whole.within window = .ok listing := by
    cases window with
    | none => exact ⟨whole, rfl⟩
    | some bounds =>
      obtain ⟨part, hpart, -⟩ := whole.within_of_fits (h bounds rfl)
      exact ⟨part, hpart⟩
  cases list with
  | names => exact ⟨_, rfl⟩
  | usernames => exact hwithin _
  | namesToUsernames => exact hwithin _

section

variable {sources : Sources σ} {excluded : Exclusion} {list : ContributorsList} {link : σ}

/-- Once all lookups give terms, the listing depends on the accounts and on these terms. -/
theorem outcome_of_finds {found : List (List Text)} {final : σ}
    (h : sources.Finds link list.fields found final) (window : Option Window) :
    (listContributors sources excluded list window link).outcome =
      sources.directory.shown excluded >>= fun accounts => list.assemble window accounts found := by
  rw [outcome_listContributors, (fieldTerms_of_finds h).1]
  rfl

/-- A lookup that fails is the failure of the listing. -/
theorem outcome_of_fails {before after : List IndexField} {asked : IndexField}
    {found : List (List Text)} {between : σ} {failure : Failure}
    (havailable : sources.directory.Available excluded)
    (hfields : list.fields = before ++ asked :: after)
    (hfinds : sources.Finds link before found between)
    (hfails : (sources.lookup asked between).1 = .error failure) (window : Option Window) :
    (listContributors sources excluded list window link).outcome = .error failure := by
  obtain ⟨accounts, hshown⟩ := havailable.shown
  rw [outcome_listContributors, hshown, hfields, (fieldTerms_of_fails hfinds hfails after).1]
  rfl

/-- A listing comes about only if neither the directory nor a lookup fails. -/
theorem finds_of_outcome_ok {window : Option Window} {listing : Listing}
    (h : (listContributors sources excluded list window link).outcome = .ok listing) :
    sources.directory.Available excluded ∧
      ∃ found final, sources.Finds link list.fields found final := by
  obtain ⟨accounts, terms, hshown, hterms, -⟩ := outcome_eq_ok_iff.1 h
  constructor
  · by_contra hmissing
    obtain ⟨hasked, outage, hdirectory⟩ := Directory.unreachable_of_not_available hmissing
    rw [hdirectory, Directory.shown_unreachable hasked] at hshown
    cases hshown
  · rcases sources.finds_or_fails list.fields link with
      hfinds | ⟨before, asked, after, found, between, failure, hfields, hfinds, hfails⟩
    · exact hfinds
    · rw [hfields, (fieldTerms_of_fails hfinds hfails after).1] at hterms
      cases hterms

end

/-! ### Listings of a session -/

namespace Session

/-- A listing of contributors stops at the first failure and leaves nothing but the connection. -/
structure FailsFast (session : Session σ) (target : Target) (listName : String)
    (window : Option Window) (excluded : Exclusion) : Prop where
  /-- If the directory is asked and cannot be reached, this is the failure, and nothing is sent. -/
  unreachable : ∀ outage, ("*" : Text) ∉ excluded.tags →
    session.sources.directory = .unreachable outage →
    (session.step (.list target listName window)).2.posts = [] ∧
      (session.step (.list target listName window)).2.outcome = .error (.foreign outage)
  /-- The first lookup that fails is the last one that is made, and its failure comes out. -/
  fails : session.sources.directory.Available excluded →
    ∀ before asked after found between failure,
      (ContributorsList.lookup listName).fields = before ++ asked :: after →
      session.sources.Finds session.link before found between →
      (session.sources.lookup asked between).1 = .error failure →
      (session.step (.list target listName window)).2.posts =
          (before ++ [asked]).map session.sources.index.termsPost ∧
        (session.step (.list target listName window)).2.outcome = .error failure
  /-- If no lookup fails, all of them are made. -/
  complete : session.sources.directory.Available excluded → ∀ found final,
    session.sources.Finds session.link (ContributorsList.lookup listName).fields found final →
    (session.step (.list target listName window)).2.posts =
      (ContributorsList.lookup listName).fields.map session.sources.index.termsPost
  /-- There is a listing exactly if neither the directory nor any lookup fails. -/
  succeeds : (∃ listing,
      (session.step (.list target listName window)).2.outcome = .ok (.listing listing)) ↔
    session.sources.directory.Available excluded ∧ ∃ found final,
      session.sources.Finds session.link (ContributorsList.lookup listName).fields found final
  /-- Whether it succeeds or fails, only the connection is not as before. -/
  kept : (session.step (.list target listName window)).1 =
    { session with link := (session.step (.list target listName window)).1.link }
  /-- Once the index is well, the next listing is what it would have been without this one. -/
  recovers : ∀ other otherName otherExcluded otherWindow link found final otherFinal,
    session.answering? other otherName = some (.contributors otherExcluded) →
    session.sources.Finds (session.step (.list target listName window)).1.link
      (ContributorsList.lookup otherName).fields found final →
    session.sources.Finds link (ContributorsList.lookup otherName).fields found otherFinal →
    ((session.step (.list target listName window)).1.step
        (.list other otherName otherWindow)).2.outcome =
      (({ session with link := link } : Session σ).step
        (.list other otherName otherWindow)).2.outcome

section

variable {session : Session σ} {target : Target} {listName : String} {excluded : Exclusion}

theorem outcome_step_list
    (hprovider : session.answering? target listName = some (.contributors excluded))
    (window : Option Window) :
    (session.step (.list target listName window)).2.outcome =
      (listContributors session.sources excluded (ContributorsList.lookup listName) window
        session.link).outcome.map .listing := by
  rw [step_list hprovider]
  rfl

theorem posts_step_list
    (hprovider : session.answering? target listName = some (.contributors excluded))
    (window : Option Window) :
    (session.step (.list target listName window)).2.posts =
      (listContributors session.sources excluded (ContributorsList.lookup listName) window
        session.link).posts := by
  rw [step_list hprovider]
  rfl

/-- A session that differs in the state of the connection alone makes the same listing of the same
terms. -/
theorem outcome_step_list_of_finds
    (hprovider : session.answering? target listName = some (.contributors excluded))
    {link final : σ} {found : List (List Text)}
    (hfinds : session.sources.Finds link (ContributorsList.lookup listName).fields found final)
    (window : Option Window) :
    (({ session with link := link } : Session σ).step (.list target listName window)).2.outcome =
      (session.sources.directory.shown excluded >>= fun accounts =>
        (ContributorsList.lookup listName).assemble window accounts found).map .listing := by
  have hplaced : ({ session with link := link } : Session σ).answering? target listName =
      some (.contributors excluded) := hprovider
  rw [outcome_step_list hplaced, outcome_of_finds hfinds]

/-- **Listings of contributors fail fast and leave no trace.** -/
theorem list_fails_fast
    (hprovider : session.answering? target listName = some (.contributors excluded))
    {window : Option Window} (hwindow : ∀ bounds ∈ window, bounds.Fits) :
    session.FailsFast target listName window excluded := by
  let list := ContributorsList.lookup listName
  have houtcome := outcome_step_list hprovider window
  have hposts := posts_step_list hprovider window
  have hkept : (session.step (.list target listName window)).1 =
      { session with link := (session.step (.list target listName window)).1.link } := by
    rw [step_list hprovider]
    rfl
  have hunreachable (outage : Foreign) (hasked : ("*" : Text) ∉ excluded.tags)
      (hdirectory : session.sources.directory = .unreachable outage) :
      listContributors session.sources excluded list window session.link =
        ⟨.error (.foreign outage), [], [], session.link⟩ :=
    run_listContributors_of_not_shown
      (hdirectory ▸ Directory.shown_unreachable hasked outage) list window session.link
  exact {
    unreachable := by
      intro outage hasked hdirectory
      rw [hposts, houtcome, hunreachable outage hasked hdirectory]
      exact ⟨rfl, rfl⟩
    fails := by
      intro havailable before asked after found between failure hfields hfinds hfails
      obtain ⟨accounts, hshown⟩ := havailable.shown
      rw [hposts, houtcome, posts_listContributors hshown,
        outcome_of_fails havailable hfields hfinds hfails, hfields]
      exact ⟨(fieldTerms_of_fails hfinds hfails after).2, rfl⟩
    complete := by
      intro havailable found final hfinds
      obtain ⟨accounts, hshown⟩ := havailable.shown
      rw [hposts, posts_listContributors hshown]
      exact (fieldTerms_of_finds hfinds).2.1
    succeeds := by
      rw [houtcome]
      constructor
      · rintro ⟨listing, hlisting⟩
        cases hresult : (listContributors session.sources excluded list window
            session.link).outcome with
        | error failure =>
          rw [hresult] at hlisting
          cases hlisting
        | ok result => exact finds_of_outcome_ok hresult
      · rintro ⟨havailable, found, final, hfinds⟩
        obtain ⟨accounts, hshown⟩ := havailable.shown
        obtain ⟨listing, hlisting⟩ := list.exists_assemble hwindow accounts found
        refine ⟨listing, ?_⟩
        rw [outcome_of_finds hfinds, hshown]
        exact congrArg (Except.map Result.listing) hlisting
    kept := hkept
    recovers := by
      intro other otherName otherExcluded otherWindow link found final otherFinal hother hfinds
        hhealthy
      rw [hkept, outcome_step_list_of_finds hother hfinds,
        outcome_step_list_of_finds hother hhealthy] }

/-- The second of five lookups fails.  The next listing is that of a session in which no lookup has
failed. -/
theorem list_fails_fast_midway :
    let down : Foreign := ⟨"ConnectionError", "down"⟩
    let session : Session (List Exchange) :=
      ⟨.scripted [⟨"ann", some "Ann Lee", none, none, none⟩], [.newContributors none], .empty, .unset,
        .fresh, [.presenters ["zoe"], .brokenDown (.foreign down)]⟩
    let quiet : Session (List Exchange) := { session with link := [.presenters []] }
    let list := Command.list (.provider 0) "CONTRIBUTORS.NAMES.TO.USERNAMES" (some ⟨some 0, some 9⟩)
    (session.step list).2.outcome = .error (.foreign down) ∧
      (session.step list).2.posts.map (·.body) = [.terms "presenter", .terms "contributor"] ∧
      ((session.step list).1.step list).2.outcome = (quiet.step list).2.outcome := by
  intro down session quiet list
  have hprovider : session.answering? (.provider 0) "CONTRIBUTORS.NAMES.TO.USERNAMES" =
      some (.contributors .empty) := rfl
  have hwindow : ∀ bounds ∈ some (⟨some 0, some 9⟩ : Window), bounds.Fits := by
    rintro bounds ⟨⟩
    decide
  have hfast := list_fails_fast hprovider hwindow
  have havailable : session.sources.directory.Available .empty := Or.inr ⟨_, rfl⟩
  have hname : ContributorsList.lookup "CONTRIBUTORS.NAMES.TO.USERNAMES" = .namesToUsernames := by
    decide
  have hfields : (ContributorsList.lookup "CONTRIBUTORS.NAMES.TO.USERNAMES").fields =
      [⟨"presenter", "event"⟩] ++ ⟨"contributor", "event"⟩ ::
        [⟨"contributors", "series"⟩, ⟨"organizers", "series"⟩, ⟨"publishers", "series"⟩] := by
    rw [hname]
    rfl
  obtain ⟨hposts, houtcome⟩ :=
    hfast.fails havailable _ _ _ _ _ (.foreign down) hfields (.next rfl (.done _)) rfl
  refine ⟨houtcome, ?_, ?_⟩
  · rw [hposts]
    rfl
  · refine hfast.recovers _ _ .empty _ _ [[], [], [], [], []] [] [] rfl ?_ ?_
    · rw [hname]
      exact .next rfl (.next rfl (.next rfl (.next rfl (.next rfl (.done _)))))
    · rw [hname]
      exact .next rfl (.next rfl (.next rfl (.next rfl (.next rfl (.done _)))))

end

end Session

end Picklists
