import Picklists.Proofs.Exchange
import Picklists.Proofs.Gathering

/-!
# Lookups of terms

The terms of some fields are looked up one after the other, each with one request, until a lookup
fails.  What a lookup gives depends on the state that the earlier ones leave the connection in.

* `SearchIndex.run_terms` : **the run of a query for terms**: one request is sent, and the exchange
  decides the rest (`SearchIndex.termsFrom`, `SearchIndex.termsEvents`).
* `Sources.lookup` : one lookup: what comes of it, and the connection afterwards (`run_askTerms`).
* `Sources.Finds` : lookups in order that all give terms.
* `fieldTerms_of_finds`, `fieldTerms_of_fails` : **all lookups are made, or those up to the first one
  that fails**.  One of the two is always the case (`Sources.finds_or_fails`).
* `posts_listContributors` : **a listing of contributors sends what its lookups send**, and nothing
  without the accounts of the directory (`run_listContributors_of_not_shown`).
-/

namespace Picklists

variable {σ : Type}

/-! ### One lookup -/

namespace SearchIndex

/-- The request for the terms of a field. -/
def termsPost (index : SearchIndex) (asked : IndexField) : Post :=
  ⟨index.searchUrl asked.documentType, index.timeout, .terms asked.field⟩

/-- The terms that an exchange gives. -/
def termsFrom (index : SearchIndex) (asked : IndexField) (exchange : Exchange) :
    Except Failure (List Text) :=
  match exchange.fields asked.documentType (index.searchUrl asked.documentType) with
  | .error failure => .error failure
  | .ok answer =>
    match readTerms asked.field answer with
    | .error misfit => .error (misfit.failure termsTaken (.malformedTerms asked.documentType))
    | .ok (terms, _) => .ok terms

/-- What is recorded about the terms that an exchange gives. -/
def termsEvents (index : SearchIndex) (asked : IndexField) (exchange : Exchange) : List Event :=
  match exchange.fields asked.documentType (index.searchUrl asked.documentType) with
  | .error _ => []
  | .ok answer =>
    match readTerms asked.field answer with
    | .error _ => []
    | .ok (terms, buckets) =>
      (if maxTerms ≤ buckets then [.termsTruncated asked.documentType asked.field maxTerms]
        else []) ++ [.termsFound terms.length asked.documentType asked.field]

/-- **The run of a query for terms**: one request, and what the exchange gives. -/
theorem run_terms (index : SearchIndex) (transport : Transport σ) (asked : IndexField) (link : σ) :
    index.terms transport asked.field asked.documentType link =
      let answer := transport (index.termsPost asked) link
      ⟨index.termsFrom asked answer.1, [index.termsPost asked], index.termsEvents asked answer.1,
        answer.2⟩ := by
  have hsearch := index.run_search transport asked.documentType (.terms asked.field) link
  simp only [terms, termsFrom, termsEvents]
  cases hfields : (transport (index.termsPost asked) link).1.fields asked.documentType
      (index.searchUrl asked.documentType) with
  | error failure =>
    have hfails := (congrArg Run.outcome hsearch).trans hfields
    rw [Action.bind_of_error hfails, hsearch]
    rfl
  | ok answer =>
    have hgives := (congrArg Run.outcome hsearch).trans hfields
    rw [Action.bind_of_ok hgives, hsearch]
    cases hread : readTerms asked.field answer with
    | error misfit =>
      simp only [hread]
      rfl
    | ok found =>
      by_cases hmany : maxTerms ≤ found.2
      · simp only [hread, hmany, if_true]
        rfl
      · simp only [hread, hmany, if_false]
        rfl

end SearchIndex

/-- A lookup: what comes of it, and the state of the connection afterwards. -/
def Sources.lookup (sources : Sources σ) (asked : IndexField) (link : σ) :
    Except Failure (List Text) × σ :=
  let answer := sources.transport (sources.index.termsPost asked) link
  (sources.index.termsFrom asked answer.1, answer.2)

/-- The work of a lookup. -/
def Sources.askTerms (sources : Sources σ) (asked : IndexField) : Action σ (List Text) :=
  sources.index.terms sources.transport asked.field asked.documentType

theorem run_askTerms (sources : Sources σ) (asked : IndexField) (link : σ) :
    let run := sources.askTerms asked link
    run.outcome = (sources.lookup asked link).1 ∧ run.posts = [sources.index.termsPost asked] ∧
      run.link = (sources.lookup asked link).2 := by
  intro run
  have hrun : run = _ := sources.index.run_terms sources.transport asked link
  rw [hrun]
  exact ⟨rfl, rfl, rfl⟩

/-! ### Lookups in order -/

/-- Lookups in order that all give terms, with the state of the connection before and after. -/
inductive Sources.Finds (sources : Sources σ) : σ → List IndexField → List (List Text) → σ → Prop where
  /-- Nothing is looked up. -/
  | done (link : σ) : Finds sources link [] [] link
  /-- One lookup, and then the others. -/
  | next {link between final : σ} {asked : IndexField} {fields : List IndexField}
      {terms : List Text} {found : List (List Text)}
      (hlookup : sources.lookup asked link = (.ok terms, between))
      (hrest : Finds sources between fields found final) :
      Finds sources link (asked :: fields) (terms :: found) final

section

variable {sources : Sources σ} {link between final : σ} {fields before after : List IndexField}
  {asked : IndexField} {found : List (List Text)} {failure : Failure}

/-- Either all lookups give terms, or there is a first one that fails. -/
theorem Sources.finds_or_fails (sources : Sources σ) (fields : List IndexField) (link : σ) :
    (∃ found final, sources.Finds link fields found final) ∨
      ∃ before asked after found between failure, fields = before ++ asked :: after ∧
        sources.Finds link before found between ∧
          (sources.lookup asked between).1 = .error failure := by
  induction fields generalizing link with
  | nil => exact Or.inl ⟨[], link, .done link⟩
  | cons asked fields ih =>
    rcases hlookup : sources.lookup asked link with ⟨failure | terms, between⟩
    · exact Or.inr ⟨[], asked, fields, [], link, failure, rfl, .done link, congrArg Prod.fst hlookup⟩
    · rcases ih between with
        ⟨found, final, hfinds⟩ | ⟨before, last, after, found, place, failure, rfl, hfinds, hfails⟩
      · exact Or.inl ⟨terms :: found, final, .next hlookup hfinds⟩
      · exact Or.inr ⟨asked :: before, last, after, terms :: found, place, failure, rfl,
          .next hlookup hfinds, hfails⟩

theorem fieldTerms_eq_forEach (sources : Sources σ) (fields : List IndexField) :
    fieldTerms sources fields = Action.forEach sources.askTerms fields := rfl

/-- A lookup that gives terms is followed by the others. -/
theorem fieldTerms_cons_of_ok {terms : List Text}
    (hlookup : sources.lookup asked link = (.ok terms, between)) (fields : List IndexField) :
    let rest := fieldTerms sources fields between
    let run := fieldTerms sources (asked :: fields) link
    run.outcome = rest.outcome.map (terms :: ·) ∧
      run.posts = sources.index.termsPost asked :: rest.posts ∧ run.link = rest.link := by
  intro rest run
  have hrun := run_askTerms sources asked link
  rw [hlookup] at hrun
  obtain ⟨houtcome, hposts, hlink⟩ := hrun
  simp only [run, rest, fieldTerms_eq_forEach]
  rw [Action.forEach_cons_of_ok houtcome, hlink, Run.followedBy, hposts]
  exact ⟨rfl, rfl, rfl⟩

/-- A lookup that fails is the last one. -/
theorem fieldTerms_cons_of_error (hfails : (sources.lookup asked link).1 = .error failure)
    (fields : List IndexField) :
    let run := fieldTerms sources (asked :: fields) link
    run.outcome = .error failure ∧ run.posts = [sources.index.termsPost asked] := by
  intro run
  obtain ⟨houtcome, hposts, -⟩ := run_askTerms sources asked link
  simp only [run, fieldTerms_eq_forEach]
  rw [Action.forEach_cons_of_error (houtcome.trans hfails)]
  exact ⟨rfl, hposts⟩

/-- **All lookups are made** if all of them give terms. -/
theorem fieldTerms_of_finds (h : sources.Finds link fields found final) :
    let run := fieldTerms sources fields link
    run.outcome = .ok found ∧ run.posts = fields.map sources.index.termsPost ∧
      run.link = final := by
  induction h with
  | done link => exact ⟨rfl, rfl, rfl⟩
  | next hlookup hrest ih =>
    obtain ⟨houtcome, hposts, hlink⟩ := fieldTerms_cons_of_ok hlookup _
    obtain ⟨hfound, hsent, hfinal⟩ := ih
    refine ⟨?_, ?_, hlink.trans hfinal⟩
    · rw [houtcome, hfound]
      rfl
    · rw [hposts, hsent, List.map_cons]

/-- **The first lookup that fails is the last one that is made**, and its failure is that of the
whole. -/
theorem fieldTerms_of_fails (h : sources.Finds link before found between)
    (hfails : (sources.lookup asked between).1 = .error failure) (after : List IndexField) :
    let run := fieldTerms sources (before ++ asked :: after) link
    run.outcome = .error failure ∧
      run.posts = (before ++ [asked]).map sources.index.termsPost := by
  induction h with
  | done link => exact fieldTerms_cons_of_error hfails after
  | next hlookup hrest ih =>
    obtain ⟨houtcome, hposts, -⟩ := fieldTerms_cons_of_ok hlookup (_ ++ asked :: after)
    obtain ⟨hfailed, hsent⟩ := ih hfails
    refine ⟨?_, ?_⟩
    · rw [List.cons_append, houtcome, hfailed]
      rfl
    · rw [List.cons_append, hposts, hsent, List.cons_append, List.map_cons]

end

/-! ### What a listing sends -/

/-- Only requests for the fields are sent, whether a lookup fails or not. -/
theorem exists_of_mem_fieldTerms {sources : Sources σ} {fields : List IndexField} {link : σ}
    {post : Post} (h : post ∈ (fieldTerms sources fields link).posts) :
    ∃ asked ∈ fields, post = sources.index.termsPost asked := by
  rcases sources.finds_or_fails fields link with
    ⟨found, final, hfinds⟩ | ⟨before, last, after, found, between, failure, rfl, hfinds, hfails⟩
  · rw [(fieldTerms_of_finds hfinds).2.1] at h
    obtain ⟨asked, hasked, rfl⟩ := List.mem_map.1 h
    exact ⟨asked, hasked, rfl⟩
  · rw [(fieldTerms_of_fails hfinds hfails after).2] at h
    obtain ⟨asked, hasked, rfl⟩ := List.mem_map.1 h
    rw [List.append_cons]
    exact ⟨asked, List.mem_append_left after hasked, rfl⟩

/-- A listing of contributors sends nothing if the directory does not give its accounts. -/
theorem run_listContributors_of_not_shown {sources : Sources σ} {excluded : Exclusion}
    {failure : Failure} (h : sources.directory.shown excluded = .error failure)
    (list : ContributorsList) (window : Option Window) (link : σ) :
    listContributors sources excluded list window link = ⟨.error failure, [], [], link⟩ := by
  have haccounts := visibleAccounts_eq sources excluded link
  rw [h] at haccounts
  rw [listContributors, Action.bind_of_error (congrArg Run.outcome haccounts), haccounts]

/-- **A listing of contributors sends what its lookups send**, whatever the window. -/
theorem posts_listContributors {sources : Sources σ} {excluded : Exclusion}
    {accounts : List Account} (h : sources.directory.shown excluded = .ok accounts)
    (list : ContributorsList) (window : Option Window) (link : σ) :
    (listContributors sources excluded list window link).posts =
      (fieldTerms sources list.fields link).posts := by
  have haccounts := visibleAccounts_eq sources excluded link
  rw [h] at haccounts
  rw [listContributors, Action.bind_of_ok (congrArg Run.outcome haccounts), haccounts]
  cases list with
  | usernames => rfl
  | names | namesToUsernames =>
    simp only [Run.followedBy, List.nil_append, ContributorsList.fields]
    cases hterms : (fieldTerms sources _ link).outcome with
    | error failure => rw [Action.bind_of_error hterms]
    | ok terms =>
      -- what is left is put together without the index
      rw [Action.bind_of_ok hterms]
      exact List.append_nil _

/-! ### A script of answers -/

/-- Sources over an index whose exchanges go as a script says.  After the script, the index knows no
terms. -/
def Sources.scripted (accounts : List Account) : Sources (List Exchange) where
  index := .connect "http://localhost:9200" "opencast" (.whole 10) 10000
  transport := fun _ script => (script.headD (.presenters []), script.tail)
  directory := .holding accounts
  caller := ⟨⟨"org", ""⟩, ⟨"admin", none, none, none, none⟩⟩

end Picklists
