import Picklists.Proofs.ThemeListing

/-!
# Requests and the result window

An index gives no hit beyond its result window, and accepts no request that reaches beyond it.

* `SearchBody.Within` : a request that stays inside a window.
* `SearchIndex.within_themesBody_iff` : the size of a page is cut at the window, so a request stays
  inside it **exactly if it starts there**; a later one still asks for nothing beyond the window
  (`SearchIndex.themesBody_of_beyond`).
* `requests_within_window` : the same of every request for themes, asked directly or for a listing
  (`request_beyond_window`).
-/

namespace Picklists

/-! ### One request -/

/-- A request for themes has no negative bound and ends at the window at the latest. -/
def SearchBody.Within (window : Int) : SearchBody → Prop
  | .themes start size _ _ => 0 ≤ start ∧ 0 ≤ size ∧ start + size ≤ window
  | .terms _ => True

namespace SearchIndex

variable {index : SearchIndex} (query : ThemeQuery)

theorem pageSize_nonneg (index : SearchIndex) : 0 ≤ index.pageSize query :=
  Int.le_max_left ..

/-- A page that starts inside the window ends there. -/
theorem offset_add_pageSize_le (hwindow : 0 ≤ index.window)
    (hoffset : query.offset ≤ index.window) :
    max 0 query.offset + index.pageSize query ≤ index.window := by
  unfold pageSize
  omega

/-- Nothing is asked for beyond the window. -/
theorem pageSize_of_beyond (hoffset : index.window < query.offset) : index.pageSize query = 0 := by
  unfold pageSize
  omega

/-- A request beyond the window asks for nothing there. -/
theorem themesBody_of_beyond (hwindow : 0 ≤ index.window) (hoffset : index.window < query.offset) :
    index.themesBody query = .themes query.offset 0 query.organization query.sort := by
  have hstart : max 0 query.offset = query.offset := by omega
  rw [themesBody, pageSize_of_beyond query hoffset, hstart]

/-- **A request stays inside the window exactly if it starts there.** -/
theorem within_themesBody_iff (hwindow : 0 ≤ index.window) :
    (index.themesBody query).Within index.window ↔ query.offset ≤ index.window := by
  by_cases hoffset : query.offset ≤ index.window
  · refine iff_of_true ?_ hoffset
    have hstart : 0 ≤ max 0 query.offset := Int.le_max_left ..
    exact ⟨hstart, pageSize_nonneg query index, offset_add_pageSize_le query hwindow hoffset⟩
  · refine iff_of_false ?_ hoffset
    rw [themesBody_of_beyond query hwindow (Int.not_le.1 hoffset)]
    rintro ⟨-, -, hend⟩
    omega

end SearchIndex

/-! ### All requests -/

variable {σ : Type} {sources : Sources σ}

/-- The only request that a listing of themes may send. -/
theorem eq_themesPost_of_mem {listName : String} {window : Option Window} {link : σ} {post : Post}
    (h : post ∈ (Provider.themes.list sources listName window link).posts) :
    post = sources.themesPost window := by
  change post ∈ (listThemes sources listName window link).posts at h
  rcases listThemes_cases (σ := σ) listName with hempty | ⟨descriptions, hlisting⟩
  · rw [hempty] at h
    cases h
  · rw [hlisting, posts_themeListing] at h
    split at h
    · exact List.mem_singleton.1 h
    · cases h

/-- **The requests for themes and the result window.**  Every query that can be written sends one
request, and no other query sends any.  The request stays inside the window exactly if the query
starts there, and otherwise it asks for nothing at the place where the query starts.  The same holds
of every request that a listing sends. -/
theorem requests_within_window (sources : Sources σ) (hwindow : 0 ≤ sources.index.window)
    (link : σ) :
    let limit := sources.index.window
    (∀ query : ThemeQuery,
      let posts := (sources.index.themes sources.transport query link).posts
      (¬ query.Writable → posts = []) ∧
      (query.Writable → ∃ body,
        posts = [⟨sources.index.searchUrl themeType, sources.index.timeout, body⟩] ∧
        (body.Within limit ↔ query.offset ≤ limit) ∧
        (limit < query.offset →
          body = .themes query.offset 0 query.organization query.sort))) ∧
    ∀ listName window, ∀ post ∈ (Provider.themes.list sources listName window link).posts,
      let offset : Int := ((window.bind (·.offset)).getD 0 : Nat)
      (post.body.Within limit ↔ offset ≤ limit) ∧
      (limit < offset →
        post.body = .themes offset 0 sources.caller.organization.id (some .ascending)) := by
  intro limit
  refine ⟨fun query => ⟨fun hquery => ?_, fun hquery =>
    ⟨sources.index.themesBody query, ?_, ?_, ?_⟩⟩, fun listName window post hpost => ?_⟩
  · rw [SearchIndex.run_themes_of_not_writable _ _ _ hquery]
  · rw [SearchIndex.run_themes _ _ _ hquery]
    rfl
  · exact SearchIndex.within_themesBody_iff query hwindow
  · exact SearchIndex.themesBody_of_beyond query hwindow
  · rw [eq_themesPost_of_mem hpost]
    let query := Theme.query sources.caller window
    exact ⟨SearchIndex.within_themesBody_iff query hwindow,
      SearchIndex.themesBody_of_beyond query hwindow⟩

/-- The last places of a window can be asked for, and a query that starts beyond it asks for
nothing. -/
theorem requests_within_window_end :
    let sources := Sources.constant (.presenters []) []
    let posts (window : Window) :=
      (Provider.themes.list sources "THEMES.NAME" (some window) ()).posts
    (∀ post ∈ posts ⟨some 9998, some 5⟩, post.body.Within 10000) ∧
      ∀ post ∈ posts ⟨some 10002, none⟩,
        post.body = .themes 10002 0 "org" (some .ascending) := by
  intro sources posts
  have hwindow : 0 ≤ sources.index.window := by decide
  obtain ⟨-, hlistings⟩ := requests_within_window sources hwindow ()
  refine ⟨fun post hpost => ?_, fun post hpost => ?_⟩
  · exact (hlistings "THEMES.NAME" (some ⟨some 9998, some 5⟩) post hpost).1.2 (by decide)
  · exact (hlistings "THEMES.NAME" (some ⟨some 10002, none⟩) post hpost).2 (by decide)

/-- A listing that starts after the window sends a request that does not stay inside it. -/
theorem request_beyond_window :
    let sources := Sources.constant (.presenters []) []
    ∃ post ∈ (Provider.themes.list sources "THEMES.NAME" (some ⟨some 10001, some 5⟩) ()).posts,
      ¬ post.body.Within sources.index.window := by
  intro sources
  refine ⟨sources.themesPost (some ⟨some 10001, some 5⟩), ?_, ?_⟩
  · rw [Provider.list, listThemes_names, posts_themeListing, if_pos (by decide)]
    exact List.mem_singleton_self _
  · rintro ⟨-, -, hend⟩
    revert hend
    decide

end Picklists
