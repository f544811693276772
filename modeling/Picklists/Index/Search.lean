import Picklists.Action

/-!
# Searching the index

Where the search index is, and how it is asked.

* `SearchIndex` : the address and the limits of an index.
* `SearchIndex.search` : a request about documents of one type, with the fields of the answer.
-/

namespace Picklists

/-- A search index. Every document type has an index of its own, whose name is the common name and
the type. -/
structure SearchIndex where
  /-- The address, without a slash at the end. -/
  url : String
  /-- The name that all index names begin with. -/
  name : String
  /-- How long to wait for a reply. -/
  timeout : Timeout
  /-- The index gives no hit at this position or later. -/
  window : Int
deriving DecidableEq

namespace SearchIndex

/-- The index at an address, which may be written with slashes at the end. -/
def connect (url name : String) (timeout : Timeout) (window : Int) : SearchIndex :=
  ⟨String.ofList (url.toList.reverse.dropWhile (· == '/')).reverse, name, timeout, window⟩

/-- The index that the settings name. -/
def ofSettings (settings : IndexSettings) : SearchIndex :=
  connect settings.url.shown settings.indexName.shown (.real settings.timeout)
    settings.maxResultWindow

/-- The event that an index is in place. -/
def ready (index : SearchIndex) : Event := .indexReady index.url index.name

/-- The address for searches in documents of a type. -/
def searchUrl (index : SearchIndex) (documentType : String) : String :=
  s!"{index.url}/{index.name}_{documentType}/_search"

/-- Sends a request about documents of a type; the result is the fields of the answer. -/
def search {σ : Type} (index : SearchIndex) (transport : Transport σ) (documentType : String)
    (body : SearchBody) : Action σ Fields := do
  let url := index.searchUrl documentType
  let exchange ← Action.send transport ⟨url, index.timeout, body⟩
  Action.ofExcept (exchange.fields documentType url)

end SearchIndex

end Picklists
