import Picklists.Order
import Picklists.Validation.Scalar

/-!
# Listings and windows

A listing is what a consumer gets: labels under distinct keys, in an order that counts. A window
asks for a part of it.

* `Listing.ofPairs` : the listing of pairs whose keys may repeat.
* `Listing.slice` : the entries from a position on, up to a number of them.
* `Window` : the offset and the limit that a consumer may give.
* `Listing.select` : the part of a listing that a window asks for. Without any bound this is the
  listing itself, and a window that ends beyond `Window.maxIndex` is refused.
-/

namespace Picklists

/-- Labels under distinct keys, in order. -/
structure Listing where
  /-- The keys with their labels. -/
  entries : List (Text × Text)
  /-- No key stands twice. -/
  nodup : (entries.map (·.1)).Nodup
deriving DecidableEq

namespace Listing

/-- The listing without entries. -/
def empty : Listing := ⟨[], by simp⟩

/-- The listing of some pairs: a repeated key keeps its first place and takes its last label. -/
def ofPairs (pairs : List (Text × Text)) : Listing :=
  ⟨lastWins pairs, nodup_keys_lastWins pairs⟩

/-- The keys in order. -/
def keys (listing : Listing) : List Text := listing.entries.map (·.1)

/-- The labels in the order of their keys. -/
def labels (listing : Listing) : List Text := listing.entries.map (·.2)

/-- The first entries of a list after some others; all of them without a limit. -/
def cut {α : Type} (offset : Nat) (limit : Option Nat) (entries : List α) : List α :=
  match limit with
  | none => entries.drop offset
  | some limit => (entries.drop offset).take limit

theorem cut_sublist {α : Type} (offset : Nat) (limit : Option Nat) (entries : List α) :
    (cut offset limit entries).Sublist entries := by
  unfold cut
  split
  · exact List.drop_sublist ..
  · exact (List.take_sublist ..).trans (List.drop_sublist ..)

/-- The entries at positions from `offset` on, at most `limit` of them. -/
def slice (offset : Nat) (limit : Option Nat) (listing : Listing) : Listing :=
  ⟨cut offset limit listing.entries,
    listing.nodup.sublist ((cut_sublist offset limit listing.entries).map _)⟩

end Listing

/-- The bounds a consumer may put on a listing. -/
structure Window where
  /-- How many entries to skip. -/
  offset : Option Nat
  /-- How many entries to return at most. -/
  limit : Option Nat
deriving DecidableEq

/-- Why a window is refused. -/
inductive WindowFault where
  /-- The first position is too large. -/
  | start
  /-- The position after the last one is too large. -/
  | stop
deriving DecidableEq

namespace Window

/-- The largest position that a window may name, `2 ^ 63 - 1`. -/
def maxIndex : Nat := 0x7FFFFFFFFFFFFFFF

/-- Whether a window sets any bound. -/
def isBounded (window : Window) : Bool := window.offset.isSome || window.limit.isSome

/-- The window that an object describes. -/
def decode : Decoder Window :=
  .record "ResourceListQuery" fun given =>
    Window.mk <$> .optional "offset" none (.nullable .natural) given
      <*> .optional "limit" none (.nullable .natural) given

/-- The positions that a window names: the first one, and how many. A window with a limit is
refused for its end before its start is looked at. -/
def positions (window : Window) : Except WindowFault (Nat × Option Nat) :=
  let offset := window.offset.getD 0
  match window.limit with
  | some limit => if maxIndex < offset + limit then .error .stop else .ok (offset, some limit)
  | none => if maxIndex < offset then .error .start else .ok (offset, none)

end Window

/-- A listing as a window selects it. -/
inductive Selection where
  /-- The listing itself, because nothing bounds it. -/
  | whole (listing : Listing)
  /-- A part of it. -/
  | part (listing : Listing)
deriving DecidableEq

/-- The entries of a selection. -/
def Selection.listing : Selection → Listing
  | .whole listing => listing
  | .part listing => listing

/-- The part of a listing that a window asks for. -/
def Listing.select (listing : Listing) (window : Option Window) : Except WindowFault Selection :=
  match window with
  | none => .ok (.whole listing)
  | some window =>
    if window.isBounded then
      match window.positions with
      | .ok (offset, limit) => .ok (.part (listing.slice offset limit))
      | .error fault => .error fault
    else .ok (.whole listing)

end Picklists
