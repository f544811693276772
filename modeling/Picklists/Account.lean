import Picklists.Text.Blank
import Picklists.Validation.Scalar

/-!
# Accounts

The people behind the listings: accounts of the user directory, the organization they act for, and
the entries that listings are built from.

* `Account.label` : the display name, or the login name where there is none to show.
* `Caller` : on whose behalf a listing is asked for.
* `Contributor` : a key with its label.
-/

namespace Picklists

/-- An account of the user directory. -/
structure Account where
  /-- The login name. -/
  username : Text
  /-- The display name. -/
  name : Option Text
  /-- The tag of the user provider that keeps the account. -/
  provider : Option Text
  /-- The organization the account belongs to. -/
  organization : Option Text
  /-- The mail address. -/
  email : Option Text
deriving DecidableEq

namespace Account

/-- The display name if it holds more than white space, and else the login name. -/
def label (account : Account) : Text :=
  match account.name with
  | some name => if name.points.all CodePoint.isBlank then account.username else name
  | none => account.username

/-- The account that an object describes. -/
def decode : Decoder Account :=
  .record "User" fun given =>
    Account.mk <$> .required "username" .text given
      <*> .optional "name" none (.nullable .text) given
      <*> .optional "provider" none (.nullable .text) given
      <*> .optional "organization" none (.nullable .text) given
      <*> .optional "email" none (.nullable .text) given

end Account

/-- A tenant that accounts and themes belong to. -/
structure Organization where
  /-- The identifier by which themes refer to it. -/
  id : Text
  /-- The name. -/
  name : Text
deriving DecidableEq

/-- The organization that an object describes. -/
def Organization.decode : Decoder Organization :=
  .record "Organization" fun given =>
    Organization.mk <$> .required "id" .text given <*> .optional "name" "" .text given

/-- On whose behalf listings are asked for. -/
structure Caller where
  /-- The organization in whose name the caller acts. -/
  organization : Organization
  /-- The account of the caller. -/
  user : Account
deriving DecidableEq

/-- An entry of a listing before it has found its place. -/
structure Contributor where
  /-- The key of the entry. -/
  key : Text
  /-- The label of the entry. -/
  label : Text
deriving DecidableEq

namespace Contributor

/-- The text of an entry. -/
def text (contributor : Contributor) : Text := contributor.key ++ ":" ++ contributor.label

/-- The entry that an object describes. -/
def decode : Decoder Contributor :=
  .record "Contributor" fun given =>
    Contributor.mk <$> .required "key" .text given <*> .required "label" .text given

end Contributor

end Picklists
