import Picklists.Account
import Picklists.Action
import Picklists.Contributors
import Picklists.Directory
import Picklists.Exclusion
import Picklists.Failure
import Picklists.Index.Exchange
import Picklists.Index.Misfit
import Picklists.Index.Page
import Picklists.Index.Search
import Picklists.Index.Terms
import Picklists.Index.ThemeQuery
import Picklists.Json
import Picklists.Json.Reader
import Picklists.Json.Token
import Picklists.Listing
import Picklists.Log
import Picklists.Number.Binary64
import Picklists.Number.Numeral
import Picklists.Number.Shortest
import Picklists.Number.Written
import Picklists.Order
import Picklists.Pattern
import Picklists.Proofs.Action
import Picklists.Proofs.Agreement
import Picklists.Proofs.Arrival
import Picklists.Proofs.Bounds
import Picklists.Proofs.Checked
import Picklists.Proofs.Concealment
import Picklists.Proofs.Contributors
import Picklists.Proofs.Directory
import Picklists.Proofs.Exchange
import Picklists.Proofs.ExclusionText
import Picklists.Proofs.Failures
import Picklists.Proofs.FirstFailure
import Picklists.Proofs.Gathering
import Picklists.Proofs.HitDocuments
import Picklists.Proofs.KeyPlaces
import Picklists.Proofs.LabelOrder
import Picklists.Proofs.Labels
import Picklists.Proofs.Listing
import Picklists.Proofs.Lookups
import Picklists.Proofs.Misfits
import Picklists.Proofs.Order
import Picklists.Proofs.PageCut
import Picklists.Proofs.PageReading
import Picklists.Proofs.Paging
import Picklists.Proofs.Pattern
import Picklists.Proofs.Registry
import Picklists.Proofs.Roster
import Picklists.Proofs.Service
import Picklists.Proofs.SettingsStore
import Picklists.Proofs.SharedSettings
import Picklists.Proofs.Snapshots
import Picklists.Proofs.Sorting
import Picklists.Proofs.Steps
import Picklists.Proofs.TermDocuments
import Picklists.Proofs.ThemeDocuments
import Picklists.Proofs.ThemeKeys
import Picklists.Proofs.ThemeListing
import Picklists.Proofs.ThemePaging
import Picklists.Proofs.ThemeScope
import Picklists.Proofs.ThemeWindow
import Picklists.Proofs.Tiling
import Picklists.Proofs.Trimming
import Picklists.Proofs.Values
import Picklists.Proofs.Visibility
import Picklists.Proofs.Window
import Picklists.Proofs.Writing
import Picklists.Provider
import Picklists.Registry
import Picklists.Session
import Picklists.Settings
import Picklists.Settings.Environment
import Picklists.Settings.LogLevel
import Picklists.Settings.Store
import Picklists.Text
import Picklists.Text.Blank
import Picklists.Text.Casing
import Picklists.Text.CodePoint
import Picklists.Text.DecimalDigit
import Picklists.Text.Printable
import Picklists.Text.Quoted
import Picklists.Theme
import Picklists.ThemeListing
import Picklists.Validation.Checked
import Picklists.Validation.Fault
import Picklists.Validation.Numeral
import Picklists.Validation.Scalar
