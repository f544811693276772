import Picklists.Provider
import Picklists.Registry
import Picklists.Settings.LogLevel
import Picklists.Settings.Store

/-!
# Sessions

A session holds the sources, the providers over them, the service that routes list names to
providers, the environment and the shared settings. It takes commands one at a time.

* `Session` : the state between two commands.
* `Command` and `Result` : what can be asked, and the results.
* `Session.step` : one command. Its answer holds the outcome, the requests and the events.
* `Session.run` : a sequence of commands.

Providers are known by the position at which they were put into the session; none is ever taken
out.
-/

namespace Picklists

/-- The state between two commands. -/
structure Session (σ : Type) where
  /-- What the providers draw on. -/
  sources : Sources σ
  /-- The providers by their handles. -/
  providers : List Provider
  /-- The service: the providers of the list names. -/
  service : Registry
  /-- The environment variables. -/
  env : Environment
  /-- The shared settings. -/
  store : SettingsStore
  /-- The state of the connection to the search index. -/
  link : σ

/-- Who is asked for a listing. -/
inductive Target where
  /-- A provider. -/
  | provider (handle : Handle)
  /-- The service. -/
  | service

/-- What can be asked of a session. -/
inductive Command where
  /-- A listing within a window. -/
  | list (target : Target) (listName : String) (window : Option Window)
  /-- A page of themes. -/
  | themes (query : ThemeQuery)
  /-- The terms of a field. -/
  | terms (field documentType : String)
  /-- The login names of a page of matching accounts. -/
  | findUsers (pattern : Text) (offset limit : Int)
  /-- One more account in the directory. -/
  | addUser (account : Account)
  /-- A change of the configuration of a provider. -/
  | configure (handle : Handle) (properties : Fields)
  /-- The list names of a provider. -/
  | providerNames (handle : Handle)
  /-- The properties of a listing of a provider. -/
  | providerFlags (handle : Handle) (listName : String)
  /-- A new service with providers of themes and contributors; without settings the shared ones
  count. -/
  | build (settings : Option Settings)
  /-- A new service without providers. -/
  | newService
  /-- A provider registered at the service. -/
  | addProvider (handle : Handle)
  /-- A provider removed from the service. -/
  | removeProvider (handle : Handle)
  /-- The list names of the service. -/
  | serviceNames
  /-- Whether the service knows a list name. -/
  | serviceHas (listName : String)
  /-- The properties of a listing of the service. -/
  | serviceFlags (listName : String)
  /-- Environment variables set or removed, in order. -/
  | setVariables (changes : List (Variable × Option String))
  /-- The shared settings. -/
  | getSettings
  /-- The shared settings, made anew. -/
  | reloadSettings
  /-- Settings that nobody shares. -/
  | makeSettings
  /-- The log set up at a level. Without one, or with an empty name, the level of the shared
  settings counts. -/
  | configureLog (level : Option String)

/-- The result of a command. -/
inductive Result where
  /-- There is nothing to say. -/
  | done
  /-- A listing. -/
  | listing (listing : Listing)
  /-- A page of themes. -/
  | page (page : ThemePage)
  /-- Texts in order. -/
  | texts (texts : List Text)
  /-- List names in order. -/
  | names (listNames : List String)
  /-- The exclusion of a provider before and after a change. -/
  | exclusion (before after : Exclusion)
  /-- Whether labels are keys of a dictionary, and the key that is selected from the start. -/
  | flags (labelsAreKeys : Bool) (selected : Option String)
  /-- The handles of the new providers, and the list names of the new service. -/
  | built (themes contributors : Handle) (listNames : List String)
  /-- A truth value. -/
  | truth (value : Bool)
  /-- Settings, and whether they are the shared ones from before the command. -/
  | settings (settings : Settings) (same : Bool)
  /-- The level of the log. -/
  | level (level : Int)

/-- The answer to a command. -/
structure Answer where
  /-- The result, or why there is none. -/
  outcome : Except Failure Result
  /-- The requests that were sent. -/
  posts : List Post
  /-- The events that were recorded. -/
  events : List Event

/-- The answer that holds an outcome and nothing else. -/
def Answer.ofOutcome (outcome : Except Failure Result) : Answer := ⟨outcome, [], []⟩

/-- The property that names the excluded user providers. -/
def exclusionProperty : String := "exclude.user.provider"

namespace Session

variable {σ : Type}

/-- Does some work over the connection of the session. -/
def perform {α : Type} (session : Session σ) (work : Action σ α) (result : α → Result) :
    Session σ × Answer :=
  let run := work session.link
  (⟨session.sources, session.providers, session.service, session.env, session.store, run.link⟩,
    ⟨run.outcome.map result, run.posts, run.events⟩)

/-- The work of making a listing. -/
def listing (session : Session σ) (handle : Handle) (listName : String)
    (window : Option Window) : Action σ Listing :=
  match session.providers[handle]? with
  | some provider => provider.list session.sources listName window
  | none => Action.fail .noOperation

/-- The properties of a listing of a provider. -/
def flags (session : Session σ) (handle : Handle) (listName : String) : Except Failure Result :=
  match session.providers[handle]? with
  | some provider => .ok (.flags (provider.labelsAreKeys listName) provider.default?)
  | none => .error .noOperation

/-- Changes the excluded user providers of a provider of contributors. The new set takes the place
of the old one as a whole. The old one stays if the value that describes the new one has no text. -/
def configure (session : Session σ) (handle : Handle) (properties : Fields) : Session σ × Answer :=
  match session.providers[handle]? with
  | some (.contributors before) =>
    match Exclusion.ofValue? (Json.fieldOr properties exclusionProperty .null) with
    | some after =>
      ({ session with providers := session.providers.set handle (.contributors after) },
        ⟨.ok (.exclusion before after), [], [.exclusionChanged after]⟩)
    | none => (session, .ofOutcome (.error .unwritable))
  | _ => (session, .ofOutcome (.error .noOperation))

/-- Adds an account to the directory. -/
def addUser (session : Session σ) (account : Account) : Session σ × Answer :=
  let sources := session.sources
  match sources.directory.add? account with
  | some directory =>
    ({ session with sources := { sources with directory := directory } }, .ofOutcome (.ok .done))
  | none => (session, .ofOutcome (.error .noOperation))

/-- Registers a provider at the service. -/
def addProvider (session : Session σ) (handle : Handle) : Session σ × Answer :=
  match session.providers[handle]? with
  | some provider =>
    let (service, events) := session.service.add handle provider.kind provider.listNames
    ({ session with service := service }, ⟨.ok (.names service.listNames), [], events⟩)
  | none => (session, .ofOutcome (.error .noOperation))

/-- Removes a provider from the service. -/
def removeProvider (session : Session σ) (handle : Handle) : Session σ × Answer :=
  match session.providers[handle]? with
  | some provider =>
    let service := session.service.remove handle provider.listNames
    ({ session with service := service }, .ofOutcome (.ok (.names service.listNames)))
  | none => (session, .ofOutcome (.error .noOperation))

/-- Puts a new service with two new providers into the session. -/
def build (session : Session σ) (settings : Settings) : Session σ × Answer :=
  let themes := session.providers.length
  let contributors := themes + 1
  let lister := Provider.contributors settings.contributors.excluded
  let (half, first) := Registry.empty.add themes Provider.themes.kind Provider.themes.listNames
  let (service, second) := half.add contributors lister.kind lister.listNames
  ({ session with providers := session.providers ++ [.themes, lister], service := service },
    ⟨.ok (.built themes contributors service.listNames), [],
      .themesActivated :: first ++ .contributorsActivated :: second⟩)

/-- Puts another store of the settings into the session and answers with some of them. -/
def answerSettings (session : Session σ)
    (made : Except SettingFault HeldSettings × SettingsStore) : Session σ × Answer :=
  let outcome := match made.1 with
    | .ok held =>
      .ok (.settings held.settings (session.store.current.map (·.serial) == some held.serial))
    | .error fault => .error (.setting fault)
  ({ session with store := made.2 }, .ofOutcome outcome)

/-- Goes on with the shared settings, which are made if need be. -/
def withSettings (session : Session σ) (next : Session σ → Settings → Session σ × Answer) :
    Session σ × Answer :=
  let (made, store) := session.store.get session.env
  let session := { session with store := store }
  match made with
  | .ok held => next session held.settings
  | .error fault => (session, .ofOutcome (.error (.setting fault)))

/-- Sets up the log at a level of some name. -/
def configureLog (session : Session σ) (level : String) : Session σ × Answer :=
  (session, .ofOutcome (.level <$> LogLevel.ofName level))

/-- One command. -/
def step (session : Session σ) : Command → Session σ × Answer
  | .list (.provider handle) listName window =>
    session.perform (session.listing handle listName window) .listing
  | .list .service listName window =>
    match session.service.route? listName with
    | some handle => session.perform (session.listing handle listName window) .listing
    | none => (session, .ofOutcome (.error (.unknownList listName)))
  | .themes query =>
    session.perform (session.sources.index.themes session.sources.transport query) .page
  | .terms field documentType =>
    let work := session.sources.index.terms session.sources.transport field documentType
    session.perform work .texts
  | .findUsers pattern offset limit =>
    let found := session.sources.directory.find pattern offset limit
    (session, .ofOutcome (found.map fun accounts => .texts (accounts.map (·.username))))
  | .addUser account => session.addUser account
  | .configure handle properties => session.configure handle properties
  | .providerNames handle =>
    let names := match session.providers[handle]? with
      | some provider => .ok (.names provider.listNames)
      | none => .error .noOperation
    (session, .ofOutcome names)
  | .providerFlags handle listName => (session, .ofOutcome (session.flags handle listName))
  | .build (some settings) => session.build settings
  | .build none => session.withSettings build
  | .newService =>
    ({ session with service := .empty }, .ofOutcome (.ok (.names Registry.empty.listNames)))
  | .addProvider handle => session.addProvider handle
  | .removeProvider handle => session.removeProvider handle
  | .serviceNames => (session, .ofOutcome (.ok (.names session.service.listNames)))
  | .serviceHas listName => (session, .ofOutcome (.ok (.truth (session.service.has listName))))
  | .serviceFlags listName =>
    let outcome := match session.service.route? listName with
      | some handle => session.flags handle listName
      | none => .error (.unknownList listName)
    (session, .ofOutcome outcome)
  | .setVariables changes =>
    let env := changes.foldl (fun env change => env.set change.1 change.2) session.env
    ({ session with env := env }, .ofOutcome (.ok .done))
  | .getSettings => session.answerSettings (session.store.get session.env)
  | .reloadSettings => session.answerSettings (session.store.reload session.env)
  | .makeSettings => session.answerSettings (session.store.makeAside session.env)
  | .configureLog level =>
    match level.filter (!·.isEmpty) with
    | some level => session.configureLog level
    | none => session.withSettings fun session settings =>
      session.configureLog settings.logLevel.shown

/-- A sequence of commands, with the answers in order. -/
def run (session : Session σ) : List Command → Session σ × List Answer
  | [] => (session, [])
  | command :: commands =>
    let (next, answer) := session.step command
    let (final, answers) := next.run commands
    (final, answer :: answers)

end Session

end Picklists
