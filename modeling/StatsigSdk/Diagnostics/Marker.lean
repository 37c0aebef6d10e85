import StatsigSdk.Go

/-! The markers of `diagnostics.go` and their builder. A marker names an
operation (`Key`), a sub-phase (`Step`) and an action, carries optional tags, and
points to the timeline (`diagnosticsBase`) it will be appended to; here that
pointer is the timeline's context. The builder methods set one field each. The
`api` context and the `checkGate`, `getConfig` and `getLayer` keys, which the
error boundary uses, are not defined in the sources and are added here as one
more timeline and three more keys. `logProcess` is the status-line table; it
dereferences the pointer fields it reads, so a marker missing one of them makes
it panic. -/

namespace StatsigSdk

inductive DiagnosticsContext where
  | initializeContext
  | configSyncContext
  /-- `diagnostics.api()`'s timeline, not defined in the sources. -/
  | apiContext
  deriving DecidableEq, Repr

inductive DiagnosticsKey where
  | downloadConfigSpecsKey
  | bootstrapKey
  | getIDListSourcesKey
  | getIDListKey
  | overallKey
  | dataStoreConfigSpecsKey
  /-- The keys of the error boundary's wrappers, not defined in the sources. -/
  | checkGateKey
  | getConfigKey
  | getLayerKey
  deriving DecidableEq, Repr

inductive DiagnosticsStep where
  | networkRequestStep
  | fetchStep
  | processStep
  deriving DecidableEq, Repr

inductive DiagnosticsAction where
  | startAction
  | endAction
  deriving DecidableEq, Repr

/-- `marker`, with the fields of the embedded `tags` inline. `diagnostics` is the
timeline the marker belongs to. -/
structure Marker where
  Key : Option DiagnosticsKey
  Step : Option DiagnosticsStep
  Action : Option DiagnosticsAction
  Timestamp : Int
  Success : Option Bool
  StatusCode : Option Int
  SDKRegion : Option String
  IDListCount : Option Int
  URL : Option String
  diagnostics : DiagnosticsContext
  deriving DecidableEq, Repr

/-- `&marker{diagnostics: d}`: a builder for timeline `c` with every field unset. -/
def Marker.empty (c : DiagnosticsContext) : Marker :=
  ⟨none, none, none, 0, none, none, none, none, none, c⟩

/-- `diagnostics.initialize()`. -/
def initializeMarker : Marker := .empty .initializeContext

/-- `diagnostics.configSync()`. -/
def configSyncMarker : Marker := .empty .configSyncContext

/-- `diagnostics.api()`, not defined in the sources. -/
def apiMarker : Marker := .empty .apiContext

namespace Marker

/-- The key selectors: each sets `Key`. -/
def withKey (k : DiagnosticsKey) (m : Marker) : Marker := { m with Key := some k }

def downloadConfigSpecs (m : Marker) : Marker := m.withKey .downloadConfigSpecsKey
def bootstrap (m : Marker) : Marker := m.withKey .bootstrapKey
def getIdListSources (m : Marker) : Marker := m.withKey .getIDListSourcesKey
def getIdList (m : Marker) : Marker := m.withKey .getIDListKey
def overall (m : Marker) : Marker := m.withKey .overallKey
def dataStoreConfigSpecs (m : Marker) : Marker := m.withKey .dataStoreConfigSpecsKey
def checkGate (m : Marker) : Marker := m.withKey .checkGateKey
def getConfig (m : Marker) : Marker := m.withKey .getConfigKey
def getLayer (m : Marker) : Marker := m.withKey .getLayerKey

/-- The step selectors: each sets `Step`. -/
def withStep (s : DiagnosticsStep) (m : Marker) : Marker := { m with Step := some s }

def networkRequest (m : Marker) : Marker := m.withStep .networkRequestStep
def fetch (m : Marker) : Marker := m.withStep .fetchStep
def process (m : Marker) : Marker := m.withStep .processStep

/-- The action selectors: each sets `Action`. -/
def withAction (a : DiagnosticsAction) (m : Marker) : Marker := { m with Action := some a }

def start (m : Marker) : Marker := m.withAction .startAction
def «end» (m : Marker) : Marker := m.withAction .endAction

def success (val : Bool) (m : Marker) : Marker := { m with Success := some val }
def statusCode (val : Int) (m : Marker) : Marker := { m with StatusCode := some val }
def sdkRegion (val : String) (m : Marker) : Marker := { m with SDKRegion := some val }
def idListCount (val : Int) (m : Marker) : Marker := { m with IDListCount := some val }
def url (val : String) (m : Marker) : Marker := { m with URL := some val }

/-- `m.logProcess()`'s message: the status line for `(Key, Step, Action, Success)`,
empty when the table has none. -/
def logProcess (m : Marker) : Except PanicValue String := do
  let key ← deref m.Key
  if key = .overallKey then
    let action ← deref m.Action
    if action = .startAction then return "Starting..."
    else if action = .endAction then return "Done"
    else return ""
  else if key = .downloadConfigSpecsKey then
    let step ← deref m.Step
    if step = .networkRequestStep then
      let action ← deref m.Action
      if action = .startAction then return "Loading specs from network..."
      else if action = .endAction then
        if (← deref m.Success) then return "Done loading specs from network"
        else return "Failed to load specs from network"
      else return ""
    else if step = .processStep then
      let action ← deref m.Action
      if action = .startAction then return "Processing specs from network..."
      else if action = .endAction then
        if (← deref m.Success) then return "Done processing specs from network"
        else return "No updates to specs from network"
      else return ""
    else return ""
  else if key = .dataStoreConfigSpecsKey then
    let step ← deref m.Step
    if step = .fetchStep then
      let action ← deref m.Action
      if action = .startAction then return "Loading specs from adapter..."
      else if action = .endAction then
        if (← deref m.Success) then return "Done loading specs from adapter"
        else return "Failed to load specs from adapter"
      else return ""
    else if step = .processStep then
      let action ← deref m.Action
      if action = .startAction then return "Processing specs from adapter..."
      else if action = .endAction then
        if (← deref m.Success) then return "Done processing specs from adapter"
        else return "No updates to specs from adapter"
      else return ""
    else return ""
  else return ""

end Marker

/-- The process tag `diagnosticsBase.logProcess` passes to `LogStep`
(`StatsigProcessInitialize`, `StatsigProcessSync`, outside the sources); `none`
is the zero value a context other than `initialize` and `config_sync` leaves. -/
inductive StatsigProcess where
  | initializeProcess
  | syncProcess
  deriving DecidableEq, Repr

def DiagnosticsContext.process : DiagnosticsContext → Option StatsigProcess
  | .initializeContext => some .initializeProcess
  | .configSyncContext => some .syncProcess
  | .apiContext => none

/-- A line handed to the global logger. -/
inductive LogLine where
  | step (process : Option StatsigProcess) (msg : String)
  | error (err : String)
  deriving DecidableEq, Repr

end StatsigSdk
