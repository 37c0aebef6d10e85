import StatsigSdk.Diagnostics.Timeline
import StatsigSdk.ErrorBoundary.LogException
import StatsigSdk.Transport.Post

/-! The wrappers of `error_boundary.go`. Each runs the host's task under `defer
e.ebRecover(callback)`: a panic of the task is recovered, reported through
`logException`, logged with `LogError`, and followed by the callback, and the
wrapper returns the task's value or the zero value of its result type. The
wrappers of `checkGate`, `getConfig` and `getLayer` also mark the task's start and
end on the `api` timeline. A task is known by how it ends: with a value or with a
panic value. Proved: under every interleaving of any number of calls, every call
returns normally, with its task's value or the zero value, and some schedule lets
all calls return; a call whose task panicked with a non-`nil` value has invoked
`logException` and `LogError` once each, and one whose task returned neither; and
an instrumented call has appended exactly its start marker and then its end marker
with the task's success. A `nil` panic value is the exception: `recover()` returns
`nil` for it (the Go runtime before 1.21, and later ones under `panicnil=1`), so the
callback is skipped and nothing is reported, logged or marked as ended. The error
boundary ignores `LocalMode`, so a panicking task is reported over the network in
local mode too. -/

namespace StatsigSdk

/-- The builder a stamped marker was made from: builders are unstamped. -/
def Marker.unstamped (m : Marker) : Marker := { m with Timestamp := 0 }

namespace ErrorBoundary

def runTask {α : Type} (task : Except PanicValue α) : Prog α := Prog.ofExcept task

variable (e : ErrorBoundary) (urlError : String → Option String) (metadata : StatsigMetadata)

/-- `e.ebRecover(recoverCallback)`, given what `recover()` returned; `toError(err)`
is rendered by the panic value's message. -/
def ebRecover (recoverCallback : Prog Unit) : PanicValue → Prog Unit
  | none => .pure ()
  | some err => do
    e.logException urlError metadata (some err)
    logErrorLine err
    recoverCallback

/-- `captureCheckGate`, `captureGetConfig` and `captureGetLayer`, which differ only
in the key of their markers on `e.diagnostics.api()`. -/
def captureWithDiagnostics {α : Type} [Inhabited α] (key : DiagnosticsKey)
    (task : Except PanicValue α) : Prog α :=
  Prog.deferRecover
    (do
      (apiMarker.withKey key).start.mark
      let res ← runTask task
      ((apiMarker.withKey key).«end».success true).mark
      return res)
    (e.ebRecover urlError metadata ((apiMarker.withKey key).«end».success false).mark)

def captureCheckGate (task : Except PanicValue Bool) : Prog Bool :=
  e.captureWithDiagnostics urlError metadata .checkGateKey task

def captureGetConfig {DynamicConfig : Type} [Inhabited DynamicConfig]
    (task : Except PanicValue DynamicConfig) : Prog DynamicConfig :=
  e.captureWithDiagnostics urlError metadata .getConfigKey task

def captureGetLayer {Layer : Type} [Inhabited Layer] (task : Except PanicValue Layer) : Prog Layer :=
  e.captureWithDiagnostics urlError metadata .getLayerKey task

/-- `captureGetClientInitializeResponse` and `captureVoid`, whose callback is empty. The
result types not in the sources have `default` as their zero value. -/
def capture {α : Type} [Inhabited α] (task : Except PanicValue α) : Prog α :=
  Prog.deferRecover (runTask task) (e.ebRecover urlError metadata (pure ()))

def captureGetClientInitializeResponse {ClientInitializeResponse : Type}
    [Inhabited ClientInitializeResponse] (task : Except PanicValue ClientInitializeResponse) :
    Prog ClientInitializeResponse :=
  e.capture urlError metadata task

def captureVoid (task : Except PanicValue Unit) : Prog Unit :=
  e.capture urlError metadata task

/-! ### A completed call -/

variable {e : ErrorBoundary} {urlError : String → Option String} {metadata : StatsigMetadata}

/-- A completed `ebRecover`: nothing for a `nil` recovered value; otherwise a whole
`logException`, the `LogError` line, and then the callback. -/
theorem after_ebRecover_done {cb : Prog Unit} {v : PanicValue} {es : List Event} {q : Prog Unit}
    (h : (e.ebRecover urlError metadata cb v).after es = some q) (hq : q.isDone) :
    (v = none ∧ es = [] ∧ q = .pure ()) ∨
      ∃ err es₁ es₂, v = some err ∧ es = es₁ ++ .logError err :: es₂ ∧
        (e.logException urlError metadata (some err)).after es₁ = some (.pure ()) ∧
        cb.after es₂ = some q := by
  cases v with
  | none => exact .inl ⟨rfl, Prog.after_pure_eq_some.1 h⟩
  | some err =>
    simp only [ebRecover, Prog.bind_eq] at h
    rcases Prog.after_bind_done h hq with ⟨es₁, es₂, u, rfl, h₁, h₂⟩ | ⟨v, hv, -⟩
    · simp only [logErrorLine, Prog.bind, Prog.after_logError_eq_some] at h₂
      rcases h₂ with ⟨-, rfl⟩ | ⟨es₂, rfl, h₂⟩
      · cases hq
      · exact .inr ⟨err, es₁, es₂, rfl, rfl, h₁, h₂⟩
    · simpa using ((after_logException hv).2.2.2 rfl).1

theorem logProcess_of_apiKey {m : Marker} {key : DiagnosticsKey}
    (hkey : key = .checkGateKey ∨ key = .getConfigKey ∨ key = .getLayerKey)
    (hm : m.Key = some key) : m.logProcess = .ok "" := by
  unfold Marker.logProcess
  rw [hm]
  rcases hkey with rfl | rfl | rfl <;> rfl

/-- The end marker of a completed instrumented call: with the task's success, and
none after a `nil` panic value, for which the callback is skipped. -/
def endMarker {α : Type} (key : DiagnosticsKey) : Except PanicValue α → List Marker
  | .ok _ => [(apiMarker.withKey key).«end».success true]
  | .error (some _) => [(apiMarker.withKey key).«end».success false]
  | .error none => []

/-- A completed instrumented call returned its task's value or the zero value, reported
and logged a non-`nil` panic once, and appended its start and end markers. -/
theorem after_captureWithDiagnostics_done {α : Type} [Inhabited α] {key : DiagnosticsKey}
    (hkey : key = .checkGateKey ∨ key = .getConfigKey ∨ key = .getLayerKey)
    {task : Except PanicValue α} {es : List Event} {q : Prog α}
    (h : (e.captureWithDiagnostics urlError metadata key task).after es = some q) (hq : q.isDone) :
    q = .pure (Prog.returned task) ∧
    es.countP Event.isCheckSeen = (if (Prog.recovered task).isSome then 1 else 0) ∧
    es.countP Event.isLogError = (if (Prog.recovered task).isSome then 1 else 0) ∧
    (es.filterMap Event.appended).map Marker.unstamped =
      (apiMarker.withKey key).start :: endMarker key task := by
  have hstart : ∀ t, ({ (apiMarker.withKey key).start with Timestamp := t } : Marker).logProcess =
      .ok "" := fun _ => logProcess_of_apiKey hkey rfl
  have hend : ∀ b t, ({ (apiMarker.withKey key).«end».success b with Timestamp := t } : Marker).logProcess =
      .ok "" := fun _ _ => logProcess_of_apiKey hkey rfl
  obtain ⟨es₁, es₂, r, q', rfl, h₁, h₂, hq', rfl⟩ := Prog.after_deferRecover_done h hq
  -- the body marked the start, ran the task, and marked the end if the task returned
  cases task <;> cases r <;>
    simp [runTask, Prog.ofExcept, Marker.mark_eq, appendAndLog_of_ok (hstart _),
      appendAndLog_of_ok (hend _ _), Prog.bind] at h₁
  case ok.ok =>
    obtain ⟨t, _, rfl, _, rfl, t', _, rfl, _, rfl, rfl, rfl⟩ := h₁
    obtain ⟨rfl, rfl⟩ : es₂ = [] ∧ q' = .pure () := by simpa [Prog.recovered, ebRecover] using h₂
    simp [Prog.returned, Prog.recovered, endMarker, Event.isCheckSeen, Event.isLogError,
      Event.appended, Marker.unstamped]
    exact ⟨rfl, rfl⟩
  case error.error =>
    obtain ⟨t, _, rfl, _, rfl, rfl, rfl⟩ := h₁
    rcases after_ebRecover_done h₂ hq' with ⟨hx, rfl, rfl⟩ | ⟨err, es₃, es₄, hx, rfl, h₃, h₄⟩
    · -- a `nil` panic value: `ebRecover` does nothing
      simp only [Prog.recovered] at hx
      subst hx
      simp [Prog.returned, Prog.recovered, endMarker, Event.isCheckSeen, Event.isLogError,
        Event.appended, Marker.unstamped]
      rfl
    · simp only [Prog.recovered] at hx
      subst hx
      obtain ⟨-, hcs, hle, happ, -⟩ := (after_logException h₃).2.2.2 rfl
      obtain ⟨t', rfl, rfl⟩ := after_mark_done (logProcess_of_apiKey hkey rfl) h₄ hq'
      simp [Prog.returned, Prog.recovered, endMarker, Event.isCheckSeen, Event.isLogError,
        Event.appended, Marker.unstamped, hcs, hle, happ]
      exact ⟨rfl, rfl⟩

theorem after_capture_done {α : Type} [Inhabited α] {task : Except PanicValue α} {es : List Event}
    {q : Prog α} (h : (e.capture urlError metadata task).after es = some q) (hq : q.isDone) :
    q = .pure (Prog.returned task) ∧
    es.countP Event.isCheckSeen = (if (Prog.recovered task).isSome then 1 else 0) ∧
    es.countP Event.isLogError = (if (Prog.recovered task).isSome then 1 else 0) ∧
    es.filterMap Event.appended = [] := by
  obtain ⟨es₁, es₂, r, q', rfl, h₁, h₂, hq', rfl⟩ := Prog.after_deferRecover_done h hq
  obtain ⟨rfl, hr⟩ := Prog.after_of_isDone h₁ (by cases task <;> rfl)
  obtain rfl : task = r := by cases task <;> cases r <;> simp_all [runTask, Prog.ofExcept]
  rcases after_ebRecover_done h₂ hq' with ⟨hx, rfl, rfl⟩ | ⟨err, es₃, es₄, hx, rfl, h₃, h₄⟩
  · simp [hx, Prog.returned]
  · obtain ⟨rfl, rfl⟩ := Prog.after_pure_eq_some.1 h₄
    obtain ⟨-, hcs, hle, happ, -⟩ := (after_logException h₃).2.2.2 rfl
    simp [hx, hcs, hle, happ, Event.isCheckSeen, Event.isLogError, Event.appended]

end ErrorBoundary

/-! ### Concurrent calls -/

/-- What a wrapper returns; the result types not in the sources are taken as one
type `V`. -/
inductive Returned (V : Type) where
  | gate (value : Bool)
  | value (value : V)
  | unit

/-- A call of one of the wrappers, by how its task ends. -/
inductive CaptureCall (V : Type) where
  | checkGate (task : Except PanicValue Bool)
  | getConfig (task : Except PanicValue V)
  | getLayer (task : Except PanicValue V)
  | getClientInitializeResponse (task : Except PanicValue V)
  | void (task : Except PanicValue Unit)

namespace CaptureCall

variable {V : Type} [Inhabited V]

def prog (e : ErrorBoundary) (urlError : String → Option String) (metadata : StatsigMetadata) :
    CaptureCall V → Prog (Returned V)
  | .checkGate task => (e.captureCheckGate urlError metadata task).bind fun b => .pure (.gate b)
  | .getConfig task => (e.captureGetConfig urlError metadata task).bind fun v => .pure (.value v)
  | .getLayer task => (e.captureGetLayer urlError metadata task).bind fun v => .pure (.value v)
  | .getClientInitializeResponse task =>
    (e.captureGetClientInitializeResponse urlError metadata task).bind fun v => .pure (.value v)
  | .void task => (e.captureVoid urlError metadata task).bind fun _ => .pure .unit

/-- What the call returns: its task's value, or the zero value after a panic. -/
def returned : CaptureCall V → Returned V
  | .checkGate task => .gate (Prog.returned task)
  | .getConfig task | .getLayer task | .getClientInitializeResponse task =>
    .value (Prog.returned task)
  | .void _ => .unit

/-- Whether the call's task panicked with a non-`nil` value. -/
def reported : CaptureCall V → Bool
  | .checkGate task => (Prog.recovered task).isSome
  | .getConfig task | .getLayer task | .getClientInitializeResponse task =>
    (Prog.recovered task).isSome
  | .void task => (Prog.recovered task).isSome

def markers : CaptureCall V → List Marker
  | .checkGate task => (apiMarker.withKey .checkGateKey).start :: ErrorBoundary.endMarker .checkGateKey task
  | .getConfig task => (apiMarker.withKey .getConfigKey).start :: ErrorBoundary.endMarker .getConfigKey task
  | .getLayer task => (apiMarker.withKey .getLayerKey).start :: ErrorBoundary.endMarker .getLayerKey task
  | .getClientInitializeResponse _ | .void _ => []

variable {e : ErrorBoundary} {urlError : String → Option String} {metadata : StatsigMetadata}

theorem after_prog_done {call : CaptureCall V} {es : List Event} {q : Prog (Returned V)}
    (h : (call.prog e urlError metadata).after es = some q) (hq : q.isDone) :
    q = .pure call.returned ∧
    es.countP Event.isCheckSeen = (if call.reported then 1 else 0) ∧
    es.countP Event.isLogError = (if call.reported then 1 else 0) ∧
    (es.filterMap Event.appended).map Marker.unstamped = call.markers := by
  cases call <;> rw [prog, Prog.after_bind_pure] at h <;>
    obtain ⟨q', hq', rfl⟩ := Option.map_eq_some'.1 h
  case checkGate task =>
    obtain ⟨rfl, hrest⟩ := ErrorBoundary.after_captureWithDiagnostics_done (.inl rfl) hq' (Prog.isDone_of_bind hq)
    exact ⟨rfl, hrest⟩
  case getConfig task =>
    obtain ⟨rfl, hrest⟩ := ErrorBoundary.after_captureWithDiagnostics_done (.inr (.inl rfl)) hq'
      (Prog.isDone_of_bind hq)
    exact ⟨rfl, hrest⟩
  case getLayer task =>
    obtain ⟨rfl, hrest⟩ := ErrorBoundary.after_captureWithDiagnostics_done (.inr (.inr rfl)) hq'
      (Prog.isDone_of_bind hq)
    exact ⟨rfl, hrest⟩
  case getClientInitializeResponse task =>
    obtain ⟨rfl, h₁, h₂, h₃⟩ := ErrorBoundary.after_capture_done hq' (Prog.isDone_of_bind hq)
    exact ⟨rfl, h₁, h₂, by simp [h₃, markers]⟩
  case void task =>
    obtain ⟨rfl, h₁, h₂, h₃⟩ := ErrorBoundary.after_capture_done hq' (Prog.isDone_of_bind hq)
    exact ⟨rfl, h₁, h₂, by simp [h₃, markers]⟩

end CaptureCall

/-- Under every interleaving of wrapper calls some schedule lets every call return, and a
returned call returned normally, reported and logged a non-`nil` panic once, and marked. -/
theorem capture_recovers (env : Env) (e : ErrorBoundary) (urlError : String → Option String)
    (metadata : StatsigMetadata) {V : Type} [Inhabited V] (calls : List (CaptureCall V))
    (w : World (Returned V)) (hw : w.Reach env (calls.map (CaptureCall.prog e urlError metadata))) :
    (∃ sched, (w.run env sched).Quiescent) ∧
    ∀ i (hi : i < calls.length) q, w.threads[i]? = some q → q.isDone →
      q = .pure calls[i].returned ∧
      (w.history i).countP Event.isCheckSeen = (if calls[i].reported then 1 else 0) ∧
      (w.history i).countP Event.isLogError = (if calls[i].reported then 1 else 0) ∧
      ((w.history i).filterMap Event.appended).map Marker.unstamped = calls[i].markers := by
  refine ⟨World.exists_run_quiescent env w, fun i hi q hq hdone => ?_⟩
  obtain ⟨q', hq', hafter⟩ := hw.thread_after_map hi
  obtain rfl : q = q' := Option.some.inj (hq.symm.trans hq')
  exact CaptureCall.after_prog_done hafter hdone

/-- A gate check whose task returns `true`, interleaved with a `captureVoid` whose task
panics with `"boom"`. -/
def captureRun : World (Returned Unit) :=
  (World.start ([CaptureCall.checkGate (.ok true), .void (.error (some "boom"))].map
    (CaptureCall.prog exampleBoundary (fun _ => none) exampleMetadata))).run stoppedClock
    [0, 1, 0, 1, 1, 0, 1, 0, 1]

theorem capture_recovers_interleaved :
    (∃ sched, (captureRun.run stoppedClock sched).Quiescent) ∧
    ∀ i (hi : i < [CaptureCall.checkGate (.ok true), .void (.error (some "boom"))].length) q,
      captureRun.threads[i]? = some q → q.isDone →
      q = .pure [CaptureCall.checkGate (.ok true), .void (.error (some "boom"))][i].returned ∧
      (captureRun.history i).countP Event.isCheckSeen =
        (if [CaptureCall.checkGate (.ok true), .void (.error (some "boom"))][i].reported then 1 else 0) ∧
      (captureRun.history i).countP Event.isLogError =
        (if [CaptureCall.checkGate (.ok true), .void (.error (some "boom"))][i].reported then 1 else 0) ∧
      ((captureRun.history i).filterMap Event.appended).map Marker.unstamped =
        [CaptureCall.checkGate (.ok true), .void (.error (some "boom"))][i].markers :=
  capture_recovers stoppedClock exampleBoundary (fun _ => none) exampleMetadata
    [CaptureCall.checkGate (.ok true), .void (.error (some "boom"))] captureRun (World.Reach.start.run _)

def nilPanicRun : World (Returned Unit) :=
  (World.start [(CaptureCall.checkGate (.error none)).prog exampleBoundary (fun _ => none)
    exampleMetadata]).run stoppedClock [0, 0, 0]

/-- A gate check whose task panics with `nil` returns reporting, logging and marking
nothing, as before Go 1.21 or under `GODEBUG=panicnil=1`; under the defaults of Go
1.21 and later the value is a non-`nil` `*runtime.PanicNilError` and is reported. -/
theorem captureCheckGate_nil_panic_unreported :
    nilPanicRun.threads[0]?.map Prog.isDone = some true ∧
      (nilPanicRun.history 0).countP Event.isCheckSeen = 0 ∧
      (nilPanicRun.history 0).countP Event.isLogError = 0 ∧
      ((nilPanicRun.history 0).filterMap Event.appended).length = 1 := by
  decide

/-- `LocalMode` reaches neither the error boundary nor `get`: with it on, a panic is
still reported to the collector and `get` still calls `client.Do`. -/
theorem localMode_requests_sent :
    ((World.start [(newErrorBoundary "secret-key" ⟨"", true⟩).captureVoid (fun _ => none)
      exampleMetadata (.error (some "boom"))]).run stoppedClock [0, 0, 0, 0, 0]).shared.sent.map
        Request.url = ["https://statsigapi.net/v1/sdk_exception"] ∧
    attempts (Transport.get "https://statsigapi.net/v1/get_id_lists" []
      (answering fun _ => .ok ⟨200, .json⟩)).2 = 1 := by
  decide

end StatsigSdk
