import StatsigSdk.ErrorBoundary.Capture
import StatsigSdk.Runtime.Footprint

/-! What concurrent calls of the wrappers of `error_boundary.go` do to the state they
share. A call appends markers to the `api` timeline and never clears or reads a
timeline; it asks `seen` only about its own panic message and logs only that
message; and it sends at most one report, after finding the message unseen. Proved:
under every interleaving of any number of calls on one error boundary, each message
is reported at most once; once all calls have returned, `LogError` has logged one
line per call whose task panicked with a non-`nil` value (it is not deduplicated),
`seen` holds exactly the calls' messages, and each is reported once if the
collector's URL parses; and the other timelines stay empty while the `api` timeline
holds the calls' markers merged, each call's in its own order. Run beside calls of
`mark`, `clearMarkers` and `serialize` on the same diagnostics, the wrappers leave
the `initialize` and `config_sync` timelines to those calls alone. -/

namespace StatsigSdk

/-- The events a wrapper makes outside `logException` when `recover()` returns `v`:
clock readings for its marks, markers appended to the `api` timeline with the empty
status line `logProcess` gives the wrappers' keys, and the `LogError` line of the
recovered value. -/
def Event.Wrapper (v : PanicValue) : Event → Prop
  | .now _ => True
  | .append m line => m.diagnostics = .apiContext ∧ line = some (.step none "")
  | .logError err => v = some err
  | _ => False

/-- The events of `logException`: a `checkSeen`, the stack snapshot, the clock and
the request handed to `client.Do`. -/
def Event.Reporting : Event → Prop
  | .checkSeen _ _ | .stack _ | .now _ | .send _ => True
  | _ => False

/-- An event that touches no timeline but `api`'s, and that one only by appending. -/
def Event.OnApi : Event → Prop
  | .append m _ => m.diagnostics = .apiContext
  | .clear _ | .read _ _ => False
  | _ => True

/-- The message of an error line. -/
def LogLine.errorText : LogLine → Option String
  | .error err => some err
  | .step _ _ => none

theorem Event.onApi_of {x : Event} {v : PanicValue} (h : x.Wrapper v ∨ x.Reporting) : x.OnApi := by
  cases x <;> simp only [Wrapper, Reporting, OnApi, or_false, false_or] at h ⊢
  all_goals first | trivial | exact h.1

/-- The error messages an event logs, for the events of a wrapper. -/
theorem Event.errorTexts_of {x : Event} {v : PanicValue} (h : x.Wrapper v ∨ x.Reporting) :
    x.loggedLines.filterMap LogLine.errorText = if x.isLogError then v.toList else [] := by
  cases x <;> simp only [Wrapper, Reporting, or_false, false_or] at h
  case append m line => simp [h.2, loggedLines, LogLine.errorText, isLogError]
  case logError err => simp [h, loggedLines, LogLine.errorText, isLogError]
  all_goals rfl

namespace ErrorBoundary

variable {e : ErrorBoundary} {urlError : String → Option String} {metadata : StatsigMetadata}

/-- `logException` only checks `seen`, takes a snapshot, reads the clock and sends. -/
theorem logException_emits (exception : Option String) :
    (e.logException urlError metadata exception).Emits Event.Reporting fun _ => True := by
  simp only [logException, checkSeen, runtimeStack, getNow, sendRequest, Prog.bind_eq,
    Prog.pure_eq, Prog.bind]
  refine fun b => ⟨trivial, ?_⟩
  cases b
  · refine fun s => ⟨trivial, ?_⟩
    dsimp only
    split
    · trivial
    · exact fun t => ⟨trivial, trivial, trivial⟩
  · trivial

/-- A mark of a wrapper's key reads the clock and appends its marker, with an empty
status line, to the `api` timeline. -/
theorem mark_emits {m : Marker} {key : DiagnosticsKey}
    (hkey : key = .checkGateKey ∨ key = .getConfigKey ∨ key = .getLayerKey)
    (hm : m.Key = some key) (hd : m.diagnostics = .apiContext) (v : PanicValue) :
    m.mark.Emits (Event.Wrapper v) (· = .ok ()) := by
  rw [Marker.mark_eq]
  refine fun t => ⟨trivial, ?_⟩
  dsimp only
  rw [appendAndLog_of_ok (logProcess_of_apiKey (m := { m with Timestamp := markTimestamp t }) hkey hm)]
  exact ⟨⟨hd, by rw [hd]; rfl⟩, rfl⟩

/-- The shape of a run of a wrapper whose `recover()` returns `v`: wrapper events
around a run of `logException` on the recovered message, which has returned once
`done` holds. -/
def WrapperRun (e : ErrorBoundary) (urlError : String → Option String)
    (metadata : StatsigMetadata) (v : PanicValue) (es : List Event) (done : Prop) : Prop :=
  ∃ es₁ es₂ es₃, es = es₁ ++ es₂ ++ es₃ ∧ (∀ x ∈ es₁ ++ es₃, x.Wrapper v) ∧
    ((es₂ = [] ∧ (done → v = none)) ∨
      ∃ err q, v = some err ∧ (e.logException urlError metadata (some err)).after es₂ = some q ∧
        (done → q = .pure ()))

/-- A run of `defer e.ebRecover(callback)` around a body, both making wrapper
events only, has the shape of a wrapper's run. -/
theorem after_wrapper {α : Type} [Inhabited α] {body : Prog α} {cb : Prog Unit}
    {task : Except PanicValue α} {es : List Event} {q : Prog α}
    (hbody : ∀ v, body.Emits (Event.Wrapper v) (· = task))
    (hcb : ∀ v, cb.Emits (Event.Wrapper v) fun _ => True)
    (h : (Prog.deferRecover body (e.ebRecover urlError metadata cb)).after es = some q) :
    WrapperRun e urlError metadata (Prog.recovered task) es q.isDone := by
  rcases Prog.after_deferRecover h with ⟨p', hp', hq⟩ | ⟨es₁, es₂, r, q', rfl, h₁, h₂, hq⟩
  · -- the body is still running
    exact ⟨es, [], [], by simp, by simpa using ((hbody _).after hp').1, .inl ⟨rfl, by simp [hq]⟩⟩
  obtain rfl : r = task := (hbody none).after_ofExcept h₁
  have hes₁ := fun v => ((hbody v).after h₁).1
  cases hv : Prog.recovered r with
  | none =>
    rw [hv] at h₂
    obtain ⟨rfl, rfl⟩ := Prog.after_pure_eq_some.1 h₂
    exact ⟨es₁, [], [], by simp, by simpa using hes₁ _, .inl ⟨rfl, fun _ => rfl⟩⟩
  | some err =>
    rw [hv] at h₂
    simp only [ebRecover, Prog.bind_eq] at h₂
    rcases Prog.after_bind h₂ with ⟨p', hp', rfl⟩ | ⟨s₁, s₂, u, rfl, hs₁, hs₂⟩
    · -- `logException` is still running
      exact ⟨es₁, es₂, [], by simp, by simpa using hes₁ _, .inr ⟨err, p', rfl, hp',
        fun hd => ((after_logException hp').2.2.2 (Prog.isDone_of_bind (hq hd))).1⟩⟩
    · -- then the `LogError` line and the callback
      have hrest : ((logErrorLine err).bind fun _ => cb).Emits (Event.Wrapper (some err))
          fun _ => True := ⟨rfl, hcb _⟩
      exact ⟨es₁, s₁, s₂, by simp, List.forall_mem_append.2 ⟨hes₁ _, (hrest.after hs₂).1⟩,
        .inr ⟨err, _, rfl, hs₁, fun _ => rfl⟩⟩

theorem WrapperRun.mono {v : PanicValue} {es : List Event} {D D' : Prop}
    (h : WrapperRun e urlError metadata v es D) (hD : D' → D) : WrapperRun e urlError metadata v es D' :=
  let ⟨es₁, es₂, es₃, hes, hw, h₂⟩ := h
  ⟨es₁, es₂, es₃, hes, hw, h₂.imp (And.imp_right (· ∘ hD)) fun ⟨err, q, h1, h2, h3⟩ =>
    ⟨err, q, h1, h2, h3 ∘ hD⟩⟩

theorem after_captureWithDiagnostics {α : Type} [Inhabited α] {key : DiagnosticsKey}
    (hkey : key = .checkGateKey ∨ key = .getConfigKey ∨ key = .getLayerKey)
    {task : Except PanicValue α} {es : List Event} {q : Prog α}
    (h : (e.captureWithDiagnostics urlError metadata key task).after es = some q) :
    WrapperRun e urlError metadata (Prog.recovered task) es q.isDone :=
  after_wrapper
    (fun v => by
      refine (mark_emits hkey rfl rfl v).bind (fun _ _ => ?_) fun _ h => nomatch h
      refine (Prog.emits_ofExcept (P := (· = task)).2 rfl).bind (fun a ha => ?_) fun _ h => h
      exact (mark_emits hkey rfl rfl v).bind (fun _ _ => ha) fun _ h => nomatch h)
    (fun v => (mark_emits hkey rfl rfl v).mono (fun _ h => h) fun _ _ => trivial) h

theorem after_capture {α : Type} [Inhabited α] {task : Except PanicValue α} {es : List Event}
    {q : Prog α} (h : (e.capture urlError metadata task).after es = some q) :
    WrapperRun e urlError metadata (Prog.recovered task) es q.isDone :=
  after_wrapper (fun _ => Prog.emits_ofExcept.2 rfl) (fun _ => by exact trivial) h

section Facts

variable {v : PanicValue} {es : List Event} {D : Prop}

/-- An event of a wrapper's run that a wrapper does not make is one of its
`logException`, on the recovered message. -/
theorem WrapperRun.middle (h : WrapperRun e urlError metadata v es D) {x : Event} (hx : x ∈ es)
    (hnw : ¬ x.Wrapper v) :
    ∃ err es₂ q, v = some err ∧ (e.logException urlError metadata (some err)).after es₂ = some q ∧
      x ∈ es₂ ∧ es₂ ⊆ es ∧ (D → q = .pure ()) := by
  obtain ⟨es₁, es₂, es₃, rfl, hw, h₂⟩ := h
  have hx₂ : x ∈ es₂ := by
    rcases List.mem_append.1 hx with hx | hx
    · rcases List.mem_append.1 hx with hx | hx
      · exact absurd (hw x (List.mem_append_left _ hx)) hnw
      · exact hx
    · exact absurd (hw x (List.mem_append_right _ hx)) hnw
  rcases h₂ with ⟨rfl, -⟩ | ⟨err, q, hv, hq, hd⟩
  · exact absurd hx₂ (List.not_mem_nil x)
  · exact ⟨err, es₂, q, hv, hq, hx₂, fun y hy => List.mem_append_left _ (List.mem_append_right _ hy), hd⟩

/-- Every event of a wrapper's run is a wrapper event or one of `logException`. -/
theorem WrapperRun.events (h : WrapperRun e urlError metadata v es D) :
    ∀ x ∈ es, x.Wrapper v ∨ x.Reporting := fun x hx => by
  by_cases hw : x.Wrapper v
  · exact .inl hw
  · obtain ⟨err, es₂, q, -, hq, hx₂, -⟩ := h.middle hx hw
    exact .inr (((logException_emits _).after hq).1 x hx₂)

/-- A wrapper asks `seen` only about its recovered message. -/
theorem WrapperRun.checkSeen_mem (h : WrapperRun e urlError metadata v es D) {s : String}
    {b : Bool} (hx : .checkSeen s b ∈ es) : v = some s := by
  obtain ⟨err, es₂, q, hv, hq, hx, -⟩ := h.middle hx id
  obtain rfl : s = err := (after_logException hq).1 s b hx
  exact hv

/-- A report a wrapper sends is of a message it found unseen. -/
theorem WrapperRun.checked_of_report (h : WrapperRun e urlError metadata v es D) {r : Request}
    {s : String} (hx : .send r ∈ es) (hr : r.reports s) : .checkSeen s false ∈ es := by
  obtain ⟨err, es₂, q, -, hq, hx, hsub, -⟩ := h.middle hx id
  obtain ⟨stack, t, rfl, rfl⟩ := (after_logException hq).2.1 r hx
  obtain rfl : err = s := by simpa [Request.reports] using hr
  exact hsub (List.mem_cons_self _ _)

/-- A wrapper sends at most one request. -/
theorem WrapperRun.countP_send (h : WrapperRun e urlError metadata v es D) :
    es.countP Event.isSend ≤ 1 := by
  obtain ⟨es₁, es₂, es₃, rfl, hw, h₂⟩ := h
  have hnone : (es₁ ++ es₃).countP Event.isSend = 0 := List.countP_eq_zero.2 fun x hx hs => by
    cases x
    case send r => exact hw _ hx
    all_goals cases hs
  have h₂' : es₂.countP Event.isSend ≤ 1 := by
    rcases h₂ with ⟨rfl, -⟩ | ⟨err, q, -, hq, -⟩
    · simp
    · exact (after_logException hq).2.2.1
  simp only [List.countP_append] at hnone ⊢
  omega

/-- A wrapper that has returned after a panic has asked `seen` about its message. -/
theorem WrapperRun.checked_of_done (h : WrapperRun e urlError metadata v es D) (hD : D)
    {s : String} (hv : v = some s) : ∃ b, .checkSeen s b ∈ es := by
  obtain ⟨es₁, es₂, es₃, rfl, -, h₂⟩ := h
  rcases h₂ with ⟨-, hn⟩ | ⟨err, q, hv', hq, hd⟩
  · cases hv.symm.trans (hn hD)
  · obtain rfl : err = s := Option.some.inj (hv'.symm.trans hv)
    obtain rfl := hd hD
    obtain ⟨b, hb⟩ := ((after_logException hq).2.2.2 rfl).2.2.2.2.1
    exact ⟨b, List.mem_append_left _ (List.mem_append_right _ hb)⟩

/-- A wrapper that has returned after finding its message unseen has reported it, if
the collector's URL parses. -/
theorem WrapperRun.reported_of_done (h : WrapperRun e urlError metadata v es D) (hD : D)
    (hurl : urlError (e.api ++ e.endpoint) = none) {s : String} (hx : .checkSeen s false ∈ es) :
    ∃ r, .send r ∈ es ∧ r.reports s := by
  obtain ⟨err, es₂, q, -, hq, hx, hsub, hd⟩ := h.middle hx id
  obtain rfl := hd hD
  have hfacts := after_logException hq
  obtain rfl : s = err := hfacts.1 s false hx
  obtain ⟨r, hr⟩ := (hfacts.2.2.2 rfl).2.2.2.2.2 hurl hx
  obtain ⟨stack, t, -, rfl⟩ := hfacts.2.1 r hr
  exact ⟨_, hsub hr, by simp [Request.reports]⟩

end Facts

end ErrorBoundary

/-! ### The timelines of wrapper calls -/

section Timelines

variable {es : List Event}

theorem sinceClear_of_onApi (h : ∀ x ∈ es, x.OnApi) (c : DiagnosticsContext) :
    sinceClear c es = es := by
  rw [sinceClear, List.takeWhile_eq_self_iff.2, List.reverse_reverse]
  intro x hx
  have hon := h x (List.mem_reverse.1 hx)
  exact decide_eq_true (by rintro rfl; exact hon)

theorem appendedTo_of_onApi (h : ∀ x ∈ es, x.OnApi) (c : DiagnosticsContext) :
    appendedTo c es = if c = .apiContext then es.filterMap Event.appended else [] := by
  induction es with
  | nil => simp [appendedTo]
  | cons x es ih =>
    rw [List.forall_mem_cons] at h
    cases x with
    | append m l =>
      have hm : m.diagnostics = .apiContext := h.1
      by_cases hc : c = .apiContext
      · subst hc; simp [appendedTo, hm, ih h.2, Event.appended]
      · simp [appendedTo, hm, ih h.2, hc, Ne.symm hc]
    | _ => simpa [appendedTo, Event.appended] using ih h.2

/-- Events that touch the `api` timeline only by appending leave the other
timelines empty and the `api` timeline holding what they appended. -/
theorem timelineSpec_of_onApi (h : ∀ x ∈ es, x.OnApi) (c : DiagnosticsContext) :
    timelineSpec c es = if c = .apiContext then es.filterMap Event.appended else [] := by
  rw [timelineSpec, sinceClear_of_onApi h, appendedTo_of_onApi h]

end Timelines

theorem flatMap_ite_countP {β γ : Type} (xs : List β) (p : β → Bool) (L : List γ) :
    xs.flatMap (fun x => if p x then L else []) = (List.replicate (xs.countP p) L).flatten := by
  induction xs with
  | nil => rfl
  | cons x xs ih => cases h : p x <;> simp [List.countP_cons, h, ih, List.replicate_succ]

namespace CaptureCall

variable {V : Type}

/-- What `recover()` returns in the call's deferred `ebRecover`. -/
def panicValue : CaptureCall V → PanicValue
  | .checkGate task => Prog.recovered task
  | .getConfig task | .getLayer task | .getClientInitializeResponse task => Prog.recovered task
  | .void task => Prog.recovered task

theorem reported_eq_isSome (call : CaptureCall V) : call.reported = call.panicValue.isSome := by
  cases call <;> rfl

variable [Inhabited V] {e : ErrorBoundary} {urlError : String → Option String} {metadata : StatsigMetadata}

/-- Every run of a call has the shape of a wrapper's run. -/
theorem wrapperRun {call : CaptureCall V} {es : List Event} {q : Prog (Returned V)}
    (h : (call.prog e urlError metadata).after es = some q) :
    ErrorBoundary.WrapperRun e urlError metadata call.panicValue es q.isDone := by
  cases call <;> rw [prog, Prog.after_bind_pure] at h <;>
    obtain ⟨q', hq', rfl⟩ := Option.map_eq_some'.1 h
  all_goals refine ErrorBoundary.WrapperRun.mono ?_ Prog.isDone_of_bind
  case checkGate => exact ErrorBoundary.after_captureWithDiagnostics (.inl rfl) hq'
  case getConfig => exact ErrorBoundary.after_captureWithDiagnostics (.inr (.inl rfl)) hq'
  case getLayer => exact ErrorBoundary.after_captureWithDiagnostics (.inr (.inr rfl)) hq'
  case getClientInitializeResponse => exact ErrorBoundary.after_capture hq'
  case void => exact ErrorBoundary.after_capture hq'

/-- A call that has returned has logged its panic message once, and no other. -/
theorem errorTexts_of_done {call : CaptureCall V} {es : List Event} {q : Prog (Returned V)}
    (h : (call.prog e urlError metadata).after es = some q) (hq : q.isDone) :
    es.flatMap (fun x => x.loggedLines.filterMap LogLine.errorText) = call.panicValue.toList := by
  have hev := (wrapperRun h).events
  rw [List.flatMap_congr fun x hx => Event.errorTexts_of (hev x hx), flatMap_ite_countP,
    (after_prog_done h hq).2.2.1, reported_eq_isSome]
  cases call.panicValue <;> simp

end CaptureCall

namespace World

variable {V : Type} [Inhabited V] {env : Env} {e : ErrorBoundary}
  {urlError : String → Option String} {metadata : StatsigMetadata} {calls : List (CaptureCall V)}
  {w : World (Returned V)}

theorem Reach.wrapperRun (hw : w.Reach env (calls.map (CaptureCall.prog e urlError metadata)))
    {i : Nat} (hi : i < calls.length) :
    ∃ q, w.threads[i]? = some q ∧
      ErrorBoundary.WrapperRun e urlError metadata calls[i].panicValue (w.history i) q.isDone :=
  let ⟨q, hq, h⟩ := hw.thread_after_map hi
  ⟨q, hq, CaptureCall.wrapperRun h⟩

theorem Reach.wrapperRun_of_quiescent
    (hw : w.Reach env (calls.map (CaptureCall.prog e urlError metadata))) (hquiet : w.Quiescent)
    {i : Nat} (hi : i < calls.length) :
    ErrorBoundary.WrapperRun e urlError metadata calls[i].panicValue (w.history i) True :=
  let ⟨q, hq, h⟩ := hw.wrapperRun hi
  h.mono fun _ => hquiet q (List.mem_iff_getElem?.2 ⟨i, hq⟩)

/-- Each message is reported at most once when each goroutine sends at most one
request, and reports only a message it found unseen. -/
theorem Reach.reports_le_one {α : Type} {threads : List (Prog α)} {w : World α}
    (hw : w.Reach env threads)
    (hrep : ∀ i < threads.length, ∀ r s, .send r ∈ w.history i → r.reports s →
      .checkSeen s false ∈ w.history i)
    (hone : ∀ i < threads.length, (w.history i).countP Event.isSend ≤ 1) (s : String) :
    w.shared.sent.countP (Request.reports s) ≤ 1 := by
  rw [hw.seen_sent_eq.2, events, List.countP_filterMap, List.countP_map]
  have hsend : ∀ x ∈ w.log, ((x.2.sentRequest).map (Request.reports s)).getD false →
      (x.1, Event.checkSeen s false) ∈ w.log ∧ x.2.isSend := by
    rintro ⟨j, ev⟩ hx hp
    cases ev <;> simp [Event.sentRequest] at hp
    exact ⟨mem_history.1 (hrep j (hw.log_lt _ hx) _ _ (mem_history.2 hx) hp), rfl⟩
  by_cases hex : ∃ i, (i, Event.checkSeen s false) ∈ w.log
  · obtain ⟨i, hi⟩ := hex
    calc w.log.countP _ ≤ w.log.countP fun x => x.1 = i ∧ x.2.isSend :=
          List.countP_mono_left fun x hx hp => by
            obtain ⟨hx', hsend'⟩ := hsend x hx hp
            simpa [hsend'] using hw.checkSeen_false_thread hx' hi
      _ = (w.history i).countP Event.isSend := (countP_history w i _).symm
      _ ≤ 1 := hone i (hw.log_lt _ hi)
  · refine le_of_eq_of_le (List.countP_eq_zero.2 fun x hx hp => ?_) (Nat.zero_le 1)
    exact hex ⟨_, (hsend x hx hp).1⟩

end World

/-- Under every interleaving of wrapper calls on one error boundary, each message is
reported at most once, however many tasks panic with it; and once every call has
returned, `LogError` has logged one line per call whose task panicked with a
non-`nil` value (the lines are not deduplicated), `seen` holds exactly the calls'
panic messages, and each is reported once if the collector's URL parses. -/
theorem capture_reports_once (env : Env) (e : ErrorBoundary) (urlError : String → Option String)
    (metadata : StatsigMetadata) {V : Type} [Inhabited V] (calls : List (CaptureCall V))
    (w : World (Returned V)) (hw : w.Reach env (calls.map (CaptureCall.prog e urlError metadata))) :
    (∀ s, w.shared.sent.countP (Request.reports s) ≤ 1) ∧
    (w.Quiescent →
      (w.shared.logged.filterMap LogLine.errorText).Perm (calls.filterMap CaptureCall.panicValue) ∧
      ∀ s, (s ∈ w.shared.seen ↔ ∃ call ∈ calls, call.panicValue = some s) ∧
        (urlError (e.api ++ e.endpoint) = none →
          w.shared.sent.countP (Request.reports s) = if s ∈ w.shared.seen then 1 else 0)) := by
  have hlt : ∀ x ∈ w.log, x.1 < calls.length := fun x hx => by simpa using hw.log_lt x hx
  have hle : ∀ s, w.shared.sent.countP (Request.reports s) ≤ 1 :=
    hw.reports_le_one
      (fun i hi r s hr hrep => (hw.wrapperRun (i := i) (by simpa using hi)).elim fun _ h =>
        h.2.checked_of_report hr hrep)
      fun i hi => (hw.wrapperRun (i := i) (by simpa using hi)).elim fun _ h => h.2.countP_send
  refine ⟨hle, fun hquiet => ⟨?_, fun s => ?_⟩⟩
  · -- the error lines of the run are those of the calls, merged
    have hblock : ∀ i (hi : i < calls.length),
        (w.history i).flatMap (fun x => x.loggedLines.filterMap LogLine.errorText) =
          calls[i].panicValue.toList := fun i hi => by
      obtain ⟨q, hq, h⟩ := hw.thread_after_map hi
      exact CaptureCall.errorTexts_of_done h (hquiet q (List.mem_iff_getElem?.2 ⟨i, hq⟩))
    rw [hw.logged_eq, List.filterMap_flatMap, List.filterMap_eq_flatMap_toList]
    refine (hw.events_perm.flatMap_right _).trans ?_
    rw [List.flatMap_assoc, List.length_map,
      World.flatMap_range_length (g := fun call => call.panicValue.toList) calls hblock]
  have hrun := fun i (hi : i < calls.length) => hw.wrapperRun_of_quiescent hquiet hi
  have hseen : s ∈ w.shared.seen ↔ ∃ call ∈ calls, call.panicValue = some s := by
    constructor
    · intro hs
      obtain ⟨i, hi⟩ := hw.mem_seen_iff.1 hs
      exact ⟨_, List.getElem_mem (hlt _ hi), (hrun i (hlt _ hi)).checkSeen_mem (World.mem_history.2 hi)⟩
    · rintro ⟨call, hcall, hv⟩
      obtain ⟨i, hil, rfl⟩ := List.mem_iff_getElem.1 hcall
      obtain ⟨b, hb⟩ := (hrun i hil).checked_of_done trivial hv
      exact hw.mem_seen_of_checkSeen (World.mem_history.1 hb)
  refine ⟨hseen, fun hurl => ?_⟩
  split_ifs with hs
  · -- the call that found the message unseen has reported it
    obtain ⟨i, hi⟩ := hw.mem_seen_iff.1 hs
    obtain ⟨r, hr, hrep⟩ := (hrun i (hlt _ hi)).reported_of_done trivial hurl (World.mem_history.2 hi)
    have := List.countP_pos_iff.2 ⟨r, hw.mem_sent_iff.2 ⟨i, World.mem_history.1 hr⟩, hrep⟩
    have := hle s
    omega
  · refine List.countP_eq_zero.2 fun r hr hrep => hs ?_
    obtain ⟨j, hj⟩ := hw.mem_sent_iff.1 hr
    obtain ⟨_, _, h⟩ := hw.wrapperRun (i := j) (hlt _ hj)
    exact hw.mem_seen_iff.2 ⟨j, World.mem_history.1 (h.checked_of_report (World.mem_history.2 hj) hrep)⟩

/-- A gate check and a `captureVoid` whose tasks both panic with `"boom"`. -/
def samePanicCalls : List (CaptureCall Unit) :=
  [.checkGate (.error (some "boom")), .void (.error (some "boom"))]

/-- The two calls, interleaved step by step. -/
def samePanicRun : World (Returned Unit) :=
  (World.start (samePanicCalls.map
    (CaptureCall.prog exampleBoundary (fun _ => none) exampleMetadata))).run stoppedClock
    [0, 1, 0, 1, 0, 1, 0, 1, 1, 0, 0, 0]

theorem capture_reports_once_same_panic :
    (∀ s, samePanicRun.shared.sent.countP (Request.reports s) ≤ 1) ∧
    (samePanicRun.Quiescent →
      (samePanicRun.shared.logged.filterMap LogLine.errorText).Perm
        (samePanicCalls.filterMap CaptureCall.panicValue) ∧
      ∀ s, (s ∈ samePanicRun.shared.seen ↔ ∃ call ∈ samePanicCalls, call.panicValue = some s) ∧
        ((fun _ => none : String → Option String) (exampleBoundary.api ++ exampleBoundary.endpoint) =
            none →
          samePanicRun.shared.sent.countP (Request.reports s) =
            if s ∈ samePanicRun.shared.seen then 1 else 0)) :=
  capture_reports_once stoppedClock exampleBoundary (fun _ => none) exampleMetadata samePanicCalls
    samePanicRun (World.Reach.start.run _)

/-- Both calls have returned; the message was reported once and logged twice. -/
example : samePanicRun.threads.all Prog.isDone = true ∧ samePanicRun.shared.sent.length = 1 ∧
    samePanicRun.shared.logged.filterMap LogLine.errorText = ["boom", "boom"] := by
  decide

/-- Under every interleaving of wrapper calls, every event touches only the `api`
timeline, those of `initialize` and `config_sync` stay empty, and the `api` timeline
holds every marker appended, in the order the appends took effect; once every call
has returned, it holds the calls' markers merged: all of them, each call's in its
own order. -/
theorem capture_timelines (env : Env) (e : ErrorBoundary) (urlError : String → Option String)
    (metadata : StatsigMetadata) {V : Type} [Inhabited V] (calls : List (CaptureCall V))
    (w : World (Returned V)) (hw : w.Reach env (calls.map (CaptureCall.prog e urlError metadata))) :
    (∀ x ∈ w.events, x.OnApi) ∧
    (∀ c, c ≠ .apiContext → (w.shared.markers c).getD [] = []) ∧
    (w.shared.markers .apiContext).getD [] = w.events.filterMap Event.appended ∧
    (w.Quiescent →
      (((w.shared.markers .apiContext).getD []).map Marker.unstamped).Perm
        (calls.flatMap CaptureCall.markers) ∧
      ∀ call ∈ calls,
        call.markers.Sublist (((w.shared.markers .apiContext).getD []).map Marker.unstamped)) := by
  have hon : ∀ x ∈ w.events, x.OnApi := fun x hx => by
    obtain ⟨⟨i, y⟩, hy, rfl⟩ := List.mem_map.1 hx
    obtain ⟨_, _, h⟩ := hw.wrapperRun (i := i) (by simpa using hw.log_lt _ hy)
    exact Event.onApi_of (h.events y (World.mem_history.2 hy))
  have htl := fun c => (hw.markers_eq c).trans (timelineSpec_of_onApi hon c)
  refine ⟨hon, fun c hc => by simpa [hc] using htl c, by simpa using htl .apiContext, fun hquiet => ?_⟩
  have hblock : ∀ i (hi : i < calls.length),
      ((w.history i).filterMap Event.appended).map Marker.unstamped = calls[i].markers := fun i hi => by
    obtain ⟨q, hq, h⟩ := hw.thread_after_map hi
    exact (CaptureCall.after_prog_done h (hquiet q (List.mem_iff_getElem?.2 ⟨i, hq⟩))).2.2.2
  rw [htl, if_pos rfl]
  refine ⟨?_, fun call hcall => ?_⟩
  · refine ((hw.events_perm.filterMap _).map _).trans ?_
    rw [List.filterMap_flatMap, List.map_flatMap, List.length_map, World.flatMap_range_length calls hblock]
  · obtain ⟨i, hil, rfl⟩ := List.mem_iff_getElem.1 hcall
    rw [← hblock i hil]
    exact ((World.history_sublist w i).filterMap _).map _

theorem capture_timelines_same_panic :
    (∀ x ∈ samePanicRun.events, x.OnApi) ∧
    (∀ c, c ≠ .apiContext → (samePanicRun.shared.markers c).getD [] = []) ∧
    (samePanicRun.shared.markers .apiContext).getD [] = samePanicRun.events.filterMap Event.appended ∧
    (samePanicRun.Quiescent →
      (((samePanicRun.shared.markers .apiContext).getD []).map Marker.unstamped).Perm
        (samePanicCalls.flatMap CaptureCall.markers) ∧
      ∀ call ∈ samePanicCalls,
        call.markers.Sublist (((samePanicRun.shared.markers .apiContext).getD []).map Marker.unstamped)) :=
  capture_timelines stoppedClock exampleBoundary (fun _ => none) exampleMetadata samePanicCalls
    samePanicRun (World.Reach.start.run _)

/-! ### Wrapper calls beside calls on the timelines -/

theorem Event.OnApi.not_clear {x : Event} (h : x.OnApi) {c : DiagnosticsContext}
    (hc : c ≠ .apiContext) : x ≠ .clear c ∧ appendedTo c [x] = [] := by
  cases x with
  | append m l => exact ⟨nofun, by simp [appendedTo, show m.diagnostics ≠ c from h ▸ hc.symm]⟩
  | clear c' => exact h.elim
  | _ => exact ⟨nofun, rfl⟩

/-- Dropping events of a log that touch only the `api` timeline leaves every other
timeline as it is. -/
theorem timelineSpec_filter {L : List (Nat × Event)} {keep : Nat × Event → Bool}
    (h : ∀ x ∈ L, keep x = false → x.2.OnApi) {c : DiagnosticsContext} (hc : c ≠ .apiContext) :
    timelineSpec c ((L.filter keep).map Prod.snd) = timelineSpec c (L.map Prod.snd) := by
  induction L using List.reverseRecOn with
  | nil => rfl
  | append_singleton L x ih =>
    have ih' := ih fun y hy => h y (List.mem_append_left _ hy)
    rw [List.filter_append, List.map_append, List.map_append, List.map_singleton, timelineSpec_concat]
    cases hk : keep x
    · obtain ⟨hx, hx'⟩ := (h x (List.mem_append_right _ (List.mem_singleton_self x)) hk).not_clear hc
      simp [hk, ih', hx, hx']
    · simp [hk, ih', timelineSpec_concat]

/-- A call on the timelines sends nothing. -/
theorem DiagCall.prog_emits (call : DiagCall) :
    call.prog.Emits (fun x => x.isSend = false) fun _ => True := by
  cases call with
  | mark b =>
    refine fun t => ⟨rfl, ?_⟩
    obtain ⟨l, k, hk, hdone⟩ := appendAndLog_eq { b with Timestamp := markTimestamp t }
    show ((appendAndLog _).bind fun _ => Prog.pure none).Emits _ _
    rw [hk]
    -- the append, and then the end of the call
    refine ⟨rfl, ?_⟩
    cases k <;> trivial
  | clearMarkers c => exact ⟨rfl, trivial⟩
  | serialize c => exact fun _ => ⟨rfl, trivial⟩

/-- A goroutine of the SDK on one error boundary and its diagnostics: a wrapper call,
or a call on the timelines. -/
inductive SdkCall (V : Type) where
  | capture (call : CaptureCall V)
  | diagnostics (call : DiagCall)

namespace SdkCall

variable {V : Type}

def isCapture : SdkCall V → Bool
  | .capture _ => true
  | .diagnostics _ => false

variable [Inhabited V]

/-- The goroutine of a call, returning what the wrapper or the timeline call returns. -/
def prog (e : ErrorBoundary) (urlError : String → Option String) (metadata : StatsigMetadata) :
    SdkCall V → Prog (Returned V ⊕ Option Serialized)
  | .capture call => (call.prog e urlError metadata).bind fun r => .pure (.inl r)
  | .diagnostics call => call.prog.bind fun r => .pure (.inr r)

variable {e : ErrorBoundary} {urlError : String → Option String} {metadata : StatsigMetadata}

/-- What a call has done so far: a wrapper call has run as a wrapper; a call on the
timelines has sent nothing; only a `clearMarkers` clears, and one that has returned
has cleared. -/
theorem after_prog {call : SdkCall V} {es : List Event} {q : Prog (Returned V ⊕ Option Serialized)}
    (h : (call.prog e urlError metadata).after es = some q) :
    (∀ c, call = .capture c → ∃ D, ErrorBoundary.WrapperRun e urlError metadata c.panicValue es D) ∧
    (call.isCapture = false → ∀ x ∈ es, x.isSend = false) ∧
    (∀ c, .clear c ∈ es → call = .diagnostics (.clearMarkers c)) ∧
    (q.isDone → ∀ c, call = .diagnostics (.clearMarkers c) → .clear c ∈ es) := by
  cases call with
  | capture c =>
    rw [prog, Prog.after_bind_pure] at h
    obtain ⟨q', hq', -⟩ := Option.map_eq_some'.1 h
    have hD := CaptureCall.wrapperRun hq'
    exact ⟨fun c' hc => by cases hc; exact ⟨_, hD⟩, nofun,
      fun c' hc => (Event.onApi_of (hD.events _ hc)).elim, fun _ _ => nofun⟩
  | diagnostics c =>
    rw [prog, Prog.after_bind_pure] at h
    obtain ⟨q', hq', rfl⟩ := Option.map_eq_some'.1 h
    have hd := DiagCall.after_prog hq'
    refine ⟨nofun, fun _ => ((DiagCall.prog_emits c).after hq').1,
      fun c' hc => by rw [(hd.2.2.2.2.1 c' hc).1], fun hq c' hc => ?_⟩
    exact (hd.2.2.2.2.2 (Prog.isDone_of_bind hq)).2 c' (SdkCall.diagnostics.inj hc)

end SdkCall

/-- Under every interleaving of wrapper calls and calls on the timelines sharing one
error boundary and its diagnostics, the timelines of `initialize` and `config_sync`
are what the calls on the timelines alone made of them: the wrappers' events leave
them as they are, each clear is a step of a `clearMarkers` call, and a returned
`clearMarkers` has cleared; and each message is still reported at most once. -/
theorem sdk_timelines_separate (env : Env) (e : ErrorBoundary) (urlError : String → Option String)
    (metadata : StatsigMetadata) {V : Type} [Inhabited V] (calls : List (SdkCall V))
    (w : World (Returned V ⊕ Option Serialized))
    (hw : w.Reach env (calls.map (SdkCall.prog e urlError metadata))) :
    (∀ c, c ≠ .apiContext → (w.shared.markers c).getD [] =
      timelineSpec c ((w.log.filter fun x => !(calls[x.1]?.any SdkCall.isCapture)).map Prod.snd)) ∧
    (∀ i c, (i, Event.clear c) ∈ w.log → calls[i]? = some (.diagnostics (.clearMarkers c))) ∧
    (∀ i c q, calls[i]? = some (.diagnostics (.clearMarkers c)) → w.threads[i]? = some q → q.isDone →
      (i, Event.clear c) ∈ w.log) ∧
    (∀ s, w.shared.sent.countP (Request.reports s) ≤ 1) := by
  have hrun : ∀ i (hi : i < calls.length),
      (∀ c, calls[i] = .capture c →
        ∃ D, ErrorBoundary.WrapperRun e urlError metadata c.panicValue (w.history i) D) ∧
      (calls[i].isCapture = false → ∀ x ∈ w.history i, x.isSend = false) := fun i hi =>
    let ⟨_, _, h⟩ := hw.thread_after_map hi
    ⟨(SdkCall.after_prog h).1, (SdkCall.after_prog h).2.1⟩
  have hdisc : ∀ i (hi : i < calls.length),
      (∀ r s, .send r ∈ w.history i → r.reports s → .checkSeen s false ∈ w.history i) ∧
        (w.history i).countP Event.isSend ≤ 1 := fun i hi => by
    cases hc : calls[i] with
    | capture c =>
      obtain ⟨D, hD⟩ := (hrun i hi).1 c hc
      exact ⟨fun r s hr hrep => hD.checked_of_report hr hrep, hD.countP_send⟩
    | diagnostics c =>
      have hnone := (hrun i hi).2 (by simp [hc, SdkCall.isCapture])
      refine ⟨fun r s hr _ => (nomatch hnone _ hr), ?_⟩
      rw [List.countP_eq_zero.2 fun x hx => by simp [hnone x hx]]
      exact Nat.zero_le 1
  refine ⟨fun c hc => (hw.markers_eq c).trans (timelineSpec_filter (fun x hx hk => ?_) hc).symm,
    fun i c hm => ?_, fun i c q hc hq hd => ?_,
    hw.reports_le_one (fun i hi => (hdisc i (by simpa using hi)).1)
      fun i hi => (hdisc i (by simpa using hi)).2⟩
  · -- an event of a wrapper call touches only the `api` timeline
    cases hx' : calls[x.1]? with
    | none => simp [hx'] at hk
    | some call =>
      obtain ⟨hi, rfl⟩ := List.getElem?_eq_some_iff.1 hx'
      cases hc' : calls[x.1] with
      | capture c =>
        obtain ⟨D, hD⟩ := (hrun _ hi).1 c hc'
        exact Event.onApi_of (hD.events x.2 (World.mem_history.2 hx))
      | diagnostics c => simp [hx', hc', SdkCall.isCapture] at hk
  · -- a clear is a step of a `clearMarkers`
    have hi : i < calls.length := by simpa using hw.log_lt _ hm
    obtain ⟨_, -, h⟩ := hw.thread_after_map hi
    rw [List.getElem?_eq_getElem hi, (SdkCall.after_prog h).2.2.1 c (World.mem_history.2 hm)]
  · -- a returned `clearMarkers` has cleared
    obtain ⟨q', hq', h⟩ := hw.thread_after (i := i)
      (p := SdkCall.prog e urlError metadata (.diagnostics (.clearMarkers c))) (by simp [hc])
    obtain rfl : q = q' := Option.some.inj (hq.symm.trans hq')
    exact World.mem_history.1 ((SdkCall.after_prog h).2.2.2 hd c rfl)

/-- A gate check whose task panics, beside a `mark` of the start of `initialize` and a
`serialize` of that timeline. -/
def sdkCalls : List (SdkCall Unit) :=
  [.capture (.checkGate (.error (some "boom"))), .diagnostics (.mark initializeMarker.overall.start),
    .diagnostics (.serialize .initializeContext)]

/-- The three calls, interleaved step by step. -/
def sdkRun : World (Returned Unit ⊕ Option Serialized) :=
  (World.start (sdkCalls.map (SdkCall.prog exampleBoundary (fun _ => none) exampleMetadata))).run
    stoppedClock [0, 1, 0, 1, 2, 0, 0, 0, 0, 0, 0, 0]

theorem sdk_timelines_separate_interleaved :
    (∀ c, c ≠ .apiContext → (sdkRun.shared.markers c).getD [] =
      timelineSpec c ((sdkRun.log.filter fun x => !(sdkCalls[x.1]?.any SdkCall.isCapture)).map
        Prod.snd)) ∧
    (∀ i c, (i, Event.clear c) ∈ sdkRun.log → sdkCalls[i]? = some (.diagnostics (.clearMarkers c))) ∧
    (∀ i c q, sdkCalls[i]? = some (.diagnostics (.clearMarkers c)) → sdkRun.threads[i]? = some q →
      q.isDone → (i, Event.clear c) ∈ sdkRun.log) ∧
    (∀ s, sdkRun.shared.sent.countP (Request.reports s) ≤ 1) :=
  sdk_timelines_separate stoppedClock exampleBoundary (fun _ => none) exampleMetadata sdkCalls sdkRun
    (World.Reach.start.run _)

/-- The `initialize` timeline holds the one marker of the `mark` call, and the `api`
timeline the gate check's start and failed end. -/
example : ((sdkRun.shared.markers .initializeContext).getD []).map Marker.unstamped =
      [initializeMarker.overall.start] ∧
    ((sdkRun.shared.markers .apiContext).getD []).map Marker.unstamped =
      [(apiMarker.withKey .checkGateKey).start, (apiMarker.withKey .checkGateKey).«end».success false] := by
  decide

end StatsigSdk
