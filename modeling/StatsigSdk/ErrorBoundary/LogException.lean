import StatsigSdk.Runtime.World

/-! The exception reporter of `error_boundary.go`. `logException` renders the
exception (`"Unknown"` for `nil`), asks `checkSeen` under `seenLock` whether the
message was reported before, and if not takes a stack snapshot, builds the
`POST` to the collector `e.api + e.endpoint` with the message and the snapshot,
sets its headers and hands it to `client.Do`. Proved: under every interleaving
of any number of `logException` calls on one error boundary, at most one report
of each message is ever sent, `seen` only grows, the call that found a message
unseen has sent its report once it has returned (given that the collector URL
parses), and when every call has returned `seen` is the set of messages and each
has been reported once; every report is the last step of the call that found its
message unseen, and carries that call's stack snapshot and clock reading. A call
that finds its message seen returns at once, so a report is not yet sent when a
second call with the same message has already returned. -/

namespace StatsigSdk

def ErrorBoundaryAPI : String := "https://statsigapi.net/v1"

def ErrorBoundaryEndpoint : String := "/sdk_exception"

/-- `errorBoundary`, with the fields the modelled code reads; `seen`, `client` and
`diagnostics` are the world's. -/
structure ErrorBoundary where
  api : String
  endpoint : String
  sdkKey : String
  deriving DecidableEq, Repr

def newErrorBoundary (sdkKey : String) (options : Options) : ErrorBoundary :=
  let errorBoundary : ErrorBoundary := ⟨ErrorBoundaryAPI, ErrorBoundaryEndpoint, sdkKey⟩
  if options.API ≠ "" then { errorBoundary with api := options.API } else errorBoundary

/-- Modelled from the spec, as `getUnixMilli` is not in the sources: the clock in
milliseconds. -/
def getUnixMilli (t : Int) : Int := t / 1000000

/-- Whether a request is a `logExceptionRequestBody` report of the message `s`. -/
def Request.reports (s : String) (r : Request) : Bool :=
  match r.body with
  | .exceptionReport exception _ => exception = s
  | _ => false

def Event.isSend : Event → Bool
  | .send _ => true
  | _ => false

namespace ErrorBoundary

def checkSeen (exceptionString : String) : Prog Bool := .checkSeen exceptionString .pure

/-- `e.logException(exception)`, with `getStatsigMetadata()` as `metadata`. The
marshalling of the two strings of the body cannot fail. -/
def logException (e : ErrorBoundary) (urlError : String → Option String)
    (metadata : StatsigMetadata) (exception : Option String) : Prog Unit := do
  let exceptionString := exception.getD "Unknown"
  if ← checkSeen exceptionString then
    return
  else
    let stack ← runtimeStack
    match newRequest urlError "POST" (e.api ++ e.endpoint) (.exceptionReport exceptionString stack) with
    | .error _ => return
    | .ok req =>
      let t ← getNow
      let req := ((((req.addHeader "Content-Type" "application/json").addHeader "STATSIG-API-KEY"
        e.sdkKey).addHeader "STATSIG-CLIENT-TIME" (formatInt (getUnixMilli t))).addHeader
        "STATSIG-SDK-TYPE" metadata.SDKType).addHeader "STATSIG-SDK-VERSION" metadata.SDKVersion
      sendRequest req

variable {e : ErrorBoundary} {urlError : String → Option String} {metadata : StatsigMetadata}

/-- What a call has done so far: it checks only its own message, sends at most once and
last, and once returned has checked its message and reported it if it was unseen. -/
theorem after_logException {exception : Option String} {es : List Event} {q : Prog Unit}
    (h : (e.logException urlError metadata exception).after es = some q) :
    (∀ s b, .checkSeen s b ∈ es → s = exception.getD "Unknown") ∧
    (∀ r, .send r ∈ es → ∃ stack t,
      es = [.checkSeen (exception.getD "Unknown") false, .stack stack, .now t, .send r] ∧
      r = ⟨"POST", e.api ++ e.endpoint,
        [("Content-Type", "application/json"), ("STATSIG-API-KEY", e.sdkKey),
          ("STATSIG-CLIENT-TIME", formatInt (getUnixMilli t)),
          ("STATSIG-SDK-TYPE", metadata.SDKType), ("STATSIG-SDK-VERSION", metadata.SDKVersion)],
        .exceptionReport (exception.getD "Unknown") stack⟩) ∧
    es.countP Event.isSend ≤ 1 ∧
    (q.isDone → q = .pure () ∧ es.countP Event.isCheckSeen = 1 ∧
      es.countP Event.isLogError = 0 ∧ es.filterMap Event.appended = [] ∧
      (∃ b, .checkSeen (exception.getD "Unknown") b ∈ es) ∧
      (urlError (e.api ++ e.endpoint) = none → .checkSeen (exception.getD "Unknown") false ∈ es →
        ∃ r, .send r ∈ es)) := by
  simp only [logException, checkSeen, runtimeStack, getNow, sendRequest, Prog.bind_eq,
    Prog.pure_eq, Prog.bind, Prog.after_checkSeen_eq_some] at h
  rcases h with ⟨rfl, rfl⟩ | ⟨seen, es, rfl, h⟩
  · simp [Prog.isDone]
  cases seen
  case true =>
    obtain ⟨rfl, rfl⟩ := Prog.after_pure_eq_some.1 h
    simp [Prog.isDone, Event.isSend, Event.isCheckSeen, Event.isLogError, Event.appended]
  -- found unseen: the stack snapshot
  rw [if_neg Bool.false_ne_true, Prog.after_stack_eq_some] at h
  rcases h with ⟨rfl, rfl⟩ | ⟨stack, es, rfl, h⟩
  · simp [Prog.isDone, Event.isSend]
  split at h
  case h_1 err hreq =>
    -- the URL does not parse
    obtain ⟨rfl, rfl⟩ := Prog.after_pure_eq_some.1 h
    simp [Prog.isDone, Event.isSend, Event.isCheckSeen, Event.isLogError, Event.appended,
      newRequest_eq_error hreq]
  case h_2 req hreq =>
    -- the clock, then the request handed to `client.Do`
    rw [Prog.after_now_eq_some] at h
    rcases h with ⟨rfl, rfl⟩ | ⟨t, es, rfl, h⟩
    · simp [Prog.isDone, Event.isSend]
    rw [Prog.after_send_eq_some] at h
    rcases h with ⟨rfl, rfl⟩ | ⟨es, rfl, h⟩
    · simp [Prog.isDone, Event.isSend]
    obtain ⟨rfl, rfl⟩ := Prog.after_pure_eq_some.1 h
    obtain ⟨-, rfl⟩ := newRequest_eq_ok hreq
    simp [Prog.isDone, Event.isSend, Event.isCheckSeen, Event.isLogError, Event.appended,
      Request.addHeader]
    exact ⟨stack, t, ⟨rfl, rfl⟩, rfl, rfl⟩

/-! ### Concurrent calls -/

section Reports

variable {env : Env} {exceptions : List (Option String)} {w : World Unit}

theorem checkSeen_of_report (hw : w.Reach env (exceptions.map (e.logException urlError metadata)))
    {j : Nat} {r : Request} {s : String} (hx : (j, Event.send r) ∈ w.log) (hr : r.reports s) :
    (j, Event.checkSeen s false) ∈ w.log := by
  have hj : j < exceptions.length := by simpa using hw.log_lt _ hx
  obtain ⟨q, -, hq⟩ := hw.thread_after_map hj
  obtain ⟨stack, t, hes, rfl⟩ := (after_logException hq).2.1 r (World.mem_history.2 hx)
  have hs : exceptions[j].getD "Unknown" = s := by simpa [Request.reports] using hr
  exact World.mem_history.1 (by simp [hes, ← hs])

theorem reports_le_one (hw : w.Reach env (exceptions.map (e.logException urlError metadata)))
    (s : String) : w.shared.sent.countP (Request.reports s) ≤ 1 := by
  rw [hw.seen_sent_eq.2, World.events, List.countP_filterMap, List.countP_map]
  have hsend : ∀ x ∈ w.log, ((x.2.sentRequest).map (Request.reports s)).getD false →
      (x.1, Event.checkSeen s false) ∈ w.log ∧ x.2.isSend := by
    rintro ⟨j, ev⟩ hx hp
    cases ev <;> simp [Event.sentRequest] at hp
    exact ⟨checkSeen_of_report hw hx hp, rfl⟩
  by_cases hex : ∃ i, (i, Event.checkSeen s false) ∈ w.log
  · obtain ⟨i, hi⟩ := hex
    have hil : i < exceptions.length := by simpa using hw.log_lt _ hi
    obtain ⟨q, -, hq⟩ := hw.thread_after_map hil
    calc w.log.countP _ ≤ w.log.countP fun x => x.1 = i ∧ x.2.isSend :=
          List.countP_mono_left fun x hx hp => by
            obtain ⟨hx', hsend'⟩ := hsend x hx hp
            simpa [hsend'] using hw.checkSeen_false_thread hx' hi
      _ = (w.history i).countP Event.isSend := (World.countP_history w i _).symm
      _ ≤ 1 := (after_logException hq).2.2.1
  · refine le_of_eq_of_le (List.countP_eq_zero.2 fun x hx hp => ?_) (Nat.zero_le 1)
    exact hex ⟨_, (hsend x hx hp).1⟩

/-- Once the goroutine that found `s` unseen has returned, `s` has been reported. -/
theorem reports_eq_one (hw : w.Reach env (exceptions.map (e.logException urlError metadata)))
    (hurl : urlError (e.api ++ e.endpoint) = none) {i : Nat} {s : String} {q : Prog Unit}
    (hi : (i, Event.checkSeen s false) ∈ w.log) (hq : w.threads[i]? = some q) (hdone : q.isDone) :
    w.shared.sent.countP (Request.reports s) = 1 := by
  have hil : i < exceptions.length := by simpa using hw.log_lt _ hi
  obtain ⟨q', hq', hafter⟩ := hw.thread_after_map hil
  obtain rfl : q = q' := Option.some.inj (hq.symm.trans hq')
  have hfacts := after_logException hafter
  have hs := hfacts.1 s false (World.mem_history.2 hi)
  subst hs
  obtain ⟨r, hr⟩ := (hfacts.2.2.2 hdone).2.2.2.2.2 hurl (World.mem_history.2 hi)
  have hsent : r ∈ w.shared.sent := by
    rw [hw.seen_sent_eq.2]
    exact List.mem_filterMap.2 ⟨_, List.mem_map_of_mem _ (World.mem_history.1 hr), rfl⟩
  have hrep : r.reports (exceptions[i].getD "Unknown") := by
    obtain ⟨-, -, -, rfl⟩ := hfacts.2.1 r hr
    simp [Request.reports]
  have := List.countP_pos_iff.2 ⟨r, hsent, hrep⟩
  have := reports_le_one hw (exceptions[i].getD "Unknown")
  omega

end Reports

end ErrorBoundary

/-- Under every interleaving of `logException` calls, each message is reported at most
once, and exactly once when the call that found it unseen has returned. -/
theorem logException_reports_once (env : Env) (e : ErrorBoundary)
    (urlError : String → Option String) (metadata : StatsigMetadata)
    (exceptions : List (Option String)) (w : World Unit)
    (hurl : urlError (e.api ++ e.endpoint) = none)
    (hw : w.Reach env (exceptions.map (e.logException urlError metadata))) :
    (∀ s, w.shared.sent.countP (Request.reports s) ≤ 1) ∧
    (∀ sched, w.shared.seen <+: (w.run env sched).shared.seen) ∧
    (∀ i s q, (i, Event.checkSeen s false) ∈ w.log → w.threads[i]? = some q → q.isDone →
      w.shared.sent.countP (Request.reports s) = 1) ∧
    (w.Quiescent → ∀ s, (s ∈ w.shared.seen ↔ ∃ x ∈ exceptions, x.getD "Unknown" = s) ∧
      w.shared.sent.countP (Request.reports s) = if s ∈ w.shared.seen then 1 else 0) := by
  refine ⟨ErrorBoundary.reports_le_one hw, World.seen_prefix_run env w,
    fun i s q hi hq hdone => ErrorBoundary.reports_eq_one hw hurl hi hq hdone, fun hquiet s => ?_⟩
  have hmsg : ∀ i, (i, Event.checkSeen s false) ∈ w.log →
      ∃ (hi : i < exceptions.length), exceptions[i].getD "Unknown" = s := fun i hi => by
    have hil : i < exceptions.length := by simpa using hw.log_lt _ hi
    obtain ⟨q, -, hq⟩ := hw.thread_after_map hil
    exact ⟨hil, ((ErrorBoundary.after_logException hq).1 s false (World.mem_history.2 hi)).symm⟩
  have hcount : s ∈ w.shared.seen → w.shared.sent.countP (Request.reports s) = 1 := fun hs => by
    obtain ⟨i, hi⟩ := hw.mem_seen_iff.1 hs
    obtain ⟨q, hq, -⟩ := hw.thread_after_map (hmsg i hi).1
    exact ErrorBoundary.reports_eq_one hw hurl hi hq (hquiet q (List.mem_iff_getElem?.2 ⟨i, hq⟩))
  refine ⟨⟨fun hs => ?_, fun ⟨x, hx, hxs⟩ => ?_⟩, ?_⟩
  · -- a message in `seen` was found unseen by its own call
    obtain ⟨i, hi⟩ := hw.mem_seen_iff.1 hs
    obtain ⟨hil, rfl⟩ := hmsg i hi
    exact ⟨_, List.getElem_mem hil, rfl⟩
  · -- every call has returned, so it has checked its message
    obtain ⟨i, hil, rfl⟩ := List.mem_iff_getElem.1 hx
    obtain ⟨q, hq, hafter⟩ := hw.thread_after_map hil
    obtain ⟨b, hb⟩ := ((ErrorBoundary.after_logException hafter).2.2.2
      (hquiet q (List.mem_iff_getElem?.2 ⟨i, hq⟩))).2.2.2.2.1
    exact hxs ▸ hw.mem_seen_of_checkSeen (World.mem_history.1 hb)
  · split_ifs with hs
    · exact hcount hs
    · refine List.countP_eq_zero.2 fun r hr hrep => hs ?_
      obtain ⟨j, hj⟩ := hw.mem_sent_iff.1 hr
      exact hw.mem_seen_iff.2 ⟨j, ErrorBoundary.checkSeen_of_report hw hj hrep⟩

/-- The error boundary of a host that leaves `API` empty. -/
def exampleBoundary : ErrorBoundary := newErrorBoundary "secret-key" ⟨"", false⟩

def exampleMetadata : StatsigMetadata := ⟨"go-sdk", "1.0.0"⟩

def stoppedClock : Env := ⟨fun _ => 0, fun _ => "goroutine 1 [running]"⟩

/-- Two calls with one message: the first finds it unseen, the second then returns. -/
def duplicateReportRun : World Unit :=
  (World.start ([some "boom", some "boom"].map
    (exampleBoundary.logException (fun _ => none) exampleMetadata))).run stoppedClock [0, 1]

/-- On that run the second call has returned and nothing is reported yet. -/
theorem logException_duplicate_returns_unreported :
    duplicateReportRun.threads[1]?.map Prog.isDone = some true ∧
      duplicateReportRun.shared.sent.countP (Request.reports "boom") = 0 := by
  decide

def duplicateSettledRun : World Unit :=
  (World.start ([some "boom", some "boom"].map
    (exampleBoundary.logException (fun _ => none) exampleMetadata))).run stoppedClock [0, 1, 0, 0, 0]

theorem logException_reports_once_settled :
    (∀ s, duplicateSettledRun.shared.sent.countP (Request.reports s) ≤ 1) ∧
    (∀ sched, duplicateSettledRun.shared.seen <+:
      (duplicateSettledRun.run stoppedClock sched).shared.seen) ∧
    (∀ i s q, (i, Event.checkSeen s false) ∈ duplicateSettledRun.log →
      duplicateSettledRun.threads[i]? = some q → q.isDone →
      duplicateSettledRun.shared.sent.countP (Request.reports s) = 1) ∧
    (∀ s, (s ∈ duplicateSettledRun.shared.seen ↔
      ∃ x ∈ [some "boom", some "boom"], x.getD "Unknown" = s) ∧
      duplicateSettledRun.shared.sent.countP (Request.reports s) =
        if s ∈ duplicateSettledRun.shared.seen then 1 else 0) :=
  let h := logException_reports_once stoppedClock exampleBoundary (fun _ => none) exampleMetadata
    [some "boom", some "boom"] duplicateSettledRun rfl (World.Reach.start.run _)
  ⟨h.1, h.2.1, h.2.2.1, h.2.2.2 (List.all_eq_true.1 (by decide))⟩

/-- On the settled run `boom` has been reported once. -/
example : duplicateSettledRun.shared.sent.countP (Request.reports "boom") = 1 := by
  decide

/-- Under every interleaving of `logException` calls, every request sent is one call's
last step, the report of its message with the stack and clock it read before. -/
theorem logException_report_request (env : Env) (e : ErrorBoundary)
    (urlError : String → Option String) (metadata : StatsigMetadata)
    (exceptions : List (Option String)) (w : World Unit)
    (hw : w.Reach env (exceptions.map (e.logException urlError metadata)))
    (r : Request) (hr : r ∈ w.shared.sent) :
    ∃ j x n n', exceptions[j]? = some x ∧
      w.history j = [.checkSeen (x.getD "Unknown") false, .stack (env.stack n'),
        .now (env.now n), .send r] ∧
      w.log[n']? = some (j, .stack (env.stack n')) ∧ w.log[n]? = some (j, .now (env.now n)) ∧
      r = ⟨"POST", e.api ++ e.endpoint,
        [("Content-Type", "application/json"), ("STATSIG-API-KEY", e.sdkKey),
          ("STATSIG-CLIENT-TIME", formatInt (getUnixMilli (env.now n))),
          ("STATSIG-SDK-TYPE", metadata.SDKType), ("STATSIG-SDK-VERSION", metadata.SDKVersion)],
        .exceptionReport (x.getD "Unknown") (env.stack n')⟩ := by
  obtain ⟨j, hj⟩ := hw.mem_sent_iff.1 hr
  have hjl : j < exceptions.length := by simpa using hw.log_lt _ hj
  obtain ⟨q, -, hq⟩ := hw.thread_after_map hjl
  obtain ⟨stack, t, hes, rfl⟩ :=
    (ErrorBoundary.after_logException hq).2.1 r (World.mem_history.2 hj)
  have hstack : Event.stack stack ∈ w.history j := by simp [hes]
  have hnow : Event.now t ∈ w.history j := by simp [hes]
  obtain ⟨n', hn'⟩ := List.mem_iff_getElem?.1 (World.mem_history.1 hstack)
  obtain ⟨n, hn⟩ := List.mem_iff_getElem?.1 (World.mem_history.1 hnow)
  obtain rfl := hw.stack_eq hn'
  obtain rfl := hw.now_eq hn
  exact ⟨j, exceptions[j], n, n', List.getElem?_eq_getElem hjl, hes, hn', hn, rfl⟩

def reportRun : World Unit :=
  (World.start ([some "boom"].map
    (exampleBoundary.logException (fun _ => none) exampleMetadata))).run stoppedClock [0, 0, 0, 0]

theorem logException_report_request_boom :
    ∃ j x n n', [some "boom"][j]? = some x ∧
      reportRun.history j = [.checkSeen (x.getD "Unknown") false, .stack (stoppedClock.stack n'),
        .now (stoppedClock.now n), .send ⟨"POST", "https://statsigapi.net/v1/sdk_exception",
          [("Content-Type", "application/json"), ("STATSIG-API-KEY", "secret-key"),
            ("STATSIG-CLIENT-TIME", "0"), ("STATSIG-SDK-TYPE", "go-sdk"),
            ("STATSIG-SDK-VERSION", "1.0.0")], .exceptionReport "boom" "goroutine 1 [running]"⟩] ∧
      reportRun.log[n']? = some (j, .stack (stoppedClock.stack n')) ∧
      reportRun.log[n]? = some (j, .now (stoppedClock.now n)) ∧
      (⟨"POST", "https://statsigapi.net/v1/sdk_exception",
          [("Content-Type", "application/json"), ("STATSIG-API-KEY", "secret-key"),
            ("STATSIG-CLIENT-TIME", "0"), ("STATSIG-SDK-TYPE", "go-sdk"),
            ("STATSIG-SDK-VERSION", "1.0.0")], .exceptionReport "boom" "goroutine 1 [running]"⟩ :
          Request) =
        ⟨"POST", exampleBoundary.api ++ exampleBoundary.endpoint,
          [("Content-Type", "application/json"), ("STATSIG-API-KEY", exampleBoundary.sdkKey),
            ("STATSIG-CLIENT-TIME", formatInt (getUnixMilli (stoppedClock.now n))),
            ("STATSIG-SDK-TYPE", exampleMetadata.SDKType),
            ("STATSIG-SDK-VERSION", exampleMetadata.SDKVersion)],
          .exceptionReport (x.getD "Unknown") (stoppedClock.stack n')⟩ :=
  logException_report_request stoppedClock exampleBoundary (fun _ => none) exampleMetadata
    [some "boom"] reportRun (World.Reach.start.run _) _ (by decide)

end StatsigSdk
