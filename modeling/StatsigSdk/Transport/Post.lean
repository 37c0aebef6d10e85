import StatsigSdk.Go
import StatsigSdk.Transport.Retry

/-! The transport of `transport.go`: its construction, `doRequest`, the closure
that `postRequestInternal` hands to `retry`, and `get`. One call runs against a
`Network`: the verdict of `url.Parse`, the client time of each attempt and what
`client.Do` answers to each attempt. A run returns the pair the Go function
returns and the list of attempts (with the request each handed to `client.Do`)
and sleeps. Proved: with `LocalMode` off and a payload that marshals, the number
of attempts is `1 + min r k` for `k` the leading outcomes the code retries (an
error that came with a response, or a status of the whitelist), so an error
without a response is not retried; each attempt hands `client.Do` the same signed
`POST` of the payload, with that attempt's client time; the error is `nil`
exactly when the last attempt got a 2xx response whose body decodes, so an empty
2xx body is an error; and with a budget of eleven the eleventh backoff from one
second wraps. -/

namespace StatsigSdk

structure Transport where
  api : String
  sdkKey : String
  metadata : StatsigMetadata
  options : Options
  sessionID : String
  deriving Repr

def trimSuffix (s suffix : String) : String :=
  if s.endsWith suffix then s.dropRight suffix.length else s

/-- Modelled from the spec, as `defaultString` is not in the sources: an empty option
takes the default. -/
def defaultString (s d : String) : String :=
  if s = "" then d else s

/-- `newTransport(secret, options)`, with `DefaultEndpoint`, `getStatsigMetadata()` and
`getSessionID()`, all outside the sources, as arguments. -/
def newTransport (DefaultEndpoint secret : String) (options : Options)
    (metadata : StatsigMetadata) (sessionID : String) : Transport where
  api := trimSuffix (defaultString options.API DefaultEndpoint) "/"
  metadata := metadata
  sdkKey := secret
  options := options
  sessionID := sessionID

/-- The outside world of one transport call. -/
structure Network where
  /-- `url.Parse`'s error on a URL, if it rejects it. -/
  urlError : String → Option String
  /-- `getUnixMilli()` when the `i`-th attempt builds its request. -/
  clientTime : Nat → Int
  /-- What `client.Do` returns to the `i`-th attempt. -/
  reply : Nat → DoOutcome

structure Payload where
  marshal : Except String String

/-- What a transport call does: an attempt with the request handed to `client.Do`
(`none` when `http.NewRequest` failed), or a sleep. -/
inductive Effect where
  | doRequest (sent : Option Request)
  | sleep (d : Duration)
  deriving DecidableEq, Repr

def Effect.isAttempt : Effect → Bool
  | .doRequest _ => true
  | .sleep _ => false

def Effect.slept : Effect → Option Duration
  | .sleep d => some d
  | .doRequest _ => none

def Effect.sent : Effect → Option Request
  | .doRequest sent => sent
  | .sleep _ => none

def attempts (effects : List Effect) : Nat := effects.countP Effect.isAttempt

namespace Transport

variable (t : Transport)

/-- `doRequest(endpoint, body)` on the `i`-th attempt: the request handed to
`client.Do` and what `client.Do` returned. -/
def doRequest (endpoint body : String) (net : Network) (i : Nat) : Option Request × DoOutcome :=
  match newRequest net.urlError "POST" (t.api ++ endpoint) (.json body) with
  | .error err => (none, .error none err)
  | .ok req =>
    let req := ((((((req.addHeader "STATSIG-API-KEY" t.sdkKey).addHeader "Content-Type"
      "application/json").addHeader "STATSIG-CLIENT-TIME" (formatInt (net.clientTime i))).addHeader
      "STATSIG-SERVER-SESSION-ID" t.sessionID).addHeader "STATSIG-SDK-TYPE"
      t.metadata.SDKType).addHeader "STATSIG-SDK-VERSION" t.metadata.SDKVersion)
    (some req, net.reply i)

end Transport

def shouldRetry (code : Int) : Bool :=
  code ∈ [408, 500, 502, 503, 504, 522, 524, 599]

/-- The closure `postRequestInternal` passes to `retry`, on its `i`-th call. -/
def attemptOf : DoOutcome → Attempt (Option Response) (Option String)
  | .error response err => ⟨response, response.isSome, some err⟩
  | .ok response =>
    if 200 ≤ response.statusCode ∧ response.statusCode < 300 then
      ⟨some response, false, response.body.decode⟩
    else
      ⟨some response, shouldRetry response.statusCode,
        some ("http response error code: " ++ formatInt response.statusCode)⟩

namespace Transport

variable (t : Transport)

def effectOf (endpoint body : String) (net : Network) : RetryStep → Effect
  | .invoke i => .doRequest (t.doRequest endpoint body net i).1
  | .sleep d => .sleep d

def postRequestInternal (endpoint : String) (input : Payload) (retries : Int)
    (backoff : Duration) (net : Network) : (Option Response × Option String) × List Effect :=
  if t.options.LocalMode then ((none, none), [])
  else
    match input.marshal with
    | .error err => ((none, some err), [])
    | .ok body =>
      let run := retry retries backoff fun i => attemptOf (t.doRequest endpoint body net i).2
      (run.1, run.2.map (t.effectOf endpoint body net))

def postRequest (endpoint : String) (input : Payload) (net : Network) :
    (Option Response × Option String) × List Effect :=
  t.postRequestInternal endpoint input 0 0 net

def retryablePostRequest (endpoint : String) (input : Payload) (retries : Int) (net : Network) :
    (Option Response × Option String) × List Effect :=
  t.postRequestInternal endpoint input retries second net

/-- `get(url, headers)`: one `GET` with the caller's headers, no retry. -/
def get (url : String) (headers : List (String × String)) (net : Network) :
    (Option Response × Option String) × List Effect :=
  match newRequest net.urlError "GET" url .none with
  | .error err => ((none, some err), [])
  | .ok req =>
    let req := headers.foldl (fun req h => req.addHeader h.1 h.2) req
    (((net.reply 0).response, (net.reply 0).err), [.doRequest (some req)])

end Transport

def exampleTransport : Transport :=
  newTransport "https://statsigapi.net/v1" "secret-key" ⟨"https://example.test", false⟩
    ⟨"go-sdk", "1.0.0"⟩ "session"

/-- A network that accepts every URL and answers the `i`-th attempt with `o i`. -/
def answering (o : Nat → DoOutcome) : Network := ⟨fun _ => none, fun _ => 0, o⟩

/-! ### Attempts and the returned error -/

/-- The outcomes after which the code tries again: an error that came with a response,
or a status on the whitelist. -/
def retryEligible : DoOutcome → Bool
  | .ok response => response.statusCode ∈ [408, 500, 502, 503, 504, 522, 524, 599]
  | .error response _ => response.isSome

theorem attemptOf_retry (o : DoOutcome) : (attemptOf o).retry = retryEligible o := by
  cases o with
  | error response err => rfl
  | ok response =>
    simp only [attemptOf, retryEligible]
    split_ifs with h
    · have : response.statusCode ∉ [408, 500, 502, 503, 504, 522, 524, 599] := by simp; omega
      simp [this]
    · rfl

theorem attemptOf_response (o : DoOutcome) : (attemptOf o).response = o.response := by
  cases o with
  | error response err => rfl
  | ok response => simp only [attemptOf]; split_ifs <;> rfl

/-- The closure returns `nil` exactly on a 2xx response whose body decodes. -/
theorem attemptOf_err_eq_none (o : DoOutcome) :
    (attemptOf o).err = none ↔ ∃ response, o = .ok response ∧
      200 ≤ response.statusCode ∧ response.statusCode < 300 ∧ response.body = .json := by
  cases o with
  | error response err => simp [attemptOf]
  | ok response =>
    simp only [attemptOf, DoOutcome.ok.injEq, exists_eq_left']
    split_ifs with h
    · cases hb : response.body <;> simp [Body.decode, hb, h]
    · simp only [reduceCtorEq, false_iff]
      omega

theorem attempts_map_effectOf (t : Transport) (endpoint body : String) (net : Network)
    (steps : List RetryStep) :
    attempts (steps.map (t.effectOf endpoint body net)) = (calls steps).length := by
  induction steps with
  | nil => rfl
  | cons s steps ih =>
    cases s <;> simp_all [attempts, calls, List.countP_cons, Transport.effectOf, Effect.isAttempt,
      RetryStep.invoked, Nat.add_comm]

theorem sent_map_effectOf (t : Transport) (endpoint body : String) (net : Network)
    (steps : List RetryStep) :
    (steps.map (t.effectOf endpoint body net)).filterMap Effect.sent =
      (calls steps).filterMap fun i => (t.doRequest endpoint body net i).1 := by
  induction steps with
  | nil => rfl
  | cons s steps ih =>
    simp only [calls] at ih
    cases s <;> simp only [List.map_cons, Transport.effectOf, List.filterMap_cons, Effect.sent,
      calls, RetryStep.invoked, ih]

theorem postRequestInternal_eq (t : Transport) (endpoint body : String) (input : Payload) (r : Int)
    (b : Duration) (net : Network) (hlocal : t.options.LocalMode = false)
    (hbody : input.marshal = .ok body) :
    t.postRequestInternal endpoint input r b net =
      let run := retry r b fun i => attemptOf (t.doRequest endpoint body net i).2
      (run.1, run.2.map (t.effectOf endpoint body net)) := by
  simp [Transport.postRequestInternal, hlocal, hbody]

/-- With `LocalMode` off and a payload that marshals, a run makes `1 + min (max r 0) k`
attempts, `k` counting the leading retry-eligible outcomes. -/
theorem postRequestInternal_attempts (t : Transport) (endpoint body : String) (input : Payload)
    (r : Int) (b : Duration) (net : Network) (k : Nat)
    (hlocal : t.options.LocalMode = false) (hbody : input.marshal = .ok body)
    (hk : ∀ i < k, retryEligible (t.doRequest endpoint body net i).2 = true)
    (hstop : retryEligible (t.doRequest endpoint body net k).2 = false ∨ r.toNat ≤ k) :
    attempts (t.postRequestInternal endpoint input r b net).2 = 1 + min r.toNat k := by
  obtain ⟨hcalls, -⟩ := retry_calls_fn r b (fun i => attemptOf (t.doRequest endpoint body net i).2) k
    (fun i hi => by rw [attemptOf_retry]; exact hk i hi) (by rwa [attemptOf_retry])
  rw [postRequestInternal_eq t endpoint body input r b net hlocal hbody]
  simp only [attempts_map_effectOf, hcalls, List.length_range]
  omega

theorem postRequestInternal_attempts_of_503 :
    attempts (exampleTransport.postRequestInternal "/log_event" ⟨.ok "{}"⟩ 5 second
      (answering fun i => if i < 2 then .ok ⟨503, .json⟩ else .ok ⟨200, .json⟩)).2 =
      1 + min (5 : Int).toNat 2 :=
  postRequestInternal_attempts exampleTransport "/log_event" "{}" ⟨.ok "{}"⟩ 5 second _ 2 rfl rfl
    (by decide) (by decide)

/-- A refused connection, an error with no response, is not retried: with one retry
left and a `200` to follow, the code makes one attempt where the spec expects two. -/
theorem postRequestInternal_refused_not_retried :
    attempts (exampleTransport.postRequestInternal "/log_event" ⟨.ok "{}"⟩ 1 second
      (answering fun i => if i = 0 then .error none "connection refused" else .ok ⟨200, .json⟩)).2 ≠
      1 + min (1 : Int).toNat 1 := by
  decide

/-- With `LocalMode` off, the response is the last attempt's and the error is `nil`
exactly when that attempt got a 2xx response whose body decodes into `out`. -/
theorem postRequestInternal_error (t : Transport) (endpoint : String) (input : Payload) (r : Int)
    (b : Duration) (net : Network) (hlocal : t.options.LocalMode = false) :
    (∀ err, input.marshal = .error err →
      t.postRequestInternal endpoint input r b net = ((none, some err), [])) ∧
    (∀ body, input.marshal = .ok body → ∃ i,
      attempts (t.postRequestInternal endpoint input r b net).2 = i + 1 ∧
      (t.postRequestInternal endpoint input r b net).1.1 = (t.doRequest endpoint body net i).2.response ∧
      ((t.postRequestInternal endpoint input r b net).1.2 = none ↔
        ∃ response, (t.doRequest endpoint body net i).2 = .ok response ∧
          200 ≤ response.statusCode ∧ response.statusCode < 300 ∧ response.body = .json)) := by
  refine ⟨fun err herr => by simp [Transport.postRequestInternal, hlocal, herr], fun body hbody => ?_⟩
  obtain ⟨m, -, hrun⟩ := retryFrom_last (fun i => attemptOf (t.doRequest endpoint body net i).2)
    r.toNat b 0
  rw [postRequestInternal_eq t endpoint body input r b net hlocal hbody]
  simp only [retry, hrun, attempts_map_effectOf, calls_retrySteps, List.length_range', Nat.zero_add]
  exact ⟨m, rfl, attemptOf_response _, attemptOf_err_eq_none _⟩

theorem postRequestInternal_error_of_marshalled :
    ∃ i, attempts (exampleTransport.postRequestInternal "/log_event" ⟨.ok "{}"⟩ 0 0
      (answering fun _ => .ok ⟨200, .json⟩)).2 = i + 1 ∧
      (exampleTransport.postRequestInternal "/log_event" ⟨.ok "{}"⟩ 0 0
        (answering fun _ => .ok ⟨200, .json⟩)).1.1 =
        (exampleTransport.doRequest "/log_event" "{}"
          (answering fun _ => .ok ⟨200, .json⟩) i).2.response ∧
      ((exampleTransport.postRequestInternal "/log_event" ⟨.ok "{}"⟩ 0 0
        (answering fun _ => .ok ⟨200, .json⟩)).1.2 = none ↔
        ∃ response, (exampleTransport.doRequest "/log_event" "{}"
          (answering fun _ => .ok ⟨200, .json⟩) i).2 = .ok response ∧
          200 ≤ response.statusCode ∧ response.statusCode < 300 ∧ response.body = .json) :=
  (postRequestInternal_error exampleTransport "/log_event" ⟨.ok "{}"⟩ 0 0 _ rfl).2 "{}" rfl

/-- An empty `200` body: `Decode` returns `io.EOF`, so `postRequest` returns a
non-`nil` error although the final attempt got a 2xx response. -/
theorem postRequest_empty_body_error :
    (exampleTransport.postRequest "/log_event" ⟨.ok "{}"⟩
      (answering fun _ => .ok ⟨200, .empty⟩)).1 = (some ⟨200, .empty⟩, some "EOF") := by
  decide

/-! ### What is sent -/

/-- With `LocalMode` off and a payload that marshals, each attempt hands `client.Do` the
`POST` of the payload to `api + endpoint` with the transport's headers. -/
theorem postRequestInternal_requests (t : Transport) (endpoint body : String) (input : Payload)
    (r : Int) (b : Duration) (net : Network) (hlocal : t.options.LocalMode = false)
    (hbody : input.marshal = .ok body) :
    (t.postRequestInternal endpoint input r b net).2.filterMap Effect.sent =
      if net.urlError (t.api ++ endpoint) = none then
        (List.range (attempts (t.postRequestInternal endpoint input r b net).2)).map fun i =>
          ⟨"POST", t.api ++ endpoint,
            [("STATSIG-API-KEY", t.sdkKey), ("Content-Type", "application/json"),
              ("STATSIG-CLIENT-TIME", formatInt (net.clientTime i)),
              ("STATSIG-SERVER-SESSION-ID", t.sessionID), ("STATSIG-SDK-TYPE", t.metadata.SDKType),
              ("STATSIG-SDK-VERSION", t.metadata.SDKVersion)], .json body⟩
      else [] := by
  obtain ⟨m, -, hrun⟩ := retryFrom_last (fun i => attemptOf (t.doRequest endpoint body net i).2)
    r.toNat b 0
  rw [postRequestInternal_eq t endpoint body input r b net hlocal hbody]
  simp only [retry, hrun, attempts_map_effectOf, sent_map_effectOf, calls_retrySteps,
    List.length_range', Nat.zero_add, ← List.range_eq_range']
  split_ifs with hurl
  · simp only [Transport.doRequest, newRequest, hurl, Request.addHeader, List.nil_append,
      List.cons_append, List.singleton_append, List.length_range]
    exact congrFun (List.filterMap_eq_map _) _
  · obtain ⟨err, herr⟩ := Option.ne_none_iff_exists'.1 hurl
    simp [Transport.doRequest, newRequest, herr]

theorem postRequestInternal_requests_of_503 :
    ((exampleTransport.postRequestInternal "/log_event" ⟨.ok "{}"⟩ 5 second
      (answering fun i => if i < 2 then .ok ⟨503, .json⟩ else .ok ⟨200, .json⟩)).2.filterMap
        Effect.sent).map Request.body = List.replicate 3 (.json "{}") := by
  rw [postRequestInternal_requests exampleTransport "/log_event" "{}" ⟨.ok "{}"⟩ 5 second _ rfl rfl]
  decide

/-- With eleven retries against a server that keeps answering `503`, the eleventh sleep
wraps: `10 ^ 9 * 10 ^ 10` does not fit in an `int64`. -/
theorem retryablePostRequest_eleventh_sleep_wraps :
    (((exampleTransport.retryablePostRequest "/download_config_specs" ⟨.ok "{}"⟩ 11
      (answering fun _ => .ok ⟨503, .json⟩)).2.filterMap Effect.slept).map
      BitVec.toInt)[10]? = some (-8446744073709551616) ∧
    -8446744073709551616 ≠ second.toInt * 10 ^ 10 := by
  decide

end StatsigSdk
