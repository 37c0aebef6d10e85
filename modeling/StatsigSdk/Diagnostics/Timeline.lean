import Mathlib.Algebra.Order.Ring.Int
import Mathlib.Order.Monotone.Basic
import StatsigSdk.Runtime.World

/-! The timelines of `diagnostics.go` under concurrent use. `mark` reads the
clock, stamps the marker, and then, holding the timeline's lock, appends the
marker and logs its status line; `clearMarkers` and `serialize` hold the same
lock. The specification of a timeline is stated on the log of a run: the markers
appended to that context after its last `clearMarkers`, in the order the appends
took the lock. Proved: under every interleaving of `mark`, `clearMarkers` and
`serialize` calls on the three contexts, each timeline is its specification; each
append is the append of one `mark` call of its builder, each clear the step on
which a `clearMarkers` of that context returns, and a returned `mark` has its
append in the log; each `serialize` returns its context and the specification at
the moment it held the lock, and the slice it returns is `nil` exactly when a
`clearMarkers` of its context had returned and nothing had been appended since.
The timestamps are read before the lock is taken, so a marker appended later can
carry an earlier timestamp; with a monotone clock they are in timeline order in
the runs where the goroutines waiting for a lock take it in the order they read
the clock, which a Go mutex does not promise. -/

namespace StatsigSdk

/-- `t.Unix()` for a clock reading `t` in nanoseconds. -/
def unixSeconds (t : Int) : Int := t / 1000000000

/-- `time.Now().Unix() * 1000` in Go's `int64`. -/
def markTimestamp (t : Int) : Int := Int.bmod (unixSeconds t * 1000) (2 ^ 64)

/-- The part of `mark` under the lock: append `m`, then log its status line, or
panic (after the deferred unlock) when `logProcess` dereferences a `nil` field. -/
def appendAndLog (m : Marker) : Prog Unit :=
  match m.logProcess with
  | .ok msg => .append m (some (.step m.diagnostics.process msg)) (.pure ())
  | .error v => .append m none (.panic v)

/-- Whether it logs or panics, the part under the lock appends `m` and then ends. -/
theorem appendAndLog_eq (m : Marker) :
    ∃ l k, appendAndLog m = .append m l k ∧ k.isDone := by
  unfold appendAndLog
  split <;> exact ⟨_, _, rfl, rfl⟩

theorem appendAndLog_of_ok {m : Marker} {msg : String} (hm : m.logProcess = .ok msg) :
    appendAndLog m = .append m (some (.step m.diagnostics.process msg)) (.pure ()) := by
  rw [appendAndLog, hm]

/-- `m.mark()`. -/
def Marker.mark (m : Marker) : Prog Unit := do
  let t ← getNow
  appendAndLog { m with Timestamp := markTimestamp t }

theorem Marker.mark_eq (m : Marker) :
    m.mark = .now fun t => appendAndLog { m with Timestamp := markTimestamp t } := rfl

/-- `d.clearMarkers()` on the timeline of context `c`. -/
def clearMarkers (c : DiagnosticsContext) : Prog Unit := .clear c (.pure ())

/-- The map `serialize` returns: `{"context": d.context, "markers": d.markers}`. -/
structure Serialized where
  context : DiagnosticsContext
  markers : Option (List Marker)
  deriving DecidableEq, Repr

/-- `d.serialize()` on the timeline of context `c`. -/
def serialize (c : DiagnosticsContext) : Prog Serialized := .read c fun ms => .pure ⟨c, ms⟩

/-! ### The specification of a timeline -/

/-- The markers the events `es` append to context `c`, in order. -/
def appendedTo (c : DiagnosticsContext) : List Event → List Marker
  | [] => []
  | .append m _ :: es => if m.diagnostics = c then m :: appendedTo c es else appendedTo c es
  | _ :: es => appendedTo c es

/-- The events after the last `clearMarkers` of `c`; all of them if there is none. -/
def sinceClear (c : DiagnosticsContext) (es : List Event) : List Event :=
  (es.reverse.takeWhile (· ≠ .clear c)).reverse

/-- Timeline `c` after the events `es`. -/
def timelineSpec (c : DiagnosticsContext) (es : List Event) : List Marker :=
  appendedTo c (sinceClear c es)

@[simp] theorem appendedTo_append (c : DiagnosticsContext) (es fs : List Event) :
    appendedTo c (es ++ fs) = appendedTo c es ++ appendedTo c fs := by
  induction es with
  | nil => rfl
  | cons e es ih =>
    cases e with
    | append m l => by_cases h : m.diagnostics = c <;> simp [appendedTo, h, ih]
    | _ => simpa [appendedTo] using ih

theorem sinceClear_concat (c : DiagnosticsContext) (es : List Event) (e : Event) :
    sinceClear c (es ++ [e]) = if e = .clear c then [] else sinceClear c es ++ [e] := by
  by_cases h : e = .clear c <;> simp [sinceClear, List.takeWhile_cons, h]

theorem timelineSpec_concat (c : DiagnosticsContext) (es : List Event) (e : Event) :
    timelineSpec c (es ++ [e]) =
      if e = .clear c then [] else timelineSpec c es ++ appendedTo c [e] := by
  rw [timelineSpec, sinceClear_concat]
  split_ifs <;> simp [timelineSpec, appendedTo]

/-- What one event does to a timeline. -/
theorem markers_apply (s : Shared) (e : Event) (c : DiagnosticsContext) :
    ((s.apply e).markers c).getD [] =
      if e = .clear c then [] else (s.markers c).getD [] ++ appendedTo c [e] := by
  cases e with
  | append m l =>
    by_cases hc : m.diagnostics = c
    · subst hc; simp [Shared.apply, pushMarker, appendedTo]
    · simp [Shared.apply, appendedTo, hc, Function.update_noteq (Ne.symm hc)]
  | clear c' =>
    by_cases hc : c' = c
    · subst hc; simp [Shared.apply]
    · simp [Shared.apply, appendedTo, hc, Function.update_noteq (Ne.symm hc)]
  | checkSeen str seen => cases seen <;> simp [Shared.apply, appendedTo]
  | _ => simp [Shared.apply, appendedTo]

/-- What one event does to whether a timeline is a `nil` slice. -/
theorem markers_apply_eq_none (s : Shared) (e : Event) (c : DiagnosticsContext) :
    (s.apply e).markers c = none ↔ e = .clear c ∨ (s.markers c = none ∧ appendedTo c [e] = []) := by
  cases e with
  | append m l =>
    by_cases hc : m.diagnostics = c
    · subst hc; simp [Shared.apply, pushMarker, appendedTo]
    · simp [Shared.apply, appendedTo, hc, Function.update_noteq (Ne.symm hc)]
  | clear c' =>
    by_cases hc : c' = c
    · subst hc; simp [Shared.apply]
    · simp [Shared.apply, appendedTo, hc, Function.update_noteq (Ne.symm hc)]
  | checkSeen str seen => cases seen <;> simp [Shared.apply, appendedTo]
  | _ => simp [Shared.apply, appendedTo]

namespace World

variable {α : Type} {env : Env} {threads : List (Prog α)} {w : World α}

/-- Every timeline is its specification. -/
theorem Reach.markers_eq (hw : Reach env threads w) (c : DiagnosticsContext) :
    (w.shared.markers c).getD [] = timelineSpec c w.events := by
  induction hw with
  | start => rfl
  | step i hw ih =>
    rename_i w
    rcases step_cases env w i with h | ⟨p, q, e, -, -, h⟩
    · rwa [h]
    · have hev : (w.step env i).events = w.events ++ [e] := by simp [h, events]
      rw [hev, h, markers_apply, timelineSpec_concat, ih]

/-- A `serialize` reads, under the lock, the specification at its position. -/
theorem Reach.read_eq (hw : Reach env threads w) {n i : Nat} {c : DiagnosticsContext}
    {ms : Option (List Marker)} (h : w.log[n]? = some (i, .read c ms)) :
    ms.getD [] = timelineSpec c (w.events.take n) := by
  obtain ⟨w', hw', hlog, p, q, -, hn⟩ := hw.event_source n i _ h
  have hms : ms = w'.shared.markers c := by
    cases p <;> simp [Prog.next] at hn
    obtain ⟨⟨rfl, rfl⟩, -⟩ := hn
    rfl
  rw [hms, hw'.markers_eq, events, hlog, events, List.map_take]

/-- A timeline is a `nil` slice exactly when a `clearMarkers` of it has taken
effect and nothing has been appended to it since. -/
theorem Reach.markers_eq_none_iff (hw : Reach env threads w) (c : DiagnosticsContext) :
    w.shared.markers c = none ↔ .clear c ∈ w.events ∧ timelineSpec c w.events = [] := by
  induction hw with
  | start => simp [World.start, Shared.initial, events]
  | step i hw ih =>
    rename_i w
    rcases step_cases env w i with h | ⟨p, q, e, -, -, h⟩
    · rwa [h]
    · have hev : (w.step env i).events = w.events ++ [e] := by simp [h, events]
      rw [hev, h, markers_apply_eq_none, ih, timelineSpec_concat]
      by_cases he : e = .clear c
      · simp [he]
      · simp [he, Ne.symm he, and_assoc]

/-- A `serialize` read a `nil` slice exactly when, at its position, a
`clearMarkers` had taken effect and nothing had been appended since. -/
theorem Reach.read_eq_none_iff (hw : Reach env threads w) {n i : Nat} {c : DiagnosticsContext}
    {ms : Option (List Marker)} (h : w.log[n]? = some (i, .read c ms)) :
    ms = none ↔ .clear c ∈ w.events.take n ∧ timelineSpec c (w.events.take n) = [] := by
  obtain ⟨w', hw', hlog, p, q, -, hn⟩ := hw.event_source n i _ h
  have hms : ms = w'.shared.markers c := by
    cases p <;> simp [Prog.next] at hn
    obtain ⟨⟨rfl, rfl⟩, -⟩ := hn
    rfl
  rw [hms, hw'.markers_eq_none_iff, events, hlog, events, List.map_take]

end World

/-! ### Runs of one call -/

theorem after_appendAndLog {m : Marker} {es : List Event} {q : Prog Unit}
    (h : (appendAndLog m).after es = some q) :
    (es = [] ∧ q = appendAndLog m) ∨ ∃ l, es = [.append m l] ∧ q.isDone := by
  obtain ⟨l, k, hak, hk⟩ := appendAndLog_eq m
  rw [hak] at h ⊢
  rcases Prog.after_append_eq_some.1 h with ⟨rfl, rfl⟩ | ⟨es', rfl, hk'⟩
  · exact .inl ⟨rfl, rfl⟩
  · obtain ⟨rfl, rfl⟩ := Prog.after_of_isDone hk' hk
    exact .inr ⟨l, rfl, hk⟩

/-- A `mark` call has read the clock and then appended its builder stamped with
that reading, or is not so far yet. -/
theorem after_mark {m : Marker} {es : List Event} {q : Prog Unit} (h : m.mark.after es = some q) :
    es = [] ∨ (∃ t, es = [.now t] ∧ q = appendAndLog { m with Timestamp := markTimestamp t }) ∨
      ∃ t l, es = [.now t, .append { m with Timestamp := markTimestamp t } l] ∧ q.isDone := by
  rw [Marker.mark_eq, Prog.after_now_eq_some] at h
  rcases h with ⟨rfl, -⟩ | ⟨t, es', rfl, h⟩
  · exact .inl rfl
  · rcases after_appendAndLog h with ⟨rfl, rfl⟩ | ⟨l, rfl, hq⟩
    · exact .inr (.inl ⟨t, rfl, rfl⟩)
    · exact .inr (.inr ⟨t, l, rfl, hq⟩)

/-- A `mark` call that has ended, on a builder whose status line is `msg`: it read
the clock, appended the builder stamped with that reading and logged the line. -/
theorem after_mark_done {m : Marker} {msg : String} (hm : m.logProcess = .ok msg)
    {es : List Event} {q : Prog Unit} (h : m.mark.after es = some q) (hq : q.isDone) :
    ∃ t, es = [.now t, .append { m with Timestamp := markTimestamp t }
      (some (.step m.diagnostics.process msg))] ∧ q = .pure () := by
  have hstamp : ∀ t, ({ m with Timestamp := t } : Marker).logProcess = .ok msg := fun _ => hm
  rw [Marker.mark_eq, Prog.after_now_eq_some] at h
  rcases h with ⟨-, rfl⟩ | ⟨t, es', rfl, h⟩
  · cases hq
  · rw [appendAndLog_of_ok (hstamp _), Prog.after_append_eq_some] at h
    rcases h with ⟨-, rfl⟩ | ⟨es'', rfl, h⟩
    · cases hq
    · obtain ⟨rfl, rfl⟩ := Prog.after_pure_eq_some.1 h
      exact ⟨t, rfl, rfl⟩

/-- A call on the timelines. -/
inductive DiagCall where
  | mark (m : Marker)
  | clearMarkers (c : DiagnosticsContext)
  | serialize (c : DiagnosticsContext)

/-- The goroutine of a call; only `serialize` returns a value. -/
def DiagCall.prog : DiagCall → Prog (Option Serialized)
  | .mark m => m.mark.bind fun _ => .pure none
  | .clearMarkers c => (StatsigSdk.clearMarkers c).bind fun _ => .pure none
  | .serialize c => (StatsigSdk.serialize c).bind fun r => .pure (some r)

def Event.isAppend : Event → Bool
  | .append _ _ => true
  | _ => false

theorem appendAndLog_bind_eq_append {m m' : Marker} {f : Unit → Prog α}
    {l : Option LogLine} {k : Prog α} (h : (appendAndLog m').bind f = .append m l k) : m = m' := by
  unfold appendAndLog at h
  split at h <;> simp [Prog.bind] at h <;> exact h.1.symm

/-- What a call has done so far: an append comes after the call's clock reading
and is its builder stamped with it, and there is at most one; a goroutine waiting
to append has only read the clock; a finished `serialize` read its context once;
only `clearMarkers` clears, and returns on clearing; and a finished `mark` or `clearMarkers` has appended or
cleared. -/
theorem DiagCall.after_prog {call : DiagCall} {es : List Event} {q : Prog (Option Serialized)}
    (h : call.prog.after es = some q) :
    (∀ m l, .append m l ∈ es →
      ∃ b t, call = .mark b ∧ .now t ∈ es ∧ m = { b with Timestamp := markTimestamp t }) ∧
    (es.filter Event.isAppend).length ≤ 1 ∧
    (∀ c r, call = .serialize c → q = .pure (some r) → r.context = c ∧ es = [.read c r.markers]) ∧
    (∀ m l k, q = .append m l k →
      ∃ b t, call = .mark b ∧ es = [.now t] ∧ m = { b with Timestamp := markTimestamp t }) ∧
    (∀ c, .clear c ∈ es → call = .clearMarkers c ∧ q = .pure none) ∧
    (q.isDone →
      (∀ b, call = .mark b → ∃ t l, .append { b with Timestamp := markTimestamp t } l ∈ es) ∧
      ∀ c, call = .clearMarkers c → .clear c ∈ es) := by
  cases call with
  | mark b =>
    rw [DiagCall.prog, Prog.after_bind_pure] at h
    obtain ⟨q', hq', rfl⟩ := Option.map_eq_some'.1 h
    rcases after_mark hq' with rfl | ⟨t, rfl, rfl⟩ | ⟨t, l, rfl, hq⟩
    · obtain rfl : b.mark = q' := by simpa using hq'
      refine ⟨fun _ _ h => (nomatch h), by simp, fun _ _ h => (nomatch h), fun m l k hk => ?_,
        fun _ h => (nomatch h), fun hd => ?_⟩
      · cases hk
      · cases hd
    · -- read the clock, waiting for the lock
      obtain ⟨l, k, hak, -⟩ := appendAndLog_eq { b with Timestamp := markTimestamp t }
      refine ⟨fun _ _ h => (by simp at h), by simp [Event.isAppend], fun _ _ h => (nomatch h),
        fun m l k hk => ⟨b, t, rfl, rfl, appendAndLog_bind_eq_append hk⟩, by simp, fun hd => ?_⟩
      rw [hak] at hd
      cases hd
    · refine ⟨by simp, by simp [Event.isAppend], by simp, fun m l k hk => ?_, by simp,
        fun _ => ⟨fun b' hb => ⟨t, l, by cases hb; simp⟩, nofun⟩⟩
      cases q' <;> cases hq <;> cases hk
  | clearMarkers c =>
    rw [DiagCall.prog, Prog.after_bind_pure] at h
    obtain ⟨q', hq', rfl⟩ := Option.map_eq_some'.1 h
    rw [StatsigSdk.clearMarkers, Prog.after_clear_eq_some] at hq'
    rcases hq' with ⟨rfl, rfl⟩ | ⟨es', rfl, hq'⟩
    · simp [Prog.bind, Prog.isDone]
    · obtain ⟨rfl, rfl⟩ := Prog.after_pure_eq_some.1 hq'
      simp [Event.isAppend, Prog.bind]
  | serialize c =>
    rw [DiagCall.prog, Prog.after_bind_pure] at h
    obtain ⟨q', hq', rfl⟩ := Option.map_eq_some'.1 h
    rw [StatsigSdk.serialize, Prog.after_read_eq_some] at hq'
    rcases hq' with ⟨rfl, rfl⟩ | ⟨ms, es', rfl, hq'⟩
    · simp [Prog.bind]
    · obtain ⟨rfl, rfl⟩ := Prog.after_pure_eq_some.1 hq'
      simp [Event.isAppend, Prog.bind]

namespace World

variable {env : Env} {calls : List DiagCall} {w : World (Option Serialized)}

theorem Reach.exists_call (hw : w.Reach env (calls.map DiagCall.prog)) {i : Nat}
    (hi : i < calls.length) : ∃ call q, calls[i]? = some call ∧ w.threads[i]? = some q ∧
      call.prog.after (w.history i) = some q := by
  obtain ⟨q, hq, hafter⟩ := hw.thread_after_map hi
  exact ⟨_, q, List.getElem?_eq_getElem hi, hq, hafter⟩

theorem Reach.call_after (hw : w.Reach env (calls.map DiagCall.prog)) {i : Nat} {call : DiagCall}
    (h : calls[i]? = some call) :
    ∃ q, w.threads[i]? = some q ∧ call.prog.after (w.history i) = some q :=
  hw.thread_after (by simp [h])

/-- Each clear in the log is the step on which a `clearMarkers` of that context returned. -/
theorem Reach.clear_origin (hw : w.Reach env (calls.map DiagCall.prog)) {i : Nat}
    {c : DiagnosticsContext} (h : (i, Event.clear c) ∈ w.log) :
    calls[i]? = some (.clearMarkers c) ∧ w.threads[i]? = some (.pure none) := by
  obtain ⟨call, q, hc, hq, hafter⟩ := hw.exists_call (by simpa using hw.log_lt _ h)
  obtain ⟨rfl, rfl⟩ := (DiagCall.after_prog hafter).2.2.2.2.1 c (mem_history.2 h)
  exact ⟨hc, hq⟩

/-- A `mark` or `clearMarkers` that has returned has its append or clear in the log. -/
theorem Reach.returned_logged (hw : w.Reach env (calls.map DiagCall.prog)) {i : Nat}
    {call : DiagCall} {q : Prog (Option Serialized)} (hc : calls[i]? = some call)
    (hq : w.threads[i]? = some q) (hd : q.isDone) :
    (∀ b, call = .mark b → ∃ t l, (i, Event.append { b with Timestamp := markTimestamp t } l) ∈ w.log) ∧
    ∀ c, call = .clearMarkers c → (i, Event.clear c) ∈ w.log := by
  obtain ⟨q', hq', hafter⟩ := hw.call_after hc
  obtain rfl : q = q' := Option.some.inj (hq.symm.trans hq')
  obtain ⟨hmark, hclear⟩ := (DiagCall.after_prog hafter).2.2.2.2.2 hd
  refine ⟨fun b hb => ?_, fun c hc => mem_history.1 (hclear c hc)⟩
  obtain ⟨t, l, hm⟩ := hmark b hb
  exact ⟨t, l, mem_history.1 hm⟩

/-- A `clearMarkers` call has returned exactly when its clear is in the log. -/
theorem Reach.clearMarkers_returned_iff (hw : w.Reach env (calls.map DiagCall.prog)) {i : Nat}
    {c : DiagnosticsContext} (h : calls[i]? = some (.clearMarkers c)) :
    w.threads[i]? = some (.pure none) ↔ (i, Event.clear c) ∈ w.log :=
  ⟨fun hq => (hw.returned_logged h hq rfl).2 c rfl, fun hm => (hw.clear_origin hm).2⟩

/-- A `serialize` that has returned gave its own context and read it once. -/
theorem Reach.serialize_read (hw : w.Reach env (calls.map DiagCall.prog)) {i : Nat}
    {c : DiagnosticsContext} {r : Serialized} (hc : calls[i]? = some (.serialize c))
    (hr : w.threads[i]? = some (.pure (some r))) :
    r.context = c ∧ ∃ n : Nat, w.log[n]? = some (i, .read c r.markers) := by
  obtain ⟨q, hq', hq⟩ := hw.call_after hc
  obtain ⟨hctx, hhist⟩ := (DiagCall.after_prog hq).2.2.1 c r rfl (by simpa [hr] using hq'.symm)
  exact ⟨hctx, List.mem_iff_getElem?.1 (mem_history.1 (by simp [hhist]))⟩

end World

/-! ### Concurrent calls -/

/-- Under every interleaving of `mark`, `clearMarkers` and `serialize` calls on
the three contexts: each context's markers are those that `mark` calls appended
to it after its last clear, in the order the appends took the lock; each append is
the single append of one `mark` call, of its builder stamped with its clock reading,
and each clear is a step of a `clearMarkers` of that context; a `mark` or
`clearMarkers` that has returned has its append or clear in the log; and a
`serialize` that has returned gave its context and that sequence as it stood while
it held the lock. -/
theorem timeline_linearizable (env : Env) (calls : List DiagCall)
    (w : World (Option Serialized)) (hw : w.Reach env (calls.map DiagCall.prog)) :
    (∀ c, (w.shared.markers c).getD [] = appendedTo c (sinceClear c w.events)) ∧
    (∀ i m l, (i, Event.append m l) ∈ w.log →
      ∃ b t, calls[i]? = some (.mark b) ∧ m = { b with Timestamp := markTimestamp t }) ∧
    (∀ i c, (i, Event.clear c) ∈ w.log → calls[i]? = some (.clearMarkers c)) ∧
    (∀ i, ((w.history i).filter Event.isAppend).length ≤ 1) ∧
    (∀ i q, w.threads[i]? = some q → q.isDone →
      (∀ b, calls[i]? = some (.mark b) →
        ∃ t l, (i, Event.append { b with Timestamp := markTimestamp t } l) ∈ w.log) ∧
      ∀ c, calls[i]? = some (.clearMarkers c) → (i, Event.clear c) ∈ w.log) ∧
    (∀ i c r, calls[i]? = some (.serialize c) → w.threads[i]? = some (.pure (some r)) →
      r.context = c ∧ ∃ n, w.log[n]? = some (i, .read c r.markers) ∧
        r.markers.getD [] = appendedTo c (sinceClear c (w.events.take n))) := by
  refine ⟨hw.markers_eq, fun i m l hm => ?_, fun i c hm => (hw.clear_origin hm).1, fun i => ?_,
    fun i q hq hd => ?_, fun i c r hc hr => ?_⟩
  · obtain ⟨call, q, hc, -, hafter⟩ := hw.exists_call (by simpa using hw.log_lt _ hm)
    obtain ⟨b, t, rfl, -, rfl⟩ := (DiagCall.after_prog hafter).1 m l (World.mem_history.2 hm)
    exact ⟨b, t, hc, rfl⟩
  · cases hci : calls[i]? with
    | none =>
      have hnil : w.history i = [] := List.eq_nil_iff_forall_not_mem.2 fun e he =>
        absurd (hw.log_lt _ (World.mem_history.1 he)) (by simpa [List.getElem?_eq_none_iff] using hci)
      simp [hnil]
    | some call =>
      obtain ⟨q, -, hq⟩ := hw.call_after hci
      exact (DiagCall.after_prog hq).2.1
  · exact ⟨fun b hb => (hw.returned_logged hb hq hd).1 b rfl,
      fun c hc => (hw.returned_logged hc hq hd).2 c rfl⟩
  · obtain ⟨hctx, n, hn⟩ := hw.serialize_read hc hr
    exact ⟨hctx, n, hn, hw.read_eq hn⟩

/-- Under every interleaving of `mark`, `clearMarkers` and `serialize` calls, a
`clearMarkers` call has returned exactly when its clear is in the log, and a
context's `markers` slice is `nil` exactly when a `clearMarkers` of it has returned
and no marker has been appended to it since; before that it is the empty slice
`newDiagnostics` made. A `serialize` that has returned gave a `nil` slice (`null`
once encoded) exactly when that held while it held the lock. -/
theorem serialize_nil_iff_cleared (env : Env) (calls : List DiagCall)
    (w : World (Option Serialized)) (hw : w.Reach env (calls.map DiagCall.prog)) :
    (∀ j c, calls[j]? = some (.clearMarkers c) →
      (w.threads[j]? = some (.pure none) ↔ (j, Event.clear c) ∈ w.log)) ∧
    (∀ c, w.shared.markers c = none ↔
      (∃ j : Nat, calls[j]? = some (.clearMarkers c) ∧ w.threads[j]? = some (.pure none)) ∧
        timelineSpec c w.events = []) ∧
    (∀ i c r, calls[i]? = some (.serialize c) → w.threads[i]? = some (.pure (some r)) →
      ∃ n, w.log[n]? = some (i, .read c r.markers) ∧
        (r.markers = none ↔
          (∃ j : Nat, calls[j]? = some (.clearMarkers c) ∧ (j, Event.clear c) ∈ w.log.take n) ∧
            timelineSpec c (w.events.take n) = [])) := by
  -- a clear among the first events is one of a `clearMarkers` call
  have hclear : ∀ c (log : List (Nat × Event)), log ⊆ w.log →
      (.clear c ∈ log.map Prod.snd ↔
        ∃ j : Nat, calls[j]? = some (.clearMarkers c) ∧ (j, Event.clear c) ∈ log) := by
    refine fun c log hsub => ⟨fun h => ?_, fun ⟨_, _, hm⟩ => List.mem_map.2 ⟨_, hm, rfl⟩⟩
    obtain ⟨⟨j, e⟩, hm, rfl⟩ := List.mem_map.1 h
    exact ⟨j, (hw.clear_origin (hsub hm)).1, hm⟩
  refine ⟨fun j c h => hw.clearMarkers_returned_iff h, fun c => ?_, fun i c r hc hr => ?_⟩
  · rw [hw.markers_eq_none_iff, World.events, hclear c _ (List.Subset.refl _)]
    exact and_congr_left' (exists_congr fun j => and_congr_right hw.clearMarkers_returned_iff).symm
  · obtain ⟨-, n, hn⟩ := hw.serialize_read hc hr
    exact ⟨n, hn, (hw.read_eq_none_iff hn).trans (by
      rw [World.events, ← List.map_take, hclear c _ (List.take_subset n _)])⟩

/-- A `serialize` of the `initialize` timeline, a `clearMarkers` of it, and another
`serialize`. -/
def clearedCalls : List DiagCall :=
  [.serialize .initializeContext, .clearMarkers .initializeContext, .serialize .initializeContext]

/-- The calls of `clearedCalls`, one after another. -/
def clearedRun : World (Option Serialized) :=
  (World.start (clearedCalls.map DiagCall.prog)).run ⟨fun _ => 0, fun _ => ""⟩ [0, 1, 2]

theorem serialize_nil_iff_cleared_in_turn :
    (∀ j c, clearedCalls[j]? = some (.clearMarkers c) →
      (clearedRun.threads[j]? = some (.pure none) ↔ (j, Event.clear c) ∈ clearedRun.log)) ∧
    (∀ c, clearedRun.shared.markers c = none ↔
      (∃ j : Nat, clearedCalls[j]? = some (.clearMarkers c) ∧ clearedRun.threads[j]? = some (.pure none)) ∧
        timelineSpec c clearedRun.events = []) ∧
    (∀ i c r, clearedCalls[i]? = some (.serialize c) → clearedRun.threads[i]? = some (.pure (some r)) →
      ∃ n, clearedRun.log[n]? = some (i, .read c r.markers) ∧
        (r.markers = none ↔
          (∃ j : Nat, clearedCalls[j]? = some (.clearMarkers c) ∧ (j, Event.clear c) ∈ clearedRun.log.take n) ∧
            timelineSpec c (clearedRun.events.take n) = [])) :=
  serialize_nil_iff_cleared ⟨fun _ => 0, fun _ => ""⟩ _ clearedRun (World.Reach.start.run _)
/-- The first `serialize` read an empty slice, the second a `nil` one. -/
example : clearedRun.log = [(0, .read .initializeContext (some [])), (1, .clear .initializeContext),
    (2, .read .initializeContext none)] := by
  decide

/-! ### Timestamps -/

/-- In the range of `int64` nanoseconds the stamp is `Unix() * 1000` unwrapped. -/
theorem markTimestamp_eq {t : Int} (h₁ : -2 ^ 63 ≤ t) (h₂ : t < 2 ^ 63) :
    markTimestamp t = unixSeconds t * 1000 := by
  unfold markTimestamp unixSeconds
  rw [Int.bmod_def]
  push_cast
  split <;> omega

theorem markTimestamp_le {t t' : Int} (h : t ≤ t') (h₁ : -2 ^ 63 ≤ t) (h₂ : t' < 2 ^ 63) :
    markTimestamp t ≤ markTimestamp t' := by
  rw [markTimestamp_eq h₁ (by omega), markTimestamp_eq (by omega) h₂, unixSeconds, unixSeconds]
  exact Int.mul_le_mul_of_nonneg_right (Int.ediv_le_ediv (by decide) h) (by decide)

theorem of_mem_appendedTo {c : DiagnosticsContext} {es : List Event} {m : Marker}
    (h : m ∈ appendedTo c es) : m.diagnostics = c ∧ ∃ l, .append m l ∈ es := by
  induction es with
  | nil => simp [appendedTo] at h
  | cons e es ih =>
    cases e with
    | append m' l' =>
      by_cases hc : m'.diagnostics = c
      · simp only [appendedTo, hc, if_true, List.mem_cons] at h
        rcases h with rfl | h
        · exact ⟨hc, l', by simp⟩
        · obtain ⟨hm, l, hl⟩ := ih h
          exact ⟨hm, l, List.mem_cons_of_mem _ hl⟩
      · simp only [appendedTo, hc, if_false] at h
        obtain ⟨hm, l, hl⟩ := ih h
        exact ⟨hm, l, List.mem_cons_of_mem _ hl⟩
    | _ =>
      obtain ⟨hm, l, hl⟩ := ih h
      exact ⟨hm, l, List.mem_cons_of_mem _ hl⟩

theorem mem_of_mem_sinceClear {c : DiagnosticsContext} {es : List Event} {e : Event}
    (h : e ∈ sinceClear c es) : e ∈ es :=
  List.mem_reverse.1 (List.takeWhile_subset _ (List.mem_reverse.1 h))

namespace World

variable {α : Type} {env : Env} {calls : List DiagCall} {w : World (Option Serialized)}

/-- A goroutine waiting for a timeline's lock is a `mark` call that has read the
clock once and holds its builder stamped with that reading. -/
theorem Reach.waiting_mark (hw : w.Reach env (calls.map DiagCall.prog)) {i : Nat} {m : Marker}
    {l : Option LogLine} {k : Prog (Option Serialized)} (hq : w.threads[i]? = some (.append m l k)) :
    ∃ n t, w.log[n]? = some (i, .now t) ∧ w.history i = [.now t] ∧
      m.Timestamp = markTimestamp (env.now n) := by
  have hi : i < calls.length := by
    simpa [hw.after_history.1] using (List.getElem?_eq_some_iff.1 hq).1
  obtain ⟨call, q, -, hq', hafter⟩ := hw.exists_call hi
  obtain ⟨b, t, -, hes, rfl⟩ :=
    (DiagCall.after_prog hafter).2.2.2.1 m l k (by simpa [hq] using hq'.symm)
  obtain ⟨n, hn⟩ := List.mem_iff_getElem?.1 (mem_history.1 (hes ▸ List.mem_singleton_self _))
  exact ⟨n, t, hn, hes, by rw [hw.now_eq hn]⟩

/-- Every marker on a timeline is stamped with a clock reading from earlier in the run. -/
theorem Reach.timeline_stamp (hw : w.Reach env (calls.map DiagCall.prog)) {c : DiagnosticsContext}
    {x : Marker} (hx : x ∈ (w.shared.markers c).getD []) :
    ∃ n < w.log.length, x.Timestamp = markTimestamp (env.now n) := by
  rw [hw.markers_eq, timelineSpec] at hx
  obtain ⟨-, l, hl⟩ := of_mem_appendedTo hx
  obtain ⟨⟨i, e⟩, hmem, rfl⟩ := List.mem_map.1 (mem_of_mem_sinceClear hl)
  obtain ⟨call, q, -, -, hafter⟩ := hw.exists_call (by simpa using hw.log_lt _ hmem)
  obtain ⟨b, t, -, hnow, rfl⟩ := (DiagCall.after_prog hafter).1 x l (mem_history.2 hmem)
  obtain ⟨n, hn⟩ := List.mem_iff_getElem?.1 (mem_history.1 hnow)
  exact ⟨n, (List.getElem?_eq_some_iff.1 hn).1, by rw [hw.now_eq hn]⟩

/-- A goroutine that waits for the lock after a step has just read the clock. -/
theorem Reach.step_waiting (hw : w.Reach env (calls.map DiagCall.prog)) {i : Nat}
    {p q : Prog (Option Serialized)} {e : Event} (hi : w.threads[i]? = some p)
    (hn : p.next env w.shared w.log.length = some (e, q)) {m : Marker} {l : Option LogLine}
    {k : Prog (Option Serialized)} (hq : q = .append m l k) :
    (∃ t, e = .now t) ∧ m.Timestamp = markTimestamp (env.now w.log.length) := by
  obtain ⟨n, t, hn', hes, hm⟩ := (hw.step i).waiting_mark (i := i) (by rw [step_self hi hn, hq])
  rw [history_of_log (w := w) (j := i) (e := e) (by simp [step_eq hi hn])] at hes
  obtain ⟨-, rfl⟩ : w.history i = [] ∧ e = .now t := by
    simpa [List.append_eq_cons_iff] using hes
  refine ⟨⟨t, rfl⟩, hm.trans ?_⟩
  rw [← (hw.step i).now_eq hn', Prog.next_now hn]

end World

namespace World

/-- Goroutine `i` holds a stamped marker of context `c` and waits for the lock. -/
def WaitsToAppend {α : Type} (w : World α) (c : DiagnosticsContext) (i : Nat) : Prop :=
  ∃ m l k, w.threads[i]? = some (.append m l k) ∧ m.diagnostics = c

/-- The worlds reached by the runs in which the goroutines waiting for a
timeline's lock take it in the order they read the clock. -/
inductive ReachInOrder {α : Type} (env : Env) (threads : List (Prog α)) : World α → Prop
  | start : ReachInOrder env threads (.start threads)
  | step {w : World α} (i : Nat) : ReachInOrder env threads w →
      (∀ c, w.WaitsToAppend c i → ∀ j, j ≠ i → w.WaitsToAppend c j →
        ∀ (n : Nat) (t : Int) (n' : Nat) (t' : Int), w.log[n]? = some (i, Event.now t) → w.log[n']? = some (j, Event.now t') →
          n ≤ n') →
      ReachInOrder env threads (w.step env i)

theorem ReachInOrder.reach {α : Type} {env : Env} {threads : List (Prog α)} {w : World α}
    (hw : ReachInOrder env threads w) : Reach env threads w := by
  induction hw with
  | start => exact .start
  | step i _ _ ih => exact ih.step i

/-- Timeline `c` is in timestamp order, and no marker waiting for its lock is
stamped earlier than a marker on it. -/
def StampsInOrder {α : Type} (w : World α) (c : DiagnosticsContext) : Prop :=
  ((w.shared.markers c).getD []).Pairwise (fun x y => x.Timestamp ≤ y.Timestamp) ∧
    ∀ (i : Nat) (m : Marker) (l : Option LogLine) (k : Prog α),
      w.threads[i]? = some (.append m l k) → m.diagnostics = c →
      ∀ x ∈ (w.shared.markers c).getD [], x.Timestamp ≤ m.Timestamp

variable {env : Env} {calls : List DiagCall} {w : World (Option Serialized)}

theorem ReachInOrder.stampsInOrder (hmono : Monotone env.now)
    (hrange : ∀ n, -2 ^ 63 ≤ env.now n ∧ env.now n < 2 ^ 63)
    (hw : w.ReachInOrder env (calls.map DiagCall.prog)) (c : DiagnosticsContext) :
    w.StampsInOrder c := by
  have stamp_le : ∀ {n n'}, n ≤ n' → markTimestamp (env.now n) ≤ markTimestamp (env.now n') :=
    fun h => markTimestamp_le (hmono h) (hrange _).1 (hrange _).2
  induction hw with
  | start => simp [StampsInOrder, World.start, Shared.initial]
  | step i hw hguard ih =>
    rename_i w
    have hr := hw.reach
    rcases step_cases env w i with h | ⟨p, q, e, hi, hn, h⟩
    · rwa [h]
    obtain ⟨hsort, hwait⟩ := ih
    have hil : i < w.threads.length := (List.getElem?_eq_some_iff.1 hi).1
    have hpi : ∀ m l, e = .append m l → w.threads[i]? = some (.append m l q) := by
      rintro m l rfl
      rw [hi, Prog.next_append hn]
    rw [h]
    refine ⟨?_, fun j m l k hj hc x hx => ?_⟩
    · -- the timeline stays sorted: an append comes from the only goroutine it can
      rw [markers_apply]
      split_ifs
      · simp
      refine List.pairwise_append.2 ⟨hsort, ?_, fun x hx y hy => ?_⟩
      · cases e with
        | append m l => by_cases hm : m.diagnostics = c <;> simp [appendedTo, hm]
        | _ => simp [appendedTo]
      · obtain ⟨hyc, l', hy⟩ := of_mem_appendedTo hy
        obtain rfl := List.mem_singleton.1 hy
        exact hwait i y l' q (hpi y l' rfl) hyc x hx
    · -- a waiting marker is stamped no earlier than the timeline's markers
      rw [markers_apply] at hx
      split_ifs at hx
      · simp at hx
      by_cases hji : j = i
      · subst hji
        obtain ⟨⟨t, rfl⟩, hm⟩ := hr.step_waiting hi hn (by simpa [hil] using hj)
        obtain ⟨n, hn', hx'⟩ := hr.timeline_stamp (by simpa [appendedTo] using hx)
        rw [hm, hx']
        exact stamp_le hn'.le
      have hj' : w.threads[j]? = some (.append m l k) := by
        simpa [List.getElem?_set_ne (Ne.symm hji)] using hj
      rcases List.mem_append.1 hx with hx | hx
      · exact hwait j m l k hj' hc x hx
      · obtain ⟨hxc, l', hx⟩ := of_mem_appendedTo hx
        obtain rfl := List.mem_singleton.1 hx
        obtain ⟨ni, ti, hni, -, hxts⟩ := hr.waiting_mark (hpi x l' rfl)
        obtain ⟨nj, tj, hnj, -, hmts⟩ := hr.waiting_mark hj'
        rw [hxts, hmts]
        exact stamp_le (hguard c ⟨x, l', q, hpi x l' rfl, hxc⟩ j hji ⟨m, l, k, hj', hc⟩
          ni ti nj tj hni hnj)

end World

/-- With a monotone clock inside the range of `int64` nanoseconds, a timeline's
timestamps are non-decreasing under every interleaving in which the goroutines
waiting for its lock take it in the order they read the clock. -/
theorem timeline_timestamps_sorted (env : Env) (calls : List DiagCall)
    (w : World (Option Serialized)) (hmono : Monotone env.now)
    (hrange : ∀ n, -2 ^ 63 ≤ env.now n ∧ env.now n < 2 ^ 63)
    (hw : w.ReachInOrder env (calls.map DiagCall.prog)) (c : DiagnosticsContext) :
    (((w.shared.markers c).getD []).map Marker.Timestamp).Pairwise (· ≤ ·) :=
  List.pairwise_map.2 (hw.stampsInOrder hmono hrange c).1

/-- A clock that reads one more second at each of the first hundred steps of a run. -/
def secondsClock : Env := ⟨fun n => min n 100 * 1000000000, fun _ => ""⟩

/-- Two `mark` calls on the `initialize` timeline. -/
def overallMarks : List DiagCall :=
  [.mark initializeMarker.overall.start, .mark initializeMarker.overall.«end»]

/-- The first call reads the clock, the second reads it a second later and takes
the lock first. -/
def overtakingRun : World (Option Serialized) :=
  (World.start (overallMarks.map DiagCall.prog)).run secondsClock [0, 1, 1, 0]

theorem timeline_linearizable_overtaking :
    (∀ c, (overtakingRun.shared.markers c).getD [] = appendedTo c (sinceClear c overtakingRun.events)) ∧
    (∀ i m l, (i, Event.append m l) ∈ overtakingRun.log →
      ∃ b t, overallMarks[i]? = some (.mark b) ∧ m = { b with Timestamp := markTimestamp t }) ∧
    (∀ i c, (i, Event.clear c) ∈ overtakingRun.log → overallMarks[i]? = some (.clearMarkers c)) ∧
    (∀ i, ((overtakingRun.history i).filter Event.isAppend).length ≤ 1) ∧
    (∀ i q, overtakingRun.threads[i]? = some q → q.isDone →
      (∀ b, overallMarks[i]? = some (.mark b) →
        ∃ t l, (i, Event.append { b with Timestamp := markTimestamp t } l) ∈ overtakingRun.log) ∧
      ∀ c, overallMarks[i]? = some (.clearMarkers c) → (i, Event.clear c) ∈ overtakingRun.log) ∧
    (∀ i c r, overallMarks[i]? = some (.serialize c) → overtakingRun.threads[i]? = some (.pure (some r)) →
      r.context = c ∧ ∃ n, overtakingRun.log[n]? = some (i, .read c r.markers) ∧
        r.markers.getD [] = appendedTo c (sinceClear c (overtakingRun.events.take n))) :=
  timeline_linearizable secondsClock overallMarks overtakingRun (World.Reach.start.run _)

/-- On that run the timeline's timestamps are out of order. -/
theorem timeline_timestamps_overtaken :
    Monotone secondsClock.now ∧
      ((overtakingRun.shared.markers .initializeContext).getD []).map Marker.Timestamp = [1000, 0] :=
  ⟨fun a b h => by simp only [secondsClock]; omega, by decide⟩

/-- Both calls read the clock, then take the lock in the order they read it. -/
def inTurnRun : World (Option Serialized) :=
  (World.start (overallMarks.map DiagCall.prog)).run secondsClock [0, 1, 0, 1]

theorem inTurnRun_reachInOrder : inTurnRun.ReachInOrder secondsClock (overallMarks.map DiagCall.prog) := by
  refine .step 1 (.step 0 (.step 1 (.step 0 .start ?_) ?_) ?_) ?_
  · rintro c ⟨m, l, k, h, -⟩
    cases h
  · rintro c ⟨m, l, k, h, -⟩
    cases h
  · -- the first call read the clock first
    intro c _ j _ _ n t n' t' hn _
    have hlog : (((World.start (overallMarks.map DiagCall.prog)).step secondsClock 0).step secondsClock 1
        ).log = [(0, .now 0), (1, .now 1000000000)] := by
      decide
    rw [hlog] at hn
    obtain rfl : n = 0 := by
      rcases n with _ | _ | n <;> simp at hn ⊢
    exact Nat.zero_le n'
  · -- the first call has returned, so no other goroutine waits
    rintro c - j hj ⟨m, l, k, h, -⟩
    rcases j with _ | _ | j
    · cases h
    · exact absurd rfl hj
    · cases h

theorem timeline_timestamps_sorted_in_turn :
    (((inTurnRun.shared.markers .initializeContext).getD []).map Marker.Timestamp).Pairwise (· ≤ ·) ∧
      ((inTurnRun.shared.markers .initializeContext).getD []).map Marker.Timestamp = [0, 1000] :=
  ⟨timeline_timestamps_sorted secondsClock overallMarks _ (fun a b h => by simp only [secondsClock]; omega)
    (fun n => by simp only [secondsClock]; omega) inTurnRun_reachInOrder .initializeContext, by decide⟩

end StatsigSdk
