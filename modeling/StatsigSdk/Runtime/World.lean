import StatsigSdk.Runtime.Prog

/-! Interleaved runs of goroutines. A world holds the goroutines (their programs),
the state they share and the log of every event in the order the events took
effect. A step lets one goroutine perform its next operation; the scheduler
chooses the goroutine, and the environment answers the clock and the stack
snapshot, as functions of the step's position in the run. A run is any sequence
of such choices, so a property of every reachable world holds under every
interleaving. The shared state starts as `newDiagnostics()` (three empty
timelines) and `newErrorBoundary`'s empty `seen` set. Proved: the program of
each goroutine is what its starting program leaves after the events of its own
history, and from every world some schedule brings all goroutines to an end. -/

namespace StatsigSdk

/-- What the outside world answers at the `n`-th step of a run. -/
structure Env where
  /-- `time.Now()`, in nanoseconds since the epoch. -/
  now : Nat → Int
  /-- The snapshot `runtime.Stack` writes. -/
  stack : Nat → String

/-- The state goroutines share: each context's `markers` slice (`none` is a `nil`
slice), the error boundary's `seen` set, the requests handed to `client.Do`, and
the lines handed to the global logger. -/
structure Shared where
  markers : DiagnosticsContext → Option (List Marker)
  seen : List String
  sent : List Request
  logged : List LogLine

def Shared.initial : Shared := ⟨fun _ => some [], [], [], []⟩

/-- The string an event adds to `seen`: a `checkSeen` that found it unseen. -/
def Event.seenAdded : Event → Option String
  | .checkSeen str false => some str
  | _ => none

/-- The request an event hands to `client.Do`. -/
def Event.sentRequest : Event → Option Request
  | .send r => some r
  | _ => none

/-- The marker an event appends. -/
def Event.appended : Event → Option Marker
  | .append m _ => some m
  | _ => none

def Event.isCheckSeen : Event → Bool
  | .checkSeen _ _ => true
  | _ => false

def Event.isLogError : Event → Bool
  | .logError _ => true
  | _ => false

@[simp] theorem Event.seenAdded_eq_some {e : Event} {str : String} :
    e.seenAdded = some str ↔ e = .checkSeen str false := by
  cases e with
  | checkSeen s b => cases b <;> simp [seenAdded, eq_comm]
  | _ => simp [seenAdded]

@[simp] theorem Event.sentRequest_eq_some {e : Event} {r : Request} :
    e.sentRequest = some r ↔ e = .send r := by
  cases e <;> simp [sentRequest, eq_comm]

/-- `append(s, m)` on a Go slice. -/
def pushMarker (ms : Option (List Marker)) (m : Marker) : Option (List Marker) :=
  some (ms.getD [] ++ [m])

/-- What an event does to the shared state. -/
def Shared.apply (s : Shared) : Event → Shared
  | .append m line =>
    { s with
      markers := Function.update s.markers m.diagnostics (pushMarker (s.markers m.diagnostics) m)
      logged := s.logged ++ line.toList }
  | .clear c => { s with markers := Function.update s.markers c none }
  | .checkSeen str seen => if seen then s else { s with seen := s.seen ++ [str] }
  | .send r => { s with sent := s.sent ++ [r] }
  | .logError err => { s with logged := s.logged ++ [.error err] }
  | .now _ | .stack _ | .read _ _ => s

namespace Prog

variable {α : Type}

/-- The next operation of `p` against the shared state `s` at step `n`: the event
it produces and what is left of `p`. -/
def next (env : Env) (s : Shared) (n : Nat) : Prog α → Option (Event × Prog α)
  | .pure _ | .panic _ => none
  | .now k => some (.now (env.now n), k (env.now n))
  | .stack k => some (.stack (env.stack n), k (env.stack n))
  | .append m l k => some (.append m l, k)
  | .clear c k => some (.clear c, k)
  | .read c k => some (.read c (s.markers c), k (s.markers c))
  | .checkSeen str k => some (.checkSeen str (decide (str ∈ s.seen)), k (decide (str ∈ s.seen)))
  | .send r k => some (.send r, k)
  | .logError e k => some (.logError e, k)

theorem feed_of_next {env : Env} {s : Shared} {n : Nat} {p q : Prog α} {e : Event}
    (h : p.next env s n = some (e, q)) : p.feed e = some q := by
  cases p <;> cases h <;> simp [feed]

theorem next_eq_none {env : Env} {s : Shared} {n : Nat} {p : Prog α} :
    p.next env s n = none ↔ p.isDone := by
  cases p <;> simp [next, isDone]

theorem next_now {env : Env} {s : Shared} {n : Nat} {p q : Prog α} {t : Int}
    (h : p.next env s n = some (.now t, q)) : t = env.now n := by
  cases p <;> simp [next] at h
  exact h.1.symm

theorem next_stack {env : Env} {s : Shared} {n : Nat} {p q : Prog α} {str : String}
    (h : p.next env s n = some (.stack str, q)) : str = env.stack n := by
  cases p <;> simp [next] at h
  exact h.1.symm

theorem next_checkSeen {env : Env} {s : Shared} {n : Nat} {p q : Prog α} {str : String} {b : Bool}
    (h : p.next env s n = some (.checkSeen str b, q)) : b = decide (str ∈ s.seen) := by
  cases p <;> simp [next] at h
  obtain ⟨⟨rfl, rfl⟩, -⟩ := h
  rfl

theorem next_append {env : Env} {s : Shared} {n : Nat} {p q : Prog α} {m : Marker}
    {l : Option LogLine} (h : p.next env s n = some (.append m l, q)) : p = .append m l q := by
  cases p <;> simp [next] at h
  obtain ⟨⟨rfl, rfl⟩, rfl⟩ := h
  rfl

end Prog

structure World (α : Type) where
  threads : List (Prog α)
  shared : Shared
  log : List (Nat × Event)

namespace World

variable {α : Type}

def start (threads : List (Prog α)) : World α := ⟨threads, .initial, []⟩

/-- Goroutine `i` performs its next operation, if it has one. -/
def step (env : Env) (w : World α) (i : Nat) : World α :=
  match w.threads[i]? with
  | none => w
  | some p =>
    match p.next env w.shared w.log.length with
    | none => w
    | some (e, q) => ⟨w.threads.set i q, w.shared.apply e, w.log ++ [(i, e)]⟩

def run (env : Env) (w : World α) : List Nat → World α
  | [] => w
  | i :: sched => (w.step env i).run env sched

/-- The worlds a run from `threads` reaches, under every schedule. -/
inductive Reach (env : Env) (threads : List (Prog α)) : World α → Prop
  | start : Reach env threads (.start threads)
  | step {w : World α} (i : Nat) : Reach env threads w → Reach env threads (w.step env i)

theorem Reach.run {env : Env} {threads : List (Prog α)} {w : World α}
    (hw : Reach env threads w) (sched : List Nat) : Reach env threads (w.run env sched) := by
  induction sched generalizing w with
  | nil => exact hw
  | cons i sched ih => exact ih (hw.step i)

/-- The events of goroutine `i`, in order. -/
def history (w : World α) (i : Nat) : List Event :=
  w.log.filterMap fun x => if x.1 = i then some x.2 else none

/-- The events of the run, in order. -/
def events (w : World α) : List Event := w.log.map Prod.snd

/-- Every goroutine has ended. -/
def Quiescent (w : World α) : Prop := ∀ p ∈ w.threads, p.isDone

/-- What a step does, once the goroutine's next event is known. -/
theorem step_eq {env : Env} {w : World α} {i : Nat} {p q : Prog α} {e : Event}
    (hi : w.threads[i]? = some p) (hn : p.next env w.shared w.log.length = some (e, q)) :
    w.step env i = ⟨w.threads.set i q, w.shared.apply e, w.log ++ [(i, e)]⟩ := by
  simp [step, hi, hn]

/-- A step either changes nothing or is one event of one goroutine. -/
theorem step_cases (env : Env) (w : World α) (i : Nat) :
    w.step env i = w ∨ ∃ p q e, w.threads[i]? = some p ∧
      p.next env w.shared w.log.length = some (e, q) ∧
      w.step env i = ⟨w.threads.set i q, w.shared.apply e, w.log ++ [(i, e)]⟩ := by
  cases hi : w.threads[i]? with
  | none => exact .inl (by simp [step, hi])
  | some p =>
    cases hn : p.next env w.shared w.log.length with
    | none => exact .inl (by simp [step, hi, hn])
    | some r => exact .inr ⟨p, r.2, r.1, rfl, hn, step_eq hi hn⟩

theorem history_of_log {w w' : World α} {j : Nat} {e : Event} (h : w'.log = w.log ++ [(j, e)])
    (i : Nat) : w'.history i = w.history i ++ if j = i then [e] else [] := by
  simp only [history, h, List.filterMap_append, List.filterMap_cons, List.filterMap_nil]
  split_ifs <;> rfl

/-- Each goroutine's program is what its starting program leaves after the
goroutine's own events. -/
theorem Reach.after_history {env : Env} {threads : List (Prog α)} {w : World α}
    (hw : Reach env threads w) :
    w.threads.length = threads.length ∧
      ∀ i (hi : i < threads.length), threads[i].after (w.history i) = w.threads[i]? := by
  induction hw with
  | start => exact ⟨rfl, fun i hi => by simp [World.start, history]⟩
  | step j hw ih =>
    rename_i w
    obtain ⟨hlen, hafter⟩ := ih
    rcases step_cases env w j with h | ⟨p, q, e, hj, hn, h⟩
    · rw [h]; exact ⟨hlen, hafter⟩
    · rw [h]
      refine ⟨by simp [hlen], fun i hi => ?_⟩
      rw [history_of_log (w := w) rfl, Prog.after_append, hafter i hi]
      by_cases hij : j = i
      · subst hij
        have hjl : j < w.threads.length := (List.getElem?_eq_some_iff.1 hj).1
        simp [hj, Prog.feed_of_next hn, hjl]
      · simp [hij, List.getElem?_set_ne hij]

/-- The program of goroutine `i`, read back against its history. -/
theorem Reach.thread_after {env : Env} {threads : List (Prog α)} {w : World α}
    (hw : Reach env threads w) {i : Nat} {p : Prog α} (hp : threads[i]? = some p) :
    ∃ q, w.threads[i]? = some q ∧ p.after (w.history i) = some q := by
  obtain ⟨hi, rfl⟩ := List.getElem?_eq_some_iff.1 hp
  obtain ⟨hlen, hafter⟩ := hw.after_history
  have hq := hafter i hi
  have hi' : i < w.threads.length := hlen ▸ hi
  obtain ⟨q, hq'⟩ : ∃ q, w.threads[i]? = some q := ⟨w.threads[i], List.getElem?_eq_getElem hi'⟩
  exact ⟨q, hq', hq.trans hq'⟩

/-- The same for a run of goroutines started from a list of calls. -/
theorem Reach.thread_after_map {β : Type} {f : β → Prog α} {xs : List β} {env : Env} {w : World α}
    (hw : Reach env (xs.map f) w) {i : Nat} (hi : i < xs.length) :
    ∃ q, w.threads[i]? = some q ∧ (f xs[i]).after (w.history i) = some q :=
  hw.thread_after (by rw [List.getElem?_map, List.getElem?_eq_getElem hi]; rfl)

theorem mem_history {w : World α} {i : Nat} {e : Event} : e ∈ w.history i ↔ (i, e) ∈ w.log := by
  simp [history, eq_comm]

/-- Each event of the log was produced by a step from a reachable world whose log
is the part of the log before it. -/
theorem Reach.event_source {env : Env} {threads : List (Prog α)} {w : World α}
    (hw : Reach env threads w) : ∀ n i e, w.log[n]? = some (i, e) →
      ∃ w', Reach env threads w' ∧ w'.log = w.log.take n ∧
        ∃ p q, w'.threads[i]? = some p ∧ p.next env w'.shared n = some (e, q) := by
  induction hw with
  | start => simp [World.start]
  | step j hw ih =>
    rename_i w
    rcases step_cases env w j with h | ⟨p, q, e, hj, hn, h⟩
    · rwa [h]
    · rw [h]
      intro n i e' hne
      rcases lt_or_ge n w.log.length with hlt | hge
      · rw [List.getElem?_append_left hlt] at hne
        obtain ⟨w', hw', hlog, hp⟩ := ih n i e' hne
        exact ⟨w', hw', by simp [hlog, List.take_append_of_le_length hlt.le], hp⟩
      · rw [List.getElem?_append_right hge] at hne
        obtain ⟨hn0, hi, he⟩ : n = w.log.length ∧ j = i ∧ e = e' := by
          rcases h' : n - w.log.length with _ | k
          · rw [h'] at hne
            simp only [List.getElem?_cons_zero, Option.some.injEq, Prod.mk.injEq] at hne
            exact ⟨by omega, hne⟩
          · simp [h'] at hne
        subst hn0 hi he
        exact ⟨w, hw, by simp, p, q, hj, hn⟩

/-- A clock reading in the log is the clock at its position in the run. -/
theorem Reach.now_eq {env : Env} {threads : List (Prog α)} {w : World α}
    (hw : Reach env threads w) {n i : Nat} {t : Int} (h : w.log[n]? = some (i, .now t)) :
    t = env.now n := by
  obtain ⟨w', -, -, p, q, -, hn⟩ := hw.event_source n i _ h
  exact Prog.next_now hn

/-- A stack snapshot in the log is the runtime's stack at its position in the run. -/
theorem Reach.stack_eq {env : Env} {threads : List (Prog α)} {w : World α}
    (hw : Reach env threads w) {n i : Nat} {str : String} (h : w.log[n]? = some (i, .stack str)) :
    str = env.stack n := by
  obtain ⟨w', -, -, p, q, -, hn⟩ := hw.event_source n i _ h
  exact Prog.next_stack hn

theorem Reach.log_lt {env : Env} {threads : List (Prog α)} {w : World α}
    (hw : Reach env threads w) : ∀ x ∈ w.log, x.1 < threads.length := by
  induction hw with
  | start => simp [World.start]
  | step j hw ih =>
    rename_i w
    rcases step_cases env w j with h | ⟨p, q, e, hj, hn, h⟩
    · rw [h]; exact ih
    · rw [h]
      intro x hx
      rcases List.mem_append.1 hx with hx | hx
      · exact ih x hx
      · obtain rfl := List.mem_singleton.1 hx
        have := (List.getElem?_eq_some_iff.1 hj).1
        rw [hw.after_history.1] at this
        exact this

theorem step_self {env : Env} {w : World α} {i : Nat} {p q : Prog α} {e : Event}
    (hi : w.threads[i]? = some p) (hn : p.next env w.shared w.log.length = some (e, q)) :
    (w.step env i).threads[i]? = some q := by
  have hil : i < w.threads.length := (List.getElem?_eq_some_iff.1 hi).1
  simp [step_eq hi hn, hil]

theorem run_append (env : Env) (w : World α) (s₁ s₂ : List Nat) :
    w.run env (s₁ ++ s₂) = (w.run env s₁).run env s₂ := by
  induction s₁ generalizing w with
  | nil => rfl
  | cons i s ih => exact ih _

theorem length_run (env : Env) (w : World α) (sched : List Nat) :
    (w.run env sched).threads.length = w.threads.length := by
  induction sched generalizing w with
  | nil => rfl
  | cons i sched ih =>
    rw [run, ih]
    rcases step_cases env w i with h | ⟨p, q, e, -, -, h⟩ <;> rw [h]
    simp

/-- A goroutine that has ended stays as it is. -/
theorem thread_run_of_isDone (env : Env) {w : World α} {j : Nat} {q : Prog α}
    (hj : w.threads[j]? = some q) (hq : q.isDone) (sched : List Nat) :
    (w.run env sched).threads[j]? = some q := by
  induction sched generalizing w with
  | nil => exact hj
  | cons i sched ih =>
    refine ih ?_
    rcases step_cases env w i with h | ⟨p, q', e, hi, hn, h⟩
    · rwa [h]
    · rw [h]
      by_cases hij : i = j
      · subst hij
        rw [hi] at hj
        cases hj
        simp [Prog.next_eq_none.2 hq] at hn
      · simpa [List.getElem?_set_ne hij] using hj

/-- Scheduling one goroutine often enough ends it: programs are finite. -/
theorem exists_run_isDone (env : Env) (i : Nat) (p : Prog α) :
    ∀ w : World α, w.threads[i]? = some p →
      ∃ sched : List Nat, ∃ q, (w.run env sched).threads[i]? = some q ∧ q.isDone := by
  induction p with
  | pure a => exact fun w h => ⟨[], _, h, rfl⟩
  | panic v => exact fun w h => ⟨[], _, h, rfl⟩
  | now k ih | stack k ih | read c k ih | checkSeen str k ih =>
    intro w h
    obtain ⟨sched, q, hq, hd⟩ := ih _ _ (step_self h rfl)
    exact ⟨i :: sched, q, hq, hd⟩
  | append m l k ih | clear c k ih | send r k ih | logError err k ih =>
    intro w h
    obtain ⟨sched, q, hq, hd⟩ := ih _ (step_self h rfl)
    exact ⟨i :: sched, q, hq, hd⟩

/-! ### The `seen` set and the requests handed to `client.Do` -/

variable {env : Env} {threads : List (Prog α)} {w : World α}

theorem Reach.seen_sent_eq (hw : Reach env threads w) :
    w.shared.seen = w.events.filterMap Event.seenAdded ∧
      w.shared.sent = w.events.filterMap Event.sentRequest := by
  induction hw with
  | start => exact ⟨rfl, rfl⟩
  | step i hw ih =>
    rename_i w
    rcases step_cases env w i with h | ⟨p, q, e, -, -, h⟩
    · rwa [h]
    · rw [h]
      obtain ⟨h1, h2⟩ := ih
      unfold events at h1 h2 ⊢
      dsimp only
      rw [List.map_append, List.filterMap_append, List.filterMap_append, ← h1, ← h2]
      cases e with
      | checkSeen str b => cases b <;> simp [Shared.apply, Event.seenAdded, Event.sentRequest]
      | _ => simp [Shared.apply, Event.seenAdded, Event.sentRequest]

theorem Reach.mem_seen_iff (hw : Reach env threads w) {str : String} :
    str ∈ w.shared.seen ↔ ∃ i, (i, Event.checkSeen str false) ∈ w.log := by
  simp [hw.seen_sent_eq.1, events]

theorem Reach.mem_sent_iff (hw : Reach env threads w) {r : Request} :
    r ∈ w.shared.sent ↔ ∃ i, (i, Event.send r) ∈ w.log := by
  simp [hw.seen_sent_eq.2, events]

/-- A string is in `seen` once a `checkSeen` of it has run. -/
theorem Reach.mem_seen_of_checkSeen (hw : Reach env threads w) {i : Nat} {str : String} {b : Bool}
    (h : (i, Event.checkSeen str b) ∈ w.log) : str ∈ w.shared.seen := by
  obtain ⟨n, hn⟩ := List.mem_iff_getElem?.1 h
  obtain ⟨w', hw', hlog, p, q, -, hnext⟩ := hw.event_source n i _ hn
  cases b
  · exact hw.mem_seen_iff.2 ⟨i, h⟩
  · rw [hw.seen_sent_eq.1, events]
    have hseen : str ∈ w'.shared.seen := by simpa using Prog.next_checkSeen hnext
    rw [hw'.seen_sent_eq.1, events, hlog] at hseen
    exact (((List.take_sublist n w.log).map Prod.snd).filterMap Event.seenAdded).subset hseen

/-- Only one `checkSeen` of a string finds it unseen. -/
theorem Reach.checkSeen_false_unique (hw : Reach env threads w) {n n' i i' : Nat} {str : String}
    (h : w.log[n]? = some (i, .checkSeen str false))
    (h' : w.log[n']? = some (i', .checkSeen str false)) : n = n' := by
  wlog hlt : n < n' generalizing n n' i i'
  · rcases Nat.lt_or_ge n' n with hgt | hge
    · exact (this h' h hgt).symm
    · omega
  obtain ⟨w', hw', hlog, p, q, -, hnext⟩ := hw.event_source n' i' _ h'
  have hseen : str ∉ w'.shared.seen := by simpa using Prog.next_checkSeen hnext
  have hmem : (i, Event.checkSeen str false) ∈ w.log.take n' :=
    List.mem_iff_getElem?.2 ⟨n, by rw [List.getElem?_take_of_lt hlt, h]⟩
  refine absurd ?_ hseen
  rw [hw'.seen_sent_eq.1, events, hlog]
  exact List.mem_filterMap.2 ⟨_, List.mem_map_of_mem Prod.snd hmem, rfl⟩

/-- Only one goroutine finds a given string unseen. -/
theorem Reach.checkSeen_false_thread (hw : Reach env threads w) {i i' : Nat} {str : String}
    (h : (i, Event.checkSeen str false) ∈ w.log) (h' : (i', Event.checkSeen str false) ∈ w.log) :
    i = i' := by
  obtain ⟨n, hn⟩ := List.mem_iff_getElem?.1 h
  obtain ⟨n', hn'⟩ := List.mem_iff_getElem?.1 h'
  obtain rfl := hw.checkSeen_false_unique hn hn'
  simpa using hn.symm.trans hn'

/-- `seen` only grows. -/
theorem seen_prefix_step (env : Env) (w : World α) (i : Nat) :
    w.shared.seen <+: (w.step env i).shared.seen := by
  rcases step_cases env w i with h | ⟨p, q, e, -, -, h⟩
  · simp only [h, List.prefix_refl]
  · rw [h]
    cases e with
    | checkSeen str b => cases b <;> simp [Shared.apply]
    | _ => simp [Shared.apply]

theorem seen_prefix_run (env : Env) (w : World α) (sched : List Nat) :
    w.shared.seen <+: (w.run env sched).shared.seen := by
  induction sched generalizing w with
  | nil => exact List.prefix_refl _
  | cons i sched ih => exact (seen_prefix_step env w i).trans (ih _)

theorem countP_history (w : World α) (i : Nat) (p : Event → Bool) :
    (w.history i).countP p = w.log.countP fun x => x.1 = i ∧ p x.2 := by
  rw [history, List.countP_filterMap]
  congr 1
  funext x
  by_cases hx : x.1 = i <;> simp [hx]

/-- From every world some schedule ends every goroutine. -/
theorem exists_run_quiescent (env : Env) (w : World α) : ∃ sched, (w.run env sched).Quiescent := by
  -- end the goroutines one after another
  have hend : ∀ n : Nat, ∃ sched, ∀ j : Nat, j < n → ∀ q : Prog α,
      (w.run env sched).threads[j]? = some q → q.isDone := by
    intro n
    induction n with
    | zero => exact ⟨[], fun j hj => absurd hj (Nat.not_lt_zero j)⟩
    | succ n ih =>
      obtain ⟨sched, hs⟩ := ih
      cases hn : (w.run env sched).threads[n]? with
      | none =>
        refine ⟨sched, fun j hj q hq => ?_⟩
        rcases Nat.lt_succ_iff_lt_or_eq.1 hj with hj | rfl
        · exact hs j hj q hq
        · simp [hn] at hq
      | some p =>
        obtain ⟨sched', q, hq, hdone⟩ := exists_run_isDone env n p _ hn
        refine ⟨sched ++ sched', fun j hj q' hq' => ?_⟩
        rw [run_append] at hq'
        rcases Nat.lt_succ_iff_lt_or_eq.1 hj with hj | rfl
        · have hjl : j < (w.run env sched).threads.length := by
            have := (List.getElem?_eq_some_iff.1 hq').1
            rwa [length_run] at this
          have hdone' := hs j hj _ (List.getElem?_eq_getElem hjl)
          rw [thread_run_of_isDone env (List.getElem?_eq_getElem hjl) hdone'] at hq'
          exact Option.some.inj hq' ▸ hdone'
        · rw [hq] at hq'
          exact Option.some.inj hq' ▸ hdone
  obtain ⟨sched, hs⟩ := hend w.threads.length
  refine ⟨sched, fun q hq => ?_⟩
  obtain ⟨j, hj, rfl⟩ := List.getElem_of_mem hq
  exact hs j (by rwa [length_run] at hj) _ (List.getElem?_eq_getElem hj)

end World

end StatsigSdk
