import StatsigSdk.Diagnostics.Marker

/-! Goroutines as programs. A `Prog α` performs, one at a time, the operations
that touch state shared with other goroutines or with the outside world, and
ends by returning a value or panicking. Each operation is one critical section
or one call out of the process: reading the clock, taking a stack snapshot,
`mark`'s append under the timeline's lock (with the status line it logs while it
holds the lock), `clearMarkers` and `serialize` under the same lock, `checkSeen`
under `seenLock`, handing a request to `client.Do`, and `LogError`. Everything
between two operations is local to the goroutine. Programs are finite trees, so
every run of one ends. `Prog.after p es` is what is left of `p` once it has
performed the events `es` (an event is an operation with its answer); it is how a
goroutine's history in an interleaved run is read back against its code. -/

namespace StatsigSdk

inductive Prog (α : Type) where
  | pure (a : α)
  | panic (p : PanicValue)
  | now (k : Int → Prog α)
  | stack (k : String → Prog α)
  | append (m : Marker) (line : Option LogLine) (k : Prog α)
  | clear (c : DiagnosticsContext) (k : Prog α)
  | read (c : DiagnosticsContext) (k : Option (List Marker) → Prog α)
  | checkSeen (s : String) (k : Bool → Prog α)
  | send (r : Request) (k : Prog α)
  | logError (err : String) (k : Prog α)

/-- An operation together with its answer. -/
inductive Event where
  | now (t : Int)
  | stack (s : String)
  | append (m : Marker) (line : Option LogLine)
  | clear (c : DiagnosticsContext)
  | read (c : DiagnosticsContext) (markers : Option (List Marker))
  | checkSeen (s : String) (seen : Bool)
  | send (r : Request)
  | logError (err : String)
  deriving DecidableEq, Repr

namespace Prog

variable {α β : Type}

def bind : Prog α → (α → Prog β) → Prog β
  | .pure a, f => f a
  | .panic p, _ => .panic p
  | .now k, f => .now fun t => (k t).bind f
  | .stack k, f => .stack fun s => (k s).bind f
  | .append m l k, f => .append m l (k.bind f)
  | .clear c k, f => .clear c (k.bind f)
  | .read c k, f => .read c fun ms => (k ms).bind f
  | .checkSeen s k, f => .checkSeen s fun b => (k b).bind f
  | .send r k, f => .send r (k.bind f)
  | .logError e k, f => .logError e (k.bind f)

instance : Monad Prog where
  pure := .pure
  bind := bind

@[simp] theorem pure_eq (a : α) : (Pure.pure a : Prog α) = .pure a := rfl
@[simp] theorem bind_eq (p : Prog α) (f : α → Prog β) : p >>= f = p.bind f := rfl
@[simp] theorem pure_bind (a : α) (f : α → Prog β) : (Prog.pure a).bind f = f a := rfl
@[simp] theorem panic_bind (p : PanicValue) (f : α → Prog β) :
    (Prog.panic p : Prog α).bind f = .panic p := rfl

/-- Whether `p` has ended, returning or panicking. -/
def isDone : Prog α → Bool
  | .pure _ | .panic _ => true
  | _ => false

/-- What `p` becomes when it performs `e`, if `e` is its next operation. -/
def feed : Prog α → Event → Option (Prog α)
  | .now k, .now t => some (k t)
  | .stack k, .stack s => some (k s)
  | .append m l k, .append m' l' => if m = m' ∧ l = l' then some k else none
  | .clear c k, .clear c' => if c = c' then some k else none
  | .read c k, .read c' ms => if c = c' then some (k ms) else none
  | .checkSeen s k, .checkSeen s' b => if s = s' then some (k b) else none
  | .send r k, .send r' => if r = r' then some k else none
  | .logError e k, .logError e' => if e = e' then some k else none
  | _, _ => none

/-- What is left of `p` after it performs `es`, if it does. -/
def after (p : Prog α) : List Event → Option (Prog α)
  | [] => some p
  | e :: es => (p.feed e).bind fun q => q.after es

@[simp] theorem after_nil (p : Prog α) : p.after [] = some p := rfl

@[simp] theorem after_cons (p : Prog α) (e : Event) (es : List Event) :
    p.after (e :: es) = (p.feed e).bind fun q => q.after es := rfl

theorem after_append (p : Prog α) (es fs : List Event) :
    p.after (es ++ fs) = (p.after es).bind fun q => q.after fs := by
  induction es generalizing p with
  | nil => rfl
  | cons e es ih =>
    simp only [List.cons_append, after_cons, ih]
    cases p.feed e <;> rfl

theorem feed_isDone {p : Prog α} (h : p.isDone) (e : Event) : p.feed e = none := by
  cases p with
  | pure a => cases e <;> rfl
  | panic v => cases e <;> rfl
  | _ => simp [isDone] at h

theorem after_of_isDone {p : Prog α} {es : List Event} {q : Prog α}
    (hq : p.after es = some q) (h : p.isDone) : es = [] ∧ q = p := by
  cases es with
  | nil => simpa [eq_comm] using hq
  | cons e es => simp [feed_isDone h] at hq

@[simp] theorem after_pure_eq_some {a : α} {es : List Event} {q : Prog α} :
    (Prog.pure a).after es = some q ↔ es = [] ∧ q = .pure a :=
  ⟨fun h => after_of_isDone h rfl, by rintro ⟨rfl, rfl⟩; rfl⟩

@[simp] theorem after_panic_eq_some {v : PanicValue} {es : List Event} {q : Prog α} :
    (Prog.panic v).after es = some q ↔ es = [] ∧ q = .panic v :=
  ⟨fun h => after_of_isDone h rfl, by rintro ⟨rfl, rfl⟩; rfl⟩

theorem after_cons_eq_some {p q : Prog α} {e : Event} {es : List Event} :
    p.after (e :: es) = some q ↔ ∃ p', p.feed e = some p' ∧ p'.after es = some q := by
  simp [Option.bind_eq_some]

/-! The runs of each operation: it has not run yet, or it ran with some answer and
its continuation ran on. -/

@[simp] theorem after_now_eq_some {k : Int → Prog α} {es : List Event} {q : Prog α} :
    (Prog.now k).after es = some q ↔
      (es = [] ∧ q = .now k) ∨ ∃ t es', es = .now t :: es' ∧ (k t).after es' = some q := by
  cases es with
  | nil => simpa using eq_comm
  | cons e es => cases e <;> simp [feed, and_assoc]

@[simp] theorem after_stack_eq_some {k : String → Prog α} {es : List Event} {q : Prog α} :
    (Prog.stack k).after es = some q ↔
      (es = [] ∧ q = .stack k) ∨ ∃ s es', es = .stack s :: es' ∧ (k s).after es' = some q := by
  cases es with
  | nil => simpa using eq_comm
  | cons e es => cases e <;> simp [feed, and_assoc]

@[simp] theorem after_append_eq_some {m : Marker} {l : Option LogLine} {k : Prog α}
    {es : List Event} {q : Prog α} :
    (Prog.append m l k).after es = some q ↔
      (es = [] ∧ q = .append m l k) ∨ ∃ es', es = .append m l :: es' ∧ k.after es' = some q := by
  cases es with
  | nil => simpa using eq_comm
  | cons e es =>
    cases e with
    | append m' l' =>
      by_cases h : m = m' ∧ l = l'
      · obtain ⟨rfl, rfl⟩ := h
        simp [feed]
      · have h' : ¬(m' = m ∧ l' = l) := fun ⟨h₁, h₂⟩ => h ⟨h₁.symm, h₂.symm⟩
        simp [feed, h, h']
    | _ => simp [feed]

@[simp] theorem after_clear_eq_some {c : DiagnosticsContext} {k : Prog α} {es : List Event}
    {q : Prog α} :
    (Prog.clear c k).after es = some q ↔
      (es = [] ∧ q = .clear c k) ∨ ∃ es', es = .clear c :: es' ∧ k.after es' = some q := by
  cases es with
  | nil => simpa using eq_comm
  | cons e es =>
    cases e with
    | clear c' =>
      by_cases h : c = c'
      · subst h
        simp [feed]
      · simp [feed, h, Ne.symm h]
    | _ => simp [feed]

@[simp] theorem after_read_eq_some {c : DiagnosticsContext} {k : Option (List Marker) → Prog α}
    {es : List Event} {q : Prog α} :
    (Prog.read c k).after es = some q ↔
      (es = [] ∧ q = .read c k) ∨ ∃ ms es', es = .read c ms :: es' ∧ (k ms).after es' = some q := by
  cases es with
  | nil => simpa using eq_comm
  | cons e es =>
    cases e with
    | read c' ms =>
      by_cases h : c = c'
      · subst h
        simp [feed, and_assoc]
      · simp [feed, h, Ne.symm h]
    | _ => simp [feed]

@[simp] theorem after_checkSeen_eq_some {str : String} {k : Bool → Prog α} {es : List Event}
    {q : Prog α} :
    (Prog.checkSeen str k).after es = some q ↔
      (es = [] ∧ q = .checkSeen str k) ∨
        ∃ b es', es = .checkSeen str b :: es' ∧ (k b).after es' = some q := by
  cases es with
  | nil => simpa using eq_comm
  | cons e es =>
    cases e with
    | checkSeen str' b =>
      by_cases h : str = str'
      · subst h
        simp [feed, and_assoc]
      · simp [feed, h, Ne.symm h]
    | _ => simp [feed]

@[simp] theorem after_send_eq_some {r : Request} {k : Prog α} {es : List Event} {q : Prog α} :
    (Prog.send r k).after es = some q ↔
      (es = [] ∧ q = .send r k) ∨ ∃ es', es = .send r :: es' ∧ k.after es' = some q := by
  cases es with
  | nil => simpa using eq_comm
  | cons e es =>
    cases e with
    | send r' =>
      by_cases h : r = r'
      · subst h
        simp [feed]
      · simp [feed, h, Ne.symm h]
    | _ => simp [feed]

@[simp] theorem after_logError_eq_some {err : String} {k : Prog α} {es : List Event} {q : Prog α} :
    (Prog.logError err k).after es = some q ↔
      (es = [] ∧ q = .logError err k) ∨ ∃ es', es = .logError err :: es' ∧ k.after es' = some q := by
  cases es with
  | nil => simpa using eq_comm
  | cons e es =>
    cases e with
    | logError err' =>
      by_cases h : err = err'
      · subst h
        simp [feed]
      · simp [feed, h, Ne.symm h]
    | _ => simp [feed]

theorem feed_bind {p : Prog α} (h : p.isDone = false) (f : α → Prog β) (e : Event) :
    (p.bind f).feed e = (p.feed e).map fun q => q.bind f := by
  cases p with
  | pure a => simp [isDone] at h
  | panic v => simp [isDone] at h
  | _ => cases e <;> first | rfl | (dsimp only [bind, feed]; split <;> rfl)

/-- A run of `p >>= f` is a run of `p` still going, or a whole run of `p`
followed by a run of `f a`. -/
theorem after_bind {p : Prog α} {f : α → Prog β} {es : List Event} {q : Prog β}
    (h : (p.bind f).after es = some q) :
    (∃ p', p.after es = some p' ∧ q = p'.bind f) ∨
      ∃ es₁ es₂ a, es = es₁ ++ es₂ ∧ p.after es₁ = some (.pure a) ∧ (f a).after es₂ = some q := by
  induction es generalizing p with
  | nil => exact .inl ⟨p, rfl, by simpa [eq_comm] using h⟩
  | cons e es ih =>
    cases hd : p.isDone
    · rw [after_cons, feed_bind hd] at h
      cases hp : p.feed e with
      | none => simp [hp] at h
      | some p₁ =>
        simp only [hp, Option.map_some', Option.bind_some] at h
        rcases ih h with ⟨p', hp', rfl⟩ | ⟨es₁, es₂, a, rfl, h₁, h₂⟩
        · exact .inl ⟨p', by simp [hp, hp'], rfl⟩
        · exact .inr ⟨e :: es₁, es₂, a, rfl, by simp [hp, h₁], h₂⟩
    · cases p with
      | pure a => exact .inr ⟨[], e :: es, a, rfl, rfl, h⟩
      | panic v => simp [feed] at h
      | _ => simp [isDone] at hd

theorem after_bind_of_after {p p' : Prog α} {es : List Event} (h : p.after es = some p')
    (f : α → Prog β) : (p.bind f).after es = some (p'.bind f) := by
  induction es generalizing p with
  | nil => simp_all
  | cons e es ih =>
    cases hd : p.isDone
    · rw [after_cons, feed_bind hd]
      cases hp : p.feed e with
      | none => simp [hp] at h
      | some p₁ => simp only [hp, after_cons, Option.bind_some] at h ⊢; exact ih h
    · simp [feed_isDone (by simpa using hd)] at h

theorem after_bind_of_pure {p : Prog α} {es₁ es₂ : List Event} {a : α} {f : α → Prog β}
    {q : Prog β} (h₁ : p.after es₁ = some (.pure a)) (h₂ : (f a).after es₂ = some q) :
    (p.bind f).after (es₁ ++ es₂) = some q := by
  rw [after_append, after_bind_of_after h₁ f]
  exact h₂

/-- A continuation that only returns adds no operation. -/
theorem after_bind_pure (p : Prog α) (g : α → β) (es : List Event) :
    (p.bind fun a => .pure (g a)).after es = (p.after es).map fun q => q.bind fun a => .pure (g a) := by
  induction es generalizing p with
  | nil => rfl
  | cons e es ih =>
    cases hd : p.isDone
    · rw [after_cons, after_cons, feed_bind hd]
      cases p.feed e <;> simp [ih]
    · cases p with
      | pure a => simp [feed]
      | panic v => simp [feed]
      | _ => simp [isDone] at hd

/-! ### Panics and `defer` -/

/-- `p` with its end made a value: a return `a` is `.ok a`, a panic `v` is
`.error v`. -/
def outcome : Prog α → Prog (Except PanicValue α)
  | .pure a => .pure (.ok a)
  | .panic v => .pure (.error v)
  | .now k => .now fun t => (k t).outcome
  | .stack k => .stack fun s => (k s).outcome
  | .append m l k => .append m l k.outcome
  | .clear c k => .clear c k.outcome
  | .read c k => .read c fun ms => (k ms).outcome
  | .checkSeen s k => .checkSeen s fun b => (k b).outcome
  | .send r k => .send r k.outcome
  | .logError e k => .logError e k.outcome

theorem feed_outcome (p : Prog α) (e : Event) :
    p.outcome.feed e = (p.feed e).map outcome := by
  cases p <;> cases e <;> first | rfl | (dsimp only [outcome, feed]; split <;> rfl)

theorem after_outcome (p : Prog α) (es : List Event) :
    p.outcome.after es = (p.after es).map outcome := by
  induction es generalizing p with
  | nil => rfl
  | cons e es ih =>
    simp only [after_cons, feed_outcome]
    cases p.feed e <;> simp [ih]

theorem outcome_ne_panic (p : Prog α) (v : PanicValue) : p.outcome ≠ .panic v := by
  cases p <;> simp [outcome]

/-- The program that ends as `r` says: it returns `a` for `.ok a` and panics with
`v` for `.error v`. -/
def ofExcept : Except PanicValue α → Prog α
  | .ok a => .pure a
  | .error v => .panic v

theorem outcome_eq_pure {p : Prog α} {r : Except PanicValue α} :
    p.outcome = .pure r ↔ p = ofExcept r := by
  cases p <;> cases r <;> simp [outcome, ofExcept]

theorem after_outcome_eq_pure {p : Prog α} {es : List Event} {r : Except PanicValue α}
    (h : p.outcome.after es = some (.pure r)) : p.after es = some (ofExcept r) := by
  rw [after_outcome] at h
  obtain ⟨p', hp', hout⟩ := Option.map_eq_some'.1 h
  rwa [← outcome_eq_pure.1 hout]

theorem isDone_of_bind {p : Prog α} {f : α → Prog β} (h : (p.bind f).isDone) : p.isDone := by
  cases p <;> simp_all [bind, isDone]

/-- A run of `p >>= f` that has ended: a whole run of `p` returning `a` followed by
a run of `f a`, or a run of `p` that panicked. -/
theorem after_bind_done {p : Prog α} {f : α → Prog β} {es : List Event} {q : Prog β}
    (h : (p.bind f).after es = some q) (hq : q.isDone) :
    (∃ es₁ es₂ a, es = es₁ ++ es₂ ∧ p.after es₁ = some (.pure a) ∧ (f a).after es₂ = some q) ∨
      ∃ v, p.after es = some (.panic v) ∧ q = .panic v := by
  rcases after_bind h with ⟨p', hp', rfl⟩ | h
  · cases p' with
    | pure a => exact .inl ⟨es, [], a, by simp, hp', rfl⟩
    | panic v => exact .inr ⟨v, hp', rfl⟩
    | _ => simp [bind, isDone] at hq
  · exact .inl h

/-- What `recover()` returns in a deferred call after the function's body ended
as `r`: `nil` after a return, the panic value after a panic (`nil` again for a
`nil` panic value). -/
def recovered : Except PanicValue α → PanicValue
  | .ok _ => none
  | .error v => v

/-- What the function returns once its body ended as `r` and its deferred call
returned: the body's value, or the zero value of its result type after a
recovered panic. -/
def returned [Inhabited α] : Except PanicValue α → α
  | .ok a => a
  | .error _ => default

/-- A function whose body is `p` and whose first statement is `defer f()`, where
`f` gets what `recover()` returns. -/
def deferRecover [Inhabited α] (p : Prog α) (f : PanicValue → Prog Unit) : Prog α :=
  p.outcome.bind fun r => (f (recovered r)).bind fun _ => .pure (returned r)

/-- A call of such a function that has ended: its body ended as `r`, then the
deferred call ran to its end, and the function ended as the deferred call did. -/
theorem after_deferRecover_done [Inhabited α] {p : Prog α} {f : PanicValue → Prog Unit}
    {es : List Event} {q : Prog α} (h : (deferRecover p f).after es = some q) (hq : q.isDone) :
    ∃ es₁ es₂ r q', es = es₁ ++ es₂ ∧ p.after es₁ = some (ofExcept r) ∧
      (f (recovered r)).after es₂ = some q' ∧ q'.isDone ∧ q = q'.bind fun _ => .pure (returned r) := by
  rcases after_bind_done h hq with ⟨es₁, es₂, r, rfl, h₁, h₂⟩ | ⟨v, hv, -⟩
  · refine ⟨es₁, es₂, r, ?_⟩
    rcases after_bind_done h₂ hq with ⟨es₂₁, es₂₂, u, rfl, h₂₁, h₂₂⟩ | ⟨v, hv, rfl⟩
    · obtain ⟨rfl, rfl⟩ := after_pure_eq_some.1 h₂₂
      exact ⟨.pure u, rfl, after_outcome_eq_pure h₁, by simpa using h₂₁, rfl, rfl⟩
    · exact ⟨.panic v, rfl, after_outcome_eq_pure h₁, hv, rfl, rfl⟩
  · rw [after_outcome] at hv
    obtain ⟨p', -, hout⟩ := Option.map_eq_some'.1 hv
    exact absurd hout (outcome_ne_panic p' v)

end Prog

/-! ### The operations in `do` blocks -/

/-- `time.Now()`, in nanoseconds since the epoch. -/
def getNow : Prog Int := .now .pure

/-- `runtime.Stack(stack, false)` into a 1024-byte buffer, as a string. -/
def runtimeStack : Prog String := .stack .pure

/-- `client.Do(req)`, its answer ignored. -/
def sendRequest (req : Request) : Prog Unit := .send req (.pure ())

/-- `global.Logger().LogError(err)`. -/
def logErrorLine (err : String) : Prog Unit := .logError err (.pure ())

end StatsigSdk
