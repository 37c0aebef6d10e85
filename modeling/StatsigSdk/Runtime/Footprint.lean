import Mathlib.Data.List.FinRange
import Mathlib.Data.List.OfFn
import Mathlib.Data.List.Perm.Basic
import StatsigSdk.Runtime.World

/-! What a program can do, read off its tree, and a run as the merge of its
goroutines' histories. `p.Emits S P` says that every operation `p` can perform,
whatever the answer, is an event satisfying `S`, and that `p` ends, returning or
panicking, as `P` allows. It is a property of the program, proved once per function
and composed along `bind`; and it bounds every run: each event
of a run satisfies `S`, and what is left still does and ends as `P` says. Proved
besides: a run of a function with a deferred call is a run of its body still going
or a whole run of its body followed by a run of the deferred call; the events of a
run are a permutation of its goroutines' histories taken one after another, each
history keeping its order; and the global logger got the lines of the run's events. -/

namespace StatsigSdk

namespace Prog

variable {α β : Type}

/-- Every operation of `p` satisfies `S`, and `p` ends as `P` allows. -/
def Emits (S : Event → Prop) (P : Except PanicValue α → Prop) : Prog α → Prop
  | .pure a => P (.ok a)
  | .panic v => P (.error v)
  | .now k => ∀ t, S (.now t) ∧ (k t).Emits S P
  | .stack k => ∀ s, S (.stack s) ∧ (k s).Emits S P
  | .append m l k => S (.append m l) ∧ k.Emits S P
  | .clear c k => S (.clear c) ∧ k.Emits S P
  | .read c k => ∀ ms, S (.read c ms) ∧ (k ms).Emits S P
  | .checkSeen s k => ∀ b, S (.checkSeen s b) ∧ (k b).Emits S P
  | .send r k => S (.send r) ∧ k.Emits S P
  | .logError e k => S (.logError e) ∧ k.Emits S P

variable {S S' : Event → Prop} {P P' : Except PanicValue α → Prop}
  {Q : Except PanicValue β → Prop}

@[simp] theorem emits_ofExcept {r : Except PanicValue α} : (ofExcept r).Emits S P ↔ P r := by
  cases r <;> rfl

theorem Emits.mono {p : Prog α} (h : p.Emits S P) (hS : ∀ e, S e → S' e)
    (hP : ∀ r, P r → P' r) : p.Emits S' P' := by
  induction p with
  | pure a => exact hP _ h
  | panic v => exact hP _ h
  | now k ih | stack k ih | read c k ih | checkSeen s k ih =>
    exact fun x => ⟨hS _ (h x).1, ih x (h x).2⟩
  | append m l k ih | clear c k ih | send r k ih | logError e k ih => exact ⟨hS _ h.1, ih h.2⟩

theorem Emits.feed {p q : Prog α} {e : Event} (hp : p.Emits S P) (h : p.feed e = some q) :
    S e ∧ q.Emits S P := by
  cases p <;> cases e <;> simp only [Prog.feed, reduceCtorEq] at h
  all_goals
    try split_ifs at h with hc
    try obtain ⟨rfl, rfl⟩ := hc
  all_goals cases h
  all_goals first | exact hp _ | exact hp

/-- Every event of a run satisfies `S`, and what is left still emits `S`. -/
theorem Emits.after {p q : Prog α} {es : List Event} (hp : p.Emits S P)
    (h : p.after es = some q) : (∀ e ∈ es, S e) ∧ q.Emits S P := by
  induction es generalizing p with
  | nil =>
    obtain rfl : p = q := by simpa using h
    exact ⟨fun _ he => absurd he (List.not_mem_nil _), hp⟩
  | cons e es ih =>
    obtain ⟨p', hf, h⟩ := after_cons_eq_some.1 h
    obtain ⟨he, hp'⟩ := hp.feed hf
    obtain ⟨hes, hq⟩ := ih hp' h
    exact ⟨List.forall_mem_cons.2 ⟨he, hes⟩, hq⟩

/-- A run that has ended ended as `P` allows. -/
theorem Emits.after_ofExcept {p : Prog α} {es : List Event} {r : Except PanicValue α}
    (hp : p.Emits S P) (h : p.after es = some (ofExcept r)) : P r :=
  emits_ofExcept.1 (hp.after h).2

theorem Emits.bind {p : Prog α} {f : α → Prog β} (hp : p.Emits S P)
    (hf : ∀ a, P (.ok a) → (f a).Emits S Q) (hv : ∀ v, P (.error v) → Q (.error v)) :
    (p.bind f).Emits S Q := by
  induction p with
  | pure a => exact hf a hp
  | panic v => exact hv v hp
  | now k ih | stack k ih | read c k ih | checkSeen s k ih => exact fun x => ⟨(hp x).1, ih x (hp x).2⟩
  | append m l k ih | clear c k ih | send r k ih | logError e k ih => exact ⟨hp.1, ih hp.2⟩

/-! ### Runs of a function with a deferred call -/

/-- A run of `deferRecover p f` is a run of `p` still going, in which the function
has not returned, or a whole run of `p` ending as `r` followed by a run of the
deferred call on what `recover()` returns, which has ended if the function has. -/
theorem after_deferRecover [Inhabited α] {p : Prog α} {f : PanicValue → Prog Unit}
    {es : List Event} {q : Prog α} (h : (deferRecover p f).after es = some q) :
    (∃ p', p.after es = some p' ∧ q.isDone = false) ∨
      ∃ es₁ es₂ r q', es = es₁ ++ es₂ ∧ p.after es₁ = some (ofExcept r) ∧
        (f (recovered r)).after es₂ = some q' ∧ (q.isDone → q'.isDone) := by
  rcases after_bind h with ⟨p', hp', rfl⟩ | ⟨es₁, es₂, r, rfl, h₁, h₂⟩
  · rw [after_outcome] at hp'
    obtain ⟨p'', hp'', rfl⟩ := Option.map_eq_some'.1 hp'
    cases p'' with
    | pure a => exact .inr ⟨es, [], .ok a, _, by simp, hp'', rfl, isDone_of_bind (p := f none)⟩
    | panic v => exact .inr ⟨es, [], .error v, _, by simp, hp'', rfl, isDone_of_bind (p := f v)⟩
    | _ => exact .inl ⟨_, hp'', rfl⟩
  · refine .inr ⟨es₁, es₂, r, ?_⟩
    rcases after_bind h₂ with ⟨q', hq', rfl⟩ | ⟨es₂₁, es₂₂, u, rfl, h₂₁, h₂₂⟩
    · exact ⟨q', rfl, after_outcome_eq_pure h₁, hq', isDone_of_bind⟩
    · obtain ⟨rfl, rfl⟩ := after_pure_eq_some.1 h₂₂
      exact ⟨.pure u, by simp, after_outcome_eq_pure h₁, by simpa using h₂₁, fun _ => rfl⟩

end Prog

/-! ### A run as the merge of its goroutines' histories -/

/-- The lines an event hands to the global logger. -/
def Event.loggedLines : Event → List LogLine
  | .append _ line => line.toList
  | .logError err => [.error err]
  | _ => []

namespace World

variable {α : Type} {env : Env} {threads : List (Prog α)} {w : World α}

/-- Of the blocks indexed below `n`, a block kept only at index `a` is that block. -/
theorem flatMap_range_ite {β : Type} {n a : Nat} (ha : a < n) (F : List β) :
    (List.range n).flatMap (fun i => if a = i then F else []) = F := by
  induction n with
  | zero => omega
  | succ n ih =>
    rw [List.range_succ, List.flatMap_append, List.flatMap_singleton]
    rcases Nat.lt_succ_iff_lt_or_eq.1 ha with ha | rfl
    · simp [ih ha, Nat.ne_of_lt ha]
    · have h0 : (List.range a).flatMap (fun i => if a = i then F else []) = [] :=
        List.flatMap_eq_nil_iff.2 fun i hi => if_neg (Nat.ne_of_gt (List.mem_range.1 hi))
      simp [h0]

/-- Blocks indexed by the positions of a list are the blocks of its elements. -/
theorem flatMap_range_length {β γ : Type} (xs : List β) {G : Nat → List γ} {g : β → List γ}
    (h : ∀ i (hi : i < xs.length), G i = g xs[i]) :
    (List.range xs.length).flatMap G = xs.flatMap g := by
  conv_rhs => rw [← List.ofFn_getElem xs]
  rw [List.ofFn_eq_map, ← List.map_coe_finRange, List.flatMap_map, List.flatMap_map]
  exact List.flatMap_congr fun i _ => h i i.2

/-- A log of goroutines below `n` is a permutation of its goroutines' events
taken one goroutine after another. -/
theorem perm_histories {n : Nat} (L : List (Nat × Event)) (hL : ∀ x ∈ L, x.1 < n) :
    (L.map Prod.snd).Perm
      ((List.range n).flatMap fun i => L.filterMap fun x => if x.1 = i then some x.2 else none) := by
  induction L with
  | nil => simp
  | cons x L ih =>
    have hx : x.1 < n := hL x (List.mem_cons_self x L)
    calc x.2 :: L.map Prod.snd
        = (List.range n).flatMap (fun i => if x.1 = i then [x.2] else []) ++ L.map Prod.snd := by
          rw [flatMap_range_ite hx]; rfl
      List.Perm _ ((List.range n).flatMap (fun i => if x.1 = i then [x.2] else []) ++
          (List.range n).flatMap (fun i => L.filterMap fun y => if y.1 = i then some y.2 else none)) :=
          (ih fun y hy => hL y (List.mem_cons_of_mem x hy)).append_left _
      List.Perm _ _ := List.flatMap_append_perm _ _ _
      _ = _ := List.flatMap_congr fun i _ => by by_cases h : x.1 = i <;> simp [h]

theorem history_sublist (w : World α) (i : Nat) : (w.history i).Sublist w.events := by
  unfold history events
  generalize w.log = L
  induction L with
  | nil => exact .slnil
  | cons x L ih =>
    by_cases h : x.1 = i
    · simpa [h] using ih.cons_cons x.2
    · simpa [h] using ih.cons x.2

/-- The events of a run are its goroutines' histories, merged. -/
theorem Reach.events_perm (hw : Reach env threads w) :
    w.events.Perm ((List.range threads.length).flatMap w.history) :=
  perm_histories w.log hw.log_lt

/-- The global logger got the lines of the run's events, in order. -/
theorem Reach.logged_eq (hw : Reach env threads w) :
    w.shared.logged = w.events.flatMap Event.loggedLines := by
  induction hw with
  | start => rfl
  | step i hw ih =>
    rename_i w
    rcases step_cases env w i with h | ⟨p, q, e, -, -, h⟩
    · rwa [h]
    · rw [h]
      cases e with
      | checkSeen str b => cases b <;> simp [Shared.apply, Event.loggedLines, events, ih]
      | _ => simp [Shared.apply, Event.loggedLines, events, ih]

end World

end StatsigSdk
