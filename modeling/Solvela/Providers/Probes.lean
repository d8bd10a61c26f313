import Solvela.Lib.Runs
import Solvela.Providers.Fallback

/-!
# Half-open probes under concurrency

Any number of fallback loops run against one tracker, one command at a time, at any instants of
the clock, and a loop's future can be dropped before any of its commands.

A check that passes admits its request to a circuit until the request reports an outcome to it:
the request has a *slot*. The slot is a probe if the circuit was not closed, and then the check
has set `probe_in_flight`. Slots are not in the source, whose flag does not say whose it is; they
are kept beside the state to speak about it.

Two things go wrong. A request whose model check took the probe slot is turned away by the
provider check, or dropped, and the flag stays set with nobody to clear it. And an outcome is
applied to whatever state its circuit is in, so that a request admitted before the circuit opened
ends a probe that is not its own.

* `execute_inLoop`, the slots of a call follow what its program owes;
* `step_task` and `effect_quiet`, what a step does to the slots of the other calls;
* `ownOutcome_of_not_late` and `not_late_of_ownOutcome`, which outcomes end a probe.
-/

namespace Solvela.Providers

open Solvela.Lib

/-! ## What a loop owes -/

section Loops
variable {α β : Type}

/-- How a reply changes the circuits that a loop was admitted to. A request that its provider
refuses goes on to the next link without having been sent. -/
def moveSlots (g : List Circuit) : (c : Cmd) → Reply α c → List Circuit
  | .isAvailable c, true => c :: g
  | .isAvailable (.provider _), false => []
  | .isAvailable (.model _), false => g
  | .dispatch _ _, _ => g
  | .record c _, _ => g.filter (· ≠ c)

/-- The circuits a loop is admitted to when it sends a command. -/
def SlotsAt (g : List Circuit) : Cmd → Prop
  | .isAvailable (.model _) => g = []
  | .isAvailable (.provider _) => g = [] ∨ ∃ k, g = [.model k]
  | .dispatch provider _ => g = [.provider provider] ∨ ∃ k, g = [.provider provider, .model k]
  | .record (.model k) _ => ∃ p, g = [.provider p, .model k]
  | .record (.provider p) _ => g = [.provider p]

/-- A program that reports to every circuit it is admitted to. -/
def InLoop (g : List Circuit) (p : Prog Cmd (Reply α) β) : Prop :=
  Prog.Meets ⟨moveSlots, fun _ _ _ => True⟩ SlotsAt (fun g _ => g = []) g p

/-- Reporting to a model and its provider settles both. -/
theorem recordModel_inLoop {provider model : String} {success : Bool}
    {next : Unit → Prog Cmd (Reply α) β} (h : InLoop [] (next ())) :
    InLoop [.provider provider, modelKey provider model]
      (recordModel provider model success >>= next) := by
  refine ⟨⟨provider, rfl⟩, ?_⟩
  intro _ _
  have hmodel : moveSlots (α := α) [.provider provider, modelKey provider model]
      (.record (modelKey provider model) success) () = [.provider provider] := by
    simp [moveSlots, modelKey]
  show InLoop (moveSlots (α := α) [.provider provider, modelKey provider model]
    (.record (modelKey provider model) success) ())
    (Prog.call (.record (.provider provider) success) next)
  rw [hmodel]
  refine ⟨rfl, ?_⟩
  intro _ _
  have hprovider : moveSlots (α := α) [.provider provider]
      (.record (.provider provider) success) () = [] := by
    simp [moveSlots]
  show InLoop (moveSlots (α := α) [.provider provider] (.record (.provider provider) success) ())
    (next ())
  rw [hprovider]
  exact h

theorem modelLoop_inLoop (skip : String → String → Bool) (exhausted : ProviderError)
    (wasFallback : String → String → Bool) (original : String) (chain : List (String × String))
    (lastError : Option ProviderError) :
    InLoop [] (modelLoop (α := α) skip exhausted wasFallback original chain lastError) := by
  induction chain generalizing lastError with
  | nil => exact rfl
  | cons link rest ih =>
    obtain ⟨provider, model⟩ := link
    unfold modelLoop
    split
    · exact ih lastError
    · refine Prog.Meets.ask rfl ?_
      intro modelAvailable _
      cases modelAvailable with
      | false => exact ih lastError
      | true =>
        refine Prog.Meets.ask (Or.inr ⟨_, rfl⟩) ?_
        intro providerAvailable _
        cases providerAvailable with
        | false => exact ih lastError
        | true =>
          refine Prog.Meets.ask (Or.inr ⟨_, rfl⟩) ?_
          intro outcome _
          cases outcome with
          | ok response => exact recordModel_inLoop rfl
          | error e => exact recordModel_inLoop (ih (some e))

theorem providerLoop_inLoop (skip : String → Bool) (exhausted : ProviderError) (model : String)
    (names : List String) (lastError : Option ProviderError) :
    InLoop [] (providerLoop (α := α) skip exhausted model names lastError) := by
  induction names generalizing lastError with
  | nil => exact rfl
  | cons name rest ih =>
    have hprovider (success : Bool) :
        moveSlots (α := α) [.provider name] (.record (.provider name) success) () = [] := by
      simp [moveSlots]
    unfold providerLoop
    split
    · exact ih lastError
    · refine Prog.Meets.ask (Or.inl rfl) ?_
      intro available _
      cases available with
      | false => exact ih lastError
      | true =>
        -- a probe that is taken is recorded before the loop goes on
        refine Prog.Meets.ask (Or.inl rfl) ?_
        intro outcome _
        cases outcome with
        | ok response =>
          refine Prog.Meets.ask rfl ?_
          intro _ _
          exact hprovider true
        | error e =>
          refine Prog.Meets.ask rfl ?_
          intro _ _
          show InLoop (moveSlots (α := α) [.provider name] (.record (.provider name) false) ()) _
          rw [hprovider false]
          exact ih (some e)

/-- The program reports to the circuit: whatever the upstream answers, and unless the provider
check it may still have before it refuses. -/
def WillRecord (c : Circuit) : Prog Cmd (Reply α) β → Prop
  | .done _ => False
  | .call (.isAvailable (.model _)) _ => False
  | .call (.isAvailable (.provider _)) next => WillRecord c (next true)
  | .call (.dispatch _ _) next => ∀ outcome, WillRecord c (next outcome)
  | .call (.record c' _) next => c' = c ∨ WillRecord c (next ())

/-- A loop reports to every circuit it is admitted to. -/
theorem InLoop.willRecord {c : Circuit} {g : List Circuit} {p : Prog Cmd (Reply α) β}
    (h : InLoop g p) (hc : c ∈ g) : WillRecord c p := by
  induction p generalizing g with
  | done a =>
    have hempty : g = [] := h
    rw [hempty] at hc
    exact absurd hc (List.not_mem_nil)
  | call cmd next ih =>
    cases cmd with
    | isAvailable circuit =>
      cases circuit with
      | model k =>
        have hempty : g = [] := h.1
        rw [hempty] at hc
        exact absurd hc (List.not_mem_nil)
      | provider p => exact ih true (h.2 true trivial) (List.mem_cons_of_mem _ hc)
    | dispatch provider model =>
      intro outcome
      exact ih outcome (h.2 outcome trivial) hc
    | record circuit success =>
      by_cases heq : circuit = c
      · exact Or.inl heq
      · right
        apply ih () (h.2 () trivial)
        exact List.mem_filter.mpr ⟨hc, by simpa using fun h => heq h.symm⟩

end Loops

/-! ## The system -/

/-- A call of one of the six functions. -/
inductive Caller
  | chatWithModelFallback (gateway : Gateway) (hasImages : Bool) (provider model : String)
  | streamWithModelFallback (gateway : Gateway) (hasImages : Bool) (provider model : String)
  | chatWithChain (gateway : Gateway) (hasImages : Bool) (chain : List (String × String))
      (original : String)
  | streamWithChain (gateway : Gateway) (hasImages : Bool) (chain : List (String × String))
      (original : String)
  | chatWithFallback (gateway : Gateway) (hasImages : Bool) (names : List String)
      (model : String)
  | streamWithFallback (gateway : Gateway) (hasImages : Bool) (names : List String)
      (model : String)

/-- The admission of a request to a circuit, as its probe or not. -/
structure Slot where
  circuit : Circuit
  probe : Bool
deriving DecidableEq

section System
variable {α : Type}

/-- The program of a call, its result aside. -/
def Caller.prog : Caller → Prog Cmd (Reply α) Unit
  | .chatWithModelFallback gateway hasImages provider model => do
    let _ ← Providers.chatWithModelFallback gateway hasImages provider model
  | .streamWithModelFallback gateway hasImages provider model => do
    let _ ← Providers.streamWithModelFallback gateway hasImages provider model
  | .chatWithChain gateway hasImages chain original => do
    let _ ← Providers.chatWithChain gateway hasImages chain original
  | .streamWithChain gateway hasImages chain original => do
    let _ ← Providers.streamWithChain gateway hasImages chain original
  | .chatWithFallback gateway hasImages names model => do
    let _ ← Providers.chatWithFallback gateway hasImages names model
  | .streamWithFallback gateway hasImages names model => do
    let _ ← Providers.streamWithFallback gateway hasImages names model

variable (α)

/-- A running call: what is left of it, nothing once it was dropped, and its slots. -/
structure Task where
  prog : Option (Prog Cmd (Reply α) Unit)
  slots : List Slot

structure System where
  health : Tracker
  tasks : List (Task α)

/-- What happens next: a call starts, call `i` goes on at some instant (with what the upstream
answers, if it is asked), or its future is dropped. -/
inductive Label
  | spawn (caller : Caller)
  | step (i now latencyMs : ℕ) (outcome : Except ProviderError α)
  | drop (i : ℕ)

variable {α}

/-- The slots after a check. -/
def afterCheck (slots : List Slot) (c : Circuit) (admitted probe : Bool) : List Slot :=
  if admitted then ⟨c, probe⟩ :: slots
  else
    match c with
    | .provider _ => []
    | .model _ => slots

/-- One command of a call. -/
def execute (cfg : CircuitBreakerConfig) (now latencyMs : ℕ) (outcome : Except ProviderError α)
    (health : Tracker) (slots : List Slot) :
    (c : Cmd) → (Reply α c → Prog Cmd (Reply α) Unit) → Tracker × Task α
  | .isAvailable c, next =>
    let answer := health.isAvailable cfg now c
    (answer.2,
      { prog := some (next answer.1)
        slots := afterCheck slots c answer.1 (decide (health.stateOf c ≠ .closed)) })
  | .dispatch _ _, next => (health, { prog := some (next outcome), slots := slots })
  | .record c success, next =>
    (health.record cfg now c success latencyMs,
      { prog := some (next ()), slots := slots.filter (·.circuit ≠ c) })

def step (cfg : CircuitBreakerConfig) (s : System α) : Label α → System α
  | .spawn caller => { s with tasks := s.tasks ++ [⟨some caller.prog, []⟩] }
  | .drop i => { s with tasks := s.tasks.set i ⟨none, []⟩ }
  | .step i now latencyMs outcome =>
    match s.tasks[i]? with
    | some ⟨some (.call c next), slots⟩ =>
      let after := execute cfg now latencyMs outcome s.health slots c next
      { health := after.1, tasks := s.tasks.set i after.2 }
    | _ => s

/-- The tracker of a gateway that just started. -/
def start : System α where
  health := fun _ => none
  tasks := []

/-! ## One command -/

/-- What a command does to the tracker and to the slots of its call: the check is refused,
passes a closed circuit or takes the probe slot, and a report frees the slot it is for. -/
inductive Moves (cfg : CircuitBreakerConfig) (now : ℕ) (health : Tracker) (slots : List Slot) :
    Cmd → Tracker → List Slot → Prop
  | refused (c : Circuit) (hno : (health.isAvailable cfg now c).1 = false) :
      Moves cfg now health slots (.isAvailable c) health (afterCheck slots c false false)
  | admitted (c : Circuit) (hclosed : health.stateOf c = .closed) :
      Moves cfg now health slots (.isAvailable c) health (⟨c, false⟩ :: slots)
  | probe (c : Circuit) (health' : Tracker) (hopen : health.stateOf c ≠ .closed)
      (hfree : health.stateOf c = .halfOpen → health.probing c = false)
      (hhalf : health'.stateOf c = .halfOpen) (htaken : health'.probing c = true)
      (hother : ∀ c', c' ≠ c → health' c' = health c') :
      Moves cfg now health slots (.isAvailable c) health' (⟨c, true⟩ :: slots)
  | dispatched (provider model : String) :
      Moves cfg now health slots (.dispatch provider model) health slots
  | recorded (c : Circuit) (success : Bool) (latencyMs : ℕ) :
      Moves cfg now health slots (.record c success)
        (health.record cfg now c success latencyMs) (slots.filter (·.circuit ≠ c))

variable {cfg : CircuitBreakerConfig} {s : System α}

theorem execute_moves (now latencyMs : ℕ) (outcome : Except ProviderError α) (health : Tracker)
    (slots : List Slot) (c : Cmd) (next : Reply α c → Prog Cmd (Reply α) Unit) :
    Moves cfg now health slots c (execute cfg now latencyMs outcome health slots c next).1
      (execute cfg now latencyMs outcome health slots c next).2.slots := by
  cases c with
  | isAvailable c =>
    show Moves cfg now health slots _ (health.isAvailable cfg now c).2
      (afterCheck slots c (health.isAvailable cfg now c).1
        (decide (health.stateOf c ≠ .closed)))
    rcases health.isAvailable_cases cfg now c with
      hno | ⟨hclosed, hyes⟩ | ⟨hopen, hfree, hyes, hhalf, htaken, hother⟩
    · rw [hno]
      exact Moves.refused c (by rw [hno])
    · rw [hyes, decide_eq_false (not_not.mpr hclosed)]
      exact Moves.admitted c hclosed
    · rw [hyes, decide_eq_true hopen]
      exact Moves.probe c _ hopen hfree hhalf htaken hother
  | dispatch provider model => exact Moves.dispatched provider model
  | record c success => exact Moves.recorded c success latencyMs

/-- The slots of a call follow what its program owes. -/
theorem execute_inLoop (cfg : CircuitBreakerConfig) (now latencyMs : ℕ)
    (outcome : Except ProviderError α) (health : Tracker) {slots : List Slot} {c : Cmd}
    {next : Reply α c → Prog Cmd (Reply α) Unit}
    (h : InLoop (slots.map (·.circuit)) (Prog.call c next)) :
    ∃ p, (execute cfg now latencyMs outcome health slots c next).2.prog = some p ∧
      InLoop ((execute cfg now latencyMs outcome health slots c next).2.slots.map (·.circuit))
        p := by
  cases c with
  | isAvailable c =>
    refine ⟨_, rfl, ?_⟩
    have hnext := h.2 (health.isAvailable cfg now c).1 trivial
    show InLoop ((afterCheck slots c (health.isAvailable cfg now c).1
      (decide (health.stateOf c ≠ .closed))).map (·.circuit)) _
    revert hnext
    cases (health.isAvailable cfg now c).1 with
    | true => exact id
    | false => cases c <;> exact id
  | dispatch provider model => exact ⟨_, rfl, h.2 outcome trivial⟩
  | record c success =>
    refine ⟨_, rfl, ?_⟩
    have hnext := h.2 () trivial
    show InLoop ((slots.filter (·.circuit ≠ c)).map (·.circuit)) _
    have hmap : (slots.filter (·.circuit ≠ c)).map (·.circuit)
        = (slots.map (·.circuit)).filter (· ≠ c) := by
      rw [List.filter_map]
      rfl
    rw [hmap]
    exact hnext

/-- A call that goes on executes its next command; one that has none is left as it is. -/
theorem step_task (cfg : CircuitBreakerConfig) (s : System α) (i now latencyMs : ℕ)
    (outcome : Except ProviderError α) :
    (∃ c next slots, s.tasks[i]? = some ⟨some (.call c next), slots⟩ ∧
      step cfg s (.step i now latencyMs outcome) =
        { health := (execute cfg now latencyMs outcome s.health slots c next).1
          tasks := s.tasks.set i (execute cfg now latencyMs outcome s.health slots c next).2 }) ∨
    (step cfg s (.step i now latencyMs outcome) = s ∧
      ∀ c next slots, s.tasks[i]? ≠ some ⟨some (.call c next), slots⟩) := by
  cases hi : s.tasks[i]? with
  | none =>
    right
    exact ⟨by simp [step, hi], by simp⟩
  | some t =>
    obtain ⟨prog, slots⟩ := t
    cases prog with
    | none =>
      right
      exact ⟨by simp [step, hi], by simp⟩
    | some p =>
      cases p with
      | done a =>
        right
        exact ⟨by simp [step, hi], by simp⟩
      | call c next =>
        left
        exact ⟨c, next, slots, rfl, by simp [step, hi]⟩

/-- What is left of a call owes a report to each of its slots. -/
def Task.Owes (t : Task α) : Prop :=
  match t.prog with
  | none => t.slots = []
  | some p => InLoop (t.slots.map (·.circuit)) p

theorem Caller.inLoop (caller : Caller) : InLoop [] (caller.prog (α := α)) := by
  have hbind {β : Type} {p : Prog Cmd (Reply α) β} (h : InLoop [] p) :
      InLoop [] (p >>= fun _ => (pure () : Prog Cmd (Reply α) Unit)) :=
    Prog.Meets.bind h fun _ _ hempty => hempty
  have hnames (gateway : Gateway) (hasImages : Bool) (exhausted : ProviderError)
      (names : List String) (model : String) :
      InLoop [] (withProviders (α := α) gateway hasImages exhausted names model) := by
    unfold withProviders
    split
    · exact rfl
    · exact providerLoop_inLoop _ _ _ _ _
  cases caller with
  | chatWithModelFallback => exact hbind (modelLoop_inLoop _ _ _ _ _ _)
  | streamWithModelFallback => exact hbind (modelLoop_inLoop _ _ _ _ _ _)
  | chatWithChain => exact hbind (modelLoop_inLoop _ _ _ _ _ _)
  | streamWithChain => exact hbind (modelLoop_inLoop _ _ _ _ _ _)
  | chatWithFallback => exact hbind (hnames _ _ _ _ _)
  | streamWithFallback => exact hbind (hnames _ _ _ _ _)

theorem step_owes (s : System α) (a : Label α) (h : ∀ t ∈ s.tasks, t.Owes) :
    ∀ t ∈ (step cfg s a).tasks, t.Owes := by
  cases a with
  | spawn caller =>
    intro t ht
    rcases List.mem_append.mp ht with hold | hnew
    · exact h t hold
    · rw [List.mem_singleton.mp hnew]
      exact caller.inLoop
  | drop i =>
    intro t ht
    rcases List.mem_or_eq_of_mem_set ht with hold | hnew
    · exact h t hold
    · rw [hnew]
      exact rfl
  | step i now latencyMs outcome =>
    rcases step_task cfg s i now latencyMs outcome with
      ⟨c, next, slots, hi, hstep⟩ | ⟨hstep, -⟩
    · rw [hstep]
      intro t ht
      rcases List.mem_or_eq_of_mem_set ht with hold | hnew
      · exact h t hold
      · obtain ⟨p, hp, hloop⟩ := execute_inLoop cfg now latencyMs outcome s.health
          (h _ (List.mem_of_getElem? hi))
        rw [hnew]
        unfold Task.Owes
        rw [hp]
        exact hloop
    · rw [hstep]
      exact h

/-! ## One step -/

/-- Call `i` is in flight as the probe of the circuit. -/
def ProbeAt (s : System α) (i : ℕ) (c : Circuit) : Prop :=
  ∃ t, s.tasks[i]? = some t ∧ ⟨c, true⟩ ∈ t.slots

/-- The slots hold a probe whose flag is still set. -/
def holdsProbe (health : Tracker) (slots : List Slot) : Bool :=
  slots.any fun x => x.probe && health.probing x.circuit

/-- The step ends a call's admission to a circuit without a report, while the call holds its
probe: the future is dropped, or the provider check refuses the request. -/
def losesProbe (cfg : CircuitBreakerConfig) (s : System α) : Label α → Bool
  | .spawn _ => false
  | .drop i => (s.tasks[i]?).any fun t => holdsProbe s.health t.slots
  | .step i now _ _ =>
    match s.tasks[i]? with
    | some ⟨some (.call (.isAvailable (.provider p)) _), slots⟩ =>
      !(s.health.isAvailable cfg now (.provider p)).1 && holdsProbe s.health slots
    | _ => false

/-- The step reports an outcome to a half-open circuit, for a request that is not its probe. -/
def lateOutcome (s : System α) : Label α → Bool
  | .step i _ _ _ =>
    match s.tasks[i]? with
    | some ⟨some (.call (.record c _) _), slots⟩ =>
      decide (s.health.stateOf c = .halfOpen) && decide (⟨c, true⟩ ∉ slots)
    | _ => false
  | _ => false

/-- What a step does to the probes: none is added, one is taken, or one circuit is reported
to. -/
inductive Effect (cfg : CircuitBreakerConfig) (s : System α) (a : Label α) : Prop
  | quiet (hhealth : (step cfg s a).health = s.health)
      (hfewer : ∀ j c, ProbeAt (step cfg s a) j c → ProbeAt s j c)
      (hkeeps : losesProbe cfg s a = false → ∀ j c, s.health.probing c = true →
        ProbeAt s j c → ProbeAt (step cfg s a) j c)
      (hlate : lateOutcome s a = false)
  | taken (i : ℕ) (c : Circuit) (hopen : s.health.stateOf c ≠ .closed)
      (hfree : s.health.stateOf c = .halfOpen → s.health.probing c = false)
      (hhalf : (step cfg s a).health.stateOf c = .halfOpen)
      (htaken : (step cfg s a).health.probing c = true)
      (hother : ∀ c', c' ≠ c → (step cfg s a).health c' = s.health c')
      (hprobes : ∀ j c', ProbeAt (step cfg s a) j c' ↔ (j = i ∧ c' = c) ∨ ProbeAt s j c')
      (hlate : lateOutcome s a = false)
  | reported (i now latencyMs : ℕ) (outcome : Except ProviderError α) (c : Circuit)
      (success : Bool) (ha : a = .step i now latencyMs outcome)
      (hhealth : (step cfg s a).health = s.health.record cfg now c success latencyMs)
      (hprobes : ∀ j c', ProbeAt (step cfg s a) j c' ↔ ProbeAt s j c' ∧ ¬(j = i ∧ c' = c))
      (hlate : lateOutcome s a = false ↔ (s.health.stateOf c = .halfOpen → ProbeAt s i c))

/-- The probes after the slots of one call changed. -/
theorem probeAt_set {i : ℕ} {t : Task α} (hi : s.tasks[i]? = some t) (health : Tracker)
    (t' : Task α) (j : ℕ) (c : Circuit) :
    ProbeAt ⟨health, s.tasks.set i t'⟩ j c ↔
      if j = i then ⟨c, true⟩ ∈ t'.slots else ProbeAt s j c := by
  have hlt : i < s.tasks.length := by
    obtain ⟨hlt, -⟩ := List.getElem?_eq_some_iff.mp hi
    exact hlt
  unfold ProbeAt
  by_cases hj : j = i
  · rw [if_pos hj, hj]
    simp [List.getElem?_set_self hlt]
  · rw [if_neg hj]
    simp only [List.getElem?_set_ne (fun h => hj h.symm)]

theorem probeAt_self {i : ℕ} {t : Task α} (hi : s.tasks[i]? = some t) (c : Circuit) :
    ProbeAt s i c ↔ ⟨c, true⟩ ∈ t.slots := by
  unfold ProbeAt
  simp [hi]

theorem holdsProbe_of_mem {health : Tracker} {slots : List Slot} {c : Circuit}
    (hmem : ⟨c, true⟩ ∈ slots) (hc : health.probing c = true) :
    holdsProbe health slots = true := by
  unfold holdsProbe
  apply List.any_eq_true.mpr
  exact ⟨_, hmem, by simpa using hc⟩

theorem effect_spawn (caller : Caller) : Effect cfg s (.spawn caller) := by
  have hsame (j : ℕ) (c : Circuit) :
      ProbeAt (step cfg s (.spawn caller)) j c ↔ ProbeAt s j c := by
    show ProbeAt ⟨s.health, s.tasks ++ [⟨some caller.prog, []⟩]⟩ j c ↔ _
    unfold ProbeAt
    by_cases hj : j < s.tasks.length
    · simp only [List.getElem?_append_left hj]
    · -- the new call has no slots
      simp only [List.getElem?_append_right (not_lt.mp hj),
        List.getElem?_eq_none (not_lt.mp hj)]
      cases j - s.tasks.length with
      | zero => simp
      | succ k => simp
  exact Effect.quiet rfl (fun j c => (hsame j c).mp) (fun _ j c _ => (hsame j c).mpr)
    rfl

theorem effect_drop (i : ℕ) : Effect cfg s (.drop i) := by
  cases hi : s.tasks[i]? with
  -- nobody is dropped
  | none =>
    have hstep : step cfg s (.drop i) = s := by
      have hle : s.tasks.length ≤ i := List.getElem?_eq_none_iff.mp hi
      show (⟨s.health, s.tasks.set i ⟨none, []⟩⟩ : System α) = s
      rw [List.set_eq_of_length_le hle]
    apply Effect.quiet
    · rw [hstep]
    · intro j c h
      rwa [hstep] at h
    · intro _ j c _ h
      rwa [hstep]
    · rfl
  | some t =>
    have hset := probeAt_set hi s.health ⟨none, []⟩
    apply Effect.quiet rfl
    · intro j c h
      have h' := (hset j c).mp h
      split_ifs at h' with hj
      · exact absurd h' (List.not_mem_nil)
      · exact h'
    -- the dropped call held no probe
    · intro hkeep j c hprobing h
      apply (hset j c).mpr
      split_ifs with hj
      · rw [hj, probeAt_self hi] at h
        have hholds := holdsProbe_of_mem h hprobing
        have hfree : holdsProbe s.health t.slots = false := by
          simpa [losesProbe, hi] using hkeep
        rw [hfree] at hholds
        exact absurd hholds (by simp)
      · exact h
    · rfl

/-- A change of one call's slots that adds no probe and loses none that matters. -/
theorem effect_quiet {a : Label α} {i : ℕ} {t : Task α} (hi : s.tasks[i]? = some t)
    (t' : Task α) (hstep : step cfg s a = ⟨s.health, s.tasks.set i t'⟩)
    (hfewer : ∀ c, ⟨c, true⟩ ∈ t'.slots → ⟨c, true⟩ ∈ t.slots)
    (hkeeps : losesProbe cfg s a = false → ∀ c, s.health.probing c = true →
      ⟨c, true⟩ ∈ t.slots → ⟨c, true⟩ ∈ t'.slots)
    (hlate : lateOutcome s a = false) : Effect cfg s a := by
  apply Effect.quiet
  · rw [hstep]
  · intro j c h
    rw [hstep] at h
    have h' := (probeAt_set hi s.health t' j c).mp h
    split_ifs at h' with hj
    · rw [hj]
      exact (probeAt_self hi c).mpr (hfewer c h')
    · exact h'
  · intro hkeep j c hprobing h
    rw [hstep]
    apply (probeAt_set hi s.health t' j c).mpr
    split_ifs with hj
    · rw [hj, probeAt_self hi] at h
      exact hkeeps hkeep c hprobing h
    · exact h
  · exact hlate

theorem effect_step (i now latencyMs : ℕ) (outcome : Except ProviderError α) :
    Effect cfg s (.step i now latencyMs outcome) := by
  rcases step_task cfg s i now latencyMs outcome with
    ⟨cmd, next, slots, hi, hstep⟩ | ⟨hstep, hidle⟩
  · set after := execute cfg now latencyMs outcome s.health slots cmd next with hafter
    have hmoves : Moves cfg now s.health slots cmd after.1 after.2.slots :=
      execute_moves now latencyMs outcome s.health slots cmd next
    have hset := probeAt_set hi after.1 after.2
    rcases hmoves' : (after.1, after.2.slots) with ⟨health', slots'⟩
    obtain ⟨hhealth, hslots⟩ := Prod.mk.inj hmoves'
    rw [hhealth, hslots] at hmoves
    cases hmoves with
    | refused c hno =>
      apply effect_quiet hi after.2 (by rw [hstep, hhealth])
      · intro c' h
        rw [hslots] at h
        cases c with
        | model k => exact h
        | provider p => exact absurd h (List.not_mem_nil)
      · intro hkeep c' hprobing h
        rw [hslots]
        cases c with
        | model k => exact h
        | provider p =>
          -- the refused request held a probe after all
          have hholds := holdsProbe_of_mem h hprobing
          have hfree : holdsProbe s.health slots = false := by
            simpa [losesProbe, hi, hno] using hkeep
          rw [hfree] at hholds
          exact absurd hholds (by simp)
      · simp [lateOutcome, hi]
    | admitted c hclosed =>
      apply effect_quiet hi after.2 (by rw [hstep, hhealth])
      · intro c' h
        rw [hslots] at h
        simpa using h
      · intro _ c' _ h
        rw [hslots]
        exact List.mem_cons_of_mem _ h
      · simp [lateOutcome, hi]
    | probe c _ hopen hfree hhalf htaken hother =>
      have hhealth' : (step cfg s (.step i now latencyMs outcome)).health = health' := by
        rw [hstep, hhealth]
      refine Effect.taken i c hopen hfree (by rwa [hhealth']) (by rwa [hhealth'])
        (by rwa [hhealth']) ?_ (by simp [lateOutcome, hi])
      intro j c'
      rw [hstep, hset j c', hslots]
      by_cases hj : j = i
      · rw [if_pos hj, hj, probeAt_self hi]
        simp
      · rw [if_neg hj]
        simp [hj]
    | dispatched provider model =>
      apply effect_quiet hi after.2 (by rw [hstep, hhealth])
      · intro c' h
        rwa [hslots] at h
      · intro _ c' _ h
        rwa [hslots]
      · simp [lateOutcome, hi]
    | recorded c success latency =>
      refine Effect.reported i now latencyMs outcome c success rfl ?_ ?_ ?_
      · rw [hstep]
        rfl
      · intro j c'
        rw [hstep, hset j c', hslots]
        by_cases hj : j = i
        · rw [if_pos hj, hj, probeAt_self hi]
          simp
        · rw [if_neg hj]
          simp [hj]
      · rw [probeAt_self hi]
        simp [lateOutcome, hi]
  · apply Effect.quiet
    · rw [hstep]
    · intro j c h
      rwa [hstep] at h
    · intro _ j c _ h
      rwa [hstep]
    · simp only [lateOutcome]
      split
      · next hi => exact absurd hi (hidle _ _ _)
      · rfl

theorem effect (cfg : CircuitBreakerConfig) (s : System α) (a : Label α) : Effect cfg s a := by
  cases a with
  | spawn caller => exact effect_spawn caller
  | drop i => exact effect_drop i
  | step i now latencyMs outcome => exact effect_step i now latencyMs outcome

/-! ## No orphaned probe -/

/-- A circuit that is half-open with its probe slot taken has a request in flight that was
admitted to it and will report to it, and any report frees the slot. -/
def NoOrphanedProbe (cfg : CircuitBreakerConfig) (s : System α) : Prop :=
  ∀ c h, s.health c = some h → h.state = .halfOpen → h.probeInFlight = true →
    (∃ t ∈ s.tasks, ∃ p, t.prog = some p ∧ c ∈ t.slots.map (·.circuit) ∧ WillRecord c p) ∧
    ∀ now success latencyMs, (h.record cfg now success latencyMs).probeInFlight = false

/-- Every flag that is set belongs to a call in flight, which owes its circuit a report. -/
structure Held (s : System α) : Prop where
  owes : ∀ t ∈ s.tasks, t.Owes
  probe : ∀ c, s.health.probing c = true → ∃ i, ProbeAt s i c

theorem held_start : Held (start : System α) where
  owes := by
    intro t ht
    exact absurd ht (List.not_mem_nil)
  probe := by
    intro c hc
    exact absurd hc (by simp [start, Tracker.probing])

theorem held_step (s : System α) (a : Label α) (h : Held s)
    (hkeep : losesProbe cfg s a = false) : Held (step cfg s a) where
  owes := step_owes s a h.owes
  probe := by
    intro c hc
    cases effect cfg s a with
    | quiet hhealth hfewer hkeeps _ =>
      rw [hhealth] at hc
      obtain ⟨i, hi⟩ := h.probe c hc
      exact ⟨i, hkeeps hkeep i c hc hi⟩
    | taken i c' hopen hfree hhalf htaken hother hprobes _ =>
      by_cases heq : c = c'
      · exact ⟨i, (hprobes i c).mpr (Or.inl ⟨rfl, heq⟩)⟩
      · have hbefore : s.health.probing c = true := by
          unfold Tracker.probing at hc ⊢
          rwa [hother c heq] at hc
        obtain ⟨j, hj⟩ := h.probe c hbefore
        exact ⟨j, (hprobes j c).mpr (Or.inr hj)⟩
    | reported i now latencyMs outcome c' success ha hhealth hprobes hlate =>
      rw [hhealth] at hc
      by_cases heq : c = c'
      · rw [heq, Tracker.record_probing] at hc
        exact absurd hc (by simp)
      · have hbefore : s.health.probing c = true := by
          unfold Tracker.probing at hc ⊢
          rwa [Tracker.record_other cfg now s.health success latencyMs heq] at hc
        obtain ⟨j, hj⟩ := h.probe c hbefore
        exact ⟨j, (hprobes j c).mpr ⟨hj, fun hsame => heq hsame.2⟩⟩

theorem Held.noOrphanedProbe (h : Held s) : NoOrphanedProbe cfg s := by
  intro c health hc hhalf hprobe
  refine ⟨?_, fun now success latencyMs => (health.record_spec success latencyMs).1⟩
  have hprobing : s.health.probing c = true := by
    rw [Tracker.probing_of_some hc]
    exact hprobe
  obtain ⟨i, t, hi, hslot⟩ := h.probe c hprobing
  have hmem : t ∈ s.tasks := List.mem_of_getElem? hi
  have hcircuit : c ∈ t.slots.map (·.circuit) := List.mem_map.mpr ⟨_, hslot, rfl⟩
  have howes := h.owes t hmem
  unfold Task.Owes at howes
  refine ⟨t, hmem, ?_⟩
  cases hp : t.prog with
  | none =>
    rw [hp] at howes
    have hempty : t.slots = [] := howes
    rw [hempty] at hslot
    exact absurd hslot (List.not_mem_nil)
  | some p =>
    rw [hp] at howes
    exact ⟨p, rfl, hcircuit, InLoop.willRecord howes hcircuit⟩

/-- In every run in which no call loses a probe, no probe is orphaned. -/
theorem no_orphaned_probe (cfg : CircuitBreakerConfig) (labels : List (Label α))
    (h : AllSteps (step cfg) (fun s a => losesProbe cfg s a = false) start labels) :
    NoOrphanedProbe cfg (run (step cfg) start labels) :=
  (run_invariant_of_allSteps held_step held_start h).noOrphanedProbe

/-- A gateway with every provider configured. -/
def anyProvider : Gateway where
  configured := fun _ => true
  registry := fun _ => none

/-- A request for one model of one provider. -/
def oneModel : Caller := .chatWithChain anyProvider false [("p", "m")] "m"

/-- Request `i` is admitted and its upstream call fails. The model's circuit is told at one
instant and the provider's a millisecond later. -/
def failingCall (i : ℕ) : List (Label Unit) :=
  [.spawn oneModel, .step i 0 0 (.ok ()), .step i 0 0 (.ok ()), .step i 0 0 (.error "timeout"),
    .step i 0 0 (.ok ()), .step i 1 0 (.ok ())]

/-- Five failures open both circuits. -/
def outage : List (Label Unit) :=
  failingCall 0 ++ failingCall 1 ++ failingCall 2 ++ failingCall 3 ++ failingCall 4

/-- When the model's cooldown is over the provider's is not: the sixth request takes the model's
probe slot and is refused by the provider. -/
def refusedProbe : List (Label Unit) :=
  outage ++ [.spawn oneModel, .step 5 30000 0 (.ok ()), .step 5 30000 0 (.ok ())]

/-- A millisecond later the request passes both checks. -/
def grantedProbe : List (Label Unit) :=
  outage ++ [.spawn oneModel, .step 5 30001 0 (.ok ()), .step 5 30001 0 (.ok ())]

theorem granted_probe_not_orphaned :
    AllSteps (step .default) (fun s a => losesProbe .default s a = false) start grantedProbe ∧
      ((run (step .default) start grantedProbe).health (modelKey "p" "m")).map
        (fun h => (h.state, h.probeInFlight)) = some (.halfOpen, true) ∧
      NoOrphanedProbe .default (run (step .default) start grantedProbe) := by
  have hkeep : AllSteps (step .default) (fun s a => losesProbe .default s a = false) start
      grantedProbe := by decide +kernel
  exact ⟨hkeep, by decide +kernel, no_orphaned_probe .default grantedProbe hkeep⟩

/-- The refused request leaves the model half-open with the flag set and nobody in flight. -/
theorem refused_probe_orphaned :
    ¬ NoOrphanedProbe .default (run (step .default) start refusedProbe) := by
  intro h
  have hcircuit : ((run (step .default) start refusedProbe).health (modelKey "p" "m")).map
      (fun h => (h.state, h.probeInFlight)) = some (.halfOpen, true) := by decide +kernel
  have hslots : ∀ t ∈ (run (step .default) start refusedProbe).tasks, t.slots = [] := by
    decide +kernel
  obtain ⟨health, hhealth, hflags⟩ := Option.map_eq_some_iff.mp hcircuit
  obtain ⟨hstate, hprobe⟩ := Prod.mk.inj hflags
  obtain ⟨⟨t, ht, p, -, hmem, -⟩, -⟩ := h _ health hhealth hstate hprobe
  rw [hslots t ht] at hmem
  exact absurd hmem (List.not_mem_nil)

/-! ## One probe at a time -/

/-- No two requests are in flight as the probe of one circuit. -/
def OneProbe (s : System α) : Prop :=
  ∀ c i j, ProbeAt s i c → ProbeAt s j c → i = j

/-- A circuit leaves the half-open state only by the report of its probe. -/
def OwnOutcome (cfg : CircuitBreakerConfig) (s : System α) (a : Label α) : Prop :=
  ∀ c, s.health.stateOf c = .halfOpen → (step cfg s a).health.stateOf c ≠ .halfOpen →
    ∃ i now latencyMs outcome, a = .step i now latencyMs outcome ∧ ProbeAt s i c

/-- A probe in flight is the only one, and its circuit waits for it. -/
def Alone (s : System α) : Prop :=
  ∀ i c, ProbeAt s i c → s.health.stateOf c = .halfOpen ∧ s.health.probing c = true ∧
    ∀ j, ProbeAt s j c → j = i

theorem alone_start : Alone (start : System α) := by
  intro i c h
  obtain ⟨t, ht, -⟩ := h
  exact absurd ht (by simp [start])

theorem alone_step (s : System α) (a : Label α) (h : Alone s) (hlate : lateOutcome s a = false) :
    Alone (step cfg s a) := by
  intro i c hprobe
  cases effect cfg s a with
  | quiet hhealth hfewer hkeeps _ =>
    obtain ⟨hhalf, htaken, honly⟩ := h i c (hfewer i c hprobe)
    rw [hhealth]
    exact ⟨hhalf, htaken, fun j hj => honly j (hfewer j c hj)⟩
  | taken i' c' hopen hfree hhalf htaken hother hprobes _ =>
    -- nobody probed the circuit before
    have hnone (j : ℕ) : ¬ ProbeAt s j c' := by
      intro hj
      obtain ⟨hhalf', htaken', -⟩ := h j c' hj
      have := hfree hhalf'
      simp_all
    by_cases heq : c = c'
    · rw [heq]
      refine ⟨hhalf, htaken, ?_⟩
      have hself (j : ℕ) (hj : ProbeAt (step cfg s a) j c') : j = i' := by
        rcases (hprobes j c').mp hj with hnew | hold
        · exact hnew.1
        · exact absurd hold (hnone j)
      rw [heq] at hprobe
      intro j hj
      rw [hself j hj, hself i hprobe]
    · have hold (j : ℕ) (hj : ProbeAt (step cfg s a) j c) : ProbeAt s j c := by
        rcases (hprobes j c).mp hj with hnew | hold
        · exact absurd hnew.2 heq
        · exact hold
      obtain ⟨hhalf', htaken', honly⟩ := h i c (hold i hprobe)
      rw [Tracker.stateOf_congr (hother c heq), Tracker.probing_congr (hother c heq)]
      exact ⟨hhalf', htaken', fun j hj => honly j (hold j hj)⟩
  | reported i' now latencyMs outcome c' success ha hhealth hprobes hown =>
    have hbefore := ((hprobes i c).mp hprobe).1
    have hnot := ((hprobes i c).mp hprobe).2
    obtain ⟨hhalf, htaken, honly⟩ := h i c hbefore
    have hne : c ≠ c' := by
      intro heq
      -- the report was the probe's own, and `i` is the probe
      rw [heq] at hhalf honly
      have hreporter := hown.mp hlate hhalf
      exact hnot ⟨(honly i' hreporter).symm, heq⟩
    have hother := Tracker.record_other cfg now s.health success latencyMs hne
    rw [hhealth, Tracker.stateOf_congr hother, Tracker.probing_congr hother]
    exact ⟨hhalf, htaken, fun j hj => honly j ((hprobes j c).mp hj).1⟩

/-- A step that is no late outcome moves half-open circuits by their probes alone. -/
theorem ownOutcome_of_not_late (hlate : lateOutcome s a = false) : OwnOutcome cfg s a := by
  intro c hhalf hleaves
  cases effect cfg s a with
  | quiet hhealth hfewer hkeeps _ =>
    rw [hhealth] at hleaves
    exact absurd hhalf hleaves
  | taken i c' hopen hfree hhalf' htaken hother hprobes _ =>
    by_cases heq : c = c'
    · rw [heq] at hleaves
      exact absurd hhalf' hleaves
    · rw [Tracker.stateOf_congr (hother c heq)] at hleaves
      exact absurd hhalf hleaves
  | reported i now latencyMs outcome c' success ha hhealth hprobes hown =>
    by_cases heq : c = c'
    · rw [heq] at hhalf ⊢
      exact ⟨i, now, latencyMs, outcome, ha, hown.mp hlate hhalf⟩
    · have hother := Tracker.record_other cfg now s.health success latencyMs heq
      rw [hhealth, Tracker.stateOf_congr hother] at hleaves
      exact absurd hhalf hleaves

/-- A late outcome ends a probe that is not its own. -/
theorem not_late_of_ownOutcome (h : OwnOutcome cfg s a) : lateOutcome s a = false := by
  cases effect cfg s a with
  | quiet hhealth hfewer hkeeps hlate => exact hlate
  | taken i c' hopen hfree hhalf' htaken hother hprobes hlate => exact hlate
  | reported i now latencyMs outcome c' success ha hhealth hprobes hown =>
    apply hown.mpr
    intro hhalf
    have hleaves : (step cfg s a).health.stateOf c' ≠ .halfOpen := by
      rw [hhealth]
      exact Tracker.record_stateOf success latencyMs
    obtain ⟨i', now', latencyMs', outcome', ha', hprobe⟩ := h c' hhalf hleaves
    rw [ha] at ha'
    obtain ⟨rfl, -⟩ := Label.step.inj ha'
    exact hprobe

theorem Alone.oneProbe (h : Alone s) : OneProbe s := by
  intro c i j hi hj
  exact ((h i c hi).2.2 j hj).symm

/-- A run whose circuits leave the half-open state by their own probes has no late outcome. -/
theorem noLateOutcome_of_ownOutcome {labels : List (Label α)} {s : System α}
    (h : AllSteps (step cfg) (fun s a => OneProbe (step cfg s a) ∧ OwnOutcome cfg s a) s
      labels) : AllSteps (step cfg) (fun s a => lateOutcome s a = false) s labels := by
  apply allSteps_imp (I := fun _ => True) (fun _ _ _ _ => trivial) _ trivial h
  intro s a _ hown
  exact not_late_of_ownOutcome hown.2

/-- A run has one probe at a time, ended by its own outcome, at every step exactly when no step
of it is a late outcome. -/
theorem one_probe_iff_no_late_outcome (cfg : CircuitBreakerConfig) (labels : List (Label α)) :
    AllSteps (step cfg) (fun s a => OneProbe (step cfg s a) ∧ OwnOutcome cfg s a) start labels ↔
      AllSteps (step cfg) (fun s a => lateOutcome s a = false) start labels := by
  constructor
  · exact noLateOutcome_of_ownOutcome
  · apply allSteps_imp alone_step _ alone_start
    intro s a halone hlate
    exact ⟨(alone_step s a halone hlate).oneProbe, ownOutcome_of_not_late hlate⟩

/-- A request admitted before the outage is still in flight when the cooldown is over. The probe
is sent, and then the old request's success is reported. -/
def lateSuccess : List (Label Unit) :=
  ([.spawn oneModel, .step 0 0 0 (.ok ()), .step 0 0 0 (.ok ()), .step 0 0 0 (.ok ())] :
    List (Label Unit)) ++
    failingCall 1 ++ failingCall 2 ++ failingCall 3 ++ failingCall 4 ++ failingCall 5 ++
    ([.spawn oneModel, .step 6 30001 0 (.ok ()), .step 6 30001 0 (.ok ()),
      .step 0 30002 0 (.ok ())] : List (Label Unit))

/-- The old request closes the model's circuit, and its probe is still in flight. -/
theorem late_success_ends_probe :
    ¬ AllSteps (step .default)
      (fun s a => OneProbe (step .default s a) ∧ OwnOutcome .default s a) start lateSuccess := by
  intro h
  have hlate := noLateOutcome_of_ownOutcome h
  exact absurd hlate (by decide +kernel)

end System

end Solvela.Providers
