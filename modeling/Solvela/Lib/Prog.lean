import Mathlib.Data.Nat.Notation

/-!
# Programs of atomic commands

A program sends one atomic command at a time and goes on with the reply. Between two commands
anything can happen, so a process of a concurrent system is the program that is left of it.

* `Prog` with its monad operations, `ask` for one command, and `andThen` for results that may
  be errors;
* `Prog.exec` runs a program alone against a state that answers its commands, and `Prog.embed`
  makes it a program of a larger set of commands;
* `Prog.CanSend` and `Prog.CanReturn` say what some replies make a program do;
* `Prog.Trace` is a run of a program that may be dropped while it waits;
* `Prog.Meets` is the specification of a program over a ghost value that the replies update:
  what holds at every command and of the result, whatever the replies are. `Meets.bind` composes
  it, `Meets.reply` is the step of a process, `Meets.exec` the run of a program alone and
  `Meets.trace` one that may be dropped.
-/

namespace Solvela.Lib

/-- A program that sends commands `c : C` and receives replies `R c`. -/
inductive Prog (C : Type) (R : C → Type) (α : Type)
  | done (a : α)
  | call (c : C) (next : R c → Prog C R α)

namespace Prog

section
variable {C : Type} {R : C → Type} {α β : Type}

def bind : Prog C R α → (α → Prog C R β) → Prog C R β
  | done a, f => f a
  | call c next, f => call c fun r => (next r).bind f

instance : Monad (Prog C R) where
  pure := done
  bind := bind

/-- One command. -/
def ask (c : C) : Prog C R (R c) := call c done

@[simp] theorem pure_eq (a : α) : (pure a : Prog C R α) = done a := rfl

@[simp] theorem done_bind (a : α) (f : α → Prog C R β) : (done a >>= f) = f a := rfl

@[simp] theorem call_bind (c : C) (next : R c → Prog C R α) (f : α → Prog C R β) :
    (call c next >>= f) = call c fun r => next r >>= f := rfl

@[simp] theorem ask_bind (c : C) (f : R c → Prog C R β) : (ask c >>= f) = call c f := rfl

/-- Goes on with the result, or returns the error. -/
def andThen {ε : Type} (p : Prog C R (Except ε α)) (f : α → Prog C R (Except ε β)) :
    Prog C R (Except ε β) :=
  p >>= fun
    | .error e => done (.error e)
    | .ok a => f a

/-- A program alone, against a state that executes its commands. -/
def exec {σ : Type} (step : σ → (c : C) → R c × σ) : Prog C R α → σ → α × σ
  | done a, s => (a, s)
  | call c next, s => (next (step s c).1).exec step (step s c).2

theorem exec_bind {σ : Type} (step : σ → (c : C) → R c × σ) (p : Prog C R α)
    (f : α → Prog C R β) (s : σ) :
    (p >>= f).exec step s = (f (p.exec step s).1).exec step (p.exec step s).2 := by
  induction p generalizing s with
  | done a => rfl
  | call c next ih => exact ih _ _

theorem exec_andThen_ok {σ ε : Type} {step : σ → (c : C) → R c × σ} {p : Prog C R (Except ε α)}
    {f : α → Prog C R (Except ε β)} {s s' : σ} {a : α} (h : p.exec step s = (.ok a, s')) :
    (p.andThen f).exec step s = (f a).exec step s' := by
  unfold andThen
  rw [exec_bind, h]

theorem exec_andThen_error {σ ε : Type} {step : σ → (c : C) → R c × σ}
    {p : Prog C R (Except ε α)} {f : α → Prog C R (Except ε β)} {s s' : σ} {e : ε}
    (h : p.exec step s = (.error e, s')) : (p.andThen f).exec step s = (.error e, s') := by
  unfold andThen
  rw [exec_bind, h]
  rfl

/-- A program of fewer commands among those of a larger set. -/
def embed {C' : Type} {R' : C' → Type} (f : C → C') (reply : ∀ c, R' (f c) → R c) :
    Prog C R α → Prog C' R' α
  | done a => done a
  | call c next => call (f c) fun r => (next (reply c r)).embed f reply

/-- An embedded program runs as it does alone, if its commands are answered alike. -/
theorem exec_embed {C' : Type} {R' : C' → Type} {σ : Type} {f : C → C'}
    {reply : ∀ c, R' (f c) → R c} {step : σ → (c : C) → R c × σ}
    {step' : σ → (c : C') → R' c × σ}
    (h : ∀ s c, (reply c (step' s (f c)).1, (step' s (f c)).2) = step s c) (p : Prog C R α)
    (s : σ) : (p.embed f reply).exec step' s = p.exec step s := by
  induction p generalizing s with
  | done a => rfl
  | call c next ih =>
    have hc := h s c
    show ((next (reply c (step' s (f c)).1)).embed f reply).exec step' (step' s (f c)).2 = _
    rw [ih]
    show _ = (next (step s c).1).exec step (step s c).2
    rw [← hc]

/-! ## What a program can do -/

/-- Some replies make the program send the command. -/
def CanSend (c : C) : Prog C R α → Prop
  | done _ => False
  | call c' next => c' = c ∨ ∃ r, CanSend c (next r)

/-- Some replies make the program return the result. -/
def CanReturn (a : α) : Prog C R α → Prop
  | done b => b = a
  | call _ next => ∃ r, CanReturn a (next r)

theorem canSend_bind {c : C} {p : Prog C R α} {f : α → Prog C R β} :
    CanSend c (p >>= f) ↔ CanSend c p ∨ ∃ a, CanReturn a p ∧ CanSend c (f a) := by
  induction p with
  | done a =>
    show CanSend c (f a) ↔ False ∨ ∃ b, a = b ∧ CanSend c (f b)
    simp
  | call c' next ih =>
    show (c' = c ∨ ∃ r, CanSend c (next r >>= f)) ↔
      (c' = c ∨ ∃ r, CanSend c (next r)) ∨ ∃ a, (∃ r, CanReturn a (next r)) ∧ CanSend c (f a)
    simp only [ih]
    constructor
    · rintro (h | ⟨r, h | ⟨a, ha, h⟩⟩)
      · exact Or.inl (Or.inl h)
      · exact Or.inl (Or.inr ⟨r, h⟩)
      · exact Or.inr ⟨a, ⟨r, ha⟩, h⟩
    · rintro ((h | ⟨r, h⟩) | ⟨a, ⟨r, ha⟩, h⟩)
      · exact Or.inl h
      · exact Or.inr ⟨r, Or.inl h⟩
      · exact Or.inr ⟨r, Or.inr ⟨a, ha, h⟩⟩

/-- An embedded program sends the images of the commands it sends alone. -/
theorem canSend_embed {C' : Type} {R' : C' → Type} {f : C → C'} (hf : ∀ c d, f c = f d → c = d)
    {reply : ∀ c, R' (f c) → R c} (hreply : ∀ c r, ∃ r', reply c r' = r) {c : C}
    {p : Prog C R α} : CanSend (f c) (p.embed f reply) ↔ CanSend c p := by
  induction p with
  | done a => exact Iff.rfl
  | call c' next ih =>
    show (f c' = f c ∨ ∃ r, CanSend (f c) ((next (reply c' r)).embed f reply)) ↔
      (c' = c ∨ ∃ r, CanSend c (next r))
    simp only [ih]
    constructor
    · rintro (h | ⟨r, h⟩)
      · exact Or.inl (hf _ _ h)
      · exact Or.inr ⟨_, h⟩
    · rintro (h | ⟨r, h⟩)
      · exact Or.inl (congrArg f h)
      · obtain ⟨r', hr⟩ := hreply c' r
        exact Or.inr ⟨r', by rwa [hr]⟩

/-! ## Runs that may be dropped -/

/-- A run: the commands it has executed, with their replies, and the result, or `none` if it was
dropped at a command that waits. -/
inductive Trace (waits : C → Bool) : Prog C R α → List (Σ c, R c) → Option α → Prop
  | done (a : α) : Trace waits (done a) [] (some a)
  | drop {c : C} {next : R c → Prog C R α} (h : waits c = true) : Trace waits (call c next) [] none
  | call {c : C} {next : R c → Prog C R α} (r : R c) {events : List (Σ c, R c)} {out : Option α}
      (h : Trace waits (next r) events out) : Trace waits (call c next) (⟨c, r⟩ :: events) out

/-! ## Specifications -/

/-- How the replies move a ghost value, and which replies are possible at it. -/
structure Ghost (C : Type) (R : C → Type) (γ : Type) where
  move : γ → (c : C) → R c → γ
  can : γ → (c : C) → R c → Prop

variable {γ : Type} (G : Ghost C R γ)

/-- `mid` holds of every command that is sent, and `post` of the result. -/
def Meets (mid : γ → C → Prop) (post : γ → α → Prop) : γ → Prog C R α → Prop
  | g, done a => post g a
  | g, call c next => mid g c ∧ ∀ r, G.can g c r → Meets mid post (G.move g c r) (next r)

variable {G} {mid : γ → C → Prop} {post : γ → α → Prop}

theorem Meets.mono {mid' : γ → C → Prop} {post' : γ → α → Prop} {g : γ} {p : Prog C R α}
    (hp : Meets G mid post g p) (hmid : ∀ g c, mid g c → mid' g c)
    (hpost : ∀ g a, post g a → post' g a) : Meets G mid' post' g p := by
  induction p generalizing g with
  | done a => exact hpost g a hp
  | call c next ih => exact ⟨hmid g c hp.1, fun r hr => ih r (hp.2 r hr)⟩

theorem Meets.bind {post' : γ → β → Prop} {f : α → Prog C R β} {g : γ} {p : Prog C R α}
    (hp : Meets G mid post g p) (hf : ∀ g a, post g a → Meets G mid post' g (f a)) :
    Meets G mid post' g (p >>= f) := by
  induction p generalizing g with
  | done a => exact hf g a hp
  | call c next ih => exact ⟨hp.1, fun r hr => ih r (hp.2 r hr)⟩

theorem Meets.ask {c : C} {f : R c → Prog C R α} {g : γ} (hmid : mid g c)
    (hf : ∀ r, G.can g c r → Meets G mid post (G.move g c r) (f r)) :
    Meets G mid post g (Prog.ask c >>= f) :=
  ⟨hmid, hf⟩

theorem Meets.andThen {ε : Type} {post : γ → Except ε α → Prop} {post' : γ → Except ε β → Prop}
    {f : α → Prog C R (Except ε β)} {g : γ} {p : Prog C R (Except ε α)}
    (hp : Meets G mid post g p) (herror : ∀ g e, post g (.error e) → post' g (.error e))
    (hok : ∀ g a, post g (.ok a) → Meets G mid post' g (f a)) :
    Meets G mid post' g (p.andThen f) := by
  refine hp.bind fun g r hr => ?_
  cases r with
  | error e => exact herror g e hr
  | ok a => exact hok g a hr

/-- A reply that is possible leaves a program that meets the specification. -/
theorem Meets.reply {c : C} {next : R c → Prog C R α} {g : γ}
    (h : Meets G mid post g (call c next)) {r : R c} (hr : G.can g c r) :
    Meets G mid post (G.move g c r) (next r) :=
  h.2 r hr

/-- A program alone, against a state that the ghost value describes. -/
theorem Meets.exec {σ : Type} {step : σ → (c : C) → R c × σ} {rel : σ → γ → Prop}
    (hstep : ∀ s g c, rel s g → mid g c →
      G.can g c (step s c).1 ∧ rel (step s c).2 (G.move g c (step s c).1)) {s : σ} {g : γ}
    (hs : rel s g) {p : Prog C R α} (hp : Meets G mid post g p) :
    ∃ g', rel (p.exec step s).2 g' ∧ post g' (p.exec step s).1 := by
  induction p generalizing s g with
  | done a => exact ⟨g, hs, hp⟩
  | call c next ih =>
    obtain ⟨hcan, hrel⟩ := hstep s g c hs hp.1
    exact ih _ hrel (hp.2 _ hcan)

/-- The ghost value after a run. -/
def Ghost.after (G : Ghost C R γ) (g : γ) (events : List (Σ c, R c)) : γ :=
  events.foldl (fun g e => G.move g e.1 e.2) g

/-- A run that ends meets the postcondition, and one that is dropped is at a command that waits. -/
theorem Meets.trace {waits : C → Bool} (hcan : ∀ g c r, G.can g c r) {g : γ} {p : Prog C R α}
    {events : List (Σ c, R c)} {out : Option α} (hp : Meets G mid post g p)
    (h : Trace waits p events out) :
    (∀ a, out = some a → post (G.after g events) a) ∧
      (out = none → ∃ c, waits c = true ∧ mid (G.after g events) c) := by
  induction h generalizing g with
  | done a =>
    refine ⟨?_, fun hnone => absurd hnone (by simp)⟩
    intro b hb
    obtain rfl := Option.some.inj hb
    exact hp
  | @drop c next hwaits => exact ⟨fun b hb => absurd hb (by simp), fun _ => ⟨c, hwaits, hp.1⟩⟩
  | call r h ih => exact ih (hp.2 r (hcan g _ r))

end

end Prog

end Solvela.Lib
