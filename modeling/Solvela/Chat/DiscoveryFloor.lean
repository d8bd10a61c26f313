import Mathlib.Algebra.Order.Floor.Semiring
import Solvela.Chat.UpperBound
import Solvela.Router.Registry

/-!
# The discovery floor

A discovery challenge knows neither the model nor the tokens, so it advertises the smallest
non-zero price of one input and one output token over the registry. Models that round to nothing
there are left out with the free ones, although a larger request for one of them is quoted; and a
model is priced under its canonical id only, although a TOML key may resolve to another one. Prices
and their arithmetic are exact here.

* `floor_le`, `floor_attained` and `floor_fallback`, the floor as a minimum;
* `checked_mono` and `exact_step`, how a quote grows with the request;
* `quoted_one_or_largest_zero`, what a model that rounds to nothing is quoted.
-/

namespace Solvela.Chat

open Solvela.Lib
open Solvela.ChannelLedger Solvela.Channel
open Solvela.Router (ModelsConfig fromToml badPrice)

/-! ## Floor and quote -/

/-- `ModelRegistry::all`: one registration for each canonical id. -/
def allModels (registry : Router.ModelRegistry) : List Router.ModelRegistration :=
  (registry.entries.map (·.2)).foldl
    (fun seen m => if seen.any (·.id == m.id) then seen else seen ++ [m]) []

/-- `DISCOVERY_FLOOR_FALLBACK_ATOMIC`. -/
def discoveryFloorFallbackAtomic : ℕ := 1

/-- The price of one input and one output token. -/
def singleQuote (pct : ℕ) (model : ModelRegistration) : Option ℕ :=
  usdcAtomicAmountChecked (estimateCost pct model 1 1).total

/-- `discovery_floor_atomic`. -/
def discoveryFloorAtomic (pct : ℕ) (registry : Router.ModelRegistry) : ℕ :=
  let quotes := (allModels registry).filterMap fun m => do
    let info ← registry.lookup m.id
    let atomic ← singleQuote pct info.toModelRegistration
    if 0 < atomic then some atomic else none
  quotes.min?.getD discoveryFloorFallbackAtomic

/-- A request as it is quoted: a lookup key, the request's shape, and on `/v1/messages` an input
estimate of its own, a `u32` of at least 1. -/
structure QuoteRequest where
  model : String
  req : ChatRequest
  nativeInputTokens : Option { n : ℕ // 1 ≤ n ∧ n < 2 ^ 32 }

/-- `input_token_estimate`. -/
def QuoteRequest.inputTokens (r : QuoteRequest) : ℕ :=
  match r.nativeInputTokens with
  | some n => n.1
  | none => estimateInputTokens r.req

/-- The quoted atomic amount. -/
def quotedAtomic (pct : ℕ) (registry : Router.ModelRegistry) (r : QuoteRequest) : Option ℕ := do
  let info ← registry.lookup r.model
  usdcAtomicAmountChecked
    (estimateCost pct info.toModelRegistration r.inputTokens
      (completionTokenCeiling r.req.maxTokens info.toModelRegistration)).total

/-- The floor is at most every quote that is not zero. -/
def FloorHolds (pct : ℕ) (registry : Router.ModelRegistry) : Prop :=
  ∀ r q, quotedAtomic pct registry r = some q → q ≠ 0 → discoveryFloorAtomic pct registry ≤ q

/-! ## The condition -/

/-- A model as the floor prices it: under a canonical id. -/
def Canonical (registry : Router.ModelRegistry) (model : ModelRegistration) : Prop :=
  ∃ e ∈ registry.entries, ∃ info, registry.lookup e.2.id = some info ∧
    info.toModelRegistration = model

/-- The quote of the largest request for a model. -/
def largestQuote (pct : ℕ) (model : ModelRegistration) : Option ℕ :=
  usdcAtomicAmountChecked
    (estimateCost pct model (2 ^ 32 - 1) (completionTokenCeiling none model)).total

/-- No model costs anything for a single token, or one costs exactly 1; or every model a lookup key
resolves to either rounds to 0 whatever the request, or costs for a single token at least what some
model under its canonical id does. -/
def SingleTokenPricesBound (pct : ℕ) (registry : Router.ModelRegistry) : Prop :=
  (∀ model n, Canonical registry model → singleQuote pct model = some n → n = 0) ∨
  (∃ model, Canonical registry model ∧ singleQuote pct model = some 1) ∨
  ∀ name info, registry.lookup name = some info →
    (singleQuote pct info.toModelRegistration = some 0 →
      largestQuote pct info.toModelRegistration = some 0) ∧
    ∀ n, singleQuote pct info.toModelRegistration = some n → n ≠ 0 →
      ∃ model k, Canonical registry model ∧ singleQuote pct model = some k ∧ k ≠ 0 ∧ k ≤ n

/-! ## Rounding near one -/

theorem roundHalfEven_eq_zero {q : ℚ} (hq : 0 ≤ q) : roundHalfEven q = 0 ↔ q ≤ 1 / 2 := by
  have hfloor : (⌊q⌋.toNat : ℚ) ≤ q := by
    have hnonneg : 0 ≤ ⌊q⌋ := Int.floor_nonneg.mpr hq
    have hcast : ((⌊q⌋.toNat : ℕ) : ℚ) = (⌊q⌋ : ℤ) := by
      exact_mod_cast Int.toNat_of_nonneg hnonneg
    rw [hcast]
    exact Int.floor_le q
  constructor
  · intro h
    by_contra hlarge
    have hzero : ⌊q⌋.toNat = 0 := by
      unfold roundHalfEven at h
      dsimp only at h
      split_ifs at h <;> omega
    unfold roundHalfEven at h
    dsimp only at h
    rw [hzero, Nat.cast_zero, sub_zero, if_neg (by linarith), if_pos (by linarith)] at h
    exact absurd h (by omega)
  · intro h
    have hzero : ⌊q⌋.toNat = 0 := by
      by_contra hpos
      have hone : (1 : ℚ) ≤ ⌊q⌋.toNat := by exact_mod_cast Nat.one_le_iff_ne_zero.mpr hpos
      linarith
    unfold roundHalfEven
    dsimp only
    rw [hzero, Nat.cast_zero, sub_zero]
    -- the tie goes to zero, which is even
    split_ifs with hlow hhigh heven
    · rfl
    · linarith
    · rfl
    · exact absurd rfl heven

theorem roundHalfEven_le_one {q : ℚ} (hq : 0 ≤ q) (h : q ≤ 1) : roundHalfEven q ≤ 1 := by
  have hmono := roundHalfEven_mono hq h
  have hone : roundHalfEven 1 = 1 := by decide +kernel
  rw [hone] at hmono
  exact hmono

/-- Prices that climb in steps of at most a half do not skip 1. -/
theorem exists_round_eq_one {f : ℕ → ℚ} (hnonneg : ∀ t, 0 ≤ f t) (h0 : f 0 ≤ 1 / 2)
    (hstep : ∀ t, f (t + 1) ≤ f t + 1 / 2) {T : ℕ} (hT : roundHalfEven (f T) ≠ 0) :
    ∃ t ≤ T, roundHalfEven (f t) = 1 := by
  induction T with
  | zero =>
    have hzero := (roundHalfEven_eq_zero (hnonneg 0)).mpr h0
    exact absurd hzero hT
  | succ T ih =>
    by_cases hbefore : roundHalfEven (f T) = 0
    · have hlow := (roundHalfEven_eq_zero (hnonneg T)).mp hbefore
      have hle : f (T + 1) ≤ 1 := by
        have hup := hstep T
        linarith
      have hround := roundHalfEven_le_one (hnonneg (T + 1)) hle
      refine ⟨T + 1, le_refl _, ?_⟩
      omega
    · obtain ⟨t, ht, hone⟩ := ih hbefore
      exact ⟨t, Nat.le_succ_of_le ht, hone⟩

/-! ## The floor -/

/-- Each canonical id is kept once. -/
theorem dedup_spec (l : List Router.ModelRegistration) : ∀ seen : List Router.ModelRegistration,
    (∀ m ∈ l.foldl (fun seen m => if seen.any (·.id == m.id) then seen else seen ++ [m]) seen,
      m ∈ seen ∨ m ∈ l) ∧
    ∀ m, m ∈ seen ∨ m ∈ l →
      ∃ m' ∈ l.foldl (fun seen m => if seen.any (·.id == m.id) then seen else seen ++ [m]) seen,
        m'.id = m.id := by
  induction l with
  | nil =>
    intro seen
    constructor
    · intro m hm
      exact Or.inl hm
    · intro m hm
      exact ⟨m, by simpa using hm, rfl⟩
  | cons x l ih =>
    intro seen
    rw [List.foldl_cons]
    -- a model whose id was seen is represented by the one seen before
    by_cases hx : seen.any (·.id == x.id) = true
    · rw [if_pos hx]
      refine ⟨?_, ?_⟩
      · intro m hm
        rcases (ih seen).1 m hm with hold | hnew
        · exact Or.inl hold
        · exact Or.inr (List.mem_cons_of_mem x hnew)
      · intro m hm
        rcases hm with hold | hnew
        · exact (ih seen).2 m (Or.inl hold)
        · rcases List.mem_cons.mp hnew with heq | htail
          · obtain ⟨y, hy, hid⟩ := List.any_eq_true.mp hx
            rw [heq, ← eq_of_beq hid]
            exact (ih seen).2 y (Or.inl hy)
          · exact (ih seen).2 m (Or.inr htail)
    · rw [if_neg hx]
      have hmem : ∀ m, m ∈ seen ++ [x] ∨ m ∈ l ↔ m ∈ seen ∨ m ∈ x :: l := by
        intro m
        simp only [List.mem_append, List.mem_cons, List.not_mem_nil, or_false, or_assoc]
      refine ⟨?_, ?_⟩
      · intro m hm
        exact (hmem m).mp ((ih (seen ++ [x])).1 m hm)
      · intro m hm
        exact (ih (seen ++ [x])).2 m ((hmem m).mpr hm)

/-- What the minimum is taken over. -/
theorem mem_quotes (pct : ℕ) (registry : Router.ModelRegistry) (k : ℕ) :
    (k ∈ (allModels registry).filterMap fun m => do
      let info ← registry.lookup m.id
      let atomic ← singleQuote pct info.toModelRegistration
      if 0 < atomic then some atomic else none) ↔
    k ≠ 0 ∧ ∃ model, Canonical registry model ∧ singleQuote pct model = some k := by
  have hdedup := dedup_spec (registry.entries.map (·.2)) []
  rw [List.mem_filterMap]
  simp only [Option.bind_eq_bind, Option.bind_eq_some_iff, Option.ite_none_right_eq_some,
    Option.some.injEq]
  constructor
  · rintro ⟨m, hm, info, hinfo, atomic, hatomic, hpos, heq⟩
    have hvalue := (hdedup.1 m hm).resolve_left (by simp)
    obtain ⟨e, he, hem⟩ := List.mem_map.mp hvalue
    rw [← hem] at hinfo
    rw [heq] at hatomic hpos
    exact ⟨Nat.ne_of_gt hpos, info.toModelRegistration, ⟨e, he, info, hinfo, rfl⟩, hatomic⟩
  · rintro ⟨hk, model, ⟨e, he, info, hinfo, hmodel⟩, hquote⟩
    have hvalue : e.2 ∈ registry.entries.map (·.2) := List.mem_map_of_mem he
    obtain ⟨m, hm, hid⟩ := hdedup.2 e.2 (Or.inr hvalue)
    rw [← hid] at hinfo
    rw [← hmodel] at hquote
    exact ⟨m, hm, info, hinfo, k, hquote, Nat.pos_of_ne_zero hk, rfl⟩

/-- The floor is at most any non-zero price of a single token. -/
theorem floor_le {pct : ℕ} {registry : Router.ModelRegistry} {model : ModelRegistration} {k : ℕ}
    (hmodel : Canonical registry model) (hquote : singleQuote pct model = some k) (hk : k ≠ 0) :
    discoveryFloorAtomic pct registry ≤ k := by
  have hmem := (mem_quotes pct registry k).mpr ⟨hk, model, hmodel, hquote⟩
  unfold discoveryFloorAtomic
  dsimp only
  obtain ⟨least, hleast⟩ := Option.ne_none_iff_exists'.mp
    (fun hnone => List.ne_nil_of_mem hmem (List.min?_eq_none_iff.mp hnone))
  rw [hleast, Option.getD_some]
  exact (List.min?_eq_some_iff.mp hleast).2 k hmem

/-- The floor is the price of a single token for some model, where one costs anything. -/
theorem floor_attained {pct : ℕ} {registry : Router.ModelRegistry} {model : ModelRegistration}
    {k : ℕ} (hmodel : Canonical registry model) (hquote : singleQuote pct model = some k)
    (hk : k ≠ 0) :
    discoveryFloorAtomic pct registry ≠ 0 ∧ ∃ model', Canonical registry model' ∧
      singleQuote pct model' = some (discoveryFloorAtomic pct registry) := by
  have hmem := (mem_quotes pct registry k).mpr ⟨hk, model, hmodel, hquote⟩
  rw [← mem_quotes]
  unfold discoveryFloorAtomic
  dsimp only
  obtain ⟨least, hleast⟩ := Option.ne_none_iff_exists'.mp
    (fun hnone => List.ne_nil_of_mem hmem (List.min?_eq_none_iff.mp hnone))
  rw [hleast, Option.getD_some]
  exact (List.min?_eq_some_iff.mp hleast).1

/-- Where nothing costs anything for a single token, the fallback. -/
theorem floor_fallback {pct : ℕ} {registry : Router.ModelRegistry}
    (h : ∀ model n, Canonical registry model → singleQuote pct model = some n → n = 0) :
    discoveryFloorAtomic pct registry = 1 := by
  unfold discoveryFloorAtomic
  dsimp only
  rw [List.min?_eq_none_iff.mpr]
  · rfl
  · apply List.eq_nil_iff_forall_not_mem.mpr
    intro k hk
    obtain ⟨hpos, model, hmodel, hquote⟩ := (mem_quotes pct registry k).mp hk
    exact hpos (h model k hmodel hquote)

/-! ## Quotes -/

/-- A model of a loaded registry has finite prices that are not negative. -/
theorem exists_registryModel {c : ModelsConfig} {registry : Router.ModelRegistry}
    (h : fromToml c = .ok registry) {name : String} {info : Router.ModelRegistration}
    (hinfo : registry.lookup name = some info) :
    ∃ m : RegistryModel, m.info = info.toModelRegistration := by
  have hspec := Router.fromToml_ok h
  rw [hspec.2.2 name, Option.map_eq_some_iff] at hinfo
  obtain ⟨e, he, rfl⟩ := hinfo
  have hvalid := hspec.1 e (Router.lastClaimant_some he).1
  have hprice : ∀ price, badPrice price = false → ∃ x : ℚ, price = some x ∧ 0 ≤ x := by
    intro price hprice
    cases price with
    | none => exact absurd hprice (by simp [badPrice])
    | some x => exact ⟨x, rfl, by simpa [badPrice] using hprice⟩
  obtain ⟨input, hinput, hin⟩ := hprice _ hvalid.1
  obtain ⟨output, houtput, hout⟩ := hprice _ hvalid.2
  exact ⟨⟨e.2.info.toModelRegistration, input, output, hinput, houtput, hin, hout⟩, rfl⟩

namespace RegistryModel

variable (m : RegistryModel)

/-- The quote of some tokens. -/
theorem checked_eq (pct prompt completion : ℕ) :
    usdcAtomicAmountChecked (estimateCost pct m.info prompt completion).total =
      if roundHalfEven (m.exact pct prompt completion) ≤ u64Max then
        some (roundHalfEven (m.exact pct prompt completion)) else none := by
  rw [m.estimateCost_eq]
  rfl

theorem exact_nonneg (pct prompt completion : ℕ) : 0 ≤ m.exact pct prompt completion :=
  exactAtomic_nonneg m.input_nonneg m.output_nonneg pct prompt completion

/-- Some tokens are quoted at most what more tokens are. -/
theorem checked_mono {pct prompt prompt' completion completion' n : ℕ} (hprompt : prompt ≤ prompt')
    (hcompletion : completion ≤ completion')
    (h : usdcAtomicAmountChecked (estimateCost pct m.info prompt' completion').total = some n) :
    ∃ k, usdcAtomicAmountChecked (estimateCost pct m.info prompt completion).total = some k ∧
      k ≤ n := by
  have hround := m.round_mono pct hprompt hcompletion
  rw [checked_eq] at h ⊢
  split_ifs at h with hfits
  have hn := Option.some.inj h
  rw [if_pos (le_trans hround hfits)]
  refine ⟨_, rfl, ?_⟩
  rw [← hn]
  exact hround

/-- One token more costs at most what one of each does. -/
theorem exact_step (pct prompt completion : ℕ) :
    m.exact pct (prompt + 1) completion ≤ m.exact pct prompt completion + m.exact pct 1 1 ∧
      m.exact pct prompt (completion + 1) ≤ m.exact pct prompt completion + m.exact pct 1 1 := by
  have hin := m.input_nonneg
  have hout := m.output_nonneg
  have hinput : 0 ≤ m.input * (100 + pct) / 100 := by positivity
  have houtput : 0 ≤ m.output * (100 + pct) / 100 := by positivity
  unfold exact exactAtomic
  push_cast
  constructor
  · linarith
  · linarith

/-- A model that rounds to 0 for one token each and to more for some tokens is quoted exactly 1 for
fewer. -/
theorem exists_quoted_one {pct a b : ℕ} (h0 : roundHalfEven (m.exact pct 1 1) = 0)
    (hT : roundHalfEven (m.exact pct (1 + a) (1 + b)) ≠ 0) :
    ∃ i ≤ a, ∃ j ≤ b, roundHalfEven (m.exact pct (1 + i) (1 + j)) = 1 := by
  have hlow := (roundHalfEven_eq_zero (m.exact_nonneg pct 1 1)).mp h0
  -- first the prompt grows, then the completion
  have hstep : ∀ t, m.exact pct (1 + min (t + 1) a) (1 + (t + 1 - a)) ≤
      m.exact pct (1 + min t a) (1 + (t - a)) + 1 / 2 := by
    intro t
    have hone := m.exact_step pct (1 + min t a) (1 + (t - a))
    by_cases ht : t < a
    · have hprompt : min (t + 1) a = min t a + 1 := by omega
      have hcompletion : t + 1 - a = t - a := by omega
      rw [hprompt, hcompletion, ← Nat.add_assoc]
      linarith [hone.1]
    · have hprompt : min (t + 1) a = min t a := by omega
      have hcompletion : t + 1 - a = t - a + 1 := by omega
      rw [hprompt, hcompletion, ← Nat.add_assoc]
      linarith [hone.2]
  have hstart : m.exact pct (1 + min 0 a) (1 + (0 - a)) ≤ 1 / 2 := by
    rw [Nat.zero_min, Nat.zero_sub]
    exact hlow
  have hend : roundHalfEven (m.exact pct (1 + min (a + b) a) (1 + (a + b - a))) ≠ 0 := by
    rw [Nat.min_eq_right (Nat.le_add_right a b), Nat.add_sub_cancel_left]
    exact hT
  obtain ⟨t, ht, hround⟩ :=
    exists_round_eq_one (f := fun t => m.exact pct (1 + min t a) (1 + (t - a)))
      (fun t => m.exact_nonneg pct _ _) hstart hstep hend
  exact ⟨min t a, Nat.min_le_right t a, t - a, by omega, hround⟩

end RegistryModel

theorem inputTokens_bounds (r : QuoteRequest) :
    1 ≤ r.inputTokens ∧ r.inputTokens ≤ 2 ^ 32 - 1 := by
  unfold QuoteRequest.inputTokens
  cases r.nativeInputTokens with
  | some n =>
    have hn := n.2
    show 1 ≤ n.1 ∧ n.1 ≤ 2 ^ 32 - 1
    omega
  | none =>
    have hle : saturatingAddU32
        ((r.req.messages.map (·.textBytes)).sum / 4 % 2 ^ 32)
        ((r.req.messages.flatMap (·.images)).foldl
          (fun acc detail => saturatingAddU32 acc (imageTokensForDetail detail)) 0) ≤
        2 ^ 32 - 1 := Nat.min_le_left _ _
    exact ⟨Nat.le_max_left _ _, Nat.max_le.mpr ⟨by norm_num, hle⟩⟩

theorem ceiling_bounds (maxTokens : Option ℕ) (model : ModelRegistration) :
    1 ≤ completionTokenCeiling maxTokens model ∧
      completionTokenCeiling maxTokens model ≤ completionTokenCeiling none model := by
  unfold completionTokenCeiling
  cases maxTokens with
  | none => exact ⟨Nat.le_max_left _ _, le_refl _⟩
  | some n =>
    refine ⟨Nat.le_max_left _ _, ?_⟩
    cases model.maxOutputTokens with
    | none =>
      simp only [Option.elim_none, Option.elim_some]
      omega
    | some limit =>
      simp only [Option.elim_none, Option.elim_some]
      omega

/-- A request for a number of tokens of each kind. -/
def requestFor (name : String) (prompt completion : ℕ) : QuoteRequest where
  model := name
  req := { messages := [{ textBytes := 4 * prompt, images := [] }], maxTokens := some completion }
  nativeInputTokens := none

theorem requestFor_inputTokens {name : String} {prompt completion : ℕ} (hpos : 1 ≤ prompt)
    (hfits : prompt < 2 ^ 32) : (requestFor name prompt completion).inputTokens = prompt := by
  show max 1 (saturatingAddU32 (([4 * prompt]).sum / 4 % 2 ^ 32) 0) = prompt
  rw [List.sum_singleton, Nat.mul_div_cancel_left _ (by norm_num), Nat.mod_eq_of_lt hfits]
  unfold saturatingAddU32
  omega

theorem requestFor_ceiling {completion : ℕ} {model : ModelRegistration}
    (hpos : 1 ≤ completion) (hfits : completion ≤ completionTokenCeiling none model) :
    completionTokenCeiling (some completion) model = completion := by
  unfold completionTokenCeiling at hfits ⊢
  cases hmax : model.maxOutputTokens with
  | none =>
    rw [hmax] at hfits
    simp only [Option.elim_none, Option.elim_some] at hfits ⊢
    have hcap : 1 ≤ defaultCompletionTokensCap := by decide
    omega
  | some limit =>
    rw [hmax] at hfits
    simp only [Option.elim_none, Option.elim_some] at hfits ⊢
    have hcap : 1 ≤ defaultCompletionTokensCap := by decide
    omega

/-- What such a request is quoted. -/
theorem quotedAtomic_requestFor {pct : ℕ} {registry : Router.ModelRegistry} {name : String}
    {info : Router.ModelRegistration} (hinfo : registry.lookup name = some info)
    {prompt completion : ℕ} (hprompt : 1 ≤ prompt) (hprompt' : prompt < 2 ^ 32)
    (hcompletion : 1 ≤ completion)
    (hcompletion' : completion ≤ completionTokenCeiling none info.toModelRegistration) :
    quotedAtomic pct registry (requestFor name prompt completion) =
      usdcAtomicAmountChecked
        (estimateCost pct info.toModelRegistration prompt completion).total := by
  unfold quotedAtomic
  rw [requestFor_inputTokens hprompt hprompt']
  show (registry.lookup name).bind _ = _
  rw [hinfo, Option.bind_some]
  show usdcAtomicAmountChecked (estimateCost pct info.toModelRegistration prompt
    (completionTokenCeiling (some completion) info.toModelRegistration)).total = _
  rw [requestFor_ceiling hcompletion hcompletion']

/-! ## The bound -/

/-- A model that rounds to 0 for one token each is quoted 1 for some request, or 0 for all. -/
theorem quoted_one_or_largest_zero {pct : ℕ} {c : ModelsConfig} {registry : Router.ModelRegistry}
    (h : fromToml c = .ok registry) {name : String} {info : Router.ModelRegistration}
    (hinfo : registry.lookup name = some info)
    (hzero : singleQuote pct info.toModelRegistration = some 0) :
    largestQuote pct info.toModelRegistration = some 0 ∨
      ∃ r, quotedAtomic pct registry r = some 1 := by
  obtain ⟨m, hm⟩ := exists_registryModel h hinfo
  have hceiling := ceiling_bounds none info.toModelRegistration
  have hprompt : 2 ^ 32 - 1 = 1 + (2 ^ 32 - 2) := by norm_num
  obtain ⟨b, hb⟩ := Nat.exists_eq_add_of_le hceiling.1
  have hstart : roundHalfEven (m.exact pct 1 1) = 0 := by
    rw [singleQuote, ← hm, m.checked_eq] at hzero
    split_ifs at hzero with hfits
    exact Option.some.inj hzero
  by_cases hend : roundHalfEven (m.exact pct (1 + (2 ^ 32 - 2)) (1 + b)) = 0
  · left
    rw [largestQuote, hb, hprompt, ← hm, m.checked_eq, hend, if_pos (Nat.zero_le _)]
  · right
    obtain ⟨i, hi, j, hj, hone⟩ := m.exists_quoted_one hstart hend
    refine ⟨requestFor name (1 + i) (1 + j), ?_⟩
    rw [quotedAtomic_requestFor hinfo (by omega) (by omega) (by omega) (by omega), ← hm,
      m.checked_eq, hone, if_pos (by decide)]

/-- The floor of a loaded registry is a lower bound of every quote that is not zero, exactly if
prices of a single token bound the quotes. -/
theorem discoveryFloor_holds_iff {pct : ℕ} {c : ModelsConfig} {registry : Router.ModelRegistry}
    (h : fromToml c = .ok registry) :
    FloorHolds pct registry ↔ SingleTokenPricesBound pct registry := by
  constructor
  · intro hfloor
    -- either all is free, or some model costs 1, or the floor is more than 1
    by_cases hfree : ∀ model n, Canonical registry model → singleQuote pct model = some n → n = 0
    · exact Or.inl hfree
    · by_cases hone : ∃ model, Canonical registry model ∧ singleQuote pct model = some 1
      · exact Or.inr (Or.inl hone)
      · refine Or.inr (Or.inr ?_)
        push Not at hfree
        obtain ⟨priced, k, hpriced, hk, hk0⟩ := hfree
        obtain ⟨hne, cheapest, hcheapest, hfloorQuote⟩ := floor_attained hpriced hk hk0
        intro name info hinfo
        have hceiling := ceiling_bounds none info.toModelRegistration
        -- a model that rounds to nothing is quoted nothing, and every other is above the floor
        constructor
        · intro hzero
          rcases quoted_one_or_largest_zero h hinfo hzero with hlargest | ⟨r, hr⟩
          · exact hlargest
          · -- a quote of 1 makes the floor 1, and then the cheapest model costs 1
            have hle := hfloor r 1 hr (by norm_num)
            have hfloorOne : discoveryFloorAtomic pct registry = 1 := by omega
            rw [hfloorOne] at hfloorQuote
            exact absurd ⟨cheapest, hcheapest, hfloorQuote⟩ hone
        · intro n hn hn0
          have hquote := @quotedAtomic_requestFor pct _ _ _ hinfo 1 1 (le_refl 1) (by norm_num)
            (le_refl 1) hceiling.1
          have hle := hfloor _ n (hquote.trans hn) hn0
          exact ⟨cheapest, _, hcheapest, hfloorQuote, hne, hle⟩
  · intro hbound r q hq hq0
    rcases hbound with hfree | ⟨model, hmodel, hone⟩ | hbound
    -- without a price the floor is 1, the least a quote can be
    · rw [floor_fallback hfree]
      omega
    · have hle := floor_le hmodel hone (by norm_num)
      omega
    · unfold quotedAtomic at hq
      obtain ⟨info, hinfo, hquote⟩ := Option.bind_eq_some_iff.mp hq
      obtain ⟨m, hm⟩ := exists_registryModel h hinfo
      have hprompt := inputTokens_bounds r
      have hceiling := ceiling_bounds r.req.maxTokens info.toModelRegistration
      have hown := hbound r.model info hinfo
      rw [← hm] at hquote hceiling hown
      obtain ⟨k, hk, hkq⟩ := m.checked_mono hprompt.1 hceiling.1 hquote
      -- by what one token of each costs
      by_cases hk0 : k = 0
      · rw [hk0] at hk
        obtain ⟨z, hz, hz0⟩ := m.checked_mono hprompt.2 hceiling.2 (hown.1 hk)
        rw [hquote] at hz
        have hqz := Option.some.inj hz
        omega
      · obtain ⟨model, n, hmodel, hn, hn0, hnk⟩ := hown.2 k hk hk0
        have hle := floor_le hmodel hn hn0
        omega

/-! ## Dust -/

/-- A model at 0.10 USDC for a million tokens of either kind, and one at 2.50 and 10.00. -/
def dustConfig : ModelsConfig where
  models :=
    [("dust", ⟨"small", "dust", some (1 / 10), some (1 / 10), 4096, none⟩),
      ("large", ⟨"big", "large", some (5 / 2), some 10, 128000, none⟩)]
  nodup := by decide

/-- What it loads to. -/
def dustRegistry : Router.ModelRegistry := (fromToml dustConfig).toOption.getD ∅

theorem fromToml_dustConfig : fromToml dustConfig = .ok dustRegistry := by
  have hsome : (fromToml dustConfig).toOption.isSome = true := by decide +kernel
  cases hload : fromToml dustConfig with
  | error error =>
    rw [hload] at hsome
    exact absurd hsome Bool.false_ne_true
  | ok registry =>
    rw [dustRegistry, hload]
    rfl

/-- One token of each kind at the small model rounds to 0, so the floor is the large one's 13; ten
of each are quoted 2. -/
theorem discoveryFloor_above_quote :
    ¬ ∀ pct c registry, fromToml c = .ok registry → FloorHolds pct registry := by
  intro h
  have hfloor : discoveryFloorAtomic 5 dustRegistry = 13 := by decide +kernel
  have hquote : quotedAtomic 5 dustRegistry (requestFor "dust" 10 10) = some 2 := by
    decide +kernel
  have hle := h 5 dustConfig dustRegistry fromToml_dustConfig _ 2 hquote (by norm_num)
  rw [hfloor] at hle
  exact absurd hle (by norm_num)

theorem discoveryFloor_holds_iff_dust :
    FloorHolds 5 dustRegistry ↔ SingleTokenPricesBound 5 dustRegistry :=
  discoveryFloor_holds_iff fromToml_dustConfig

end Solvela.Chat
