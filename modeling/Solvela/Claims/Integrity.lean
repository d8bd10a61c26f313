import Solvela.Claims.Served
import Solvela.ClaimQueue.Queue
import Solvela.Lib.Runs

/-!
# Who enqueues an escrow claim

Two entry points feed the claim queue: the success arm of a paid chat request, and
`POST /v1/escrow/settle`, which anyone may call with any body. Both fire through
`fire_escrow_claim`, whose `INSERT` is a task of its own, so the rows arrive in any order.

A claim of the chat route is bound by the deposit that was verified for the request and by what
was recorded for it. A claim of the settle route is the price of the tokens its caller states;
the chain is left to refuse what the escrow does not hold.

* `handleSettle_fires` and `settle_fires`, who fires a claim;
* `claimAtomic_le_row`, what the chat route claims against what it records.
-/

namespace Solvela.Claims

open Solvela.ChannelLedger Solvela.Channel Solvela.Chat Solvela.Lib

/-! ## `POST /v1/escrow/settle` -/

/-- `SettleStatus`. -/
inductive SettleStatus
  | completed
  | error
deriving DecidableEq

/-- `SettleRequest`. -/
structure SettleRequest where
  serviceId : String
  agentPubkey : String
  model : String
  status : SettleStatus
  actualPromptTokens : Option ℕ
  actualCompletionTokens : Option ℕ

/-- The refusals of `handle_settle`, each a 400. -/
inductive SettleError
  | tokensRequired
  | unknownModel (model : String)
  | uncomputableCost
deriving DecidableEq

def SettleError.message : SettleError → String
  | tokensRequired =>
    "actual_prompt_tokens and actual_completion_tokens are required when status=completed"
  | unknownModel model => s!"unknown model: {model}"
  | uncomputableCost => "could not compute cost (overflow or non-finite pricing)"

/-- `SettleResponse`; `ok` is true in every one. -/
structure SettleResponse where
  claimAmount : Option ℕ
deriving DecidableEq

/-- The parts of the gateway that pricing reads. -/
structure Gateway where
  pct : ℕ
  registry : String → Option ModelRegistration

/-- `handle_settle`: the response, and the claim that was fired. -/
def handleSettle (g : Gateway) (sinks : ClaimSinks) (req : SettleRequest) :
    Except SettleError SettleResponse × Option FiredClaim :=
  if req.status = .error then (.ok ⟨none⟩, none)
  else
    match req.actualPromptTokens, req.actualCompletionTokens with
    | some promptTokens, some completionTokens =>
      match g.registry req.model with
      | none => (.error (.unknownModel req.model), none)
      | some modelInfo =>
        match computeActualAtomicCost g.pct promptTokens completionTokens modelInfo .binary64 with
        | none => (.error .uncomputableCost, none)
        | some claimAtomic =>
          -- no deposit is known here, so the cap caps the claim by itself
          (.ok ⟨some claimAtomic⟩,
            fireEscrowClaim sinks .escrow (some req.serviceId) (some req.agentPubkey) none
              claimAtomic claimAtomic)
    | _, _ => (.error .tokensRequired, none)

/-! ## The system -/

inductive Label
  /-- A delivered chat request, of any scheme. -/
  | chat (c : PaidChat)
  | settle (sinks : ClaimSinks) (req : SettleRequest)
  /-- The spawned `INSERT` of the claim at `k` runs. -/
  | insert (k now : ℕ)

/-- `firedBy` numbers the request of each row, for the specification. -/
structure State where
  requests : ℕ
  inFlight : List (ℕ × FiredClaim)
  rows : ClaimQueue.Rows
  firedBy : List ℕ

def State.init : State := ⟨0, [], [], []⟩

/-- The claim a request hands to the queue. -/
def fired (g : Gateway) : Label → Option FiredClaim
  | .chat c => if c.sinks.db = .up then c.settle.claim else none
  | .settle sinks req => if sinks.db = .up then (handleSettle g sinks req).2 else none
  | .insert _ _ => none

def Label.isRequest : Label → Bool
  | .chat _ => true
  | .settle _ _ => true
  | .insert _ _ => false

def State.request (s : State) (claim : Option FiredClaim) : State :=
  { s with
    requests := s.requests + 1
    inFlight := s.inFlight ++ claim.toList.map (s.requests, ·) }

def State.insert (s : State) (k now : ℕ) : State :=
  match s.inFlight[k]? with
  | none => s
  | some (i, claim) =>
    { s with
      inFlight := s.inFlight.eraseIdx k
      rows := ClaimQueue.enqueueClaim now claim.serviceId claim.agentPubkey claim.amount
        claim.deposited s.rows
      firedBy := s.firedBy ++ [i] }

def step (g : Gateway) (s : State) : Label → State
  | .chat c => s.request (fired g (.chat c))
  | .settle sinks req => s.request (fired g (.settle sinks req))
  | .insert k now => s.insert k now

/-- The requests of a run, in order. -/
def requestsOf (as : List Label) : List Label := as.filter (·.isRequest)

/-! ## What one request can fire -/

/-- A settle call fires the price of the tokens it states, for the escrow it names. -/
theorem handleSettle_fires {g : Gateway} {sinks : ClaimSinks} {req : SettleRequest}
    {claim : FiredClaim} (h : (handleSettle g sinks req).2 = some claim) :
    req.status = .completed ∧ decodeServiceId req.serviceId = some claim.serviceId ∧
      claim.agentPubkey = req.agentPubkey ∧ claim.deposited = none ∧ 0 < claim.amount ∧
      ∃ promptTokens completionTokens modelInfo, req.actualPromptTokens = some promptTokens ∧
        req.actualCompletionTokens = some completionTokens ∧
        g.registry req.model = some modelInfo ∧
        computeActualAtomicCost g.pct promptTokens completionTokens modelInfo .binary64
          = some claim.amount := by
  unfold handleSettle at h
  split at h
  · cases h
  · rename_i hstatus
    have hcompleted : req.status = .completed := by
      cases hreq : req.status with
      | completed => rfl
      | error => exact absurd hreq hstatus
    split at h
    -- without both token counts nothing is fired
    · rename_i promptTokens completionTokens hprompt hcompletion
      split at h
      · cases h
      · rename_i modelInfo hmodel
        split at h
        · cases h
        · rename_i claimAtomic hcost
          -- what is fired is the whole cost: no deposit caps it
          have hfire : fireEscrowClaim sinks .escrow (some req.serviceId) (some req.agentPubkey)
              none claimAtomic claimAtomic = some claim := h
          simp only [fireEscrowClaim, capClaimAmount, min_self, ne_eq, not_true_eq_false, if_false,
            Option.bind_eq_bind, Option.bind_some] at hfire
          split at hfire
          · cases hfire
          · rename_i hpos
            obtain ⟨sid, hsid, hfire⟩ := Option.bind_eq_some_iff.mp hfire
            -- a sink takes the claim, or the claimer of the gateway does
            have hclaim : claim = ⟨sid, req.agentPubkey, claimAtomic, none⟩ := by
              split at hfire
              · exact (Option.some.inj hfire).symm
              · cases hfire
              · split at hfire
                · obtain ⟨_, -, hmk⟩ := Option.map_eq_some_iff.mp hfire
                  exact hmk.symm
                · cases hfire
            subst hclaim
            exact ⟨hcompleted, hsid, rfl, rfl, Nat.pos_of_ne_zero hpos, promptTokens,
              completionTokens, modelInfo, hprompt, hcompletion, hmodel, hcost⟩
    · cases h

/-- A chat request fires for its own deposit, within it. -/
theorem settle_fires {c : PaidChat} {claim : FiredClaim} (h : c.settle.claim = some claim) :
    ∃ dep, c.payment = .escrow dep ∧ claim.serviceId = dep.serviceId ∧
      claim.agentPubkey = dep.agentText ∧ claim.deposited = some dep.amount ∧
      0 < claim.amount ∧ claim.amount = min ((c.claimAtomic .escrow).getD 0) dep.amount := by
  cases hpay : c.payment with
  | exact transfer s =>
    simp only [PaidChat.settle, hpay] at h
    obtain ⟨amount, -, hfire⟩ := Option.bind_eq_some_iff.mp h
    exact absurd hfire (by simp [fireEscrowClaim])
  | channel persist =>
    exfalso
    cases persist <;> simp [PaidChat.settle, hpay] at h
  | escrow dep =>
    rw [EscrowRun.claim_settle c dep hpay] at h
    split at h
    · rename_i hfires
      have hclaim := (Option.some.inj h).symm
      subst hclaim
      exact ⟨dep, rfl, rfl, rfl, rfl, hfires.1, rfl⟩
    · cases h

/-- The claim and the row price the request alike: by its discount, or, without usage and off the
native relay, by the estimate of its own shape. The price of a usage is computed for each apart. -/
def EstimatedAlike (c : PaidChat) : Prop :=
  c.discount.isSome ∨ (c.usage = none ∧ c.nativeInputTokens = none)

/-- Off the native relay, the claim's estimate is the row's price of the quote. -/
theorem claimEstimate_of_not_native {c : PaidChat} {price : ℕ}
    (hnative : c.nativeInputTokens = none)
    (hprice : PaidChat.ledgerPrice c.expectedCost = some price) : c.claimEstimate = price := by
  have hestimate := estimatedAtomicCost_toOption c.pct c.req c.model .binary64
  unfold PaidChat.ledgerPrice PaidChat.expectedCost at hprice
  rw [hnative, Option.getD_none, ← hestimate] at hprice
  unfold PaidChat.claimEstimate
  cases hcost : estimatedAtomicCost c.pct c.req c.model .binary64 with
  | error e =>
    rw [hcost] at hprice
    cases hprice
  | ok n =>
    rw [hcost] at hprice
    exact Option.some.inj hprice

/-- A chat request that is priced alike claims at most what it records. -/
theorem claimAtomic_le_row {c : PaidChat} {n : ℕ} (halike : EstimatedAlike c)
    (hrow : (c.spendArm .escrow false).1 = some n) : (c.claimAtomic .escrow).getD 0 ≤ n := by
  have hdiscount : schemeRealizedDiscount .escrow c.discount = c.discount := rfl
  rw [PaidChat.spendArm_collected, hdiscount] at hrow
  obtain ⟨price, hprice, hn⟩ := Option.map_eq_some_iff.mp hrow
  unfold PaidChat.claimAtomic
  rw [hdiscount]
  cases hd : c.discount with
  | some d =>
    rw [hd] at hn
    exact le_of_eq hn
  | none =>
    rw [hd] at hn
    have hn' : price = n := hn
    subst hn'
    obtain ⟨husage, hnative⟩ : c.usage = none ∧ c.nativeInputTokens = none := by
      rcases halike with h | h
      · simp [hd] at h
      · exact h
    have hu : c.cappedUsage = none := by
      unfold PaidChat.cappedUsage
      rw [husage, Option.map_none]
    unfold PaidChat.rowCost at hprice
    rw [hu] at hprice ⊢
    exact le_of_eq (claimEstimate_of_not_native hnative hprice)

/-- What a chat request is accountable for when it enqueues a claim: a deposit verified for it, the
claim within the deposit, and the price. Without a discount that is the price of the capped usage,
if there is one; where row and claim are priced alike it is within the spend that was recorded. -/
structure ChatClaim (c : PaidChat) (claim : FiredClaim) : Prop where
  escrow : ∃ dep, c.payment = .escrow dep ∧ claim.serviceId = dep.serviceId ∧
    claim.agentPubkey = dep.agentText ∧ claim.deposited = some dep.amount ∧
    claim.amount ≤ dep.amount
  positive : 0 < claim.amount
  usage_priced : ∀ u, c.discount = none → c.cappedUsage = some u → ∃ price dep,
    computeActualAtomicCost c.pct u.promptTokens u.completionTokens c.model .binary64
        = some price ∧
      c.payment = .escrow dep ∧ claim.amount = min price dep.amount
  within_spend : EstimatedAlike c → ∀ n, c.settle.spendRow = some n → claim.amount ≤ n

/-- What a settle call is accountable for: it names the escrow, a registered model and token
counts, and the claim is their price. -/
structure SettleClaim (g : Gateway) (req : SettleRequest) (claim : FiredClaim) : Prop where
  completed : req.status = .completed
  names : decodeServiceId req.serviceId = some claim.serviceId ∧
    claim.agentPubkey = req.agentPubkey
  positive : 0 < claim.amount
  priced : ∃ promptTokens completionTokens modelInfo,
    req.actualPromptTokens = some promptTokens ∧
      req.actualCompletionTokens = some completionTokens ∧
      g.registry req.model = some modelInfo ∧
      computeActualAtomicCost g.pct promptTokens completionTokens modelInfo .binary64
        = some claim.amount

/-- The request that a claim came from accounts for it. -/
def Accounts (g : Gateway) (claim : FiredClaim) : Label → Prop
  | .chat c => ChatClaim c claim
  | .settle _ req => SettleClaim g req claim
  | .insert _ _ => False

theorem accounts_of_fired {g : Gateway} {a : Label} {claim : FiredClaim}
    (h : fired g a = some claim) : Accounts g claim a := by
  cases a with
  -- a claim of the chat route is capped by the deposit
  | chat c =>
    simp only [fired, Option.ite_none_right_eq_some] at h
    have h := h.2
    obtain ⟨dep, hpay, hsid, hagent, hdep, hpos, hamount⟩ := settle_fires h
    have hle : claim.amount ≤ dep.amount := by
      rw [hamount]
      exact min_le_right _ _
    refine ⟨⟨dep, hpay, hsid, hagent, hdep, hle⟩, hpos, ?_, ?_⟩
    · intro u hdiscount husage
      have hnone : schemeRealizedDiscount .escrow c.discount = none := hdiscount
      have hclaim : c.claimAtomic .escrow =
          computeActualAtomicCost c.pct u.promptTokens u.completionTokens c.model .binary64 := by
        simp only [PaidChat.claimAtomic, hnone, husage]
      rw [hclaim] at hamount
      cases hcost : computeActualAtomicCost c.pct u.promptTokens u.completionTokens c.model
          .binary64 with
      | none =>
        rw [hcost, Option.getD_none, Nat.zero_min] at hamount
        omega
      | some price =>
        rw [hcost, Option.getD_some] at hamount
        exact ⟨price, dep, rfl, hpay, hamount⟩
    -- priced alike, it is at most what is recorded
    intro halike n hrow
    have hrow' : (c.spendArm .escrow false).1 = some n := by
      simpa only [PaidChat.settle, hpay] using hrow
    have hclaim := claimAtomic_le_row halike hrow'
    rw [hamount]
    exact le_trans (min_le_left _ _) hclaim
  -- a claim of the settle route is bound by the request alone
  | settle sinks req =>
    simp only [fired, Option.ite_none_right_eq_some] at h
    have h := h.2
    obtain ⟨hcompleted, hsid, hagent, -, hpos, hpriced⟩ := handleSettle_fires h
    exact ⟨hcompleted, ⟨hsid, hagent⟩, hpos, hpriced⟩
  | insert k now => cases h

/-! ## Every run -/

/-- The columns that a claim fills in. -/
def rowOf (claim : FiredClaim) (r : ClaimQueue.Row) : Prop :=
  r.serviceId = claim.serviceId ∧ r.agentPubkey = claim.agentPubkey ∧
    r.claimAmount = claim.amount ∧ r.depositedAmount = claim.deposited

/-- The invariant: the requests are counted, no request has fired twice, and every claim in
flight or in the table is the one its request fired. -/
structure Traced (g : Gateway) (as : List Label) (s : State) : Prop where
  counted : s.requests = (requestsOf as).length
  fresh : ∀ i ∈ s.firedBy ++ s.inFlight.map Prod.fst, i < s.requests
  once : (s.firedBy ++ s.inFlight.map Prod.fst).Nodup
  parallel : s.firedBy.length = s.rows.length
  flying : ∀ x ∈ s.inFlight, ∃ a, (requestsOf as)[x.1]? = some a ∧ fired g a = some x.2
  landed : ∀ (j i : ℕ) (r : ClaimQueue.Row), s.firedBy[j]? = some i → s.rows[j]? = some r →
    ∃ a claim, (requestsOf as)[i]? = some a ∧ fired g a = some claim ∧ rowOf claim r

theorem requestsOf_request {as : List Label} {a : Label} (ha : a.isRequest = true) :
    requestsOf (as ++ [a]) = requestsOf as ++ [a] := by
  simp [requestsOf, ha]

theorem requestsOf_insert (as : List Label) (k now : ℕ) :
    requestsOf (as ++ [.insert k now]) = requestsOf as := by
  simp [requestsOf, Label.isRequest]

/-- A later request leaves the earlier ones where they are. -/
theorem getElem?_requestsOf {as : List Label} {a b : Label} {i : ℕ}
    (h : (requestsOf as)[i]? = some b) (ha : a.isRequest = true) :
    (requestsOf (as ++ [a]))[i]? = some b := by
  have hi : i < (requestsOf as).length := (List.getElem?_eq_some_iff.mp h).1
  rw [requestsOf_request ha, List.getElem?_append_left hi]
  exact h

theorem Traced.request {g : Gateway} {as : List Label} {s : State} (h : Traced g as s) {a : Label}
    (ha : a.isRequest = true) : Traced g (as ++ [a]) (s.request (fired g a)) := by
  have hnew : (requestsOf (as ++ [a]))[s.requests]? = some a := by
    rw [requestsOf_request ha, h.counted]
    exact List.getElem?_concat_length
  refine ⟨?_, ?_, ?_, h.parallel, ?_, ?_⟩
  · rw [requestsOf_request ha]
    simp [State.request, h.counted]
  -- the numbers of the claims are those of requests before this one, or its own
  · intro i hi
    have hcases : i ∈ s.firedBy ++ s.inFlight.map Prod.fst ∨ i = s.requests := by
      simp only [State.request, List.map_append, List.map_map, List.mem_append, List.mem_map,
        Function.comp, Option.mem_toList] at hi ⊢
      rcases hi with hi | hi | ⟨_, _, hi⟩
      · exact Or.inl (Or.inl hi)
      · exact Or.inl (Or.inr hi)
      · exact Or.inr hi.symm
    show i < s.requests + 1
    rcases hcases with hi | hi
    · have := h.fresh i hi
      omega
    · omega
  · -- the number of the new request is new
    have hfresh : s.requests ∉ s.firedBy ++ s.inFlight.map Prod.fst := by
      intro hmem
      exact absurd (h.fresh _ hmem) (lt_irrefl _)
    have hids : (s.request (fired g a)).firedBy ++ (s.request (fired g a)).inFlight.map Prod.fst
        = (s.firedBy ++ s.inFlight.map Prod.fst) ++ (fired g a).toList.map fun _ => s.requests := by
      simp [State.request, Function.comp_def]
    rw [hids]
    cases fired g a with
    | none => simpa using h.once
    | some claim =>
      simp only [Option.toList_some, List.map_cons, List.map_nil]
      exact List.nodup_append.mpr ⟨h.once, List.nodup_singleton _, by
        intro x hx y hy heq
        have hy' : y = s.requests := by simpa using hy
        exact hfresh (by rw [← hy', ← heq]; exact hx)⟩
  -- a claim in flight was fired by an earlier request, or by this one
  · intro x hx
    simp only [State.request, List.mem_append, List.mem_map, Option.mem_toList] at hx
    rcases hx with hx | ⟨claim, hclaim, rfl⟩
    · obtain ⟨b, hb, hfired⟩ := h.flying x hx
      exact ⟨b, getElem?_requestsOf hb ha, hfired⟩
    · exact ⟨a, hnew, hclaim⟩
  -- the rows were there before
  · intro j i r hi hr
    obtain ⟨b, claim, hb, hfired, hrow⟩ := h.landed j i r hi hr
    exact ⟨b, claim, getElem?_requestsOf hb ha, hfired, hrow⟩

theorem Traced.insert {g : Gateway} {as : List Label} {s : State} (h : Traced g as s) (k now : ℕ) :
    Traced g (as ++ [.insert k now]) (s.insert k now) := by
  have hreqs := requestsOf_insert as k now
  unfold State.insert
  split
  · exact ⟨by rw [hreqs]; exact h.counted, h.fresh, h.once, h.parallel,
      by rw [hreqs]; exact h.flying, by rw [hreqs]; exact h.landed⟩
  · rename_i i claim hk
    obtain ⟨hlt, hget⟩ := List.getElem?_eq_some_iff.mp hk
    have hmem : (i, claim) ∈ s.inFlight := List.mem_of_getElem? hk
    -- the request numbers are only rearranged
    have hperm : List.Perm ((s.firedBy ++ [i]) ++ (s.inFlight.eraseIdx k).map Prod.fst)
        (s.firedBy ++ s.inFlight.map Prod.fst) := by
      rw [List.append_assoc]
      apply List.Perm.append_left
      have hcons : List.Perm ((i, claim) :: s.inFlight.eraseIdx k) s.inFlight := by
        rw [← hget]
        exact List.getElem_cons_eraseIdx_perm hlt
      simpa using hcons.map Prod.fst
    refine ⟨by rw [hreqs]; exact h.counted, ?_, ?_, ?_, ?_, ?_⟩
    · intro j hj
      exact h.fresh j (hperm.mem_iff.mp hj)
    · exact hperm.nodup_iff.mpr h.once
    · simp [ClaimQueue.enqueueClaim, h.parallel]
    · intro x hx
      rw [hreqs]
      exact h.flying x (List.mem_of_mem_eraseIdx hx)
    · intro j i' r hi hr
      rw [hreqs]
      unfold ClaimQueue.enqueueClaim at hr
      by_cases hj : j < s.rows.length
      · rw [List.getElem?_append_left hj] at hr
        rw [List.getElem?_append_left (by rw [h.parallel]; exact hj)] at hi
        exact h.landed j i' r hi hr
      · -- the new row
        have hlast : j = s.rows.length := by
          have hbound := (List.getElem?_eq_some_iff.mp hr).1
          simp only [List.length_append, List.length_singleton] at hbound
          omega
        rw [hlast, List.getElem?_concat_length] at hr
        rw [hlast, ← h.parallel, List.getElem?_concat_length] at hi
        have hi' : i = i' := Option.some.inj hi
        have hr' := (Option.some.inj hr).symm
        subst hi' hr'
        obtain ⟨a, ha, hfired⟩ := h.flying _ hmem
        exact ⟨a, claim, ha, hfired, rfl, rfl, rfl, rfl⟩

theorem traced_run (g : Gateway) (as : List Label) :
    Traced g as (run (step g) State.init as) := by
  apply run_history (H := Traced g)
  · refine ⟨rfl, ?_, List.nodup_nil, rfl, ?_, ?_⟩
    · intro i hi
      cases hi
    · intro x hx
      cases hx
    · intro j i r hi
      simp [State.init] at hi
  · intro as a h
    cases a with
    | chat c => exact h.request rfl
    | settle sinks req => exact h.request rfl
    | insert k now => exact h.insert k now

/-- For any interleaving of chat requests, settle calls and inserts: no request has enqueued two
claims, and every row of the queue is the claim of one request, which accounts for it. -/
theorem enqueued_claims_accounted (g : Gateway) (as : List Label) :
    (run (step g) State.init as).firedBy.Nodup ∧
      ∀ (j : ℕ) (r : ClaimQueue.Row), (run (step g) State.init as).rows[j]? = some r →
        ∃ (i : ℕ) (a : Label) (claim : FiredClaim),
          (run (step g) State.init as).firedBy[j]? = some i ∧
          (requestsOf as)[i]? = some a ∧ rowOf claim r ∧ Accounts g claim a := by
  have h := traced_run g as
  refine ⟨(List.nodup_append.mp h.once).1, ?_⟩
  intro j r hr
  have hj : j < (run (step g) State.init as).firedBy.length := by
    rw [h.parallel]
    exact (List.getElem?_eq_some_iff.mp hr).1
  obtain ⟨a, claim, ha, hfired, hrow⟩ := h.landed j _ r (List.getElem?_eq_getElem hj) hr
  exact ⟨_, a, claim, List.getElem?_eq_getElem hj, ha, hrow, accounts_of_fired hfired⟩

/-! ## A claim without a request that was served -/

/-- Every claim belongs to a served request, within its recorded spend and its deposit, and no
escrow has two. -/
def ClaimIntegrity (as : List Label) (s : State) : Prop :=
  (∀ r ∈ s.rows, ∃ c dep, Label.chat c ∈ as ∧ c.payment = .escrow dep ∧
    r.serviceId = dep.serviceId ∧ r.agentPubkey = dep.agentText ∧
    r.claimAmount ≤ c.settle.spendRow.getD 0 ∧ r.claimAmount ≤ dep.amount) ∧
    (s.rows.map fun r => (r.serviceId, r.agentPubkey)).Nodup

/-- A gateway with one model. -/
def oneModelGateway : Gateway :=
  ⟨5, fun model => if model = "openai/gpt-4o" then some ⟨some (5 / 2), some 10, 128000, none⟩
    else none⟩

/-- A call that anyone can send: an escrow that no request was served against. -/
def strangersSettle : SettleRequest :=
  ⟨"AAAAAAAAAAAAAAAAAAAAAAAAAAAAAAAAAAAAAAAAAAA=", "11111111111111111111111111111111",
    "openai/gpt-4o", .completed, some 1000000, some 1000000⟩

/-- A settle call alone puts a claim into the queue. -/
theorem strangersSettle_enqueued :
    ¬ ∀ (g : Gateway) (as : List Label), ClaimIntegrity as (run (step g) State.init as) := by
  intro h
  have hrun := (h oneModelGateway [.settle ⟨.up, true⟩ strangersSettle, .insert 0 0]).1
  have hrow : ∃ r, r ∈ (run (step oneModelGateway) State.init
      [.settle ⟨.up, true⟩ strangersSettle, .insert 0 0]).rows := by
    have hlen : (run (step oneModelGateway) State.init
        [.settle ⟨.up, true⟩ strangersSettle, .insert 0 0]).rows.length = 1 := by
      decide +kernel
    exact List.exists_mem_of_length_pos (by omega)
  obtain ⟨r, hr⟩ := hrow
  obtain ⟨c, -, hmem, -⟩ := hrun r hr
  simp at hmem

end Solvela.Claims
