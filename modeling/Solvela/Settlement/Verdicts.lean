import Solvela.Settlement.Gateway

/-!
# Failed settlements

The gateway acts on a settlement as failed when the node did not accept the transaction, when its
answer was lost, or when thirty seconds have passed without a confirmation. The transaction may
land all the same. `failed_settlements_final` says of which runs it does not:

* `SendsConclusive` is about the answer to `sendTransaction`, and `PollsPastExpiry` about the end of
  the confirmation and the blockhash's expiry;
* `ExpiresWithin` and `ReadsUntilEnd` are the same for blockhashes that expire within the thirty
  seconds;
* `World.dead` is what a transaction is in those runs once its settlement has failed.
-/

namespace Solvela.Settlement

open Solvela.Lib
open Solvela.ChannelLedger
open Solvela.Channel

/-- The transaction is not on chain and cannot land any more: the cluster has not got it, or it
has failed, or its blockhash has expired. -/
def World.dead (txs : Transactions) (w : World) (signature : String) : Prop :=
  w.cluster signature ≠ .landed ∧
    (w.cluster signature = .pending → txs.valid w.clock signature = false)

instance (txs : Transactions) (w : World) (signature : String) :
    Decidable (w.dead txs signature) :=
  inferInstanceAs (Decidable (_ ∧ _))

/-- The transaction whose settlement a step acts on as failed. -/
def System.acts (txs : Transactions) (s : System) : Label → Option String
  | .advance i env => actsFailed txs env (s.tasks i).request (s.tasks i).stage
  | _ => none

/-- The node never got the transaction, or it has failed, or a status read after the expiry of its
blockhash has not shown it. -/
def World.spent (txs : Transactions) (w : World) (signature : String) : Prop :=
  w.cluster signature = .unknown ∨ w.cluster signature = .failed ∨
    ∃ read ∈ w.unseen, read.1 = signature ∧ txs.valid read.2 signature = false

instance (txs : Transactions) (w : World) (signature : String) :
    Decidable (w.spent txs signature) :=
  inferInstanceAs (Decidable (_ ∨ _ ∨ _))

/-- The payment whose settlement a step ends with the answer to `sendTransaction`. -/
def System.sendEnds (txs : Transactions) (s : System) : Label → Option String
  | .advance i env =>
    match (s.tasks i).stage with
    | .settle signature _ .send =>
      if (s.tasks i).request.payer = .channelOpen ∨
        goesOn txs env (s.tasks i).request.scheme signature s.world = true then none
      else some signature
    | _ => none
  | _ => none

/-- The answer to `sendTransaction` is lost, should the step send. -/
def Label.losesAnswer : Label → Bool
  | .advance _ env => env.send.lost
  | _ => false

/-- The payment that a step of A2A turns down without a settlement. -/
def System.turnsDown (txs : Transactions) (s : System) : Label → Option String
  | .advance i env =>
    match (s.tasks i).stage with
    | .verify => actsFailed txs env (s.tasks i).request .verify
    | _ => none
  | _ => none

/-- The payment whose confirmation a step gives up, its thirty seconds being over. -/
def System.givesUp (s : System) : Label → Option String
  | .advance i _ =>
    match (s.tasks i).stage with
    | .settle signature _ (.check p) =>
      if (s.tasks i).request.payer ≠ .channelOpen ∧ s.world.clock - p.start > confirmationBudget
      then some signature
      else none
    | _ => none
  | _ => none

/-- An answer to `sendTransaction` that ends the settlement is right about it: the node has not
taken the transaction now, and nothing that it took of it before can land. Likewise, a payment that
A2A turns down has nothing in flight. -/
def SendsConclusive (txs : Transactions) (s : System) (l : Label) : Prop :=
  (∀ signature ∈ s.sendEnds txs l, s.world.spent txs signature ∧
    (l.losesAnswer = true → s.world.accepts txs signature = false)) ∧
  ∀ signature ∈ s.turnsDown txs l, s.world.spent txs signature

/-- The confirmation of a payment gives up only once a status read after the expiry of the
blockhash has not shown the transaction, or the transaction has failed. -/
def PollsPastExpiry (txs : Transactions) (s : System) (l : Label) : Prop :=
  ∀ signature ∈ s.givesUp l, s.world.spent txs signature

/-- The blockhash of a transaction that is sent expires within thirty seconds, less `slack`. -/
def ExpiresWithin (txs : Transactions) (slack : ℕ) (s : System) (l : Label) : Prop :=
  ∀ signature ∈ s.sends l,
    ∃ t, txs.validUntil signature = some t ∧ t + slack ≤ s.world.clock + 30000

/-- When the confirmation of a payment gives up, a status read that did not show the transaction is
no older than `slack`. -/
def ReadsUntilEnd (slack : ℕ) (s : System) (l : Label) : Prop :=
  ∀ signature ∈ s.givesUp l,
    ∃ read ∈ s.world.unseen, read.1 = signature ∧ s.world.clock ≤ read.2 + slack

/-- What was reported or acted on as a failed payment is not sent again. -/
def NotSentAgain (s : System) (l : Label) : Prop :=
  ∀ signature ∈ s.sends l, signature ∉ s.world.failed ∧
    ∀ refusal ∈ s.world.refused, refusal.2 = signature → refusal.1 = .channelOpen

instance (txs : Transactions) (s : System) (l : Label) : Decidable (SendsConclusive txs s l) :=
  inferInstanceAs (Decidable (_ ∧ _))

instance (txs : Transactions) (s : System) (l : Label) : Decidable (PollsPastExpiry txs s l) :=
  inferInstanceAs (Decidable (∀ signature ∈ _, _))

instance (s : System) (l : Label) : Decidable (NotSentAgain s l) :=
  inferInstanceAs (Decidable (∀ signature ∈ _, _))

/-! ## The steps -/

theorem setTx_cluster (w : World) (signature t : String) (state : TxState) :
    (w.setTx signature state).cluster t = if t = signature then state else w.cluster t := rfl

/-- An expired transaction stays expired. -/
theorem valid_antitone (txs : Transactions) {now later : ℕ} (h : now ≤ later) {signature : String}
    (hvalid : txs.valid now signature = false) : txs.valid later signature = false := by
  unfold Transactions.valid at hvalid ⊢
  cases hlast : txs.validUntil signature with
  | none => simp [hlast] at hvalid
  | some t =>
    simp only [hlast, decide_eq_false_iff_not, not_le] at hvalid ⊢
    omega

/-- No step turns the clock back. -/
theorem step_clock (txs : Transactions) (s : System) (l : Label) :
    s.world.clock ≤ (step txs s l).world.clock := by
  have heffect := step_effect txs s l
  generalize (step txs s l).world = w' at heffect ⊢
  cases heffect with
  | tick milliseconds => exact Nat.le_add_right _ _
  | request i env hrequest =>
    cases hrequest with
    | send _ _ hsend => cases hsend <;> exact le_refl _
    | poll _ hpoll => cases hpoll <;> exact le_refl _
    | _ => exact le_refl _
  | _ => exact le_refl _

/-- What a step can do to a transaction on the cluster. -/
theorem step_cluster (txs : Transactions) (s : System) (l : Label) (signature : String) :
    (step txs s l).world.cluster signature = s.world.cluster signature ∨
    (s.sends l = some signature ∧ (step txs s l).world.cluster signature = .pending) ∨
    (s.world.cluster signature = .pending ∧ txs.valid s.world.clock signature = true) := by
  have heffect := step_effect txs s l
  generalize (step txs s l).world = w' at heffect ⊢
  cases heffect with
  | request i env hrequest =>
    cases hrequest with
    | @send _ t deposited _ _ hstage hsend =>
      have hsends : s.sends (.advance i env) = some t := by
        simp only [System.sends, hstage]
      -- a send makes its own transaction pending
      have hset : (s.world.setTx t .pending).cluster signature = s.world.cluster signature ∨
          (s.sends (.advance i env) = some signature ∧
            (s.world.setTx t .pending).cluster signature = .pending) := by
        rw [setTx_cluster]
        by_cases ht : signature = t
        · rw [if_pos ht, ht]
          exact Or.inr ⟨hsends, rfl⟩
        · rw [if_neg ht]
          exact Or.inl rfl
      cases hsend with
      | accepted => exact hset.imp id Or.inl
      | resumed => exact Or.inl rfl
      | refused => exact Or.inl rfl
      | replyLost => exact hset.imp id Or.inl
    | poll _ hpoll => cases hpoll <;> exact Or.inl rfl
    | _ => exact Or.inl rfl
  -- only a pending transaction with a valid blockhash changes
  | @fate _ t state hpending hvalid =>
    rw [setTx_cluster]
    by_cases ht : signature = t
    · rw [ht]
      exact Or.inr (Or.inr ⟨hpending, hvalid⟩)
    · rw [if_neg ht]
      exact Or.inl rfl
  | _ => exact Or.inl rfl

/-- A dead transaction stays dead in a step that does not touch it. -/
theorem dead_of_same {txs : Transactions} {s : System} {l : Label} {signature : String}
    (hsame : (step txs s l).world.cluster signature = s.world.cluster signature)
    (h : s.world.dead txs signature) : (step txs s l).world.dead txs signature := by
  unfold World.dead
  rw [hsame]
  refine ⟨h.1, ?_⟩
  intro hpending
  -- a blockhash that has expired stays so
  exact valid_antitone txs (step_clock txs s l) (h.2 hpending)

/-- A dead transaction stays dead, unless it is sent. -/
theorem dead_step {txs : Transactions} {s : System} {l : Label} {signature : String}
    (hsends : s.sends l ≠ some signature) (h : s.world.dead txs signature) :
    (step txs s l).world.dead txs signature := by
  rcases step_cluster txs s l signature with hsame | ⟨hsent, -⟩ | ⟨hpending, hvalid⟩
  · exact dead_of_same hsame h
  · exact absurd hsent hsends
  · -- the fate of a transaction is decided while it is valid
    rw [h.2 hpending] at hvalid
    cases hvalid

/-- A verdict is one of the step's own signature. -/
theorem failed_step (txs : Transactions) (s : System) (l : Label) {signature : String}
    (h : signature ∈ (step txs s l).world.failed) :
    signature ∈ s.world.failed ∨ s.acts txs l = some signature := by
  have heffect := step_effect txs s l
  generalize (step txs s l).world = w' at heffect h
  cases heffect with
  | request i env hrequest =>
    cases hrequest with
    | send _ _ hsend => cases hsend <;> exact Or.inl h
    | poll _ hpoll => cases hpoll <;> exact Or.inl h
    | failed hacts =>
      rcases List.mem_append.1 h with hold | hnew
      · exact Or.inl hold
      · rw [List.mem_singleton.1 hnew]
        exact Or.inr hacts
    | _ => exact Or.inl h
  | _ => exact Or.inl h

/-- What a step acts on as failed is a payment whose settlement was reported as failed, or one that
A2A turns down. -/
theorem acts_cases {txs : Transactions} {s : System} {l : Label} {signature : String}
    (h : s.acts txs l = some signature) :
    ∃ i env, l = .advance i env ∧ (s.tasks i).request.payer ≠ .channelOpen ∧
      ((∃ deposited result, (s.tasks i).stage = .settle signature deposited (.verdict result) ∧
          result.success = false) ∨
        ((s.tasks i).stage = .verify ∧
          actsFailed txs env (s.tasks i).request .verify = some signature)) := by
  cases l with
  | advance i env =>
    simp only [System.acts] at h
    refine ⟨i, env, rfl, ?_⟩
    cases hstage : (s.tasks i).stage with
    -- on a verdict of its own settlement
    | settle t deposited settling =>
      cases settling with
      | verdict result =>
        rw [hstage] at h
        cases hrequest : (s.tasks i).request with
        | channelOpen config channelId req =>
          rw [hrequest] at h
          cases h
        | _ =>
          rw [hrequest] at h
          simp only [actsFailed, Option.ite_none_left_eq_some, Option.some.injEq,
            Bool.not_eq_true] at h
          obtain ⟨hfailed, rfl⟩ := h
          exact ⟨by simp [Request.payer], Or.inl ⟨deposited, result, rfl, hfailed⟩⟩
      | _ =>
        rw [hstage] at h
        cases hrequest : (s.tasks i).request <;> rw [hrequest] at h <;> cases h
    -- or where the verification refuses before anything is sent
    | verify =>
      rw [hstage] at h
      refine ⟨?_, Or.inr ⟨rfl, h⟩⟩
      cases hrequest : (s.tasks i).request with
      | channelOpen config channelId req =>
        rw [hrequest] at h
        cases h
      | _ => simp [Request.payer]
    | _ =>
      rw [hstage] at h
      cases hrequest : (s.tasks i).request <;> rw [hrequest] at h <;> cases h
  | _ => cases h

/-- A step that acts on a failed settlement sends nothing. -/
theorem sends_of_acts {txs : Transactions} {s : System} {l : Label} {signature : String}
    (h : s.acts txs l = some signature) : s.sends l = none := by
  cases l with
  | advance i env =>
    simp only [System.acts] at h
    simp only [System.sends]
    cases hstage : (s.tasks i).stage with
    | settle t deposited settling =>
      cases settling with
      | send =>
        rw [hstage] at h
        cases hrequest : (s.tasks i).request <;> rw [hrequest] at h <;> cases h
      | _ => rfl
    | _ => rfl
  | _ => cases h

/-- Where a step leaves the settlement of a request: it has just begun, or one step of the
settlement was made. -/
theorem requestStep_settling {txs : Transactions} {env : Env} {w : World} {request : Request}
    {stage : Stage} {signature : String} {deposited : ℕ} {settling' : Settling}
    (h : (requestStep txs env w request stage).2 = .settle signature deposited settling') :
    settling' = .send ∨ ∃ settling, stage = .settle signature deposited settling ∧
      (requestStep txs env w request stage).1 =
        (settleStep txs env request.payer request.scheme signature w settling).1 ∧
      settling' = (settleStep txs env request.payer request.scheme signature w settling).2 := by
  cases stage with
  | settle t d settling =>
    by_cases hverdict : ∃ result, settling = .verdict result
    · obtain ⟨result, rfl⟩ := hverdict
      -- a verdict is acted on, and the settlement is over
      cases request <;> simp only [requestStep, chatStep, a2aStep, openStep] at h <;>
        split at h <;> cases h
    · have hstep : requestStep txs env w request (.settle t d settling) =
          ((settleStep txs env request.payer request.scheme t w settling).1,
            .settle t d (settleStep txs env request.payer request.scheme t w settling).2) := by
        cases settling with
        | verdict result => exact absurd ⟨result, rfl⟩ hverdict
        | _ => cases request <;> rfl
      rw [hstep] at h ⊢
      obtain ⟨rfl, rfl, rfl⟩ := Stage.settle.inj h
      exact Or.inr ⟨settling, rfl, rfl, rfl⟩
  | replay =>
    cases request <;> simp only [requestStep, chatStep, a2aStep, openStep, checkAndRecordTx] at h <;>
      (repeat' split at h) <;> cases h
  | budget =>
    cases request <;> simp only [requestStep, chatStep, a2aStep, openStep] at h <;>
      (repeat' split at h) <;> cases h
  | verify =>
    cases request <;> simp only [requestStep, chatStep, a2aStep, openStep] at h <;>
      (repeat' split at h) <;> cases h <;> exact Or.inl rfl
  | serve =>
    cases request <;> simp only [requestStep, chatStep, a2aStep, openStep] at h <;>
      (repeat' split at h) <;> cases h
    exact Or.inl rfl
  | deliver => cases request <;> cases h
  | record d settlement => cases request <;> cases h
  | done => cases request <;> cases h

/-- A request in its settlement after a step: it was not this one that moved, or it has just begun,
or it has made one step of the settlement. -/
theorem settling_step {txs : Transactions} {s : System} {l : Label} {i : ℕ} {signature : String}
    {deposited : ℕ} {settling' : Settling}
    (h : ((step txs s l).tasks i).stage = .settle signature deposited settling') :
    (step txs s l).tasks i = s.tasks i ∨ settling' = .send ∨
      ∃ env settling, l = .advance i env ∧
        (s.tasks i).stage = .settle signature deposited settling ∧
        ((step txs s l).tasks i).request = (s.tasks i).request ∧
        (step txs s l).world = (settleStep txs env (s.tasks i).request.payer
          (s.tasks i).request.scheme signature s.world settling).1 ∧
        settling' = (settleStep txs env (s.tasks i).request.payer
          (s.tasks i).request.scheme signature s.world settling).2 := by
  cases l with
  | start j request =>
    -- a task that is not done is not started again
    by_cases hdone : (s.tasks j).stage = .done
    · have htasks : (step txs s (.start j request)).tasks i =
          if i = j then ⟨request, request.first⟩ else s.tasks i := by
        simp only [step, hdone, System.setTask]
      rw [htasks] at h ⊢
      split
      · rename_i hj
        rw [if_pos hj] at h
        cases request <;> cases h
      · exact Or.inl rfl
    · refine Or.inl ?_
      simp only [step]
  | advance j env =>
    by_cases hj : i = j
    · subst hj
      have htask : (step txs s (.advance i env)).tasks i = ⟨(s.tasks i).request,
          (requestStep txs env s.world (s.tasks i).request (s.tasks i).stage).2⟩ := if_pos rfl
      rw [htask] at h ⊢
      -- a settlement starts with its send, or goes on by a step of its own
      rcases requestStep_settling h with hsend | ⟨settling, hold, hworld, hsettling⟩
      · exact Or.inr (Or.inl hsend)
      · exact Or.inr (Or.inr ⟨env, settling, rfl, hold, rfl, hworld, hsettling⟩)
    · exact Or.inl (if_neg hj)
  | crash j =>
    by_cases hj : i = j
    · subst hj
      simp only [step, System.setTask, if_true] at h
      cases h
    · exact Or.inl (if_neg hj)
  | _ => exact Or.inl rfl

/-- A verdict of failure is on record. -/
theorem settleStep_refused {txs : Transactions} {env : Env} {payer : Payer} {scheme : Scheme}
    {signature : String} {w : World} {settling : Settling} {result : SettlementResult}
    (hold : ∀ result', settling = .verdict result' → result'.success = false →
      (payer, signature) ∈ w.refused)
    (h : (settleStep txs env payer scheme signature w settling).2 = .verdict result)
    (hfailed : result.success = false) :
    (payer, signature) ∈ (settleStep txs env payer scheme signature w settling).1.refused := by
  -- every verdict that fails goes through `refuse`
  have hrefuse : ∀ (w' : World) (r : SettlementResult),
      (payer, signature) ∈ (w'.refuse payer signature r).1.refused := fun w' r =>
    List.mem_append_right _ (List.mem_singleton_self _)
  cases settling with
  | send =>
    cases hsend : env.send with
    | accepted =>
      simp only [settleStep, hsend] at h ⊢
      -- an answer of acceptance is one only if the cluster accepts
      by_cases haccepts : w.accepts txs signature = true
      · rw [if_pos haccepts] at h
        cases h
      · rw [if_neg haccepts]
        exact hrefuse _ _
    | rejected e alreadyProcessed =>
      simp only [settleStep, hsend] at h ⊢
      -- a second submission of a deposit goes on to its status
      by_cases hgoes : scheme = .escrow ∧ alreadyProcessed = true
      · rw [if_pos hgoes] at h
        cases h
      · rw [if_neg hgoes]
        exact hrefuse _ _
    | replyLost =>
      simp only [settleStep, hsend]
      exact hrefuse _ _
  | check p =>
    simp only [settleStep] at h ⊢
    -- the loop gives up at its head
    by_cases hover : w.clock - p.start > confirmationBudget
    · rw [if_pos hover]
      exact hrefuse _ _
    · rw [if_neg hover] at h
      split at h <;> cases h
  | sleep p wake =>
    simp only [settleStep] at h
    split at h <;> cases h
  -- of the statuses only a failed landing is a verdict that fails
  | query p =>
    cases hstatus : env.status with
    | transient =>
      simp only [settleStep, hstatus] at h
      cases h
    | status isConfirmed err =>
      cases hcluster : w.cluster signature with
      | failed =>
        simp only [settleStep, hstatus, hcluster]
        exact hrefuse _ _
      | landed =>
        simp only [settleStep, hstatus, hcluster] at h
        split at h
        · cases h
          cases hfailed
        · cases h
      | unknown =>
        simp only [settleStep, hstatus, hcluster] at h
        cases h
      | pending =>
        simp only [settleStep, hstatus, hcluster] at h
        cases h
  | verdict result' =>
    cases h
    exact hold result rfl hfailed

/-! ## Whole runs -/

/-- What was reported or acted on as failed is dead, what is about to be acted on as failed was
reported so, and a status read after the expiry of the blockhash that did not show a transaction is
right for good. -/
structure FailedDead (txs : Transactions) (s : System) : Prop where
  failed : ∀ signature ∈ s.world.failed, s.world.dead txs signature
  refused : ∀ refusal ∈ s.world.refused, refusal.1 ≠ .channelOpen →
    s.world.dead txs refusal.2
  verdict : ∀ (i : ℕ) (signature : String) (deposited : ℕ) (result : SettlementResult),
    (s.tasks i).stage = .settle signature deposited (.verdict result) → result.success = false →
    ((s.tasks i).request.payer, signature) ∈ s.world.refused
  unseen : ∀ read ∈ s.world.unseen, read.2 ≤ s.world.clock ∧
    (txs.valid read.2 read.1 = false → s.world.cluster read.1 ≠ .landed)

/-- Nothing has failed at first. -/
theorem FailedDead.init (txs : Transactions) : FailedDead txs .init := by
  refine ⟨?_, ?_, ?_, ?_⟩
  · intro signature h
    cases h
  · intro refusal h
    cases h
  · intro i signature deposited result h
    cases h
  · intro read h
    cases h

/-- What is spent is dead. -/
theorem FailedDead.dead_of_spent {txs : Transactions} {s : System} (h : FailedDead txs s)
    {signature : String} (hspent : s.world.spent txs signature) :
    s.world.dead txs signature := by
  rcases hspent with hunknown | hfailed | ⟨⟨t, time⟩, hread, rfl, hexpired⟩
  · exact ⟨by simp [hunknown], by simp [hunknown]⟩
  · exact ⟨by simp [hfailed], by simp [hfailed]⟩
  · obtain ⟨htime, hlanded⟩ := h.unseen _ hread
    exact ⟨hlanded hexpired, fun _ => valid_antitone txs htime hexpired⟩

/-- A step adds to the reports of failed payments only what is spent or has failed, and sends none
of it. -/
theorem refused_step {txs : Transactions} {s : System} {l : Label}
    (hsends : SendsConclusive txs s l) (hpolls : PollsPastExpiry txs s l) {refusal : Payer × String}
    (hrefusal : refusal ∈ (step txs s l).world.refused) (hpayer : refusal.1 ≠ .channelOpen) :
    refusal ∈ s.world.refused ∨ s.world.spent txs refusal.2 ∧
      ((step txs s l).world.cluster refusal.2 = s.world.cluster refusal.2) := by
  have heffect := step_effect txs s l
  generalize (step txs s l).world = w' at heffect hrefusal ⊢
  cases heffect with
  | request i env hrequest =>
    cases hrequest with
    | @send scheme signature deposited w'' hscheme hstage hsend =>
      -- what the conditions say of a send that ends its request
      have hconclusive : (s.tasks i).request.payer ≠ .channelOpen →
          goesOn txs env (s.tasks i).request.scheme signature s.world = false →
            s.world.spent txs signature ∧
              (env.send.lost = true → s.world.accepts txs signature = false) := by
        intro hpayer' hends
        apply hsends.1 signature
        simp [System.sendEnds, hstage, hpayer', hends]
      cases hsend with
      -- an accepted send refuses nothing yet
      | accepted => exact Or.inl hrefusal
      | resumed => exact Or.inl hrefusal
      | refused hends hnot =>
        rcases List.mem_append.1 hrefusal with hold | hnew
        · exact Or.inl hold
        · rw [List.mem_singleton.1 hnew] at hpayer ⊢
          rw [hscheme] at hends
          exact Or.inr ⟨(hconclusive hpayer hends).1, rfl⟩
      | replyLost hlost haccepts =>
        rcases List.mem_append.1 hrefusal with hold | hnew
        · exact Or.inl hold
        · rw [List.mem_singleton.1 hnew] at hpayer
          have hnot := (hconclusive hpayer (by simp only [goesOn, hlost])).2 (by
            rw [hlost]
            rfl)
          rw [hnot] at haccepts
          cases haccepts
    | @poll signature deposited settling w'' hstage hpoll =>
      cases hpoll with
      | same => exact Or.inl hrefusal
      | unseen => exact Or.inl hrefusal
      -- the loop gives up only on what has expired
      | timeout p hover =>
        rcases List.mem_append.1 hrefusal with hold | hnew
        · exact Or.inl hold
        · rw [List.mem_singleton.1 hnew] at hpayer ⊢
          have hgives : s.givesUp (.advance i env) = some signature := by
            simp only [System.givesUp, hstage]
            exact if_pos ⟨hpayer, hover⟩
          exact Or.inr ⟨hpolls signature hgives, rfl⟩
      -- a failed landing is final
      | failed p hcluster =>
        rcases List.mem_append.1 hrefusal with hold | hnew
        · exact Or.inl hold
        · rw [List.mem_singleton.1 hnew]
          exact Or.inr ⟨Or.inr (Or.inl hcluster), rfl⟩
    | _ => exact Or.inl hrefusal
  | _ => exact Or.inl hrefusal

/-- A status read that does not show a transaction is made while it is not on chain. -/
theorem unseen_step {txs : Transactions} {s : System} {l : Label} {read : String × ℕ}
    (hread : read ∈ (step txs s l).world.unseen) :
    read ∈ s.world.unseen ∨ read.2 = s.world.clock ∧
      (step txs s l).world.cluster read.1 ≠ .landed := by
  have heffect := step_effect txs s l
  generalize (step txs s l).world = w' at heffect hread ⊢
  cases heffect with
  | request i env hrequest =>
    cases hrequest with
    | send _ _ hsend => cases hsend <;> exact Or.inl hread
    | poll _ hpoll =>
      cases hpoll with
      | unseen p hcluster =>
        rcases List.mem_append.1 hread with hold | hnew
        · exact Or.inl hold
        · rw [List.mem_singleton.1 hnew]
          exact Or.inr ⟨rfl, hcluster⟩
      | _ => exact Or.inl hread
    | _ => exact Or.inl hread
  | _ => exact Or.inl hread

/-- What was refused stays refused. -/
theorem refused_mono (txs : Transactions) (s : System) (l : Label) :
    s.world.refused ⊆ (step txs s l).world.refused := by
  have heffect := step_effect txs s l
  generalize (step txs s l).world = w' at heffect ⊢
  have happend : ∀ r, s.world.refused ⊆ s.world.refused ++ [r] := fun _ =>
    List.subset_append_left _ _
  cases heffect with
  | request i env hrequest =>
    cases hrequest with
    | send _ _ hsend =>
      cases hsend with
      | refused => exact happend _
      | replyLost => exact happend _
      | _ => exact List.Subset.refl _
    | poll _ hpoll =>
      cases hpoll with
      | timeout => exact happend _
      | failed => exact happend _
      | _ => exact List.Subset.refl _
    | _ => exact List.Subset.refl _
  | _ => exact List.Subset.refl _

/-- After a step, too, what is about to be acted on as failed was reported so. -/
theorem verdict_step {txs : Transactions} {s : System} (h : FailedDead txs s) (l : Label) {i : ℕ}
    {signature : String} {deposited : ℕ} {result : SettlementResult}
    (hstage : ((step txs s l).tasks i).stage = .settle signature deposited (.verdict result))
    (hfailed : result.success = false) :
    (((step txs s l).tasks i).request.payer, signature) ∈ (step txs s l).world.refused := by
  rcases settling_step hstage with hsame | hsend |
    ⟨env, settling, rfl, hold, hrequest, hworld, hsettling⟩
  · rw [hsame] at hstage ⊢
    exact refused_mono txs s l (h.verdict i signature deposited result hstage hfailed)
  · cases hsend
  · rw [hrequest, hworld]
    refine settleStep_refused ?_ hsettling.symm hfailed
    intro result' hverdict hfailed'
    rw [hverdict] at hold
    exact h.verdict i signature deposited result' hold hfailed'

/-- What one step preserves under the three conditions. -/
theorem FailedDead.step {txs : Transactions} {s : System} {l : Label} (h : FailedDead txs s)
    (hsends : SendsConclusive txs s l) (hpolls : PollsPastExpiry txs s l)
    (hagain : NotSentAgain s l) : FailedDead txs (step txs s l) where
  failed := by
    intro signature hfailed
    rcases failed_step txs s l hfailed with hold | hnew
    · apply dead_step _ (h.failed signature hold)
      intro hsent
      exact (hagain signature hsent).1 hold
    · -- the step that acts on it does not send it
      apply dead_step (by simp [sends_of_acts hnew])
      obtain ⟨i, env, rfl, hpayer, ⟨deposited, result, hstage, hresult⟩ | ⟨hverify, hacts⟩⟩ :=
        acts_cases hnew
      · exact h.refused _ (h.verdict i signature deposited result hstage hresult) hpayer
      · apply h.dead_of_spent
        apply hsends.2 signature
        simp only [System.turnsDown, hverify]
        exact hacts
  -- a new refusal is of a transaction that is spent
  refused := by
    intro refusal hrefusal hpayer
    rcases refused_step hsends hpolls hrefusal hpayer with hold | ⟨hspent, hsame⟩
    · apply dead_step _ (h.refused refusal hold hpayer)
      intro hsent
      exact hpayer ((hagain refusal.2 hsent).2 refusal hold rfl)
    · exact dead_of_same hsame (h.dead_of_spent hspent)
  verdict := fun i signature deposited result hstage hfailed =>
    verdict_step h l hstage hfailed
  -- what was read as unknown after its expiry never lands
  unseen := by
    intro read hread
    rcases unseen_step hread with hold | ⟨htime, hlanded⟩
    · obtain ⟨htime, hlanded⟩ := h.unseen read hold
      refine ⟨le_trans htime (step_clock txs s l), ?_⟩
      intro hexpired
      rcases step_cluster txs s l read.1 with hsame | ⟨-, hpending⟩ | ⟨-, hvalid⟩
      · rw [hsame]
        exact hlanded hexpired
      · rw [hpending]
        simp
      · -- what has expired lands no more
        rw [valid_antitone txs htime hexpired] at hvalid
        cases hvalid
    · exact ⟨le_of_eq_of_le htime (step_clock txs s l), fun _ => hlanded⟩

/-! ## Blockhashes that expire within the thirty seconds -/

/-- The variables of the confirmation, while there is one. -/
def Settling.poll : Settling → Option Poll
  | .check p => some p
  | .sleep p _ => some p
  | .query p => some p
  | .send => none
  | .verdict _ => none

/-- Every blockhash that is waited for expires within the thirty seconds. -/
def WaitsShort (txs : Transactions) (slack : ℕ) (s : System) : Prop :=
  ∀ (i : ℕ) (signature : String) (deposited : ℕ) (settling : Settling) (p : Poll),
    (s.tasks i).stage = .settle signature deposited settling → settling.poll = some p →
    ∃ t, txs.validUntil signature = some t ∧ t + slack ≤ p.start + 30000

/-- A confirmation goes on since it started, or starts with the send. -/
theorem settleStep_start {txs : Transactions} {env : Env} {payer : Payer} {scheme : Scheme}
    {signature : String} {w : World} {settling : Settling} {p : Poll}
    (h : (settleStep txs env payer scheme signature w settling).2.poll = some p) :
    (settling = .send ∧ p.start = w.clock) ∨
      ∃ p₀, settling.poll = some p₀ ∧ p.start = p₀.start := by
  cases settling with
  | send =>
    refine Or.inl ⟨rfl, ?_⟩
    simp only [settleStep] at h
    (repeat' split at h) <;> simp only [Settling.poll, World.refuse, Option.some.injEq,
      reduceCtorEq] at h
    all_goals rw [← h]
  -- from here on the start of the poll is carried along
  | check p₀ =>
    refine Or.inr ⟨p₀, rfl, ?_⟩
    simp only [settleStep] at h
    (repeat' split at h) <;> simp only [Settling.poll, World.refuse, Option.some.injEq,
      reduceCtorEq] at h
    all_goals rw [← h]
  | sleep p₀ wake =>
    refine Or.inr ⟨p₀, rfl, ?_⟩
    simp only [settleStep] at h
    (repeat' split at h) <;> simp only [Settling.poll, Option.some.injEq] at h
    all_goals rw [← h]
  | query p₀ =>
    refine Or.inr ⟨p₀, rfl, ?_⟩
    simp only [settleStep] at h
    (repeat' split at h) <;> simp only [Settling.poll, World.refuse, Option.some.injEq,
      reduceCtorEq] at h
    all_goals rw [← h]
  | verdict result => cases h

/-- What one step preserves, if what is polled expires soon. -/
theorem WaitsShort.step {txs : Transactions} {slack : ℕ} {s : System} {l : Label}
    (h : WaitsShort txs slack s) (hexpires : ExpiresWithin txs slack s l) :
    WaitsShort txs slack (step txs s l) := by
  intro i signature deposited settling p hstage hpoll
  rcases settling_step hstage with hsame | rfl | ⟨env, before, rfl, hold, -, -, hsettling⟩
  · rw [hsame] at hstage
    exact h i signature deposited settling p hstage hpoll
  · cases hpoll
  · rw [hsettling] at hpoll
    rcases settleStep_start hpoll with ⟨rfl, hstart⟩ | ⟨p₀, hp₀, hstart⟩
    · have hsends : s.sends (.advance i env) = some signature := by
        simp only [System.sends, hold]
      rw [hstart]
      exact hexpires signature hsends
    · rw [hstart]
      exact h i signature deposited before p₀ hold hp₀

/-- A confirmation that is given up has used up its budget. -/
theorem givesUp_stage {s : System} {l : Label} {signature : String}
    (h : s.givesUp l = some signature) :
    ∃ i deposited p, (s.tasks i).stage = .settle signature deposited (.check p) ∧
      s.world.clock - p.start > confirmationBudget := by
  cases l with
  | advance i env =>
    simp only [System.givesUp] at h
    split at h
    · rename_i t deposited p hstage
      obtain ⟨hover, hsignature⟩ := Option.ite_none_right_eq_some.1 h
      rw [Option.some.inj hsignature] at hstage
      exact ⟨i, deposited, p, hstage, hover.2⟩
    · cases h
  | _ => cases h

/-- Thirty seconds of reads outlast a blockhash that expires within them. -/
theorem pollsPastExpiry_of_waitsShort {txs : Transactions} {slack : ℕ} {s : System} {l : Label}
    (h : WaitsShort txs slack s) (hreads : ReadsUntilEnd slack s l) : PollsPastExpiry txs s l := by
  intro signature hgives
  obtain ⟨read, hunseen, hread, hrecent⟩ := hreads signature hgives
  refine Or.inr (Or.inr ⟨read, hunseen, hread, ?_⟩)
  obtain ⟨i, deposited, p, hstage, hover⟩ := givesUp_stage hgives
  obtain ⟨t, hlast, hshort⟩ := h i signature deposited _ p hstage rfl
  simp only [Transactions.valid, hlast, decide_eq_false_iff_not, not_le]
  unfold confirmationBudget at hover
  omega

/-- No failed settlement moves money. -/
def FailuresFinal (txs : Transactions) (labels : List Label) : Prop :=
  ∀ as bs, labels = as ++ bs → ∀ signature ∈ (run (step txs) .init as).world.failed,
    (run (step txs) .init as).world.cluster signature ≠ .landed

/-- No failed settlement moves money in a run where the failures of `sendTransaction` are right,
the confirmations give up only past the expiry of the blockhashes, and what has failed is not sent
again. So it is when the blockhashes expire within the thirty seconds of the confirmation and the
reads go on until its end. And a failed settlement is final, whatever happens after it, exactly if
the transaction is dead. -/
theorem failed_settlements_final (txs : Transactions) (labels : List Label) :
    (AllSteps (step txs)
        (fun s l => SendsConclusive txs s l ∧ PollsPastExpiry txs s l ∧ NotSentAgain s l)
        .init labels → FailuresFinal txs labels) ∧
    (∀ slack, AllSteps (step txs)
        (fun s l => SendsConclusive txs s l ∧ ExpiresWithin txs slack s l ∧
          ReadsUntilEnd slack s l ∧ NotSentAgain s l)
        .init labels → FailuresFinal txs labels) ∧
    (∀ signature ∈ (run (step txs) .init labels).world.failed,
      (∀ cs, AllSteps (step txs) (fun s l => s.sends l ≠ some signature)
          (run (step txs) .init labels) cs →
        (run (step txs) .init (labels ++ cs)).world.cluster signature ≠ .landed) ↔
      (run (step txs) .init labels).world.dead txs signature) := by
  have hfinal : AllSteps (step txs)
      (fun s l => SendsConclusive txs s l ∧ PollsPastExpiry txs s l ∧ NotSentAgain s l)
      .init labels → FailuresFinal txs labels := by
    intro h as bs hsplit signature hfailed
    rw [hsplit, allSteps_append] at h
    have hstep : ∀ s l, FailedDead txs s →
        SendsConclusive txs s l ∧ PollsPastExpiry txs s l ∧ NotSentAgain s l →
        FailedDead txs (step txs s l) := fun s l hs hl => hs.step hl.1 hl.2.1 hl.2.2
    have hinv := run_invariant_of_allSteps hstep (FailedDead.init txs) h.1
    exact (hinv.failed signature hfailed).1
  refine ⟨hfinal, ?_, ?_⟩
  · intro slack h
    apply hfinal
    have hinit : WaitsShort txs slack .init := by
      intro i signature deposited settling p hstage
      cases hstage
    exact allSteps_imp (fun s l hs hl => hs.step hl.2.1)
      (fun s l hs hl => ⟨hl.1, pollsPastExpiry_of_waitsShort hs hl.2.2.1, hl.2.2.2⟩) hinit h
  · intro signature _
    constructor
    · intro h
      refine ⟨?_, ?_⟩
      · have hnow := h [] trivial
        rw [List.append_nil] at hnow
        exact hnow
      · intro hpending
        by_contra hvalid
        -- the transaction is still valid, so it may land next
        have hland := h [.land signature] ⟨by simp [System.sends], trivial⟩
        apply hland
        have hboth : (run (step txs) .init labels).world.cluster signature = .pending ∧
            txs.valid (run (step txs) .init labels).world.clock signature = true :=
          ⟨hpending, by simpa using hvalid⟩
        rw [run_append]
        show ((run (step txs) .init labels).world.decide txs signature .landed).cluster _ = _
        rw [World.decide, if_pos hboth, setTx_cluster, if_pos rfl]
    · intro hdead cs hcs
      rw [run_append]
      have hstep : ∀ s l, s.world.dead txs signature → s.sends l ≠ some signature →
          (step txs s l).world.dead txs signature := fun s l hs hl => dead_step hl hs
      exact (run_invariant_of_allSteps hstep hdead hcs).1

/-- A chat request up to its first status read, whose answer takes some time, and its verdict. -/
def slowChat (milliseconds : ℕ) : List Label :=
  .start 0 (.chat "transfer") :: List.replicate 6 (.advance 0 exampleEnv) ++
    .tick milliseconds :: List.replicate 3 (.advance 0 exampleEnv)

/-- The status read is answered after the expiry of the blockhash, and the transaction does not
land. -/
theorem expired_settlement_final :
    AllSteps (step exampleTxs)
      (fun s l => SendsConclusive exampleTxs s l ∧ PollsPastExpiry exampleTxs s l ∧
        NotSentAgain s l) .init (slowChat 61000 ++ [.land "transfer"]) ∧
    "transfer" ∈ (run (step exampleTxs) .init (slowChat 61000)).world.failed ∧
    (run (step exampleTxs) .init (slowChat 61000 ++ [.land "transfer"])).world.cluster
      "transfer" ≠ .landed := by
  have hsteps : AllSteps (step exampleTxs)
      (fun s l => SendsConclusive exampleTxs s l ∧ PollsPastExpiry exampleTxs s l ∧
        NotSentAgain s l) .init (slowChat 61000 ++ [.land "transfer"]) := by
    decide +kernel
  refine ⟨hsteps, by decide +kernel, ?_⟩
  exact (failed_settlements_final exampleTxs _).1 hsteps _ [] (List.append_nil _).symm "transfer"
    (by decide +kernel)

/-- The status read is answered after thirty-one seconds, the confirmation is given up, and the
transaction lands in the next block. -/
theorem failed_settlement_lands :
    "transfer" ∈ (run (step exampleTxs) .init (slowChat 31000)).world.failed ∧
    (run (step exampleTxs) .init (slowChat 31000 ++ [.land "transfer"])).world.cluster
      "transfer" = .landed := by
  decide +kernel

end Solvela.Settlement
