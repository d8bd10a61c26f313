import Solvela.Ledger.Theorems
import Solvela.Settlement.Gateway

/-!
# What a transfer is credited for

A chat request and the opening of a channel can both send one transfer while it has not landed,
and both see it confirmed. `transfer_credited_once` says that a transfer is credited once in every
run where the node never accepts a transfer for both, and that the index on the funding
transactions keeps it from being the deposit of two channels in any case.

* `FundingUnique.createChannel`, no transfer funds two channels;
* `CreditInv.step`, what is credited was sent and confirmed;
* `Apart.step`, no transfer is sent by two payers.
-/

namespace Solvela.Settlement

open Solvela.Lib
open Solvela.ChannelLedger
open Solvela.Channel

/-! ## Channels and their funding -/

/-- No two channels were funded by one transaction. -/
def FundingUnique (ledger : Ledger) : Prop :=
  ∀ (id₁ id₂ : ChannelId) (c₁ c₂ : ChannelLedger.Channel) (signature : String),
    ledger.channels.lookup id₁ = some c₁ → ledger.channels.lookup id₂ = some c₂ →
    c₁.1.fundingTxSig = some signature → c₂.1.fundingTxSig = some signature → id₁ = id₂

/-- Some channel was funded by the transaction. -/
def Funded (ledger : Ledger) (signature : String) : Prop :=
  ∃ id c, ledger.channels.lookup id = some c ∧ c.1.fundingTxSig = some signature

/-- A signature that has funded a channel is found to be used. -/
theorem fundingUsed_of_funded {ledger : Ledger} {signature : String} (h : Funded ledger signature) :
    fundingUsed ledger (some signature) = true := by
  obtain ⟨id, c, hc, hfunding⟩ := h
  simp only [fundingUsed, Option.isSome_some, Bool.true_and, List.any_eq_true, beq_iff_eq]
  exact ⟨⟨id, c⟩, AList.mem_lookup_iff.1 hc, hfunding⟩

/-- What `create_channel` can do to the ledger. -/
theorem createChannel_cases (fault : Fault) (ch : NewChannel) (ledger : Ledger) :
    Txn.stateOf (createChannel fault ch ledger) = ledger ∨
    ∃ c : ChannelLedger.Channel, c.1.fundingTxSig = ch.fundingTxSig ∧
      fundingUsed ledger ch.fundingTxSig = false ∧
      Txn.stateOf (createChannel fault ch ledger) =
        { ledger with channels := ledger.channels.insert ch.channelId c } := by
  cases h : createChannel fault ch ledger with
  | ok u ledger' =>
    obtain ⟨-, hunused, -, expiry, hr, rfl⟩ := createChannel_inserts h
    exact Or.inr ⟨⟨_, hr⟩, rfl, hunused, rfl⟩
  | error e ledger' =>
    rw [createChannel_error h]
    exact Or.inl rfl

/-- A creation funds one channel by its own signature. -/
theorem funded_createChannel {fault : Fault} {ch : NewChannel} {ledger : Ledger}
    {signature : String}
    (h : Funded (Txn.stateOf (createChannel fault ch ledger)) signature) :
    Funded ledger signature ∨ ch.fundingTxSig = some signature := by
  rcases createChannel_cases fault ch ledger with hsame | ⟨c, hfunding, -, hinsert⟩
  · rw [hsame] at h
    exact Or.inl h
  · obtain ⟨id, c', hc', hfunding'⟩ := h
    rw [hinsert, Table.lookup_insert_eq] at hc'
    by_cases hid : id = ch.channelId
    · rw [if_pos hid, Option.some.injEq] at hc'
      rw [← hc', hfunding] at hfunding'
      exact Or.inr hfunding'
    · rw [if_neg hid] at hc'
      exact Or.inl ⟨id, c', hc', hfunding'⟩

/-- No signature funds two channels. -/
theorem FundingUnique.createChannel {ledger : Ledger} (h : FundingUnique ledger) (fault : Fault)
    (ch : NewChannel) : FundingUnique (Txn.stateOf (createChannel fault ch ledger)) := by
  rcases createChannel_cases fault ch ledger with hsame | ⟨c, hfunding, hunused, hinsert⟩
  · rw [hsame]
    exact h
  · -- a channel that was there was not funded by the new one's transaction
    have hnew : ∀ id c' signature, ledger.channels.lookup id = some c' →
        c'.1.fundingTxSig = some signature → c.1.fundingTxSig = some signature → False := by
      intro id c' signature hc' hfunding' hsame
      rw [hfunding] at hsame
      rw [hsame, fundingUsed_of_funded ⟨id, c', hc', hfunding'⟩] at hunused
      cases hunused
    rw [hinsert]
    intro id₁ id₂ c₁ c₂ signature hc₁ hc₂ hf₁ hf₂
    rw [Table.lookup_insert_eq] at hc₁ hc₂
    -- both rows are the new one, one is, or neither
    by_cases h₁ : id₁ = ch.channelId
    · by_cases h₂ : id₂ = ch.channelId
      · rw [h₁, h₂]
      · rw [if_pos h₁, Option.some.injEq] at hc₁
        rw [if_neg h₂] at hc₂
        rw [← hc₁] at hf₁
        exact (hnew id₂ c₂ signature hc₂ hf₂ hf₁).elim
    · rw [if_neg h₁] at hc₁
      by_cases h₂ : id₂ = ch.channelId
      · rw [if_pos h₂, Option.some.injEq] at hc₂
        rw [← hc₂] at hf₂
        exact (hnew id₁ c₁ signature hc₁ hf₁ hf₂).elim
      · rw [if_neg h₂] at hc₂
        exact h id₁ id₂ c₁ c₂ signature hc₁ hc₂ hf₁ hf₂

/-! ## What was sent -/

/-- A settlement that is past the send, or has succeeded, sent the transaction. -/
def Settling.Sent (payer : Payer) (signature : String) (sent : List (Payer × String)) :
    Settling → Prop
  | .send => True
  | .verdict result =>
    result.success = true → (payer, signature) ∈ sent ∧ result.txSignature = some signature
  | _ => (payer, signature) ∈ sent

/-- The escrow scheme can confirm what it did not send; of the others this is about every stage
from the settlement on. -/
def Stage.Sent (payer : Payer) (sent : List (Payer × String)) : Stage → Prop
  | .settle signature _ settling => payer ≠ .a2a → settling.Sent payer signature sent
  | .record _ settlement =>
    ∃ signature, settlement.txSignature = some signature ∧ (.channelOpen, signature) ∈ sent
  | _ => True

/-- What was sent stays sent. -/
theorem Settling.Sent.mono {payer : Payer} {signature : String} {sent sent' : List (Payer × String)}
    (hsub : sent ⊆ sent') {settling : Settling} (h : settling.Sent payer signature sent) :
    settling.Sent payer signature sent' := by
  cases settling with
  | send => trivial
  | verdict result =>
    intro hsuccess
    exact ⟨hsub (h hsuccess).1, (h hsuccess).2⟩
  | _ => exact hsub h

/-- The same of a whole request. -/
theorem Stage.Sent.mono {payer : Payer} {sent sent' : List (Payer × String)} (hsub : sent ⊆ sent')
    {stage : Stage} (h : stage.Sent payer sent) : stage.Sent payer sent' := by
  cases stage with
  | settle signature deposited settling =>
    intro hpayer
    exact (h hpayer).mono hsub
  | record deposited settlement =>
    obtain ⟨signature, hsignature, hsent⟩ := h
    exact ⟨signature, hsignature, hsub hsent⟩
  | _ => trivial

/-- A settlement that goes on has sent its signature. -/
theorem settleStep_sent {txs : Transactions} {env : Env} {payer : Payer} {signature : String}
    {w : World} {settling : Settling} (h : settling.Sent payer signature w.sent) :
    (settleStep txs env payer .exact signature w settling).2.Sent payer signature
      (settleStep txs env payer .exact signature w settling).1.sent := by
  -- a verdict of failure says nothing about what was sent
  have hfailed : ∀ {result : SettlementResult} {sent : List (Payer × String)},
      result.success = false → Settling.Sent payer signature sent (.verdict result) := by
    intro result sent hresult hsuccess
    rw [hresult] at hsuccess
    cases hsuccess
  cases settling with
  | send =>
    simp only [settleStep]
    cases env.send with
    | accepted =>
      dsimp only
      split
      · exact List.mem_append_right _ (List.mem_singleton_self _)
      · exact hfailed rfl
    | rejected e alreadyProcessed => exact hfailed rfl
    | replyLost => exact hfailed rfl
  | check p =>
    simp only [settleStep]
    split
    · exact hfailed rfl
    · split <;> exact h
  | sleep p wake =>
    simp only [settleStep]
    split <;> exact h
  | query p =>
    simp only [settleStep]
    cases env.status with
    | transient => exact h
    | status isConfirmed err =>
      cases w.cluster signature with
      | unknown => exact h
      | pending => exact h
      | failed => exact hfailed rfl
      -- the only verdict of success: the transfer that this settlement has sent is confirmed
      | landed =>
        dsimp only
        split
        · exact fun _ => ⟨h, rfl⟩
        · exact h
  | verdict result => exact h

/-- A step of a request keeps what its stage says of the transactions that were sent. -/
theorem requestStep_sent (txs : Transactions) (env : Env) {w : World} {request : Request}
    {stage : Stage} (h : stage.Sent request.payer w.sent) :
    (requestStep txs env w request stage).2.Sent request.payer
      (requestStep txs env w request stage).1.sent := by
  have hsettle : ∀ {payer signature deposited settling}, payer ≠ .a2a →
      (Stage.settle signature deposited settling).Sent payer w.sent →
      (Stage.settle signature deposited
        (settleStep txs env payer .exact signature w settling).2).Sent payer
        (settleStep txs env payer .exact signature w settling).1.sent :=
    fun hpayer h _ => settleStep_sent (h hpayer)
  cases request with
  | chat transaction =>
    cases stage with
    | settle signature deposited settling =>
      cases settling with
      | verdict result =>
        simp only [requestStep, chatStep]
        split <;> trivial
      | _ => exact hsettle (by simp [Request.payer]) h
    | replay =>
      simp only [requestStep, chatStep, checkAndRecordTx]
      split <;> trivial
    | budget =>
      simp only [requestStep, chatStep]
      split <;> trivial
    | verify =>
      simp only [requestStep, chatStep]
      split <;> trivial
    | serve =>
      simp only [requestStep, chatStep]
      split
      · split
        · exact fun _ => trivial
        · trivial
      · trivial
    | _ => trivial
  | a2a scheme transaction =>
    cases stage with
    | settle signature deposited settling =>
      cases settling with
      | verdict result =>
        simp only [requestStep, a2aStep]
        split <;> trivial
      -- nothing is said of A2A: its escrow scheme also confirms what another request has sent
      | _ => exact fun hpayer => absurd rfl hpayer
    | replay =>
      simp only [requestStep, a2aStep, checkAndRecordTx]
      split
      · trivial
      · split <;> trivial
    | verify =>
      simp only [requestStep, a2aStep]
      split
      · split
        · exact fun _ => trivial
        · trivial
      · trivial
    | _ => trivial
  | channelOpen config channelId req =>
    cases stage with
    | settle signature deposited settling =>
      cases settling with
      | verdict result =>
        simp only [requestStep, openStep]
        by_cases hsuccess : result.success = true
        · rw [if_pos hsuccess]
          obtain ⟨hsent, hsignature⟩ := h (by simp [Request.payer]) hsuccess
          exact ⟨signature, hsignature, hsent⟩
        · rw [if_neg hsuccess]
          trivial
      | _ => exact hsettle (by simp [Request.payer]) h
    | verify =>
      simp only [requestStep, openStep]
      split
      · exact fun _ => trivial
      · trivial
    | _ => trivial

/-! ## The invariant -/

/-- Everything that is credited was sent for it, and the index keeps the deposits apart. -/
structure CreditInv (s : System) : Prop where
  stage : ∀ i, (s.tasks i).stage.Sent (s.tasks i).request.payer s.world.sent
  paid : ∀ signature ∈ s.world.chatPaid, (.chat, signature) ∈ s.world.sent
  funded : ∀ signature, Funded s.world.ledger signature → (.channelOpen, signature) ∈ s.world.sent
  unique : FundingUnique s.world.ledger

/-- Nothing is credited at first. -/
theorem CreditInv.init : CreditInv .init := by
  refine ⟨fun _ => trivial, ?_, ?_, ?_⟩
  · intro signature h
    cases h
  · intro signature h
    obtain ⟨id, c, hc, -⟩ := h
    cases hc
  · intro id₁ id₂ c₁ c₂ signature hc₁
    cases hc₁

/-- A step that credits nothing. -/
theorem CreditInv.quiet {s s' : System} (h : CreditInv s)
    (hstage : ∀ i, (s'.tasks i).stage.Sent (s'.tasks i).request.payer s'.world.sent)
    (hsent : s.world.sent ⊆ s'.world.sent) (hpaid : s'.world.chatPaid = s.world.chatPaid)
    (hledger : s'.world.ledger = s.world.ledger) : CreditInv s' := by
  refine ⟨hstage, ?_, ?_, ?_⟩
  · intro signature hsignature
    rw [hpaid] at hsignature
    exact hsent (h.paid signature hsignature)
  · intro signature hfunded
    rw [hledger] at hfunded
    exact hsent (h.funded signature hfunded)
  · rw [hledger]
    exact h.unique

/-- A task moves on, and the others stay. -/
theorem CreditInv.stage_setTask {s : System} (h : CreditInv s) {w : World} {i : ℕ} {task : Task}
    (hsent : s.world.sent ⊆ w.sent) (htask : task.stage.Sent task.request.payer w.sent) (j : ℕ) :
    ((System.setTask { s with world := w } i task).tasks j).stage.Sent
      ((System.setTask { s with world := w } i task).tasks j).request.payer w.sent :=
  forall_set (P := fun _ (t : Task) => t.stage.Sent t.request.payer w.sent) htask
    (fun k _ => (h.stage k).mono hsent) j

/-- A chat payment that is accepted was sent, and so was the deposit of a channel that is
created. -/
theorem CreditInv.advance {s : System} (h : CreditInv s) (txs : Transactions) (i : ℕ)
    (env : Env) : CreditInv (step txs s (.advance i env)) := by
  have hstage := requestStep_sent txs env (h.stage i)
  have heffect := requestStep_effect txs env s.world (s.tasks i).request (s.tasks i).stage
  show CreditInv (System.setTask
    { s with world := (requestStep txs env s.world (s.tasks i).request (s.tasks i).stage).1 } i
    ⟨(s.tasks i).request, (requestStep txs env s.world (s.tasks i).request (s.tasks i).stage).2⟩)
  generalize requestStep txs env s.world (s.tasks i).request (s.tasks i).stage = out
    at hstage heffect ⊢
  obtain ⟨w', stage'⟩ := out
  dsimp only at hstage heffect ⊢
  cases heffect with
  | same => exact h.quiet (h.stage_setTask (List.Subset.refl _) hstage) (List.Subset.refl _) rfl rfl
  | replay transaction =>
    exact h.quiet (h.stage_setTask (List.Subset.refl _) hstage) (List.Subset.refl _) rfl rfl
  | failed hacts =>
    exact h.quiet (h.stage_setTask (List.Subset.refl _) hstage) (List.Subset.refl _) rfl rfl
  | poll hsettle hpoll =>
    cases hpoll <;>
      exact h.quiet (h.stage_setTask (List.Subset.refl _) hstage) (List.Subset.refl _) rfl rfl
  | send hscheme hsettle hsend =>
    cases hsend with
    | resumed =>
      exact h.quiet (h.stage_setTask (List.Subset.refl _) hstage) (List.Subset.refl _) rfl rfl
    | refused =>
      exact h.quiet (h.stage_setTask (List.Subset.refl _) hstage) (List.Subset.refl _) rfl rfl
    | accepted =>
      exact h.quiet (h.stage_setTask (List.subset_append_left _ _) hstage)
        (List.subset_append_left _ _) rfl rfl
    | replyLost =>
      exact h.quiet (h.stage_setTask (List.Subset.refl _) hstage) (List.Subset.refl _) rfl rfl
  | @paid signature deposited result hpayer hsettle hsuccess =>
    refine ⟨h.stage_setTask (List.Subset.refl _) hstage, ?_, h.funded, h.unique⟩
    intro t ht
    rcases List.mem_append.1 ht with hold | hnew
    · exact h.paid t hold
    · have hsent := h.stage i
      rw [hsettle, hpayer] at hsent
      rw [List.mem_singleton.1 hnew]
      exact (hsent (by simp) hsuccess).1
  | @record config channelId req deposited settlement hrequest hrecord =>
    refine ⟨h.stage_setTask (List.Subset.refl _) hstage, h.paid, ?_, h.unique.createChannel _ _⟩
    -- the row records the signature that the settlement has confirmed
    intro t ht
    rcases funded_createChannel ht with hold | hnew
    · exact h.funded t hold
    · have hsent := h.stage i
      rw [hrecord] at hsent
      obtain ⟨signature, hsignature, hsent⟩ := hsent
      have hsame : settlement.txSignature = some t := hnew
      rw [hsignature, Option.some.injEq] at hsame
      rw [← hsame]
      exact hsent

/-- What one step preserves. -/
theorem CreditInv.step {s : System} (h : CreditInv s) (txs : Transactions) (l : Label) :
    CreditInv (step txs s l) := by
  have hsub : s.world.sent ⊆ s.world.sent := List.Subset.refl _
  have hdecide : ∀ signature fate,
      CreditInv { s with world := s.world.decide txs signature fate } := by
    intro signature fate
    unfold World.decide
    split
    · exact h.quiet h.stage hsub rfl rfl
    · exact h
  cases l with
  | tick milliseconds => exact h.quiet h.stage hsub rfl rfl
  | forget transaction => exact h.quiet h.stage hsub rfl rfl
  | start i request =>
    simp only [Settlement.step]
    split
    · refine h.quiet (h.stage_setTask hsub ?_) hsub rfl rfl
      cases request <;> trivial
    · exact h
  | advance i env => exact h.advance txs i env
  | crash i => exact h.quiet (h.stage_setTask hsub trivial) hsub rfl rfl
  | land signature => exact hdecide signature .landed
  | failOnChain signature => exact hdecide signature .failed

/-! ## Transfers that are sent for one purpose -/

/-- A chat request sends no transfer that was sent to fund a channel while the node still accepts
it, and the other way round. -/
def Unshared (txs : Transactions) (s : System) : Label → Prop
  | .advance i env =>
    ∀ signature ∈ s.sends (.advance i env), s.world.accepts txs signature = true →
      ((s.tasks i).request.payer = .chat → (.channelOpen, signature) ∉ s.world.sent) ∧
      ((s.tasks i).request.payer = .channelOpen → (.chat, signature) ∉ s.world.sent)
  | _ => True

instance (txs : Transactions) (s : System) : ∀ l, Decidable (Unshared txs s l)
  | .advance _ _ => inferInstanceAs (Decidable (∀ signature ∈ _, _))
  | .tick _ => inferInstanceAs (Decidable True)
  | .forget _ => inferInstanceAs (Decidable True)
  | .start _ _ => inferInstanceAs (Decidable True)
  | .crash _ => inferInstanceAs (Decidable True)
  | .land _ => inferInstanceAs (Decidable True)
  | .failOnChain _ => inferInstanceAs (Decidable True)

/-- No transfer was sent for both. -/
def Apart (s : System) : Prop :=
  ∀ signature, (.chat, signature) ∈ s.world.sent → (.channelOpen, signature) ∉ s.world.sent

/-- What a step can add to the transfers that were sent. -/
theorem sent_step (txs : Transactions) (s : System) (l : Label) {payer : Payer}
    {signature : String} (h : (payer, signature) ∈ (step txs s l).world.sent) :
    (payer, signature) ∈ s.world.sent ∨
    ∃ i env, l = .advance i env ∧ (s.tasks i).request.payer = payer ∧
      s.sends l = some signature ∧ s.world.accepts txs signature = true := by
  have heffect := step_effect txs s l
  generalize (step txs s l).world = w' at heffect h
  cases heffect with
  | request i env hrequest =>
    cases hrequest with
    | send hscheme hstage hsend =>
      cases hsend with
      | accepted haccepts =>
        rcases List.mem_append.1 h with hold | hnew
        · exact Or.inl hold
        · obtain ⟨hpayer, hsignature⟩ := Prod.ext_iff.1 (List.mem_singleton.1 hnew)
          dsimp only at hpayer hsignature
          refine Or.inr ⟨i, env, rfl, hpayer.symm, ?_, ?_⟩
          · simp only [System.sends, hstage, hsignature]
          · rw [hsignature]
            exact haccepts
      | _ => exact Or.inl h
    | poll hstage hpoll => cases hpoll <;> exact Or.inl h
    | _ => exact Or.inl h
  | _ => exact Or.inl h

/-- What one step preserves, if no signature is sent by two payers. -/
theorem Apart.step {txs : Transactions} {s : System} {l : Label} (h : Apart s)
    (hunshared : Unshared txs s l) : Apart (step txs s l) := by
  intro signature hchat hopen
  rcases sent_step txs s l hchat with hchatOld | ⟨i, env, rfl, hpayer, hsends, haccepts⟩
  · rcases sent_step txs s l hopen with hopenOld | ⟨i, env, rfl, hpayer, hsends, haccepts⟩
    · exact h signature hchatOld hopenOld
    · exact (hunshared signature hsends haccepts).2 hpayer hchatOld
  · rcases sent_step txs s _ hopen with hopenOld | ⟨i', env', hlabel, hpayer', -⟩
    · exact (hunshared signature hsends haccepts).1 hpayer hopenOld
    · -- one step is of one request, which is not both
      obtain ⟨rfl, -⟩ := Label.advance.inj hlabel
      rw [hpayer] at hpayer'
      cases hpayer'

/-- No transfer is the deposit of two channels, in any run; and in every run where the node never
accepts one transfer both from a chat request and from the opening of a channel, none is both
accepted as the payment of a served chat request and credited as a deposit. -/
theorem transfer_credited_once (txs : Transactions) (labels : List Label) :
    (∀ as bs, labels = as ++ bs → FundingUnique (run (step txs) .init as).world.ledger) ∧
    (AllSteps (step txs) (Unshared txs) .init labels →
      ∀ as bs, labels = as ++ bs → ∀ signature ∈ (run (step txs) .init as).world.chatPaid,
        ¬ Funded (run (step txs) .init as).world.ledger signature) := by
  have hinv : ∀ as, CreditInv (run (step txs) .init as) := fun as =>
    run_invariant (fun _ l h => h.step txs l) CreditInv.init as
  refine ⟨fun as bs _ => (hinv as).unique, ?_⟩
  intro hunshared as bs hsplit signature hpaid hfunded
  rw [hsplit, allSteps_append] at hunshared
  have hstep : ∀ s l, Apart s → Unshared txs s l → Apart (step txs s l) := fun _ _ h hl => h.step hl
  have hinit : Apart .init := by
    intro t ht
    cases ht
  have hapart := run_invariant_of_allSteps hstep hinit hunshared.1
  exact hapart signature ((hinv as).paid signature hpaid) ((hinv as).funded signature hfunded)

/-- A chat request that pays with the transfer, up to its first poll. -/
def chatSends (transaction : String) : List Label :=
  .start 0 (.chat transaction) :: List.replicate 6 (.advance 0 exampleEnv)

/-- The opening of a channel that the transfer "AQAB" funds, up to its first poll. -/
def openSends : List Label :=
  .start 1 (.channelOpen openConfig "channel" (openRequest none)) ::
    List.replicate 3 (.advance 1 exampleEnv)

/-- The polls, the verdicts and what is done with them. -/
def bothConfirm : List Label :=
  List.replicate 2 (.advance 0 exampleEnv) ++ List.replicate 3 (.advance 1 exampleEnv)

/-- Two transfers land, and each is credited once. -/
theorem transfers_credited_apart :
    AllSteps (step exampleTxs) (Unshared exampleTxs) .init
      (chatSends "payment" ++ openSends ++ [.land "payment", .land "AQAB"] ++ bothConfirm) ∧
    (run (step exampleTxs) .init (chatSends "payment" ++ openSends ++
      [.land "payment", .land "AQAB"] ++ bothConfirm)).world.chatPaid = ["payment"] ∧
    ¬ Funded (run (step exampleTxs) .init (chatSends "payment" ++ openSends ++
      [.land "payment", .land "AQAB"] ++ bothConfirm)).world.ledger "payment" := by
  have hunshared : AllSteps (step exampleTxs) (Unshared exampleTxs) .init
      (chatSends "payment" ++ openSends ++ [.land "payment", .land "AQAB"] ++ bothConfirm) := by
    decide +kernel
  refine ⟨hunshared, by decide +kernel, ?_⟩
  exact (transfer_credited_once exampleTxs _).2 hunshared _ [] (List.append_nil _).symm "payment"
    (by decide +kernel)

/-- One transfer is sent for a chat request and for a channel before it lands, and both see it
confirmed. -/
theorem transfer_credited_twice :
    "AQAB" ∈ (run (step exampleTxs) .init
      (chatSends "AQAB" ++ openSends ++ [.land "AQAB"] ++ bothConfirm)).world.chatPaid ∧
    Funded (run (step exampleTxs) .init
      (chatSends "AQAB" ++ openSends ++ [.land "AQAB"] ++ bothConfirm)).world.ledger "AQAB" := by
  constructor
  · decide +kernel
  · have hfunding : ((run (step exampleTxs) .init (chatSends "AQAB" ++ openSends ++
        [.land "AQAB"] ++ bothConfirm)).world.ledger.channels.lookup "channel").map
          (fun c => c.1.fundingTxSig) = some (some "AQAB") := by
      decide +kernel
    obtain ⟨c, hc, hsignature⟩ := Option.map_eq_some_iff.1 hfunding
    exact ⟨"channel", c, hc, hsignature⟩

end Solvela.Settlement
