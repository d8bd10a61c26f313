import Solvela.A2a.Projection

/-!
# When `tasks/get` tells the truth

The writes of a leg are followed one function at a time, from the task that waits for its payment
to the record that `tasks/get` finds. A channel voucher is always reported as it went. A payment on
chain is misreported in two ways: a settled task whose provider failed reads as paid and delivered
when only the write of its `Failed` state is lost, and a transaction that lands after its
confirmation timed out reads as not paid.

* `truthful_working` to `truthful_failed_iff`, when each state of a task is truthful;
* one lemma for each function of a leg, up to `exec_collectPayment_some`;
* `truthful_onChain_iff` and `told_channel`, the two legs.
-/

namespace Solvela.A2a

open Solvela.Lib

/-! ## The answers of the projection -/

section
variable {t : StoredTask} {charged : Bool} {delivered : Option String}

/-- A task that still asks for payment is truthful until something is charged. -/
theorem truthful_inputRequired_iff (hstate : t.record.state = .inputRequired) :
    Truthful (projectTask t) charged delivered ↔ charged = false := by
  unfold projectTask
  rw [hstate]
  constructor
  · intro h
    exact h.required rfl
  · intro h
    exact ⟨by simp, by simp, fun _ => h, by simp [TaskView.bare]⟩

/-- A task at work promises nothing. -/
theorem truthful_working (hstate : t.record.state = .working)
    (hsignature : t.record.txSignature = none) (hreceipt : t.record.receiptPath = none) :
    Truthful (projectTask t) charged delivered := by
  unfold projectTask
  rw [hstate]
  simp only [hsignature, hreceipt, and_self, if_true]
  exact ⟨by simp [TaskView.bare], by simp [TaskView.bare], by simp [TaskView.bare],
    by simp [TaskView.bare]⟩

/-- A settled task shows a payment and a delivery, which have to be there. -/
theorem truthful_projectSettled_iff (hfree : t.deliverFree = false) :
    Truthful (projectSettled t) charged delivered ↔
      (charged = true ∧ delivered.isSome = true) ∧
        ∀ text, t.record.artifactText = some text → delivered = some text := by
  unfold projectSettled
  rw [hfree]
  constructor
  · intro h
    exact ⟨h.completed rfl, h.artifact⟩
  · intro h
    exact ⟨fun _ => h.1, by simp, by simp, h.2⟩

/-- A task that was paid and delivered, whether or not its end was written. -/
theorem truthful_delivered {text : String} (hfree : t.deliverFree = false)
    (hstate : t.record.state = .working ∨ t.record.state = .completed)
    (htext : ∀ text', t.record.artifactText = some text' → text' = text) :
    Truthful (projectTask t) true (some text) := by
  have hsettled : Truthful (projectSettled t) true (some text) := by
    rw [truthful_projectSettled_iff hfree]
    refine ⟨⟨rfl, rfl⟩, ?_⟩
    intro text' h
    rw [htext text' h]
  rcases hstate with hstate | hstate
  · by_cases hrefs : t.record.txSignature = none ∧ t.record.receiptPath = none
    · exact truthful_working hstate hrefs.1 hrefs.2
    · simpa [projectTask, hstate, hrefs] using hsettled
  · simpa [projectTask, hstate] using hsettled

/-- A task that was delivered without a debit reports no payment. -/
theorem truthful_deliverFree (hstate : t.record.state = .completed) (hfree : t.deliverFree = true)
    (htext : t.record.artifactText = delivered) :
    Truthful (projectTask t) charged delivered := by
  unfold projectTask projectSettled
  rw [hstate]
  simp only [hfree, if_true]
  refine ⟨by simp, by simp, by simp, ?_⟩
  intro text h
  rw [← htext]
  exact h

/-- A failed task says that it was charged and nothing was delivered. -/
theorem truthful_failed_iff (hstate : t.record.state = .failed) :
    Truthful (projectTask t) charged delivered ↔ charged = true ∧ delivered = none := by
  unfold projectTask
  rw [hstate]
  constructor
  · intro h
    exact h.failed rfl
  · intro h
    exact ⟨by simp, fun _ => h, by simp, by simp [TaskView.bare]⟩

end

/-- The marker of the leg is all that is written. -/
structure OnlyMarked (t : StoredTask) : Prop where
  state : t.record.state = .working
  artifactText : t.record.artifactText = none
  txSignature : t.record.txSignature = none
  receiptPath : t.record.receiptPath = none
  deliverFree : t.deliverFree = false

/-! ## The functions of a leg -/

section
variable {ans : LegAnswers} {s : LegState} {taskId : String}

/-- The task with another state. -/
def StoredTask.withState (t : StoredTask) (state : TaskState) : StoredTask :=
  { t with record.state := state }

/-- The task with the references of its end. -/
def StoredTask.withRefs (t : StoredTask) (artifactText txSignature receiptPath : Option String) :
    StoredTask :=
  { t with
    record.artifactText := artifactText
    record.txSignature := txSignature
    record.receiptPath := receiptPath }

/-- Whether a save is lost or not, it leaves what `save` says. -/
theorem exec_saveTask_state (record : TaskRecord) :
    ((saveTask record).exec (answer ans) s).2 = s.save ans { s.task with record := record } := by
  by_cases hsave : ans.saves s.writes = true <;> simp [saveTask, ask, Prog.exec, answer, hsave]

/-- A lost save is an error to the leg. -/
theorem exec_saveTask_lost (record : TaskRecord) (hsave : ans.saves s.writes = false) :
    ∃ e, (saveTask record).exec (answer ans) s =
      (.error e, s.save ans { s.task with record := record }) := by
  simp [saveTask, ask, Prog.exec, answer, hsave]

/-- An allowed change of state saves the record in the new one. -/
theorem exec_updateTaskState {state : TaskState}
    (hstate : s.task.record.state.canTransitionTo state = true) :
    (updateTaskState taskId state).exec (answer ans) s =
      (saveTask { s.task.record with state := state }).exec (answer ans) s := by
  simp [updateTaskState, loadTask, ask, Prog.exec, answer, hstate]

/-- What an allowed change of state leaves. -/
theorem exec_updateTaskState_state {state : TaskState}
    (hstate : s.task.record.state.canTransitionTo state = true) :
    ((updateTaskState taskId state).exec (answer ans) s).2 =
      s.save ans (s.task.withState state) := by
  rw [exec_updateTaskState hstate]
  exact exec_saveTask_state _

/-- What recording the references leaves. -/
theorem exec_persistTerminalRefs_state (text signature receipt : Option String) :
    ((persistTerminalRefs taskId text signature receipt).exec (answer ans) s).2 =
      s.save ans (s.task.withRefs text signature receipt) := by
  exact exec_saveTask_state
    { s.task.record with artifactText := text, txSignature := signature, receiptPath := receipt }

/-- A task at work goes back to asking for payment. -/
theorem exec_revertAndFail {α : Type} (e : JsonRpcError)
    (hstate : s.task.record.state = .working) :
    (revertAndFail (α := α) taskId e).exec (answer ans) s =
      (.error e, s.save ans (s.task.withState .inputRequired)) := by
  unfold revertAndFail revertWorkingAndRelease
  rw [Prog.exec_bind, Prog.exec_bind,
    exec_updateTaskState_state (by rw [hstate]; rfl)]
  rfl

/-- A leg begins with the lock and the check of the state; then its marker decides. -/
theorem exec_acquireLock (reject : TaskState → JsonRpcError) (unavailable : JsonRpcError) :
    (acquireLock reject unavailable).exec (answer ans) s = (.ok (), s) := rfl

/-- A payable task passes the check, and nothing changes. -/
theorem exec_recheckUnderLock (reject : TaskState → JsonRpcError)
    (hstate : s.task.record.state = .inputRequired) :
    (recheckUnderLock taskId reject).exec (answer ans) s = (.ok s.task.record, s) := by
  simp [recheckUnderLock, loadTask, ask, Prog.exec, answer, hstate]

/-- The marker is set if its save succeeds. -/
theorem exec_markWorking_saved (hstate : s.task.record.state = .inputRequired)
    (hsave : ans.saves s.writes = true) :
    (markWorking taskId).exec (answer ans) s =
      (.ok (), s.save ans (s.task.withState .working)) := by
  unfold markWorking
  rw [Prog.exec_bind, exec_updateTaskState (by rw [hstate]; rfl)]
  simp [saveTask, ask, Prog.exec, answer, hsave, StoredTask.withState]

/-- A lost save of the marker ends the leg. -/
theorem exec_markWorking_lost (hstate : s.task.record.state = .inputRequired)
    (hsave : ans.saves s.writes = false) :
    ∃ e, (markWorking taskId).exec (answer ans) s =
      (.error e, s.save ans (s.task.withState .working)) := by
  unfold markWorking
  rw [Prog.exec_bind, exec_updateTaskState (by rw [hstate]; rfl)]
  obtain ⟨e, he⟩ := exec_saveTask_lost { s.task.record with state := .working } hsave
  rw [he]
  dsimp only
  split
  · exact ⟨_, rfl⟩
  · exact ⟨_, rfl⟩

/-- What a leg leaves of a settled task. -/
theorem exec_deliver_state (contextId : String) (signature : Option String)
    (hstate : s.task.record.state = .working) :
    ((deliver taskId contextId signature).exec (answer ans) s).2 =
      match ans.provider with
      | .error _ =>
        let failed := LegState.save ans { s with delivered := none } (s.task.withState .failed)
        failed.save ans (failed.task.withRefs none signature ans.receiptPath)
      | .ok choice =>
        let completed := LegState.save ans { s with delivered := some (choice.getD "") }
          (s.task.withState .completed)
        completed.save ans
          (completed.task.withRefs (some (choice.getD "")) signature ans.receiptPath) := by
  unfold deliver
  cases hprovider : ans.provider with
  | error e =>
    simp only [ask, Prog.ask_bind, Prog.exec, answer, hprovider, LegAnswers.delivers,
      Except.toOption, Option.map_none]
    rw [Prog.exec_bind, Prog.exec_bind, exec_updateTaskState_state (by rw [hstate]; rfl),
      exec_persistTerminalRefs_state]
    rfl
  | ok choice =>
    simp only [ask, Prog.ask_bind, Prog.exec, answer, hprovider, LegAnswers.delivers,
      Except.toOption, Option.map_some]
    rw [Prog.exec_bind, Prog.exec_bind, exec_updateTaskState_state (by rw [hstate]; rfl),
      exec_persistTerminalRefs_state]
    rfl

/-! ## A payment on chain -/

/-- The facilitator's answer, for a payment that gets that far. -/
def LegAnswers.settledWith (ans : LegAnswers) (payment : Payment) : Option Settlement :=
  if payment.scheme = "channel" then none
  else
    match ans.replay, payment.offer, ans.settlement with
    | .ok _, .ok _, .ok settlement => some settlement
    | _, _, _ => none

/-- What counts as settled is an answer of the verifier. -/
theorem settlement_of_settledWith {payment : Payment} {settlement : Settlement}
    (h : ans.settledWith payment = some settlement) : ans.settlement = .ok settlement := by
  unfold LegAnswers.settledWith at h
  split at h
  · cases h
  · split at h
    next hsettlement =>
      cases h
      exact hsettlement
    · cases h

/-- A payment whose settlement did not succeed was collected if its transaction landed. -/
theorem charged_of_unconfirmed {settlement : Settlement} (h : ans.settlement = .ok settlement)
    (hsuccess : settlement.success = false) :
    ans.charged = true ↔
      ans.landed = true ∧ ∀ code, settlement.failureKind ≠ some (.rejected code) := by
  unfold LegAnswers.charged
  simp only [h, hsuccess, Bool.false_or]
  split
  next code hkind => simp [hkind]
  next hkind => simpa using fun _ => hkind

/-- Without a settlement the marker is taken back and nothing is charged. -/
theorem exec_collectPayment_none {payment : Payment} (hstate : s.task.record.state = .working)
    (hcharged : s.charged = false) (hnone : ans.settledWith payment = none) :
    ∃ e, (collectPayment false taskId payment).exec (answer ans) s =
      (.error e, s.save ans (s.task.withState .inputRequired)) := by
  unfold collectPayment
  unfold LegAnswers.settledWith at hnone
  by_cases hscheme : payment.scheme = "channel"
  · simp only [hscheme, if_true, Bool.false_eq_true, if_false]
    exact ⟨_, exec_revertAndFail _ hstate⟩
  simp only [hscheme, if_false, Bool.false_eq_true, ask, Prog.ask_bind, Prog.exec, answer]
  rw [if_neg hscheme] at hnone
  cases hreplay : ans.replay with
  | error e => exact ⟨_, exec_revertAndFail _ hstate⟩
  | ok _ =>
    cases hoffer : payment.offer with
    | error e => exact ⟨_, exec_revertAndFail _ hstate⟩
    | ok _ =>
      cases hsettlement : ans.settlement with
      | ok settlement => simp [hreplay, hoffer, hsettlement] at hnone
      | error e =>
        -- nothing was sent, so the record of the charge stays as it was
        have hsame : { s with charged := ans.charged } = s := by
          simp [LegAnswers.charged, hsettlement, ← hcharged]
        simp only [Prog.exec, answer, hsettlement, hsame]
        exact ⟨_, exec_revertAndFail _ hstate⟩

/-- With one the leg goes on and the payment is charged, or the failure is kept on record. -/
theorem exec_collectPayment_some {payment : Payment} {settlement : Settlement}
    (hstate : s.task.record.state = .working) (hsome : ans.settledWith payment = some settlement) :
    (settlement.success = true ∧ (collectPayment false taskId payment).exec (answer ans) s =
        (.ok settlement.txSignature, { s with charged := true })) ∨
      (settlement.success = false ∧ ∃ e, (collectPayment false taskId payment).exec (answer ans) s =
        (.error e, LegState.save ans { s with charged := ans.charged }
          (s.task.withState .inputRequired))) := by
  unfold LegAnswers.settledWith at hsome
  split at hsome
  · cases hsome
  next hscheme =>
  split at hsome
  next _ _ _ hreplay hoffer hsettlement =>
    cases hsome
    unfold collectPayment
    simp only [hscheme, if_false, Bool.false_eq_true, ask, Prog.ask_bind, Prog.exec, answer,
      hreplay, hoffer, hsettlement]
    cases hsuccess : settlement.success with
    | true =>
      left
      simp [Prog.exec, LegAnswers.charged, hsettlement, hsuccess]
    | false =>
      right
      simp only [Bool.false_eq_true, if_false]
      exact ⟨trivial, _, exec_revertAndFail _ hstate⟩
  · cases hsome

/-- The two ways in which a payment on chain is misreported. Both need the marker. -/
def LegAnswers.Misread (ans : LegAnswers) (payment : Payment) : Prop :=
  ans.saves 0 = true ∧ ∃ settlement, ans.settledWith payment = some settlement ∧
    -- the provider failed, the state `Failed` was lost and the references arrived
    ((settlement.success = true ∧ ans.provider.isOk = false ∧ ans.saves 1 = false ∧
        ans.saves 2 = true ∧
        (settlement.txSignature.isSome = true ∨ ans.receiptPath.isSome = true)) ∨
      -- the transaction landed without a confirmation, and the revert arrived
      (settlement.success = false ∧ ans.landed = true ∧ ans.saves 1 = true ∧
        ∀ code, settlement.failureKind ≠ some (.rejected code)))

variable {contextId paymentRequired : String}

/-- The task with the marker of the leg. -/
def LegState.marked (taskId contextId paymentRequired : String) : LegState :=
  { LegState.fresh taskId contextId paymentRequired with
    task := (LegState.fresh taskId contextId paymentRequired).task.withState .working
    writes := 1 }

/-- The record right after its marker. -/
theorem marked_onlyMarked :
    OnlyMarked (LegState.marked taskId contextId paymentRequired).task :=
  ⟨rfl, rfl, rfl, rfl, rfl⟩

/-- The first save sets the marker. -/
theorem save_fresh_working (hsave : ans.saves 0 = true) :
    (LegState.fresh taskId contextId paymentRequired).save ans
        ((LegState.fresh taskId contextId paymentRequired).task.withState .working) =
      LegState.marked taskId contextId paymentRequired := by
  simp [LegState.save, LegState.fresh, LegState.marked, hsave]

/-- A leg whose marker is lost leaves the task as it was. -/
theorem run_onChain_unmarked {payment : Payment} (hsave : ans.saves 0 = false) :
    (PayingLeg.onChain payment ans).run taskId contextId paymentRequired =
      { LegState.fresh taskId contextId paymentRequired with writes := 1 } := by
  have hmark : ∃ e, (markWorking taskId).exec (answer ans)
      (.fresh taskId contextId paymentRequired) = (.error e, _) := exec_markWorking_lost rfl hsave
  obtain ⟨e, he⟩ := hmark
  unfold PayingLeg.run settlePaidTask
  dsimp only
  rw [Prog.exec_andThen_ok (exec_acquireLock _ _),
    Prog.exec_andThen_ok (exec_recheckUnderLock _ rfl), Prog.exec_andThen_error he]
  simp [LegState.save, LegState.fresh, hsave]

/-- A leg whose marker is saved collects and delivers. -/
theorem run_onChain_marked {payment : Payment} (hsave : ans.saves 0 = true) :
    (PayingLeg.onChain payment ans).run taskId contextId paymentRequired =
      (((collectPayment false taskId payment).andThen (deliver taskId contextId)).exec (answer ans)
        (.marked taskId contextId paymentRequired)).2 := by
  unfold PayingLeg.run settlePaidTask
  dsimp only
  rw [Prog.exec_andThen_ok (exec_acquireLock _ _),
    Prog.exec_andThen_ok (exec_recheckUnderLock _ rfl),
    Prog.exec_andThen_ok (exec_markWorking_saved rfl hsave), save_fresh_working hsave]

/-- A leg that reverts its marker is truthful unless the payer was charged and the revert
arrived. -/
theorem truthful_reverted_iff {charged : Bool} (hs : OnlyMarked s.task) :
    Truthful (projectTask (s.save ans (s.task.withState .inputRequired)).task) charged s.delivered ↔
      (ans.saves s.writes = true → charged = false) := by
  cases hsave : ans.saves s.writes with
  | true =>
    simp only [LegState.save, hsave, if_true, true_imp_iff]
    exact truthful_inputRequired_iff rfl
  | false =>
    simp only [LegState.save, hsave, Bool.false_eq_true, if_false, false_imp_iff, iff_true]
    exact truthful_working hs.state hs.txSignature hs.receiptPath

/-- A settled task whose provider failed. -/
theorem truthful_undelivered_iff (signature : Option String) (hcharged : s.charged = true)
    (hs : OnlyMarked s.task) :
    let failed := LegState.save ans { s with delivered := none } (s.task.withState .failed)
    let ended := failed.save ans (failed.task.withRefs none signature ans.receiptPath)
    Truthful (projectTask ended.task) ended.charged ended.delivered ↔
      ¬(ans.saves s.writes = false ∧ ans.saves (s.writes + 1) = true ∧
        (signature.isSome = true ∨ ans.receiptPath.isSome = true)) := by
  intro failed ended
  cases hfailed : ans.saves s.writes with
  -- the failure is on record, and the references do not hide it
  | true =>
    have hended : ended.task.record.state = .failed := by
      simp [ended, failed, LegState.save, StoredTask.withState, StoredTask.withRefs, hfailed]
      split <;> rfl
    rw [truthful_failed_iff hended]
    simp [ended, failed, LegState.save, hcharged]
  | false =>
    cases hrefs : ans.saves (s.writes + 1) with
    -- neither write came through
    | false =>
      have hended : ended.task = s.task := by
        simp [ended, failed, LegState.save, hfailed, hrefs]
      rw [hended]
      simp only [Bool.false_eq_true, false_and, and_false, not_false_eq_true, iff_true]
      exact truthful_working hs.state hs.txSignature hs.receiptPath
    | true =>
      -- only the references were written: the task looks paid
      have hended : ended.task = s.task.withRefs none signature ans.receiptPath := by
        simp [ended, failed, LegState.save, hfailed, hrefs]
      have hdelivered : ended.delivered = none := rfl
      rw [hended, hdelivered]
      by_cases hnone : signature = none ∧ ans.receiptPath = none
      · have hworking : Truthful (projectTask (s.task.withRefs none signature ans.receiptPath))
            ended.charged none := truthful_working hs.state hnone.1 hnone.2
        rw [iff_true_left hworking]
        simp [hnone.1, hnone.2]
      · -- the references are taken for a delivery
        have hproject : projectTask (s.task.withRefs none signature ans.receiptPath) =
            projectSettled (s.task.withRefs none signature ans.receiptPath) := by
          unfold projectTask
          simp [StoredTask.withRefs, hs.state, hnone]
        have hfree : (s.task.withRefs none signature ans.receiptPath).deliverFree = false :=
          hs.deliverFree
        rw [hproject, truthful_projectSettled_iff hfree]
        rw [not_and] at hnone
        simpa [Option.isSome_iff_ne_none] using hnone

/-- A task that was paid and delivered: the state and the references are written or not. -/
theorem truthful_ended {text : String} (signature : Option String)
    (hcharged : s.charged = true) (hdelivered : s.delivered = some text)
    (hs : OnlyMarked s.task) :
    let completed := s.save ans (s.task.withState .completed)
    let ended := completed.save ans
      (completed.task.withRefs (some text) signature ans.receiptPath)
    Truthful (projectTask ended.task) ended.charged ended.delivered := by
  intro completed ended
  have hdelivered' : ended.delivered = some text := hdelivered
  have hcharged' : ended.charged = true := hcharged
  rw [hdelivered', hcharged']
  cases hcompleted : ans.saves s.writes <;> cases hrefs : ans.saves (s.writes + 1) <;>
    · apply truthful_delivered <;>
        simp [ended, completed, LegState.save, hcompleted, hrefs, StoredTask.withState,
          StoredTask.withRefs, hs.deliverFree, hs.state, hs.artifactText]

/-- What an on-chain leg leaves is truthful unless its settlement was misread. -/
theorem truthful_onChain_iff (payment : Payment) :
    Truthful
        (projectTask ((PayingLeg.onChain payment ans).run taskId contextId paymentRequired).task)
        ((PayingLeg.onChain payment ans).run taskId contextId paymentRequired).charged
        ((PayingLeg.onChain payment ans).run taskId contextId paymentRequired).delivered ↔
      ¬ans.Misread payment := by
  unfold LegAnswers.Misread
  -- first by the marker, then by the settlement, then by the provider
  cases hmarker : ans.saves 0 with
  | false =>
    rw [run_onChain_unmarked hmarker]
    simp only [Bool.false_eq_true, false_and, not_false_eq_true, iff_true]
    exact (truthful_inputRequired_iff rfl).2 rfl
  | true =>
    rw [run_onChain_marked hmarker]
    cases hsettled : ans.settledWith payment with
    | none =>
      have hcollect : ∃ e, (collectPayment false taskId payment).exec (answer ans)
          (.marked taskId contextId paymentRequired) = (.error e, _) :=
        exec_collectPayment_none rfl rfl hsettled
      obtain ⟨e, he⟩ := hcollect
      rw [Prog.exec_andThen_error he]
      simp only [reduceCtorEq, false_and, exists_false, and_false, not_false_eq_true, iff_true]
      exact (truthful_reverted_iff marked_onlyMarked).2 fun _ => rfl
    | some settlement =>
      simp only [Option.some.injEq, exists_eq_left', true_and]
      have hmarked : OnlyMarked (LegState.marked taskId contextId paymentRequired).task :=
        marked_onlyMarked
      rcases exec_collectPayment_some hmarked.state hsettled with
        ⟨hsuccess, hpaid⟩ | ⟨hsuccess, e, hfailed⟩
      · rw [Prog.exec_andThen_ok hpaid, exec_deliver_state contextId _ rfl]
        cases hprovider : ans.provider with
        | ok choice =>
          refine iff_of_true (truthful_ended _ rfl rfl hmarked) ?_
          simp [hsuccess, Except.isOk, Except.toBool]
        | error e =>
          -- the payment is in, and the answer is not: the failure has to be recorded
          let paid := { LegState.marked taskId contextId paymentRequired with charged := true }
          refine (truthful_undelivered_iff (s := paid) _ rfl hmarked).trans ?_
          simp [hsuccess, Except.isOk, Except.toBool, paid, LegState.marked]
      · rw [Prog.exec_andThen_error hfailed]
        refine (truthful_reverted_iff hmarked).trans ?_
        -- an unconfirmed settlement may have charged all the same
        have hcharged := charged_of_unconfirmed (settlement_of_settledWith hsettled) hsuccess
        simp only [hsuccess, Bool.false_eq_true, false_and, false_or, true_and]
        show (ans.saves 1 = true → ans.charged = false) ↔ _
        rw [← Bool.not_eq_true, hcharged]
        tauto

end

/-! ## A channel voucher -/

section
variable {ans : ChannelAnswers} {s : LegState} {taskId contextId paymentRequired : String}

/-- A program of the paying leg runs alike inside the channel leg. -/
theorem exec_onTask {α : Type} (p : Program α) :
    (onTask p).exec (answerChannel ans) s = p.exec (answer ans.toLegAnswers) s :=
  Prog.exec_embed (fun _ _ => rfl) p s

/-- The answer to `tasks/get` is truthful in the state. -/
def LegState.Told (s : LegState) : Prop := Truthful (projectTask s.task) s.charged s.delivered

/-- A refused draw puts the task back. -/
theorem told_revertChannel {α : Type} (e : JsonRpcError) (hs : OnlyMarked s.task)
    (hcharged : s.charged = false) :
    (((revertChannel taskId e : ChannelProgram (Except JsonRpcError α))).exec (answerChannel ans)
      s).2.Told := by
  unfold revertChannel
  rw [exec_onTask, exec_revertAndFail e hs.state]
  exact (truthful_reverted_iff hs).2 fun _ => hcharged

/-- What a free delivery leaves. -/
theorem exec_deliverFreeCompletion_state (text : String)
    (hstate : s.task.record.state.canTransitionTo .completed = true) :
    ((deliverFreeCompletion taskId contextId text).exec (answerChannel ans) s).2 =
      s.save ans.toLegAnswers
        { s.task with
          record := { s.task.record with state := .completed, artifactText := some text }
          deliverFree := true } := by
  unfold deliverFreeCompletion completeDeliverFree
  rw [Prog.exec_bind, Prog.exec_bind, exec_onTask]
  by_cases hsave : ans.saves s.writes = true <;>
    simp [loadTask, ask, Prog.exec, answer, answerChannel, hstate, hsave]

/-- A free delivery tells the truth. -/
theorem told_deliverFreeCompletion {text : String} (hs : OnlyMarked s.task)
    (hdelivered : s.delivered = some text) :
    ((deliverFreeCompletion taskId contextId text).exec (answerChannel ans) s).2.Told := by
  rw [exec_deliverFreeCompletion_state text (by rw [hs.state]; rfl)]
  unfold LegState.Told
  cases hsave : ans.saves s.writes with
  | true => apply truthful_deliverFree <;> simp [LegState.save, hsave, hdelivered]
  | false =>
    apply truthful_working <;>
      simp [LegState.save, hsave, hs.state, hs.txSignature, hs.receiptPath]

/-- So does a debit, whichever of its writes is lost. -/
theorem told_debitChannel {text : String} (hs : OnlyMarked s.task)
    (hdelivered : s.delivered = some text) :
    ((debitChannel taskId contextId text).exec (answerChannel ans) s).2.Told := by
  unfold debitChannel
  simp only [askChannel, Prog.ask_bind, Prog.exec, answerChannel]
  cases hpersist : ans.persist with
  | error e => exact told_deliverFreeCompletion hs hdelivered
  | ok _ =>
    have hstate : s.task.record.state.canTransitionTo .completed = true := by rw [hs.state]; rfl
    dsimp only
    rw [Prog.exec_bind, Prog.exec_bind, Prog.exec_bind, exec_onTask, exec_onTask, exec_onTask,
      exec_updateTaskState_state (by exact hstate), exec_persistTerminalRefs_state]
    exact truthful_ended _ rfl hdelivered hs

/-- So does everything that happens under the channel's lock. -/
theorem told_channelLocked (hs : OnlyMarked s.task) (hcharged : s.charged = false) :
    ((channelLocked taskId contextId).exec (answerChannel ans) s).2.Told := by
  unfold channelLocked
  simp only [askChannel, Prog.ask_bind, Prog.exec, answerChannel]
  cases hverified : ans.verified with
  | error e => exact told_revertChannel e hs hcharged
  | ok _ =>
    dsimp only
    rw [Prog.exec_bind, exec_onTask]
    simp only [ask, Prog.ask, Prog.exec, answer]
    cases hprovider : ans.provider with
    | error e => exact told_revertChannel _ hs hcharged
    | ok choice =>
      have hdelivered : ans.delivers = some (choice.getD "") := by
        simp [LegAnswers.delivers, hprovider, Except.toOption]
      simp only [Prog.exec, answerChannel]
      split
      · exact told_deliverFreeCompletion hs hdelivered
      · exact told_debitChannel hs hdelivered

/-- So does the task with its checks. -/
theorem told_settleChannelTask {checks : Except JsonRpcError Unit} (hs : OnlyMarked s.task)
    (hcharged : s.charged = false) :
    ((settleChannelTask taskId contextId checks).exec (answerChannel ans) s).2.Told := by
  unfold settleChannelTask
  cases checks with
  | error e => exact told_revertChannel e hs hcharged
  | ok _ =>
    simp only [askChannel, Prog.ask_bind, Prog.exec, answerChannel]
    cases ans.slot with
    | none => exact told_revertChannel _ hs hcharged
    | some slot =>
      simp only [Prog.exec, answerChannel]
      cases ans.drawLock with
      | error e => exact told_revertChannel _ hs hcharged
      | ok token =>
        cases token with
        | none => exact told_revertChannel _ hs hcharged
        | some token => exact told_channelLocked hs hcharged

/-- So does the channel leg as a whole. -/
theorem told_channel (checks : Except JsonRpcError Unit) :
    ((PayingLeg.channel checks ans).run taskId contextId paymentRequired).Told := by
  unfold PayingLeg.run settlePaidChannelTask
  dsimp only
  rw [Prog.exec_andThen_ok ((exec_onTask _).trans (exec_acquireLock _ _)),
    Prog.exec_andThen_ok ((exec_onTask _).trans (exec_recheckUnderLock _ rfl))]
  cases hmarker : ans.saves 0 with
  | true =>
    rw [Prog.exec_andThen_ok ((exec_onTask _).trans (exec_markWorking_saved rfl hmarker)),
      save_fresh_working hmarker]
    exact told_settleChannelTask marked_onlyMarked rfl
  | false =>
    have hmark : ∃ e, (markWorking taskId).exec (answer ans.toLegAnswers)
        (.fresh taskId contextId paymentRequired) = (.error e, _) :=
      exec_markWorking_lost rfl hmarker
    obtain ⟨e, he⟩ := hmark
    rw [Prog.exec_andThen_error ((exec_onTask _).trans he)]
    refine (truthful_inputRequired_iff ?_).2 rfl
    simp [LegState.save, LegState.fresh, hmarker]

end

/-- The answers at which a leg is misreported. A channel voucher never is. -/
def PayingLeg.Misread : PayingLeg → Prop
  | onChain payment ans => ans.Misread payment
  | channel _ _ => False

/-- What `tasks/get` answers after a leg is truthful, but for the two ways to misread a payment on
chain. -/
theorem projectTask_truthful_iff (taskId contextId paymentRequired : String) (leg : PayingLeg) :
    Truthful (projectTask (leg.run taskId contextId paymentRequired).task)
        (leg.run taskId contextId paymentRequired).charged
        (leg.run taskId contextId paymentRequired).delivered ↔
      ¬leg.Misread := by
  cases leg with
  | onChain payment ans => exact truthful_onChain_iff payment
  | channel checks ans => exact iff_of_true (told_channel checks) id

/-- The transfer settles, the provider fails, and of the two writes that follow the first is
lost. -/
def providerFailed : LegAnswers where
  saves k := k ≠ 1
  replay := .ok ()
  settlement := .ok ⟨true, some "sig", none⟩
  landed := true
  provider := .error "no provider"
  receiptPath := none

/-- The task reads as paid and delivered, with no artifact. -/
theorem providerFailed_reads_completed :
    let s := (PayingLeg.onChain ⟨"exact", "tx", false, .ok ()⟩ providerFailed).run "t" "c" "offer"
    (projectTask s.task).paymentStatus = some .paymentCompleted ∧ s.delivered = none ∧
      ¬Truthful (projectTask s.task) s.charged s.delivered := by
  intro s
  have hstatus : (projectTask s.task).paymentStatus = some .paymentCompleted := by decide +kernel
  have hdelivered : s.delivered = none := by decide +kernel
  refine ⟨hstatus, hdelivered, ?_⟩
  intro h
  have hsome := (h.completed hstatus).2
  rw [hdelivered] at hsome
  cases hsome

end Solvela.A2a
