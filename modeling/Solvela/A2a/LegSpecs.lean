import Solvela.A2a.Legs

/-!
# The specification of a leg

What a leg writes and when it settles, as a specification of its program over what the leg knows
from the replies so far. The programs of `settle_paid_task` and of the cancelation meet it, by one
lemma for each function.
-/

namespace Solvela.A2a

open Solvela.Lib

/-- The writes of a leg: the marker, or the cancelation, of a task that it has found payable; the
revert of its own marker; and, with its marker, the end of the task or what is recorded of it. -/
inductive Save (k : Knows) (record : TaskRecord) : Prop
  | marker {before : TaskRecord} (hsnapshot : k.snapshot = some before)
      (hbefore : before.state = .inputRequired) (hmarked : k.marked = false)
      (hstate : record.state = .working ∨ record.state = .canceled)
  | revert (hmarked : k.marked = true) (hsettled : k.settled = false)
      (hstate : record.state = .inputRequired)
  | finish {before : TaskRecord} (hsnapshot : k.snapshot = some before) (hmarked : k.marked = true)
      (hstate : record.state = before.state ∨ record.state = .completed ∨ record.state = .failed)

/-- A leg settles once, with its marker. -/
def LegMid (k : Knows) : Command → Prop
  | .setTask record => Save k record
  | .verifyAndSettle => k.marked = true ∧ k.settled = false
  | _ => True

def legGhost : Prog.Ghost Command Reply Knows := ⟨Knows.record, fun _ _ _ => True⟩

abbrev LegMeets {α : Type} (post : Knows → α → Prop) (k : Knows) (p : Program α) : Prop :=
  Prog.Meets legGhost LegMid post k p

/-- What stays of the knowledge of a leg over an update of the task: its marker, unless the update
reverts it, and whether it has settled. -/
structure Updated (newState : TaskState) (k k' : Knows) : Prop where
  settled : k'.settled = k.settled
  marked : newState ≠ .inputRequired → k.marked = true → k'.marked = true

/-- After a load there are three ways on. -/
theorem loadTask_bind_meets {α : Type} {post : Knows → α → Prop} {k : Knows}
    {f : Except String (Option TaskRecord) → Program α}
    (herror : ∀ e, LegMeets post k (f (.error e))) (hnone : LegMeets post k (f (.ok none)))
    (hsome : ∀ record, LegMeets post { k with snapshot := some record } (f (.ok (some record)))) :
    LegMeets post k (loadTask >>= f) := by
  refine Prog.Meets.ask trivial ?_
  rintro (e | _ | record) _
  · exact herror _
  · exact hnone
  · exact hsome record

/-- The marker after a write. -/
theorem marked_setTask (k : Knows) (record : TaskRecord) (r : Except String Unit) :
    (k.record (.setTask record) r).marked = true ↔ record.state ≠ .inputRequired ∧
      (k.marked = true ∨ (record.state = .working ∧ r = .ok ())) := by
  simp only [Knows.record]
  cases hstate : record.state with
  | working => cases r <;> simp
  | _ => simp

/-- A save is allowed if the write is, and tells whether the marker stands. -/
theorem saveTask_meets {k : Knows} {record : TaskRecord} (hsave : Save k record) :
    LegMeets (fun k' r => k'.settled = k.settled ∧
        (record.state ≠ .inputRequired → k.marked = true → k'.marked = true) ∧
        (record.state = .working → r = .ok () → k'.marked = true))
      k (saveTask record) := by
  refine Prog.Meets.ask hsave ?_
  intro r _
  have hmarked : record.state ≠ .inputRequired → k.marked = true →
      (k.record (.setTask record) r).marked = true := by
    intro hstate hmarked
    exact (marked_setTask k record r).2 ⟨hstate, Or.inl hmarked⟩
  cases r with
  | error e => exact ⟨rfl, hmarked, fun _ h => by cases h⟩
  | ok _ =>
    refine ⟨rfl, hmarked, ?_⟩
    intro hworking _
    exact (marked_setTask k record _).2 ⟨by simp [hworking], Or.inr ⟨hworking, rfl⟩⟩

/-- The marker and the cancelation are the transitions out of the payable state. -/
theorem Save.of_transition {k : Knows} (hmarked : k.marked = false) {newState : TaskState}
    (hnew : newState = .working ∨ newState = .canceled) (before : TaskRecord)
    (htransition : before.state.canTransitionTo newState = true) :
    Save { k with snapshot := some before } { before with state := newState } := by
  refine .marker rfl ?_ hmarked hnew
  cases hstate : before.state with
  | inputRequired => rfl
  | _ => rcases hnew with rfl | rfl <;> simp [hstate, TaskState.canTransitionTo] at htransition

/-- A change of state loads, checks and saves. -/
theorem updateTaskState_meets {newState : TaskState} {k : Knows} (taskId : String)
    (hsave : ∀ before : TaskRecord, before.state.canTransitionTo newState = true →
      Save { k with snapshot := some before } { before with state := newState }) :
    LegMeets (fun k' r => Updated newState k k' ∧
        (newState = .working → r = .ok () → k'.marked = true))
      k (updateTaskState taskId newState) := by
  -- a load that fails or finds no task writes nothing
  have hself : ∀ e : String, Updated newState k k ∧
      (newState = .working → (.error e : Except String Unit) = .ok () → k.marked = true) := by
    intro e
    refine ⟨⟨rfl, fun _ h => h⟩, ?_⟩
    intro _ h
    cases h
  apply loadTask_bind_meets
  · intro e
    exact hself _
  · exact hself _
  · intro record
    dsimp only
    by_cases htransition : record.state.canTransitionTo newState = true
    · rw [if_pos htransition]
      refine (saveTask_meets (hsave record htransition)).mono (fun _ _ h => h) ?_
      intro k' r h
      exact ⟨⟨h.1, h.2.1⟩, h.2.2⟩
    · rw [if_neg htransition]
      refine ⟨⟨rfl, fun _ h => h⟩, ?_⟩
      intro _ h
      cases h

/-- A leg that only has to release the lock. -/
theorem releaseAndFail_meets {α : Type} (k : Knows) (e : JsonRpcError) :
    LegMeets (fun k' r => k' = k ∧ r = .error e) k
      (releaseAndFail e : Program (Except JsonRpcError α)) :=
  ⟨trivial, fun _ _ => ⟨rfl, rfl⟩⟩

/-- Neither marked nor settled yet. -/
def Fresh (k : Knows) : Prop := k.marked = false ∧ k.settled = false

/-- The check under the lock has found the task payable, and has written nothing. -/
theorem recheckUnderLock_meets {k : Knows} (hk : Fresh k) (taskId : String)
    (reject : TaskState → JsonRpcError) :
    LegMeets (fun k' _ => Fresh k') k (recheckUnderLock taskId reject) := by
  -- every way to fail here only releases the lock
  have hrelease : ∀ (k' : Knows) (e : JsonRpcError), Fresh k' →
      LegMeets (fun k'' _ => Fresh k'') k'
        (releaseAndFail e : Program (Except JsonRpcError TaskRecord)) := by
    intro k' e hk'
    refine (releaseAndFail_meets k' e).mono (fun _ _ h => h) ?_
    intro k'' r h
    rw [h.1]
    exact hk'
  apply loadTask_bind_meets
  · intro e
    exact hrelease k _ hk
  · exact hrelease k _ hk
  · intro record
    dsimp only
    split
    · exact hk
    · exact hrelease _ _ hk

/-- With its marker a leg has not settled; without it, it is done. -/
theorem markWorking_meets {k : Knows} (hk : Fresh k) (taskId : String) :
    LegMeets (fun k' r => r = .ok () → k'.marked = true ∧ k'.settled = false) k
      (markWorking taskId) := by
  refine (updateTaskState_meets taskId (Save.of_transition hk.1 (Or.inl rfl))).bind ?_
  rintro k' (e | _) ⟨hupdated, hworking⟩
  · -- the `Working` write failed, so the leg reports it without a marker; it may still have been
    -- applied, and then the task is stranded and nobody settles
    have hfail : ∀ e : JsonRpcError, LegMeets
        (fun k' r => r = .ok () → k'.marked = true ∧ k'.settled = false) k'
        (releaseAndFail e : Program (Except JsonRpcError Unit)) := by
      intro e
      refine (releaseAndFail_meets k' e).mono (fun _ _ h => h) ?_
      intro k'' r h hr
      rw [hr] at h
      cases h.2
    dsimp only
    split
    · exact hfail _
    · exact hfail _
  · intro _
    exact ⟨hworking rfl rfl, hupdated.settled.trans hk.2⟩

/-- A leg that has marked the task and not settled takes its marker back. -/
theorem revertAndFail_meets {α : Type} {k : Knows} (hmarked : k.marked = true)
    (hsettled : k.settled = false) (taskId : String) (e : JsonRpcError) :
    LegMeets (fun _ r => r = .error e) k
      (revertAndFail taskId e : Program (Except JsonRpcError α)) := by
  have hsave : ∀ before : TaskRecord, before.state.canTransitionTo .inputRequired = true →
      Save { k with snapshot := some before } { before with state := .inputRequired } :=
    fun _ _ => .revert hmarked hsettled rfl
  -- the source ignores an error of the revert
  have hrevert : LegMeets (fun _ _ => True) k (revertWorkingAndRelease taskId) := by
    refine (updateTaskState_meets taskId hsave).bind ?_
    intro k' r _
    exact ⟨trivial, fun _ _ => trivial⟩
  refine hrevert.bind ?_
  intro k' _ _
  rfl

/-- A payment that was collected leaves the marker. -/
theorem collectPayment_meets {k : Knows} (hmarked : k.marked = true) (hsettled : k.settled = false)
    (devBypassPayment : Bool) (taskId : String) (payment : Payment) :
    LegMeets (fun k' r => ∀ txSignature, r = .ok txSignature → k'.marked = true) k
      (collectPayment devBypassPayment taskId payment) := by
  -- a payment that is not collected reverts the marker, which a leg may do that has not settled
  have hrevert : ∀ (k' : Knows) (e : JsonRpcError), k'.marked = true → k'.settled = false →
      LegMeets (fun k'' r => ∀ txSignature, r = .ok txSignature → k''.marked = true) k'
        (revertAndFail taskId e : Program (Except JsonRpcError (Option String))) := by
    intro k' e hmarked' hsettled'
    refine (revertAndFail_meets hmarked' hsettled' taskId e).mono (fun _ _ h => h) ?_
    intro k'' r hr txSignature hok
    rw [hr] at hok
    cases hok
  unfold collectPayment
  split
  · intro txSignature _
    exact hmarked
  · split
    · exact hrevert k _ hmarked hsettled
    · refine Prog.Meets.ask trivial ?_
      rintro (e | _) _
      · exact hrevert k _ hmarked hsettled
      · dsimp only
        split
        · exact hrevert k _ hmarked hsettled
        · -- `verify_and_settle`: an error or `success = false` leaves the leg unsettled
          refine Prog.Meets.ask ⟨hmarked, hsettled⟩ ?_
          rintro (e | settlement) _
          · refine hrevert _ _ hmarked ?_
            show (k.settled || false) = false
            rw [hsettled]
            rfl
          · dsimp only
            split
            · intro txSignature _
              exact hmarked
            · rename_i hfailed
              refine hrevert _ _ hmarked ?_
              show (k.settled || settlement.success) = false
              rw [hsettled, Bool.false_or]
              simpa using hfailed

/-- What is recorded at the end is written over the leg's own marker. -/
theorem persistTerminalRefs_meets {k : Knows} (hmarked : k.marked = true) (taskId : String)
    (artifactText txSignature receiptPath : Option String) :
    LegMeets (fun _ _ => True) k
      (persistTerminalRefs taskId artifactText txSignature receiptPath) := by
  apply loadTask_bind_meets
  · intro e
    trivial
  · trivial
  · intro record
    have hsave : Save { k with snapshot := some record }
        { record with
          artifactText := artifactText, txSignature := txSignature, receiptPath := receiptPath } :=
      .finish rfl hmarked (Or.inl rfl)
    refine (saveTask_meets hsave).mono (fun _ _ h => h) ?_
    intro k' r _
    trivial

/-- So is the final state. -/
theorem finish_meets {k : Knows} (hmarked : k.marked = true) (taskId : String)
    {newState : TaskState} (hstate : newState = .completed ∨ newState = .failed) :
    LegMeets (fun k' _ => k'.marked = true) k (updateTaskState taskId newState) := by
  have hsave : ∀ before : TaskRecord, before.state.canTransitionTo newState = true →
      Save { k with snapshot := some before } { before with state := newState } :=
    fun _ _ => .finish rfl hmarked (Or.inr hstate)
  refine (updateTaskState_meets taskId hsave).mono (fun _ _ h => h) ?_
  intro k' r h
  apply h.1.marked _ hmarked
  rcases hstate with rfl | rfl <;> simp

/-- The delivery after a settlement. -/
theorem deliver_meets {k : Knows} (hmarked : k.marked = true) (taskId contextId : String)
    (txSignature : Option String) :
    LegMeets (fun _ _ => True) k (deliver taskId contextId txSignature) := by
  refine Prog.Meets.ask trivial ?_
  rintro (e | choice) _
  · refine Prog.Meets.ask trivial ?_
    intro receiptPath _
    refine (finish_meets hmarked taskId (Or.inr rfl)).bind ?_
    intro k' _ hmarked'
    refine (persistTerminalRefs_meets hmarked' taskId _ _ _).bind ?_
    intro k'' _ _
    trivial
  · refine Prog.Meets.ask trivial ?_
    intro receiptPath _
    refine (finish_meets hmarked taskId (Or.inl rfl)).bind ?_
    intro k' _ hmarked'
    refine (persistTerminalRefs_meets hmarked' taskId _ _ _).bind ?_
    intro k'' _ _
    trivial

/-- What a leg does before it has the lock. -/
theorem acquireLock_meets {k : Knows} (hk : Fresh k) (reject : TaskState → JsonRpcError)
    (unavailable : JsonRpcError) :
    LegMeets (fun k' _ => Fresh k') k (acquireLock reject unavailable) := by
  refine Prog.Meets.ask trivial ?_
  rintro (e | acquired) _
  · exact hk
  · cases acquired with
    | true => exact hk
    | false =>
      apply loadTask_bind_meets
      · intro e
        exact hk
      · exact hk
      · intro record
        dsimp only
        split <;> exact hk

/-- The whole leg of a paid task keeps to the rules. -/
theorem settlePaidTask_meets (devBypassPayment : Bool) (taskId contextId : String)
    (payment : Payment) :
    LegMeets (fun _ _ => True) .nothing
      (settlePaidTask devBypassPayment taskId contextId payment) := by
  refine (acquireLock_meets ⟨rfl, rfl⟩ _ _).andThen (fun _ _ _ => trivial) ?_
  intro k₁ _ hk₁
  refine (recheckUnderLock_meets hk₁ taskId _).andThen (fun _ _ _ => trivial) ?_
  intro k₂ _ hk₂
  refine (markWorking_meets hk₂ taskId).andThen (fun _ _ _ => trivial) ?_
  intro k₃ _ hk₃
  -- from here on the leg has its marker
  obtain ⟨hmarked, hsettled⟩ := hk₃ rfl
  refine (collectPayment_meets hmarked hsettled devBypassPayment taskId payment).andThen
    (fun _ _ _ => trivial) ?_
  intro k₄ txSignature hk₄
  exact deliver_meets (hk₄ txSignature rfl) taskId contextId txSignature

/-- So does a cancelation. -/
theorem cancelUnderLock_meets (taskId : String) :
    LegMeets (fun _ _ => True) .nothing (cancelUnderLock taskId) := by
  refine (acquireLock_meets ⟨rfl, rfl⟩ _ _).andThen (fun _ _ _ => trivial) ?_
  intro k₁ _ hk₁
  refine (recheckUnderLock_meets hk₁ taskId _).andThen (fun _ _ _ => trivial) ?_
  intro k₂ record hk₂
  refine (updateTaskState_meets taskId (Save.of_transition hk₂.1 (Or.inr rfl))).bind ?_
  rintro k₃ (e | _) _
  · exact ⟨trivial, fun _ _ => trivial⟩
  · trivial

end Solvela.A2a
