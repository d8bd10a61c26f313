import Mathlib.Data.List.Sort
import Solvela.Ledger.Pubkey

/-!
# The escrow claim queue

The table `escrow_claim_queue` and the statements on it. Rows are numbered in the order they were
inserted, and their numbers are their ids. Every statement is atomic and refreshes `updated_at`
of the rows it writes, as the trigger does. Times are in seconds.
-/

namespace Solvela.ClaimQueue

open Solvela.ChannelLedger

inductive ClaimStatus
  | pending
  | inProgress
  | completed
  | failed
deriving DecidableEq

/-- `MAX_CLAIM_ATTEMPTS`. -/
def maxClaimAttempts : ℕ := 10

/-- `MAX_BACKOFF_SECS`. -/
def maxBackoffSecs : ℕ := 300

/-- `1 << attempt` in 64 bits, where it fits, up to the maximum. -/
def backoffDuration (attempt : ℕ) : ℕ :=
  min (if attempt < 64 then 2 ^ attempt else maxBackoffSecs) maxBackoffSecs

/-- A signed claim transaction. Its signature determines it, so it stands for the signature. -/
structure ClaimTx where
  serviceId : Pubkey
  agent : Pubkey
  amount : ℕ
  feePayer : Pubkey
  blockhash : ℕ
deriving DecidableEq

/-- A row of the table. -/
structure Row where
  serviceId : Pubkey
  agentPubkey : String
  claimAmount : ℕ
  depositedAmount : Option ℕ
  status : ClaimStatus
  attempts : ℕ
  txSignature : Option ClaimTx
  errorMessage : Option String
  nextRetryAt : Option ℕ
  createdAt : ℕ
  updatedAt : ℕ
deriving DecidableEq

/-- What `fetch_pending_claims` returns of a row. -/
structure ClaimEntry where
  id : ℕ
  serviceId : Pubkey
  agentPubkey : String
  claimAmount : ℕ
  depositedAmount : Option ℕ
  status : ClaimStatus
  attempts : ℕ
  txSignature : Option ClaimTx
  errorMessage : Option String
deriving DecidableEq

abbrev Rows := List Row

/-- `enqueue_claim`, with the defaults of the columns. -/
def enqueueClaim (now : ℕ) (serviceId : Pubkey) (agentPubkey : String) (claimAmount : ℕ)
    (depositedAmount : Option ℕ) (rows : Rows) : Rows :=
  rows ++ [⟨serviceId, agentPubkey, claimAmount, depositedAmount, .pending, 0, none, none, none,
    now, now⟩]

/-- `UPDATE ... WHERE id = $id`. -/
def updateRow (id : ℕ) (f : Row → Row) (rows : Rows) : Rows :=
  rows.mapIdx fun i r => if i = id then f r else r

def markCompleted (now id : ℕ) (txSignature : ClaimTx) : Rows → Rows :=
  updateRow id fun r =>
    { r with status := .completed, txSignature := some txSignature, updatedAt := now }

/-- The row's own attempts decide between `failed` and `pending`. -/
def markAttemptFailed (now id : ℕ) (error : String) (currentAttempts : ℕ) : Rows → Rows :=
  updateRow id fun r =>
    { r with
      status := if r.attempts ≥ maxClaimAttempts then .failed else .pending
      errorMessage := some error
      -- the backoff is that of the caller's attempts, not of the row's
      nextRetryAt :=
        if r.attempts ≥ maxClaimAttempts then r.nextRetryAt
        else some (now + backoffDuration currentAttempts)
      updatedAt := now }

/-- The condition of the `SELECT`: pending and due, or in progress for more than five minutes. -/
def Row.due (now : ℕ) (r : Row) : Bool :=
  match r.status with
  | .pending =>
    match r.nextRetryAt with
    | none => true
    | some t => decide (t ≤ now)
  -- the instance that leased it is taken for dead
  | .inProgress => decide (r.updatedAt + 300 < now)
  | .completed => false
  | .failed => false

/-- The ids that the `SELECT` locks: due, not locked by another statement, oldest first. -/
def selectIds (now : ℕ) (locked : ℕ → Bool) (limit : ℕ) (rows : Rows) : List ℕ :=
  let due := (List.range rows.length).filter fun i =>
    (match rows[i]? with
    | some r => r.due now
    | none => false) && !locked i
  let createdAt := fun i => (rows[i]?.map Row.createdAt).getD 0
  (due.insertionSort fun i j => createdAt i ≤ createdAt j).take limit

/-- The `UPDATE` of a row that was selected. -/
def Row.lease (now : ℕ) (r : Row) : Row :=
  { r with status := .inProgress, attempts := r.attempts + 1, updatedAt := now }

def Row.entry (id : ℕ) (r : Row) : ClaimEntry :=
  ⟨id, r.serviceId, r.agentPubkey, r.claimAmount, r.depositedAmount, r.status, r.attempts,
    r.txSignature, r.errorMessage⟩

/-- `fetch_pending_claims`. -/
def fetchPendingClaims (now : ℕ) (locked : ℕ → Bool) (limit : ℕ) (rows : Rows) :
    List ClaimEntry × Rows :=
  let ids := selectIds now locked limit rows
  let rows' := rows.mapIdx fun i r => if i ∈ ids then r.lease now else r
  (ids.filterMap fun i => rows'[i]?.map (Row.entry i), rows')

/-! ## What the statements do to a row -/

theorem getElem?_updateRow (id : ℕ) (f : Row → Row) (rows : Rows) (i : ℕ) :
    (updateRow id f rows)[i]? = if i = id then rows[i]?.map f else rows[i]? := by
  unfold updateRow
  rw [List.getElem?_mapIdx]
  by_cases h : i = id
  · simp [h]
  · simp [h]

theorem mem_selectIds {now : ℕ} {locked : ℕ → Bool} {limit : ℕ} {rows : Rows} {i : ℕ}
    (h : i ∈ selectIds now locked limit rows) : ∃ r, rows[i]? = some r ∧ r.due now = true := by
  unfold selectIds at h
  -- neither the order nor the limit adds an id
  have hsorted := List.mem_of_mem_take h
  rw [List.mem_insertionSort, List.mem_filter] at hsorted
  obtain ⟨-, hdue⟩ := hsorted
  cases hr : rows[i]? with
  | none => simp [hr] at hdue
  | some r =>
    simp only [hr, Bool.and_eq_true] at hdue
    exact ⟨r, rfl, hdue.1⟩

theorem selectIds_nodup (now : ℕ) (locked : ℕ → Bool) (limit : ℕ) (rows : Rows) :
    (selectIds now locked limit rows).Nodup := by
  have hsorted := ((List.perm_insertionSort (fun i j : ℕ =>
    (rows[i]?.map Row.createdAt).getD 0 ≤ (rows[j]?.map Row.createdAt).getD 0)
    ((List.range rows.length).filter fun i =>
      (match rows[i]? with
      | some r => r.due now
      | none => false) && !locked i)).nodup_iff).2 (List.nodup_range.filter _)
  exact hsorted.sublist (List.take_sublist _ _)

/-- A fetch leaves a row as it is, or leases it out; a completed or failed one it leaves. -/
theorem getElem?_fetch (now : ℕ) (locked : ℕ → Bool) (limit : ℕ) (rows : Rows) (i : ℕ) :
    (fetchPendingClaims now locked limit rows).2[i]? =
      if i ∈ selectIds now locked limit rows then rows[i]?.map (Row.lease now) else rows[i]? := by
  simp only [fetchPendingClaims, List.getElem?_mapIdx]
  split
  · simp
  · simp

/-- The entries are the leased rows, with the new number of attempts. -/
theorem mem_fetch {now : ℕ} {locked : ℕ → Bool} {limit : ℕ} {rows : Rows} {e : ClaimEntry}
    (h : e ∈ (fetchPendingClaims now locked limit rows).1) :
    e.id ∈ selectIds now locked limit rows ∧
      ∃ r, rows[e.id]? = some r ∧ e = (r.lease now).entry e.id := by
  simp only [fetchPendingClaims, List.mem_filterMap, Option.map_eq_some_iff] at h
  obtain ⟨i, hi, r', hr', rfl⟩ := h
  refine ⟨hi, ?_⟩
  obtain ⟨r, hr, -⟩ := mem_selectIds hi
  refine ⟨r, hr, ?_⟩
  rw [List.getElem?_mapIdx, hr] at hr'
  simp only [Option.map_some, Option.some.injEq, if_pos hi] at hr'
  rw [hr']
  rfl

/-- One fetch returns a row once. -/
theorem fetch_ids_nodup (now : ℕ) (locked : ℕ → Bool) (limit : ℕ) (rows : Rows) :
    ((fetchPendingClaims now locked limit rows).1.map ClaimEntry.id).Nodup := by
  simp only [fetchPendingClaims, List.map_filterMap, Option.map_map]
  refine (selectIds_nodup now locked limit rows).filterMap ?_
  intro i j id hi hj
  simp only [Option.mem_def, Option.map_eq_some_iff] at hi hj
  obtain ⟨_, -, rfl⟩ := hi
  obtain ⟨_, -, hij⟩ := hj
  exact hij.symm

end Solvela.ClaimQueue
