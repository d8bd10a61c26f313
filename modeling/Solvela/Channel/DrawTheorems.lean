import Solvela.Channel.Draw

/-!
# What a step of the draw system does

`draw_effect` says once what any step can do to the ledger and to the commit history:
nothing, one repository operation beside the draws, or the commit of one cleared draw. The
stages of the draws carry one fact of their own, `verified_run`: a draw past its
verification holds a snapshot its voucher was accepted against.
-/

namespace Solvela.Channel

open Solvela.Lib
open Solvela.Lib.Txn
open Solvela.ChannelLedger

section
variable (verifySignature : Pubkey → List UInt8 → Vector UInt8 64 → Bool) (feePercent : ℕ)

/-! ## Ledger and commits -/

/-- The operations of the system that are not a draw's own. -/
def besideDraws (op : LedgerOp) : Prop :=
  runsBeside op = true ∨ ∃ id, op = .closeChannelAndReserveRefund id

/-- What a step does to the ledger and to the commit history. -/
inductive DrawEffect (s : DrawSystem) (a : DrawLabel) (s' : DrawSystem) : Prop
  | quiet (ledger : s'.ledger = s.ledger) (commits : s'.commits = s.commits)
  | operated (fault : Fault) (op : LedgerOp) (beside : besideDraws op)
      (ledger : s'.ledger = ledgerStep s.ledger (fault, op)) (commits : s'.commits = s.commits)
  | committed (i : ℕ) (d : Draw) (state : ChannelState) (advance : ℕ) (r : Channel)
      (isPersist : ∃ fault, a = .persist i fault) (found : s.draws.lookup i = some d)
      (stage : d.stage = .cleared state advance)
      (spec : Persisted (d.record advance) r s.ledger s'.ledger)
      (commits : s'.commits =
        s.commits ++ [d.commit state advance r.1.lastVoucherCumulativeAtomic])

/-- The system after a run from the empty ledger. -/
def drawRun (as : List DrawLabel) : DrawSystem :=
  run (drawStep verifySignature feePercent) DrawSystem.init as

/-- A run in two parts. -/
theorem drawRun_append (as bs : List DrawLabel) :
    drawRun verifySignature feePercent (as ++ bs) =
      run (drawStep verifySignature feePercent) (drawRun verifySignature feePercent as) bs :=
  run_append _ _ as bs

variable {verifySignature feePercent}

/-- A step of a draw that does not exist is no step. -/
theorem onDraw_cases {P : DrawSystem → Prop} {s : DrawSystem} {i : ℕ} {f : Draw → DrawSystem}
    (hnone : P s) (hsome : ∀ d, s.draws.lookup i = some d → P (f d)) : P (s.onDraw i f) := by
  unfold DrawSystem.onDraw
  cases h : s.draws.lookup i with
  | none => exact hnone
  | some d => exact hsome d h

/-- What a persist does to the draws and the ledger. -/
theorem persist_effect {s : DrawSystem} {i : ℕ} {d : Draw} {fault : Fault}
    (hd : s.draws.lookup i = some d) :
    DrawEffect s (.persist i fault) (persist s i d fault) := by
  unfold persist
  split
  · rename_i state advance hstage
    split
    · rename_i u ledger hpersist
      obtain ⟨r, hspec⟩ := persistVoucherAndAdvance_ok hpersist
      have hlast : lastOf s.ledger d.channelId = some r.1.lastVoucherCumulativeAtomic := by
        have hfound : s.ledger.channels.lookup d.channelId = some r := hspec.found
        rw [lastOf, hfound]
        rfl
      refine .committed i d state advance r ⟨fault, rfl⟩ hd hstage hspec ?_
      rw [hlast]
      rfl
    · rename_i e ledger hpersist
      -- the transaction rolled back
      exact .quiet (atomically_error hpersist) rfl
  · exact .quiet rfl rfl

variable (verifySignature feePercent) in
/-- What every step does. -/
theorem draw_effect (s : DrawSystem) (a : DrawLabel) :
    DrawEffect s a (drawStep verifySignature feePercent s a) := by
  cases a with
  | begin i request =>
    show DrawEffect s _ (begin_ s i request)
    unfold begin_
    split
    · exact .quiet rfl rfl
    · exact .quiet rfl rfl
  -- the stages before the persist do not write
  | load i =>
    refine onDraw_cases (.quiet rfl rfl) fun d _ => ?_
    unfold load
    split
    · split
      · exact .quiet rfl rfl
      · exact .quiet rfl rfl
    · exact .quiet rfl rfl
  | verify i =>
    refine onDraw_cases (.quiet rfl rfl) fun d _ => ?_
    unfold verify
    split
    · split
      · exact .quiet rfl rfl
      · exact .quiet rfl rfl
    · exact .quiet rfl rfl
  | serve i served =>
    refine onDraw_cases (.quiet rfl rfl) fun d _ => ?_
    unfold serve
    split
    · exact .quiet rfl rfl
    · exact .quiet rfl rfl
  | recheck i redisAnswers =>
    refine onDraw_cases (.quiet rfl rfl) fun d _ => ?_
    unfold recheck
    split
    · split_ifs
      · exact .quiet rfl rfl
      · exact .quiet rfl rfl
    · exact .quiet rfl rfl
  | persist i fault => exact onDraw_cases (.quiet rfl rfl) fun d hd => persist_effect hd
  | release i =>
    refine onDraw_cases (.quiet rfl rfl) fun d _ => ?_
    unfold release
    split_ifs
    · exact .quiet rfl rfl
    · exact .quiet rfl rfl
  | drop i => exact onDraw_cases (.quiet rfl rfl) fun d _ => .quiet rfl rfl
  | lockExpires id => exact .quiet rfl rfl
  -- a close and the other operations write the ledger, and no draw
  | close id fault => exact .operated fault _ (Or.inr ⟨id, rfl⟩) rfl rfl
  | beside fault op =>
    show DrawEffect s _
      (if runsBeside op then { s with ledger := ledgerStep s.ledger (fault, op) } else s)
    split_ifs with hop
    · exact .operated fault op (Or.inl hop) rfl rfl
    · exact .quiet rfl rfl

/-- The ledger of the system is a ledger of repository operations. -/
theorem ledgerInv_drawStep (s : DrawSystem) (a : DrawLabel) (hs : LedgerInv s.ledger) :
    LedgerInv (drawStep verifySignature feePercent s a).ledger := by
  cases draw_effect verifySignature feePercent s a with
  | quiet ledger _ =>
    rw [ledger]
    exact hs
  | operated fault op _ ledger _ =>
    rw [ledger]
    exact ledgerInv_step _ _ hs
  | committed i d state advance r _ _ _ spec _ => exact hs.persisted spec

/-! ## The stages -/

/-- The snapshot a draw was verified against, from its verification on. -/
def Stage.snapshot : Stage → Option ChannelState
  | .verified state => some state
  | .served state _ => some state
  | .cleared state _ => some state
  | _ => none

/-- The voucher of a draw past its verification was accepted against its snapshot. -/
def Draw.Verified (verifySignature : Pubkey → List UInt8 → Vector UInt8 64 → Bool) (d : Draw) :
    Prop :=
  ∀ state, d.stage.snapshot = some state →
    verifyVoucher verifySignature state d.voucher d.request.billedAtomic
      d.request.currentSlot = .ok ()

/-- Every draw past its verification was verified. -/
def DrawSystem.Verified (verifySignature : Pubkey → List UInt8 → Vector UInt8 64 → Bool)
    (s : DrawSystem) : Prop :=
  ∀ i d, s.draws.lookup i = some d → d.Verified verifySignature

/-- Moving a verified draw to a stage without a snapshot of its own, or with the one it has. -/
theorem DrawSystem.Verified.setStage {s : DrawSystem} (h : s.Verified verifySignature) {i : ℕ}
    {d : Draw} {stage : Stage}
    (hd : ({ d with stage := stage } : Draw).Verified verifySignature) :
    (s.setStage i d stage).Verified verifySignature := by
  intro j d' hj
  simp only [DrawSystem.setStage, Table.lookup_insert_eq] at hj
  by_cases hji : j = i
  · rw [if_pos hji] at hj
    obtain rfl := Option.some.inj hj
    exact hd
  · rw [if_neg hji] at hj
    exact h j d' hj

/-- A stage without a snapshot owes nothing. -/
theorem Draw.verified_of_none {d : Draw} (h : d.stage.snapshot = none) :
    d.Verified verifySignature := by
  intro state hstate
  rw [h] at hstate
  exact absurd hstate (by simp)

/-- A draw keeps the voucher that it has verified. -/
theorem verified_step (s : DrawSystem) (a : DrawLabel) (h : s.Verified verifySignature) :
    (drawStep verifySignature feePercent s a).Verified verifySignature := by
  cases a with
  -- a new draw has no snapshot yet
  | begin i request =>
    show (begin_ s i request).Verified verifySignature
    unfold begin_
    split
    · intro j d hj
      simp only [Table.lookup_insert_eq] at hj
      by_cases hji : j = i
      · rw [if_pos hji] at hj
        obtain rfl := Option.some.inj hj
        exact Draw.verified_of_none rfl
      · rw [if_neg hji] at hj
        exact h j d hj
    · exact h
  | load i =>
    refine onDraw_cases h fun d _ => ?_
    unfold load
    split
    · split
      · exact h.setStage (Draw.verified_of_none rfl)
      · exact h.setStage (Draw.verified_of_none rfl)
    · exact h
  | verify i =>
    refine onDraw_cases h fun d _ => ?_
    unfold verify
    split
    · split
      · -- the only step that takes on a snapshot is the one that checks it
        rename_i state hstage u hok
        refine h.setStage ?_
        rintro state' ⟨⟩
        exact hok
      · exact h.setStage (Draw.verified_of_none rfl)
    · exact h
  -- the later stages keep the snapshot they have
  | serve i served =>
    refine onDraw_cases h fun d hd => ?_
    unfold serve
    split
    · rename_i state hstage
      refine h.setStage ?_
      rintro state' ⟨⟩
      exact h i d hd state (by rw [hstage]; rfl)
    · exact h
  | recheck i redisAnswers =>
    refine onDraw_cases h fun d hd => ?_
    unfold recheck
    split
    · rename_i state advance hstage
      split_ifs
      · exact h.setStage (Draw.verified_of_none rfl)
      · refine h.setStage ?_
        rintro state' ⟨⟩
        exact h i d hd state (by rw [hstage]; rfl)
    · exact h
  | persist i fault =>
    refine onDraw_cases h fun d _ => ?_
    have hdone : (s.setStage i d .done).Verified verifySignature :=
      h.setStage (Draw.verified_of_none rfl)
    unfold persist
    split
    · split
      · exact hdone
      · exact hdone
    · exact h
  | release i =>
    refine onDraw_cases h fun d _ => ?_
    unfold release
    split_ifs
    · exact h
    · exact h
  | drop i => exact onDraw_cases h fun d _ => h.setStage (Draw.verified_of_none rfl)
  -- the rest leaves the draws alone
  | lockExpires id => exact h
  | close id fault => exact h
  | beside fault op =>
    show DrawSystem.Verified verifySignature
      (if runsBeside op then { s with ledger := ledgerStep s.ledger (fault, op) } else s)
    split_ifs
    · exact h
    · exact h

/-- No draw has begun. -/
theorem verified_init : DrawSystem.init.Verified verifySignature := by
  intro i d hd
  exact absurd hd (by simp [DrawSystem.init])

variable (verifySignature feePercent)

/-- In every run the draws hold vouchers that they have verified. -/
theorem verified_run (as : List DrawLabel) :
    (drawRun verifySignature feePercent as).Verified verifySignature :=
  run_invariant verified_step verified_init as

end

end Solvela.Channel
