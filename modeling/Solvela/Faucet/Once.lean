import Solvela.Faucet.Drip
import Solvela.Ledger.Base58
import Solvela.Lib.Runs

/-!
# At most one drip for a wallet

The primary key of `gas_drips` lets one call hold a wallet, and only the holder deletes its row.
A call that deletes its row has not sent, as far as it knows: it knows of a send that was refused
and of one that was acknowledged. Where the response is lost it deletes the row of a transfer that
the cluster may have.

* `sendDrip_keeps` and `capGate_keeps`, what a call knows of its reservation;
* `Effect`, what a step of one call does, and `Effect.frame`, what it leaves;
* `Safe`, the invariant, and `Safe.effect`.
-/

namespace Solvela.Faucet

open Solvela.ChannelLedger Solvela.Lib

/-! ## What a call does in each phase -/

/-- The reservation is held. -/
def Phase.holds : Phase → Bool
  | .holding _ => true
  | _ => false

/-- The commands of a call for a wallet, by its phase. -/
def Within (p : FaucetParams) (wallet : String) (phase : Phase) : Cmd → Prop
  | .reserve w lamports => phase = .start ∧ w = wallet ∧ lamports = p.dripLamports
  | .priorSignature _ => phase = .over
  | .dayTotalLamports => phase = .holding false
  | .usdcBalance _ => phase = .holding true
  | .solBalance _ => phase = .holding true
  | .sourceSolBalance => phase = .holding true
  | .latestBlockhash => phase = .holding true
  | .sendTransaction tx => phase = .holding true ∧
      decodeBs58Pubkey wallet = some tx.recipient ∧ tx.lamports = p.dripLamports
  | .deleteReservation w => phase.holds = true ∧ w = wallet
  | .recordSignature w _ => phase = .sent ∧ w = wallet

/-- The specification of a part of a call. -/
abbrev Keeps {α : Type} (p : FaucetParams) (wallet : String) (post : Phase → α → Prop)
    (phase : Phase) (prog : Call α) : Prop :=
  Prog.Meets ⟨Phase.move p, fun _ _ _ => True⟩ (Within p wallet) post phase prog

section Calls
variable (p : FaucetParams) {wallet : String} {recipient : Pubkey}

theorem rollback_keeps {phase : Phase} (h : phase.holds = true) (outcome : DripOutcome) :
    Keeps p wallet (fun _ _ => True) phase (rollback wallet outcome) :=
  ⟨⟨h, rfl⟩, fun _ _ => trivial⟩

/-- A send ends with the transfer out, or with the reservation still held. -/
theorem sendDrip_keeps (hwallet : decodeBs58Pubkey wallet = some recipient) :
    Keeps p wallet
      (fun phase result =>
        match result with
        | .ok _ => phase = .sent
        | .error .alreadyProcessed => phase = .sent
        | .error _ => phase = .holding true)
      (.holding true) (sendDrip p recipient) := by
  refine Prog.Meets.ask rfl ?_
  intro blockhash _
  unfold sendWith
  split
  · exact rfl
  · unfold signSystemTransfer
    split_ifs
    · exact rfl
    · refine Prog.Meets.ask ⟨rfl, hwallet, rfl⟩ ?_
      intro sent _
      show Keeps p wallet _ (match classifySend sent with
        | .ok _ => .sent
        | .error .alreadyProcessed => .sent
        | .error _ => .holding true) (pure (classifySend sent))
      rcases classifySend sent with e | signature
      · cases e <;> exact rfl
      · exact rfl

theorem afterSend_keeps (hwallet : decodeBs58Pubkey wallet = some recipient) :
    Keeps p wallet (fun _ _ => True) (.holding true)
      (sendDrip p recipient >>= afterSend p wallet) := by
  refine (sendDrip_keeps p hwallet).bind ?_
  intro phase result hphase
  rcases result with e | signature
  · cases e with
    | rpc message =>
      obtain rfl := hphase
      exact rollback_keeps p rfl _
    | transfer message =>
      obtain rfl := hphase
      exact rollback_keeps p rfl _
    | alreadyProcessed => exact trivial
  · obtain rfl := hphase
    exact ⟨⟨rfl, rfl⟩, fun _ _ => trivial⟩

theorem sourceGate_keeps (hwallet : decodeBs58Pubkey wallet = some recipient)
    (balance : Except String ℕ) :
    Keeps p wallet (fun _ _ => True) (.holding true) (sourceGate p wallet recipient balance) := by
  unfold sourceGate
  -- the number itself would be unfolded by the case split
  generalize requiredLamports p = required
  split
  · split_ifs
    · exact rollback_keeps p rfl _
    · exact afterSend_keeps p hwallet
  · exact afterSend_keeps p hwallet

theorem solGate_keeps (hwallet : decodeBs58Pubkey wallet = some recipient)
    (balance : Except String ℕ) :
    Keeps p wallet (fun _ _ => True) (.holding true) (solGate p wallet recipient balance) := by
  unfold solGate
  split
  · split_ifs
    · exact Prog.Meets.ask rfl fun r _ => sourceGate_keeps p hwallet r
    · exact rollback_keeps p rfl _
  · exact trivial

theorem usdcGate_keeps (hwallet : decodeBs58Pubkey wallet = some recipient)
    (balance : Except String ℕ) :
    Keeps p wallet (fun _ _ => True) (.holding true) (usdcGate p wallet recipient balance) := by
  unfold usdcGate
  split
  · split_ifs
    · exact Prog.Meets.ask rfl fun r _ => solGate_keeps p hwallet r
    · exact rollback_keeps p rfl _
  · exact rollback_keeps p rfl _

/-- The cap read moves the phase just as it decides the gate. -/
theorem capGate_keeps (hwallet : decodeBs58Pubkey wallet = some recipient)
    (total : Except String ℕ) :
    Keeps p wallet (fun _ _ => True) ((Phase.holding false).move p .dayTotalLamports total)
      (capGate p wallet recipient total) := by
  unfold capGate
  split
  · rename_i total
    show Keeps p wallet _ (if total ≥ p.dailyCapLamports then .holding false else .holding true) _
    split_ifs
    · exact rollback_keeps p rfl _
    · exact Prog.Meets.ask rfl fun r _ => usdcGate_keeps p hwallet r
  · exact rollback_keeps p rfl _

theorem drip_keeps : Keeps p wallet (fun _ _ => True) .start (drip p wallet) := by
  unfold drip
  split
  · exact trivial
  · rename_i recipient hwallet
    refine Prog.Meets.ask ⟨rfl, rfl, rfl⟩ ?_
    intro reserved _
    unfold reserveGate
    split
    · exact Prog.Meets.ask rfl fun r _ => capGate_keeps p hwallet r
    · exact Prog.Meets.ask rfl fun _ _ => trivial
    · exact trivial

end Calls

/-! ## What a step does -/

/-- A `sendTransaction` whose response is lost: the call reads it as a failed send. -/
def lostResponse (s : System) : Label → Bool
  | .step i env =>
    match s.tasks[i]?, env.send with
    | some ⟨_, _, _, .call (.sendTransaction _) _⟩, .lost e _ => !isAlreadyProcessedError e
    | _, _ => false
  | _ => false

/-- The next command reads the total of the day. -/
def Task.readsCap (t : Task) : Bool :=
  match t.prog with
  | .call .dayTotalLamports _ => true
  | _ => false

/-- What a step of call `i` does to the table, the attempts and its own phase. -/
inductive Effect (p : FaucetParams) (s : System) (i : ℕ) (t : Task) :
    Phase → ℕ → System → Prop
  /-- Nothing is written. The cap may have been read. -/
  | quiet {phase : Phase} {reservedAt : ℕ}
      (hholds : phase.holds = true → t.phase.holds = true ∧ reservedAt = t.reservedAt)
      (hsent : t.phase = .sent → phase = .sent)
      (hcap : phase = .holding true → t.phase = .holding true ∨
        t.readsCap = true ∧ dayTotal s (utcDay s.now) < p.dailyCapLamports) :
      Effect p s i t phase reservedAt s
  | inserted {phase : Phase} (hstart : t.phase = .start) (hnone : s.rows.lookup t.wallet = none)
      (hphase : phase = .holding false ∨ phase = .over) :
      Effect p s i t phase s.now
        { s with rows := s.rows.insert t.wallet ⟨p.dripLamports, none, s.now, i⟩ }
  | erased {reservedAt : ℕ} (hholds : t.phase.holds = true) :
      Effect p s i t .over reservedAt { s with rows := s.rows.erase t.wallet }
  | signed {row : DripRow} {reservedAt : ℕ} (signature : String) (hsent : t.phase = .sent)
      (hrow : s.rows.lookup t.wallet = some row) :
      Effect p s i t .sent reservedAt
        { s with rows := s.rows.insert t.wallet { row with txSignature := some signature } }
  | attempted {tx : Transfer} {accepted : Bool} (hholds : t.phase = .holding true)
      (hrecipient : decodeBs58Pubkey t.wallet = some tx.recipient)
      (hlamports : tx.lamports = p.dripLamports) :
      Effect p s i t .sent t.reservedAt
        { s with attempts := s.attempts ++ [⟨t.wallet, i, t.reservedAt, tx, accepted⟩] }

section Effects
variable {p : FaucetParams} {s : System} {i : ℕ} {t : Task} {env : Env}

/-- A step that writes nothing and does not touch the cap. -/
theorem effect_of_phase {phase : Phase} {reservedAt : ℕ}
    (hphase : phase = t.phase ∨ phase = .over ∧ t.phase ≠ .sent ∨ phase = .sent)
    (hreserved : phase = t.phase → reservedAt = t.reservedAt) :
    Effect p s i t phase reservedAt s := by
  rcases hphase with rfl | ⟨rfl, hne⟩ | rfl
  · exact .quiet (fun h => ⟨h, hreserved rfl⟩) (fun h => h) (fun h => Or.inl h)
  · exact .quiet (fun h => absurd h (by simp [Phase.holds])) (fun h => absurd h hne)
      (fun h => absurd h (by simp))
  · exact .quiet (fun h => absurd h (by simp [Phase.holds])) (fun _ => rfl)
      (fun h => absurd h (by simp))

theorem effect_reserve {wallet : String} {lamports : ℕ}
    (h : Within p t.wallet t.phase (.reserve wallet lamports)) :
    Effect p s i t (t.phase.move p (.reserve wallet lamports)
      (execute s i t env (.reserve wallet lamports)).1) s.now
      (execute s i t env (.reserve wallet lamports)).2 := by
  obtain ⟨hstart, rfl, rfl⟩ := h
  have hquiet : Effect p s i t .over s.now s := by
    apply effect_of_phase
    · exact Or.inr (Or.inl ⟨rfl, by rw [hstart]; simp⟩)
    · intro hover
      rw [hstart] at hover
      exact absurd hover (by simp)
  show Effect p s i t (t.phase.move p (.reserve t.wallet p.dripLamports)
      (env.fault.apply s (reserve s i t.wallet p.dripLamports)).1) s.now
    (env.fault.apply s (reserve s i t.wallet p.dripLamports)).2
  unfold reserve
  split
  · cases env.fault <;> exact hquiet
  · split
    · cases env.fault <;> exact hquiet
    · rename_i hnone
      cases env.fault with
      | none => exact .inserted hstart hnone (Or.inl rfl)
      | noEffect => exact hquiet
      | lostAck => exact .inserted hstart hnone (Or.inr rfl)

theorem effect_dayTotal (hreads : t.readsCap = true)
    (h : Within p t.wallet t.phase .dayTotalLamports) :
    Effect p s i t (t.phase.move p .dayTotalLamports (execute s i t env .dayTotalLamports).1)
      t.reservedAt (execute s i t env .dayTotalLamports).2 := by
  have hphase : t.phase = .holding false := h
  have hsame : Effect p s i t t.phase t.reservedAt s :=
    effect_of_phase (Or.inl rfl) fun _ => rfl
  show Effect p s i t (t.phase.move p .dayTotalLamports
      (env.fault.apply s (dayTotalLamports s, s)).1) t.reservedAt
    (env.fault.apply s (dayTotalLamports s, s)).2
  cases env.fault with
  | noEffect => exact hsame
  | lostAck => exact hsame
  | none =>
    show Effect p s i t (t.phase.move p .dayTotalLamports (dayTotalLamports s)) t.reservedAt s
    unfold dayTotalLamports
    split
    · exact hsame
    · show Effect p s i t (if dayTotal s (utcDay s.now) ≥ p.dailyCapLamports then t.phase
        else .holding true) t.reservedAt s
      split_ifs with hcap
      · exact hsame
      · refine .quiet (fun _ => ⟨by rw [hphase]; rfl, rfl⟩) ?_ ?_
        · intro hsent
          rw [hphase] at hsent
          exact absurd hsent (by simp)
        · intro _
          exact Or.inr ⟨hreads, Nat.lt_of_not_le hcap⟩

theorem move_send_error (phase : Phase) (tx : Transfer) (e : String) :
    phase.move p (.sendTransaction tx) (.error e : Except String String) =
      if isAlreadyProcessedError e = true then .sent else phase := by
  cases h : isAlreadyProcessedError e <;> simp [Phase.move, classifySend, h]

theorem effect_sendTransaction {tx : Transfer}
    (h : Within p t.wallet t.phase (.sendTransaction tx))
    (hlost : ∀ e accepted, env.send = .lost e accepted → isAlreadyProcessedError e = true) :
    Effect p s i t (t.phase.move p (.sendTransaction tx)
      (execute s i t env (.sendTransaction tx)).1) t.reservedAt
      (execute s i t env (.sendTransaction tx)).2 := by
  obtain ⟨hphase, hrecipient, hlamports⟩ := h
  show Effect p s i t (t.phase.move p (.sendTransaction tx)
      (sendTransaction s i t tx env.send).1) t.reservedAt
    (sendTransaction s i t tx env.send).2
  cases hsend : env.send with
  | accepted signature => exact .attempted hphase hrecipient hlamports
  | refused e =>
    show Effect p s i t (t.phase.move p (.sendTransaction tx) (.error e)) t.reservedAt s
    rw [move_send_error]
    split_ifs
    · exact effect_of_phase (Or.inr (Or.inr rfl)) fun _ => rfl
    · exact effect_of_phase (Or.inl rfl) fun _ => rfl
  | lost e accepted =>
    show Effect p s i t (t.phase.move p (.sendTransaction tx) (.error e)) t.reservedAt _
    rw [move_send_error, if_pos (hlost e accepted hsend)]
    exact .attempted hphase hrecipient hlamports

theorem effect_delete {wallet : String}
    (h : Within p t.wallet t.phase (.deleteReservation wallet)) :
    Effect p s i t .over t.reservedAt (execute s i t env (.deleteReservation wallet)).2 := by
  obtain ⟨hholds, rfl⟩ := h
  have hquiet : Effect p s i t .over t.reservedAt s := by
    apply effect_of_phase
    · refine Or.inr (Or.inl ⟨rfl, ?_⟩)
      intro hsent
      rw [hsent] at hholds
      exact absurd hholds (by simp [Phase.holds])
    · intro _
      rfl
  have hdelete : Effect p s i t .over t.reservedAt (deleteReservation s t.wallet) := by
    unfold deleteReservation
    split
    · split_ifs
      · exact .erased hholds
      · exact hquiet
    · exact hquiet
  show Effect p s i t .over t.reservedAt
    (env.fault.apply s ((.ok () : Except String Unit), deleteReservation s t.wallet)).2
  cases env.fault with
  | none => exact hdelete
  | noEffect => exact hquiet
  | lostAck => exact hdelete

theorem effect_record {wallet signature : String}
    (h : Within p t.wallet t.phase (.recordSignature wallet signature)) :
    Effect p s i t t.phase t.reservedAt
      (execute s i t env (.recordSignature wallet signature)).2 := by
  obtain ⟨hsent, rfl⟩ := h
  have hquiet : Effect p s i t t.phase t.reservedAt s :=
    effect_of_phase (Or.inl rfl) fun _ => rfl
  have hrecord : Effect p s i t t.phase t.reservedAt (recordSignature s t.wallet signature) := by
    unfold recordSignature
    split
    · rename_i row hrow
      rw [hsent]
      exact .signed signature hsent hrow
    · exact hquiet
  show Effect p s i t t.phase t.reservedAt
    (env.fault.apply s ((.ok () : Except String Unit), recordSignature s t.wallet signature)).2
  cases env.fault with
  | none => exact hrecord
  | noEffect => exact hquiet
  | lostAck => exact hrecord

/-- What any command of a call does, unless the response to a send is lost. -/
theorem execute_effect {c : Cmd} {next : Reply c → Call DripOutcome} (hc : t.prog = .call c next)
    (h : Within p t.wallet t.phase c)
    (hlost : ∀ tx e accepted, c = .sendTransaction tx → env.send = .lost e accepted →
      isAlreadyProcessedError e = true) :
    Effect p s i t (t.phase.move p c (execute s i t env c).1) (reservedAtAfter s.now t c)
      (execute s i t env c).2 := by
  have hsame : Effect p s i t t.phase t.reservedAt s :=
    effect_of_phase (Or.inl rfl) fun _ => rfl
  match c with
  | .reserve wallet lamports => exact effect_reserve h
  | .priorSignature wallet =>
    show Effect p s i t t.phase t.reservedAt (env.fault.apply s (_, s)).2
    cases env.fault <;> exact hsame
  | .dayTotalLamports =>
    apply effect_dayTotal _ h
    unfold Task.readsCap
    rw [hc]
  | .usdcBalance wallet => exact hsame
  | .solBalance wallet => exact hsame
  | .sourceSolBalance => exact hsame
  | .latestBlockhash => exact hsame
  | .sendTransaction tx => exact effect_sendTransaction h fun e accepted => hlost tx e accepted rfl
  | .deleteReservation wallet => exact effect_delete h
  | .recordSignature wallet signature => exact effect_record h

end Effects

/-! ## The invariant -/

/-- The row of a wallet is the one that call `holder` inserted at a time. -/
def RowAt (s : System) (wallet : String) (holder createdAt : ℕ) : Prop :=
  ∃ row, s.rows.lookup wallet = some row ∧ row.holder = holder ∧ row.createdAt = createdAt

/-- A call that holds a wallet has its row, a drip that is out has its row, and a wallet is dripped
by one call, which is past the point where it could delete the row. -/
structure Safe (p : FaucetParams) (s : System) : Prop where
  programs : ∀ t ∈ s.tasks, Keeps p t.wallet (fun _ _ => True) t.phase t.prog
  held : ∀ i t, s.tasks[i]? = some t → t.phase.holds = true → RowAt s t.wallet i t.reservedAt
  attempted : ∀ a ∈ s.attempts, RowAt s a.wallet a.holder a.reservedAt
  settled : ∀ a ∈ s.attempts, ∃ t, s.tasks[a.holder]? = some t ∧ t.phase = .sent
  once : (s.attempts.map (·.holder)).Nodup
  transfers : ∀ a ∈ s.attempts,
    decodeBs58Pubkey a.wallet = some a.tx.recipient ∧ a.tx.lamports = p.dripLamports
  landed : ∀ tx ∈ s.landed, ∃ a ∈ s.attempts, a.tx = tx
  landedOnce : s.landed.Nodup
  lamports : Table.All (fun row => row.lamports = p.dripLamports) s.rows

section Invariant
variable {p : FaucetParams} {s s' : System} {i : ℕ} {t : Task} {phase : Phase} {reservedAt : ℕ}

/-- A row stays as it is, unless it is the own row of a call that still holds it. -/
theorem Effect.rowAt (h : Effect p s i t phase reservedAt s')
    (hheld : t.phase.holds = true → RowAt s t.wallet i t.reservedAt) {wallet : String}
    {holder createdAt : ℕ} (hrow : RowAt s wallet holder createdAt)
    (hother : t.phase.holds = true → holder ≠ i) : RowAt s' wallet holder createdAt := by
  obtain ⟨row, hlookup, hholder, hcreated⟩ := hrow
  cases h with
  | quiet _ _ _ => exact ⟨row, hlookup, hholder, hcreated⟩
  | attempted _ _ _ => exact ⟨row, hlookup, hholder, hcreated⟩
  -- an insertion is of a wallet without a row
  | inserted _ hnone _ =>
    have hne : wallet ≠ t.wallet := by
      intro heq
      rw [heq, hnone] at hlookup
      exact absurd hlookup (by simp)
    refine ⟨row, ?_, hholder, hcreated⟩
    rw [Table.lookup_insert_eq, if_neg hne]
    exact hlookup
  -- who erases holds the row itself
  | erased hholds =>
    have hne : wallet ≠ t.wallet := by
      intro heq
      obtain ⟨own, hown, howner, -⟩ := hheld hholds
      rw [heq, hown] at hlookup
      apply hother hholds
      rw [← hholder, ← Option.some.inj hlookup, howner]
    refine ⟨row, ?_, hholder, hcreated⟩
    rw [Table.lookup_erase_eq, if_neg hne]
    exact hlookup
  | @signed own _ signature _ hown =>
    by_cases heq : wallet = t.wallet
    · rw [heq, hown] at hlookup
      obtain rfl := Option.some.inj hlookup
      refine ⟨{ own with txSignature := some signature }, ?_, hholder, hcreated⟩
      rw [Table.lookup_insert_eq, if_pos heq]
    · refine ⟨row, ?_, hholder, hcreated⟩
      rw [Table.lookup_insert_eq, if_neg heq]
      exact hlookup

/-- A call that is out stays out. -/
theorem Effect.sent (h : Effect p s i t phase reservedAt s') (hsent : t.phase = .sent) :
    phase = .sent := by
  cases h with
  | quiet _ hkeep _ => exact hkeep hsent
  | inserted hstart _ _ =>
    rw [hsent] at hstart
    exact absurd hstart (by simp)
  | erased hholds =>
    rw [hsent] at hholds
    exact absurd hholds (by simp [Phase.holds])
  | signed _ _ _ => rfl
  | attempted _ _ _ => rfl

/-- After the step, a call that holds its wallet has its own row. -/
theorem Effect.held (h : Effect p s i t phase reservedAt s')
    (hheld : t.phase.holds = true → RowAt s t.wallet i t.reservedAt) (hholds : phase.holds = true) :
    RowAt s' t.wallet i reservedAt := by
  cases h with
  | quiet hquiet _ _ =>
    obtain ⟨hbefore, rfl⟩ := hquiet hholds
    exact hheld hbefore
  | inserted _ _ _ =>
    refine ⟨⟨p.dripLamports, none, s.now, i⟩, ?_, rfl, rfl⟩
    rw [Table.lookup_insert_eq, if_pos rfl]
  | erased _ => exact absurd hholds (by simp [Phase.holds])
  | signed _ _ _ => exact absurd hholds (by simp [Phase.holds])
  | attempted _ _ _ => exact absurd hholds (by simp [Phase.holds])

/-- Rows hold the drip of the faucet. -/
theorem Effect.lamports (h : Effect p s i t phase reservedAt s')
    (hrows : Table.All (fun row => row.lamports = p.dripLamports) s.rows) :
    Table.All (fun row => row.lamports = p.dripLamports) s'.rows := by
  cases h with
  | quiet _ _ _ => exact hrows
  | attempted _ _ _ => exact hrows
  | inserted _ _ _ => exact hrows.insert t.wallet rfl
  | erased _ => exact hrows.erase t.wallet
  | @signed own _ signature _ hown => exact hrows.insert t.wallet (hrows t.wallet own hown)

/-- The attempts after a step: the old ones, or one more by a call that held its wallet. -/
theorem Effect.attempts (h : Effect p s i t phase reservedAt s') :
    s'.attempts = s.attempts ∨
    ∃ tx accepted, s'.attempts = s.attempts ++ [⟨t.wallet, i, t.reservedAt, tx, accepted⟩] ∧
      s'.rows = s.rows ∧ t.phase = .holding true ∧ phase = .sent ∧
      decodeBs58Pubkey t.wallet = some tx.recipient ∧ tx.lamports = p.dripLamports := by
  cases h with
  | quiet _ _ _ => exact Or.inl rfl
  | inserted _ _ _ => exact Or.inl rfl
  | erased _ => exact Or.inl rfl
  | signed _ _ _ => exact Or.inl rfl
  | @attempted tx accepted hholds hrecipient hlamports =>
    exact Or.inr ⟨tx, accepted, rfl, rfl, hholds, rfl, hrecipient, hlamports⟩

/-- What holds of the attempts before a step, and of the one it may add, holds of all after it. -/
theorem Effect.forall_attempts (h : Effect p s i t phase reservedAt s') {P : Attempt → Prop}
    (hold : ∀ a ∈ s.attempts, P a)
    (hnew : ∀ tx accepted, s'.rows = s.rows → t.phase = .holding true → phase = .sent →
      decodeBs58Pubkey t.wallet = some tx.recipient → tx.lamports = p.dripLamports →
      P ⟨t.wallet, i, t.reservedAt, tx, accepted⟩) : ∀ a ∈ s'.attempts, P a := by
  intro a ha
  rcases h.attempts with heq | ⟨tx, accepted, heq, hrows, hphase, hsent, hrecipient, hlamports⟩
  · rw [heq] at ha
    exact hold a ha
  · rw [heq] at ha
    rcases List.mem_append.mp ha with ha | ha
    · exact hold a ha
    · rw [List.mem_singleton.mp ha]
      exact hnew tx accepted hrows hphase hsent hrecipient hlamports

/-- A step leaves the clock, the tasks and the chain as they are. -/
theorem Effect.frame (h : Effect p s i t phase reservedAt s') :
    s'.now = s.now ∧ s'.landed = s.landed := by
  cases h <;> exact ⟨rfl, rfl⟩

/-- One task of a list is replaced. -/
theorem getElem?_set_cases {tasks : List Task} {i j : ℕ} {t t' : Task}
    (h : (tasks.set i t')[j]? = some t) :
    (j = i ∧ t = t') ∨ (j ≠ i ∧ tasks[j]? = some t) := by
  rw [List.getElem?_set] at h
  split at h
  · rename_i heq
    split at h
    · exact Or.inl ⟨heq.symm, (Option.some.inj h).symm⟩
    · exact absurd h (by simp)
  · rename_i hne
    exact Or.inr ⟨fun heq => hne heq.symm, h⟩

/-- The invariant after a step of one call. -/
theorem Safe.effect (hs : Safe p s) (hi : s.tasks[i]? = some t)
    (h : Effect p s i t phase reservedAt s') {prog : Call DripOutcome}
    (hprog : Keeps p t.wallet (fun _ _ => True) phase prog) :
    Safe p { s' with tasks := s.tasks.set i ⟨t.wallet, phase, reservedAt, prog⟩ } := by
  have hheld : t.phase.holds = true → RowAt s t.wallet i t.reservedAt := hs.held i t hi
  have hlt : i < s.tasks.length := (List.getElem?_eq_some_iff.mp hi).1
  have hself : (s.tasks.set i ⟨t.wallet, phase, reservedAt, prog⟩)[i]? =
      some ⟨t.wallet, phase, reservedAt, prog⟩ := by
    rw [List.getElem?_set_self hlt]
  -- a call that still holds its wallet has no attempt
  have hnone : t.phase.holds = true → ∀ a ∈ s.attempts, a.holder ≠ i := by
    intro hholds a ha heq
    obtain ⟨t', ht', hsent⟩ := hs.settled a ha
    rw [heq, hi] at ht'
    rw [Option.some.inj ht', hsent] at hholds
    exact absurd hholds (by simp [Phase.holds])
  have hold : ∀ a ∈ s.attempts, RowAt s' a.wallet a.holder a.reservedAt ∧
      ∃ t', (s.tasks.set i ⟨t.wallet, phase, reservedAt, prog⟩)[a.holder]? = some t' ∧
        t'.phase = .sent := by
    intro a ha
    refine ⟨h.rowAt hheld (hs.attempted a ha) fun hholds => hnone hholds a ha, ?_⟩
    obtain ⟨t', ht', hsent⟩ := hs.settled a ha
    by_cases heq : a.holder = i
    · rw [heq, hi] at ht'
      rw [heq]
      refine ⟨_, hself, h.sent ?_⟩
      rw [Option.some.inj ht']
      exact hsent
    · refine ⟨t', ?_, hsent⟩
      rw [List.getElem?_set_ne (fun h => heq h.symm)]
      exact ht'
  refine
    { programs := ?_, held := ?_, attempted := ?_, settled := ?_, once := ?_, transfers := ?_,
      landed := ?_, landedOnce := ?_, lamports := h.lamports hs.lamports }
  · intro t' ht'
    rcases List.mem_or_eq_of_mem_set ht' with hmem | rfl
    · exact hs.programs t' hmem
    · exact hprog
  · intro j t' ht' hholds
    rcases getElem?_set_cases ht' with ⟨rfl, rfl⟩ | ⟨hne, ht'⟩
    · exact h.held hheld hholds
    · exact h.rowAt hheld (hs.held j t' ht' hholds) fun _ => hne
  · apply h.forall_attempts (P := fun a => RowAt s' a.wallet a.holder a.reservedAt)
    · intro a ha
      exact (hold a ha).1
    · intro tx accepted hrows hphase _ _ _
      obtain ⟨row, hlookup, hrow⟩ := hheld (by rw [hphase]; rfl)
      rw [← hrows] at hlookup
      exact ⟨row, hlookup, hrow⟩
  · apply h.forall_attempts (P := fun a => ∃ t',
      (s.tasks.set i ⟨t.wallet, phase, reservedAt, prog⟩)[a.holder]? = some t' ∧ t'.phase = .sent)
    · intro a ha
      exact (hold a ha).2
    · intro tx accepted _ _ hsent _ _
      exact ⟨_, hself, hsent⟩
  · rcases h.attempts with heq | ⟨tx, accepted, heq, -, hphase, -, -, -⟩
    · rw [heq]
      exact hs.once
    · rw [heq, List.map_append]
      apply List.Nodup.append hs.once (List.nodup_singleton _)
      intro holder hmem hnew
      obtain ⟨a, ha, rfl⟩ := List.mem_map.mp hmem
      exact hnone (by rw [hphase]; rfl) a ha (List.mem_singleton.mp hnew)
  · apply h.forall_attempts (P := fun a =>
      decodeBs58Pubkey a.wallet = some a.tx.recipient ∧ a.tx.lamports = p.dripLamports) hs.transfers
    intro tx accepted _ _ _ hrecipient hlamports
    exact ⟨hrecipient, hlamports⟩
  · intro tx htx
    rw [h.frame.2] at htx
    obtain ⟨a, ha, hatx⟩ := hs.landed tx htx
    refine ⟨a, ?_, hatx⟩
    rcases h.attempts with heq | ⟨tx', accepted, heq, -, -, -, -, -⟩
    · rw [heq]
      exact ha
    · rw [heq]
      exact List.mem_append_left _ ha
  · rw [h.frame.2]
    exact hs.landedOnce

/-- A step of a call: it has come to its end, or one command takes effect. -/
theorem step_call (hs : Safe p s) {env : Env} (hlost : lostResponse s (.step i env) = false) :
    step p s (.step i env) = s ∨
    ∃ t phase reservedAt s' prog, s.tasks[i]? = some t ∧ Effect p s i t phase reservedAt s' ∧
      Keeps p t.wallet (fun _ _ => True) phase prog ∧
      step p s (.step i env) =
        { s' with tasks := s.tasks.set i ⟨t.wallet, phase, reservedAt, prog⟩ } := by
  simp only [step]
  split
  · rename_i wallet phase reservedAt c next hi
    right
    obtain ⟨hwithin, hnext⟩ := hs.programs _ (List.mem_of_getElem? hi)
    refine ⟨⟨wallet, phase, reservedAt, .call c next⟩, _, _, _, _, hi, ?_, hnext _ trivial, rfl⟩
    refine execute_effect rfl hwithin ?_
    intro tx e accepted hc hsend
    subst hc
    simp only [lostResponse, hi, hsend] at hlost
    simpa using hlost
  · exact Or.inl rfl

theorem safe_step (a : Label) (hs : Safe p s) (hlost : lostResponse s a = false) :
    Safe p (step p s a) := by
  cases a with
  -- a new call holds nothing
  | spawn wallet =>
    refine { hs with programs := ?_, held := ?_, settled := ?_ }
    · intro t ht
      rcases List.mem_append.mp ht with ht | ht
      · exact hs.programs t ht
      · obtain rfl := List.mem_singleton.mp ht
        exact drip_keeps p
    · intro i t ht hholds
      change (s.tasks ++ [⟨wallet, .start, 0, drip p wallet⟩])[i]? = some t at ht
      rw [List.getElem?_append] at ht
      split at ht
      · exact hs.held i t ht hholds
      · obtain rfl := List.mem_singleton.mp (List.mem_of_getElem? ht)
        exact absurd hholds (by simp [Phase.holds])
    · intro a ha
      obtain ⟨t, ht, hsent⟩ := hs.settled a ha
      refine ⟨t, ?_, hsent⟩
      show (s.tasks ++ [⟨wallet, .start, 0, drip p wallet⟩])[a.holder]? = some t
      rw [List.getElem?_append_left (List.getElem?_eq_some_iff.mp ht).1]
      exact ht
  -- a call either does nothing more, or has the effect of one command
  | step i env =>
    rcases step_call hs hlost with heq | ⟨t, phase, reservedAt, s', prog, hi, heffect, hprog, heq⟩
    · rw [heq]
      exact hs
    · rw [heq]
      exact hs.effect hi heffect hprog
  -- a transfer lands once
  | land n =>
    simp only [step]
    split
    · rename_i a ha
      split
      · rename_i hland
        refine { hs with landed := ?_, landedOnce := ?_ }
        · intro tx htx
          rcases List.mem_cons.mp htx with rfl | htx
          · exact ⟨a, List.mem_of_getElem? ha, rfl⟩
          · exact hs.landed tx htx
        · exact List.nodup_cons.mpr ⟨hland.2, hs.landedOnce⟩
      · exact hs
    · exact hs
  | advance secs => exact { hs with }

theorem safe_start (now : ℕ) : Safe p (start now) where
  programs := by
    intro t ht
    exact absurd ht (List.not_mem_nil)
  held := by
    intro i t ht
    exact absurd ht (by simp [start])
  attempted := by
    intro a ha
    exact absurd ha (List.not_mem_nil)
  settled := by
    intro a ha
    exact absurd ha (List.not_mem_nil)
  once := List.nodup_nil
  transfers := by
    intro a ha
    exact absurd ha (List.not_mem_nil)
  landed := by
    intro tx htx
    exact absurd htx (List.not_mem_nil)
  landedOnce := List.nodup_nil
  lamports := by
    intro wallet row h
    exact absurd h (by simp [start])

end Invariant

/-! ## At most one drip -/

/-- At most one transfer to a key lands, and every drip that was or may have been broadcast has its
row. -/
def DripsOnce (s : System) : Prop :=
  (∀ key : Pubkey, (s.landed.filter fun tx => tx.recipient = key).length ≤ 1) ∧
    ∀ a ∈ s.attempts, RowAt s a.wallet a.holder a.reservedAt

/-- Two drips of one wallet are one. -/
theorem Safe.attempt_eq {p : FaucetParams} {s : System} (hs : Safe p s) {a b : Attempt}
    (ha : a ∈ s.attempts) (hb : b ∈ s.attempts) (hwallet : a.wallet = b.wallet) : a = b := by
  obtain ⟨row, hrow, hholder, -⟩ := hs.attempted a ha
  obtain ⟨row', hrow', hholder', -⟩ := hs.attempted b hb
  rw [hwallet, hrow'] at hrow
  have hsame : a.holder = b.holder := by
    rw [← hholder, ← hholder', Option.some.inj hrow]
  exact List.inj_on_of_nodup_map hs.once ha hb hsame

theorem Safe.dripsOnce {p : FaucetParams} {s : System} (hs : Safe p s) : DripsOnce s := by
  refine ⟨?_, hs.attempted⟩
  intro key
  have hnodup : (s.landed.filter fun tx => tx.recipient = key).Nodup := hs.landedOnce.filter _
  -- two of them come from attempts of one wallet
  have heq : ∀ tx ∈ s.landed.filter (fun tx => tx.recipient = key),
      ∀ tx' ∈ s.landed.filter (fun tx => tx.recipient = key), tx = tx' := by
    intro tx htx tx' htx'
    obtain ⟨hmem, hkey⟩ := List.mem_filter.mp htx
    obtain ⟨hmem', hkey'⟩ := List.mem_filter.mp htx'
    obtain ⟨a, ha, rfl⟩ := hs.landed tx hmem
    obtain ⟨b, hb, rfl⟩ := hs.landed tx' hmem'
    have hrecipient := (hs.transfers a ha).1
    have hrecipient' := (hs.transfers b hb).1
    rw [of_decide_eq_true hkey] at hrecipient
    rw [of_decide_eq_true hkey'] at hrecipient'
    rw [hs.attempt_eq ha hb (decodeBs58Pubkey_injective hrecipient hrecipient')]
  match hl : s.landed.filter fun tx => tx.recipient = key with
  | [] =>
    rw [hl]
    exact Nat.zero_le 1
  | [_] =>
    rw [hl]
    exact Nat.le_refl 1
  | tx :: tx' :: rest =>
    rw [hl] at hnodup heq
    have hsame : tx = tx' :=
      heq tx (List.mem_cons_self ..) tx' (List.mem_cons_of_mem _ (List.mem_cons_self ..))
    rw [hsame] at hnodup
    exact absurd (List.mem_cons_self ..) (List.nodup_cons.mp hnodup).1

/-- In every run in which no response to a send is lost, however the calls interleave, crash and
meet failing statements and RPC calls, a wallet is dripped at most once, and the row of a drip
that is out stays. -/
theorem drips_once (p : FaucetParams) (now : ℕ) (labels : List Label)
    (hlost : AllSteps (step p) (fun s a => lostResponse s a = false) (start now) labels) :
    DripsOnce (run (step p) (start now) labels) := by
  apply Safe.dripsOnce (p := p)
  apply run_invariant_of_allSteps (C := fun s a => lostResponse s a = false)
  · intro s a hs hnot
    exact safe_step a hs hnot
  · exact safe_start now
  · exact hlost

/-! ## A lost response -/

/-- The default configuration. -/
def defaultParams : FaucetParams where
  dripLamports := 10000000
  usdcFloorAtomic := 100000
  solLowWaterLamports := 3000000
  dailyCapLamports := 1000000000

def exampleWallet : String := "9WzDXwBbmkg8ZTbNMqUxvQRAyrZzDsGYdLVL9zYtAWWM"

/-- A step in which the database works and an RPC call returns a number. -/
def answers (rpc : ℕ) (send : SendOutcome) : Env := ⟨.none, .ok rpc, send⟩

/-- A call up to and with its send: reservation, cap, USDC, SOL, source, blockhash, send. -/
def callWith (i blockhash : ℕ) (send : SendOutcome) : List Label :=
  [.spawn exampleWallet, .step i (answers 0 send), .step i (answers 0 send),
    .step i (answers 100000 send), .step i (answers 0 send), .step i (answers 20000000 send),
    .step i (answers blockhash send), .step i (answers 0 send)]

/-- A call whose send is acknowledged, then a second one for the same wallet. -/
def acknowledgedThenRetry : List Label :=
  callWith 0 1 (.accepted "sig1") ++ [.land 0] ++ callWith 1 2 (.accepted "sig2") ++ [.land 1]

/-- A call whose response is lost: the cluster has the transfer, and the call deletes the row. A
second one for the same wallet comes before the transfer has landed. -/
def lostThenRetry : List Label :=
  callWith 0 1 (.lost "operation timed out" true) ++ [.step 0 (answers 0 (.refused ""))]
    ++ callWith 1 2 (.accepted "sig2") ++ [.land 0, .land 1]

/-- The second call finds the reservation and sends nothing. -/
theorem retry_finds_reservation :
    AllSteps (step defaultParams) (fun s a => lostResponse s a = false) (start 0)
        acknowledgedThenRetry ∧
      (run (step defaultParams) (start 0) acknowledgedThenRetry).landed.length = 1 ∧
      DripsOnce (run (step defaultParams) (start 0) acknowledgedThenRetry) := by
  have hlost : AllSteps (step defaultParams) (fun s a => lostResponse s a = false) (start 0)
      acknowledgedThenRetry := by
    decide +kernel
  refine ⟨hlost, by decide +kernel, ?_⟩
  exact drips_once defaultParams 0 acknowledgedThenRetry hlost

/-- The two transfers to the wallet land. -/
theorem lost_response_drips_twice :
    ¬ DripsOnce (run (step defaultParams) (start 0) lostThenRetry) := by
  intro h
  have honce := h.1 ((decodeBs58Pubkey exampleWallet).getD (Vector.replicate 32 0))
  revert honce
  decide +kernel

end Solvela.Faucet
