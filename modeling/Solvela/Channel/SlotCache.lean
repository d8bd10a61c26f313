import Solvela.Channel.Persistable
import Solvela.Lib.Runs

/-!
# The slot a voucher's expiry is measured against

Every draw takes the current slot from one cache in the process. The cache is read under its lock,
the RPC is asked with the lock released, and the answer is written under the lock again, so any
number of draws can be between these steps. When the RPC fails the value that was read is used,
however old it is.

Chat and A2A ask through `fetch_cached_slot_bounded`, which refuses a value older than
`CHANNEL_SLOT_MAX_STALENESS`; search and price ask through `fetch_cached_slot`, which does not, as
does the discovery endpoint, where no voucher is at stake.
-/

namespace Solvela.SlotCache

open Solvela.Lib
open Solvela.ChannelLedger Solvela.Channel

/-! ## The accessors -/

/-- `SLOT_CACHE_TTL`, in nanoseconds as every `Instant` here. -/
def slotCacheTtl : ℕ := 5 * 10 ^ 9

/-- `CHANNEL_SLOT_MAX_STALENESS`. -/
def channelSlotMaxStaleness : ℕ := 60 * 10 ^ 9

/-- Who reads the cache. -/
inductive Reader
  | chat
  | a2a
  | search
  | price
  | discovery
deriving DecidableEq

/-- The accessor is `fetch_cached_slot_bounded`. -/
def Reader.bounded : Reader → Bool
  | chat | a2a => true
  | search | price | discovery => false

/-- The reader goes on to verify a voucher. -/
def Reader.draws : Reader → Bool
  | discovery => false
  | _ => true

/-- A slot and when it was fetched. -/
structure CachedSlot where
  slot : ℕ
  fetchedAt : ℕ
deriving DecidableEq

/-- What the accessor makes of the value the shared read returns. -/
def access (reader : Reader) (now : ℕ) (cached : Option CachedSlot) : Option ℕ :=
  if reader.bounded then
    (cached.filter fun c => now - c.fetchedAt ≤ channelSlotMaxStaleness).map CachedSlot.slot
  else cached.map CachedSlot.slot

/-! ## The readers, step by step -/

/-- Where a reader is. -/
inductive Phase
  | idle
  /-- The RPC has been asked; `cached` is what the cache held. -/
  | fetching (cached : Option CachedSlot)
  /-- The RPC has answered, the lock is awaited. -/
  | writing (fresh : CachedSlot)
  /-- The accessor has returned. -/
  | holding (slot : ℕ) (readAt : ℕ)
  /-- A 503, a verdict, or a dropped future. -/
  | finished
deriving DecidableEq

/-- The accessor returns at `now`. -/
def Phase.returned (reader : Reader) (now : ℕ) (cached : Option CachedSlot) : Phase :=
  match access reader now cached with
  | some slot => .holding slot now
  | none => .finished

/-- A voucher that a draw accepted. -/
structure Acceptance where
  reader : Reader
  voucher : Voucher
  slot : ℕ
  readAt : ℕ
deriving DecidableEq

/-- The process: its clock, the cache, its readers, and what happened so far. -/
structure System where
  now : ℕ
  cache : Option CachedSlot
  readers : ℕ → Reader × Phase
  /-- Every slot the RPC reported, with the time its answer was received. -/
  answers : List CachedSlot
  accepted : List Acceptance

/-- Nothing cached and nobody reading. -/
def System.init : System := ⟨0, none, fun _ => (.chat, .idle), [], []⟩

inductive Label
  | elapse (d : ℕ)
  /-- A reader takes the lock, reads the cache and checks the value's age. -/
  | read (i : ℕ) (reader : Reader)
  /-- The RPC call of a reader returns. -/
  | answer (i : ℕ) (slot : Option ℕ)
  /-- A reader takes the lock and writes what it fetched. -/
  | write (i : ℕ)
  /-- A draw verifies its voucher against the channel it loaded. -/
  | verify (i : ℕ) (state : ChannelState) (voucher : Voucher) (billedAtomic : ℕ)
  | drop (i : ℕ)

/-- A reader moves on. -/
def System.set (s : System) (i : ℕ) (reader : Reader) (phase : Phase) : System :=
  { s with readers := fun j => if j = i then (reader, phase) else s.readers j }

section
variable (verifySignature : Pubkey → List UInt8 → Vector UInt8 64 → Bool)

/-- One step of the process. -/
def step (s : System) : Label → System
  | .elapse d => { s with now := s.now + d }
  | .read i reader =>
    match (s.readers i).2 with
    | .idle =>
      match s.cache with
      | some c =>
        if s.now - c.fetchedAt < slotCacheTtl then
          s.set i reader (.returned reader s.now (some c))
        else s.set i reader (.fetching (some c))
      | none => s.set i reader (.fetching none)
    | _ => s
  | .answer i slot =>
    match s.readers i with
    | (reader, .fetching cached) =>
      match slot with
      | some slot =>
        { s.set i reader (.writing ⟨slot, s.now⟩) with answers := ⟨slot, s.now⟩ :: s.answers }
      | none => s.set i reader (.returned reader s.now cached)
    | _ => s
  | .write i =>
    match s.readers i with
    | (reader, .writing fresh) =>
      { s.set i reader (.returned reader s.now (some fresh)) with cache := some fresh }
    | _ => s
  | .verify i state voucher billedAtomic =>
    match s.readers i with
    | (reader, .holding slot readAt) =>
      match reader.draws, verifyVoucher verifySignature state voucher billedAtomic slot with
      | true, .ok _ =>
        { s.set i reader .finished with
          accepted := ⟨reader, voucher, slot, readAt⟩ :: s.accepted }
      | _, _ => s.set i reader .finished
    | _ => s
  | .drop i => s.set i (s.readers i).1 .finished

end

/-! ## Freshness -/

/-- The voucher was checked against a slot of an answer received at most the bound before the slot
was read, and that slot was before its expiry. -/
def Acceptance.Fresh (answers : List CachedSlot) (a : Acceptance) : Prop :=
  ∃ c ∈ answers, c.slot = a.slot ∧ a.readAt ≤ c.fetchedAt + channelSlotMaxStaleness ∧
    a.slot + minExpiryBufferSlots ≤ a.voucher.expirySlot

instance (answers : List CachedSlot) (a : Acceptance) : Decidable (a.Fresh answers) :=
  inferInstanceAs (Decidable (∃ c ∈ answers, _))

/-- The value a draw without a bound is about to return: the one it read, when its RPC call fails,
and the one it fetched, when it gets the lock. -/
def unboundedReturn (s : System) : Label → Option CachedSlot
  | .answer i none =>
    match s.readers i with
    | (reader, .fetching cached) =>
      if reader.bounded = false ∧ reader.draws = true then cached else none
    | _ => none
  | .write i =>
    match s.readers i with
    | (reader, .writing fresh) =>
      if reader.bounded = false ∧ reader.draws = true then some fresh else none
    | _ => none
  | _ => none

/-- What an unbounded draw is about to return is no older than the bound. -/
def Timely (s : System) (a : Label) : Prop :=
  ∀ c ∈ unboundedReturn s a, s.now ≤ c.fetchedAt + channelSlotMaxStaleness

instance (s : System) (a : Label) : Decidable (Timely s a) :=
  inferInstanceAs (Decidable (∀ c ∈ unboundedReturn s a, _))

/-- What a reader holds comes from an answer, and a slot that a draw holds from a recent one. -/
def PhaseOk (answers : List CachedSlot) (reader : Reader) : Phase → Prop
  | .fetching cached => ∀ c, cached = some c → c ∈ answers
  | .writing fresh => fresh ∈ answers
  | .holding slot readAt => reader.draws = true →
    ∃ c ∈ answers, c.slot = slot ∧ readAt ≤ c.fetchedAt + channelSlotMaxStaleness
  | _ => True

/-- The invariant. -/
structure Inv (s : System) : Prop where
  cache : ∀ c, s.cache = some c → c ∈ s.answers
  readers : ∀ i, PhaseOk s.answers (s.readers i).1 (s.readers i).2
  accepted : ∀ a ∈ s.accepted, a.Fresh s.answers

/-- What a reader knows survives more answers. -/
theorem PhaseOk.mono {answers answers' : List CachedSlot} {reader : Reader} {phase : Phase}
    (h : PhaseOk answers reader phase) (hsub : answers ⊆ answers') :
    PhaseOk answers' reader phase := by
  cases phase with
  | idle => trivial
  | fetching cached => exact fun c hc => hsub (h c hc)
  | writing fresh => exact hsub h
  | holding slot readAt =>
    intro hdraws
    obtain ⟨c, hmem, hslot, hrecent⟩ := h hdraws
    exact ⟨c, hsub hmem, hslot, hrecent⟩
  | finished => trivial

/-- So does a fresh acceptance. -/
theorem Acceptance.Fresh.mono {answers answers' : List CachedSlot} {a : Acceptance}
    (h : a.Fresh answers) (hsub : answers ⊆ answers') : a.Fresh answers' := by
  obtain ⟨c, hmem, hrest⟩ := h
  exact ⟨c, hsub hmem, hrest⟩

/-- The bounded accessor checks the age itself; the unbounded one is handed a value that is not
too old. -/
theorem phaseOk_returned {answers : List CachedSlot} {reader : Reader} {now : ℕ}
    {cached : Option CachedSlot} (hmem : ∀ c, cached = some c → c ∈ answers)
    (htimely : ∀ c, cached = some c → reader.bounded = false → reader.draws = true →
      now ≤ c.fetchedAt + channelSlotMaxStaleness) :
    PhaseOk answers reader (.returned reader now cached) := by
  unfold Phase.returned
  cases haccess : access reader now cached with
  | none => trivial
  | some slot =>
    intro hdraws
    cases hbounded : reader.bounded with
    | true =>
      rw [access, hbounded, if_pos rfl] at haccess
      obtain ⟨c, hc, hslot⟩ := Option.map_eq_some_iff.1 haccess
      rw [Option.filter_eq_some_iff, decide_eq_true_eq] at hc
      have hrecent : now ≤ c.fetchedAt + channelSlotMaxStaleness := by omega
      exact ⟨c, hmem c hc.1, hslot, hrecent⟩
    | false =>
      rw [access, hbounded, if_neg (by decide)] at haccess
      obtain ⟨c, hc, hslot⟩ := Option.map_eq_some_iff.1 haccess
      exact ⟨c, hmem c hc, hslot, htimely c hc hbounded hdraws⟩

/-- A reader that moves keeps the invariant when its new phase is in order. -/
theorem Inv.set {s : System} (h : Inv s) {i : ℕ} {reader : Reader} {phase : Phase}
    (hphase : PhaseOk s.answers reader phase) : Inv (s.set i reader phase) where
  cache := h.cache
  readers := by
    intro j
    show PhaseOk s.answers (if j = i then (reader, phase) else s.readers j).1
      (if j = i then (reader, phase) else s.readers j).2
    exact forall_set (P := fun _ (r : Reader × Phase) => PhaseOk s.answers r.1 r.2) hphase
      (fun j _ => h.readers j) j
  accepted := h.accepted

/-- One answer more. -/
theorem Inv.answered {s : System} (h : Inv s) (c : CachedSlot) :
    Inv { s with answers := c :: s.answers } where
  cache := fun c' hc' => List.mem_cons_of_mem c (h.cache c' hc')
  readers := fun i => (h.readers i).mono (List.subset_cons_self c s.answers)
  accepted := fun a ha => (h.accepted a ha).mono (List.subset_cons_self c s.answers)

/-- The cache lives no longer than a slot may be stale. -/
theorem slotCacheTtl_le : slotCacheTtl ≤ channelSlotMaxStaleness := by decide

section
variable {verifySignature : Pubkey → List UInt8 → Vector UInt8 64 → Bool}

/-- An accepted voucher has the buffer left, by the slot that was read. -/
theorem unexpired_of_verifyVoucher {state : ChannelState} {voucher : Voucher} {billed slot : ℕ}
    (h : verifyVoucher verifySignature state voucher billed slot = .ok ()) :
    slot + minExpiryBufferSlots ≤ voucher.expirySlot := by
  unfold verifyVoucher at h
  split_ifs at h with h₁ h₂ h₃ h₄ h₅ h₆ h₇ h₈
  have hpos : 0 < minExpiryBufferSlots := by decide
  omega

/-- One step that keeps unbounded draws timely keeps the invariant. -/
theorem inv_step (s : System) (a : Label) (h : Inv s) (htimely : Timely s a) :
    Inv (step verifySignature s a) := by
  cases a with
  | elapse d => exact ⟨h.cache, h.readers, h.accepted⟩
  | read i reader =>
    simp only [step]
    split
    · split
      · rename_i c hcache
        -- a hit within the time to live is returned, an older one is kept for the fetch
        split_ifs with httl
        · apply h.set
          apply phaseOk_returned
          · intro c' hc'
            exact h.cache c' (hcache.trans hc')
          · intro c' hc' _ _
            cases hc'
            have hle := slotCacheTtl_le
            omega
        · apply h.set
          intro c' hc'
          exact h.cache c' (hcache.trans hc')
      · apply h.set
        intro c' hc'
        cases hc'
    · exact h
  | answer i slot =>
    simp only [step]
    split
    · rename_i reader cached hreader
      have hphase : PhaseOk s.answers reader (.fetching cached) := by
        have hi := h.readers i
        rwa [hreader] at hi
      cases slot with
      -- the answer is the newest that there is
      | some slot =>
        apply (h.answered ⟨slot, s.now⟩).set
        exact List.mem_cons_self ..
      -- without an answer the old one is returned: this is where the step has to be timely
      | none =>
        apply h.set
        apply phaseOk_returned hphase
        intro c hc hbounded hdraws
        apply htimely c
        rw [unboundedReturn, hreader]
        show c ∈ if reader.bounded = false ∧ reader.draws = true then cached else none
        rw [if_pos ⟨hbounded, hdraws⟩]
        exact hc
    · exact h
  | write i =>
    simp only [step]
    split
    · rename_i reader fresh hreader
      have hphase : fresh ∈ s.answers := by
        have hi := h.readers i
        rwa [hreader] at hi
      have hset : Inv (s.set i reader (.returned reader s.now (some fresh))) := by
        apply h.set
        apply phaseOk_returned
        · intro c hc
          cases hc
          exact hphase
        · intro c hc hbounded hdraws
          apply htimely c
          rw [unboundedReturn, hreader]
          show c ∈ if reader.bounded = false ∧ reader.draws = true then some fresh else none
          rw [if_pos ⟨hbounded, hdraws⟩]
          exact hc
      refine ⟨?_, hset.readers, hset.accepted⟩
      intro c hc
      cases hc
      exact hphase
    · exact h
  | verify i state voucher billedAtomic =>
    simp only [step]
    split
    · rename_i reader slot readAt hreader
      have hset : Inv (s.set i reader .finished) := h.set trivial
      split
      -- an acceptance is by the slot that its reader was returned
      · rename_i hdraws hverify
        have hi := h.readers i
        rw [hreader] at hi
        obtain ⟨c, hmem, hslot, hrecent⟩ := hi hdraws
        refine ⟨hset.cache, hset.readers, ?_⟩
        intro a ha
        rcases List.mem_cons.1 ha with rfl | ha
        · exact ⟨c, hmem, hslot, hrecent, unexpired_of_verifyVoucher hverify⟩
        · exact hset.accepted a ha
      · exact hset
    · exact h
  | drop i => exact h.set trivial

/-- The cache is empty. -/
theorem inv_init : Inv System.init where
  cache := fun _ hc => by cases hc
  readers := fun _ => trivial
  accepted := fun _ ha => by cases ha

end

/-- In every run in which no unbounded draw returns a value older than the bound, every voucher
was accepted against a slot of an answer that recent. -/
theorem accepted_on_fresh_slot
    (verifySignature : Pubkey → List UInt8 → Vector UInt8 64 → Bool) (as : List Label)
    (htimely : AllSteps (step verifySignature) Timely System.init as) :
    ∀ a ∈ (run (step verifySignature) System.init as).accepted,
      a.Fresh (run (step verifySignature) System.init as).answers :=
  (run_invariant_of_allSteps inv_step inv_init htimely).accepted

/-- A search that fetches the slot, and after a while one whose RPC call fails. -/
def outage (d : ℕ) : List Label :=
  [.read 0 .search, .answer 0 (some 10), .write 0, .elapse d, .read 1 .search, .answer 1 none,
    .verify 1 sampleSnapshot.state sampleAccepted.voucher 100]

/-- Half a minute of outage. -/
theorem short_outage_fresh :
    ∃ a ∈ (run (step sampleVerify) System.init (outage (30 * 10 ^ 9))).accepted,
      a.Fresh (run (step sampleVerify) System.init (outage (30 * 10 ^ 9))).answers := by
  have haccepted : (⟨.search, sampleAccepted.voucher, 10, 30 * 10 ^ 9⟩ : Acceptance) ∈
      (run (step sampleVerify) System.init (outage (30 * 10 ^ 9))).accepted := by
    decide +kernel
  exact ⟨_, haccepted, accepted_on_fresh_slot sampleVerify (outage (30 * 10 ^ 9))
    (by decide +kernel) _ haccepted⟩

/-- Ten minutes of outage: the search draw still measures against the slot from before it. -/
theorem long_outage_stale :
    ∃ a ∈ (run (step sampleVerify) System.init (outage (600 * 10 ^ 9))).accepted,
      ¬ a.Fresh (run (step sampleVerify) System.init (outage (600 * 10 ^ 9))).answers := by
  decide +kernel

end Solvela.SlotCache
