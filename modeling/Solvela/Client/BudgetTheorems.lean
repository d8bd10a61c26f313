import Mathlib.Algebra.Order.BigOperators.Group.List
import Solvela.Client.Spending

/-!
# The budget bounds what is collected

The counters of either client are the sum of the calls' bookings, and a booking is made only if
the sum stays within the budget. So what the gateway collected is within the budget as long as each
collected payment still has its booking. The clients give a booking back on every failure they see,
also when the payment is in the gateway's hands; that no such payment is collected is up to the
gateway.

* `Counts`, the session's numbers are those of its calls, with one lemma for each booking;
* `program_meets`, every call keeps to the rules;
* `Inv.collected_le` and `step_inv`, what a step preserves while the gateway is honest.
-/

namespace Solvela.Client

open Solvela.Lib

/-! ## The counters and the bookings -/

/-- The cost of a booking that is still open. -/
def Booking.held : Booking → ℕ
  | reserved cost => cost
  | _ => 0

/-- The cost of a booking that was debited. -/
def Booking.debited : Booking → ℕ
  | finalized cost => cost
  | _ => 0

/-- What a `BudgetState` has under a request. -/
def Booking.entry : Booking → Option ℕ
  | reserved cost => some cost
  | _ => Option.none

/-- The sum over the bookings of the calls. -/
def total (f : Booking → ℕ) (bookings : List Booking) : ℕ := (bookings.map f).sum

/-- A total changes by what the one booking changes. -/
theorem total_set (f : Booking → ℕ) {bookings : List Booking} {i : ℕ} {b : Booking}
    (h : bookings[i]? = some b) (b' : Booking) :
    total f (bookings.set i b') + f b = total f bookings + f b' :=
  sum_map_set f h b'

/-- A new call books nothing yet. -/
theorem total_append_none (f : Booking → ℕ) (bookings : List Booking) (hf : f .none = 0) :
    total f (bookings ++ [.none]) = total f bookings := by
  simp [total, hf]

/-- What is booked is either still held or debited. -/
theorem total_amount (bookings : List Booking) :
    total Booking.amount bookings =
      total Booking.held bookings + total Booking.debited bookings := by
  induction bookings with
  | nil => rfl
  | cons b bookings ih =>
    have hb : b.amount = b.held + b.debited := by cases b <;> simp [Booking.amount, Booking.held,
      Booking.debited]
    simp only [total, List.map_cons, List.sum_cons] at ih ⊢
    omega

theorem set_booking_self {bookings : List Booking} {i : ℕ} {b : Booking}
    (h : bookings[i]? = some b) : bookings.set i b = bookings := by
  obtain ⟨hlt, hget⟩ := List.getElem?_eq_some_iff.1 h
  rw [← hget]
  exact List.set_getElem_self hlt

/-- The counters are those of the bookings. -/
def Counts (limit : ℕ) (bookings : List Booking) : Purse → Prop
  | .mcp sessionBudget stored spent loaded =>
    sessionBudget = some limit ∧
      spent = (if loaded then stored.getD 0 else 0) + total Booking.amount bookings ∧
      (loaded = false → total Booking.amount bookings = 0)
  | .aiSdk available reserved totalReserved =>
    available = some ((limit : ℤ) - total Booking.debited bookings) ∧
      totalReserved = total Booking.held bookings ∧
      ∀ j, reserved j = bookings[j]?.bind Booking.entry

section
variable {limit : ℕ} {bookings : List Booking} {i cost : ℕ}

/-- The entries of the session change with the booking of one call. -/
theorem entry_set {reserved : ℕ → Option ℕ} {b : Booking} (hi : bookings[i]? = some b)
    (h : ∀ j, reserved j = bookings[j]?.bind Booking.entry) (b' : Booking) (j : ℕ) :
    (if j = i then b'.entry else reserved j) = (bookings.set i b')[j]?.bind Booking.entry := by
  have hlt : i < bookings.length := (List.getElem?_eq_some_iff.1 hi).1
  by_cases hj : j = i
  · rw [if_pos hj, hj, List.getElem?_set_self hlt]
    rfl
  · rw [if_neg hj, List.getElem?_set_ne (fun he => hj he.symm)]
    exact h j

/-- A reservation that succeeds keeps the sum within the budget. -/
theorem reserve_counts {purse : Purse} (cost : ℕ) (h : Counts limit bookings purse)
    (hi : bookings[i]? = some .none) :
    ((purse.reserve i cost).1 = .ok () ∧
        Counts limit (bookings.set i (.reserved cost)) (purse.reserve i cost).2 ∧
        total Booking.amount (bookings.set i (.reserved cost)) ≤ limit) ∨
      ((∃ e, (purse.reserve i cost).1 = .error e) ∧
        Counts limit bookings (purse.reserve i cost).2) := by
  have hamount := total_set Booking.amount hi (.reserved cost)
  have hheld := total_set Booking.held hi (.reserved cost)
  have hdebited := total_set Booking.debited hi (.reserved cost)
  simp only [Booking.amount, Booking.held, Booking.debited, add_zero] at hamount hheld hdebited
  cases purse with
  | mcp sessionBudget stored spent loaded =>
    obtain ⟨rfl, hspent, hloaded⟩ := h
    -- the session file counts from the first reservation on
    have hbase : (if loaded then spent else stored.getD spent) =
        stored.getD 0 + total Booking.amount bookings := by
      cases loaded with
      | true => simpa using hspent
      | false =>
        have hzero := hloaded rfl
        have hspent0 : spent = 0 := by simpa [hzero] using hspent
        simp [hspent0, hzero]
    simp only [Purse.reserve, mcpReserve, hbase]
    by_cases hexceeded : limit < stored.getD 0 + total Booking.amount bookings + cost
    · right
      rw [if_pos hexceeded]
      exact ⟨⟨_, rfl⟩, rfl, by simp, by simp⟩
    · left
      rw [if_neg hexceeded]
      refine ⟨rfl, ⟨rfl, ?_, by simp⟩, by omega⟩
      simp only [if_true]
      omega
  | aiSdk available reserved totalReserved =>
    obtain ⟨rfl, rfl, hreserved⟩ := h
    have hsum := total_amount bookings
    simp only [Purse.reserve, aiSdkReserve]
    by_cases hexceeded : (limit : ℤ) - total Booking.debited bookings -
        total Booking.held bookings < cost
    · right
      rw [if_pos hexceeded]
      exact ⟨⟨_, rfl⟩, rfl, rfl, hreserved⟩
    · left
      rw [if_neg hexceeded]
      refine ⟨rfl, ⟨by rw [hdebited], by rw [hheld]; push_cast; rfl, ?_⟩, by omega⟩
      intro j
      exact entry_set hi hreserved (.reserved cost) j

/-- A refund frees what its call had reserved, and nothing else. -/
theorem giveBack_counts {purse : Purse} (h : Counts limit bookings purse)
    (hi : bookings[i]? = some (.reserved cost)) :
    Counts limit (bookings.set i .none) (purse.giveBack i cost) := by
  have hamount := total_set Booking.amount hi .none
  have hheld := total_set Booking.held hi .none
  have hdebited := total_set Booking.debited hi .none
  simp only [Booking.amount, Booking.held, Booking.debited, add_zero] at hamount hheld hdebited
  cases purse with
  | mcp sessionBudget stored spent loaded =>
    obtain ⟨rfl, hspent, hloaded⟩ := h
    -- the counter holds the booking, so the subtraction does not stop short
    refine ⟨rfl, ?_, ?_⟩
    · show spent - cost = _
      omega
    · intro hl
      have hzero := hloaded hl
      omega
  | aiSdk available reserved totalReserved =>
    obtain ⟨rfl, rfl, hreserved⟩ := h
    have hentry : reserved i = some cost := by
      rw [hreserved i, hi]
      rfl
    simp only [Purse.giveBack, hentry]
    refine ⟨by rw [hdebited], ?_, ?_⟩
    · omega
    · intro j
      exact entry_set hi hreserved .none j

/-- A debit turns what its call had reserved into spending. -/
theorem finalize_counts {purse : Purse} (h : Counts limit bookings purse)
    (hi : bookings[i]? = some (.reserved cost)) :
    Counts limit (bookings.set i (.finalized cost)) (purse.finalize i) := by
  have hamount := total_set Booking.amount hi (.finalized cost)
  have hheld := total_set Booking.held hi (.finalized cost)
  have hdebited := total_set Booking.debited hi (.finalized cost)
  simp only [Booking.amount, Booking.held, Booking.debited, add_zero] at hamount hheld hdebited
  cases purse with
  | mcp sessionBudget stored spent loaded =>
    obtain ⟨rfl, hspent, hloaded⟩ := h
    refine ⟨rfl, ?_, ?_⟩
    · show spent = _
      omega
    · intro hl
      have hzero := hloaded hl
      omega
  | aiSdk available reserved totalReserved =>
    obtain ⟨rfl, rfl, hreserved⟩ := h
    have hentry : reserved i = some cost := by
      rw [hreserved i, hi]
      rfl
    simp only [Purse.finalize, hentry]
    refine ⟨?_, ?_, ?_⟩
    · simp only [Option.map_some, Option.some.injEq]
      omega
    · omega
    · intro j
      exact entry_set hi hreserved (.finalized cost) j

theorem counts_append {purse : Purse} (h : Counts limit bookings purse) :
    Counts limit (bookings ++ [.none]) purse := by
  have hamount := total_append_none Booking.amount bookings rfl
  have hheld := total_append_none Booking.held bookings rfl
  have hdebited := total_append_none Booking.debited bookings rfl
  cases purse with
  | mcp sessionBudget stored spent loaded =>
    unfold Counts at h ⊢
    rw [hamount]
    exact h
  | aiSdk available reserved totalReserved =>
    obtain ⟨havailable, htotal, hreserved⟩ := h
    refine ⟨by rw [hdebited]; exact havailable, by rw [hheld]; exact htotal, ?_⟩
    intro j
    rw [hreserved j]
    by_cases hj : j < bookings.length
    · rw [List.getElem?_append_left hj]
    · rw [List.getElem?_append_right (by omega), List.getElem?_eq_none (by omega)]
      cases j - bookings.length with
      | zero => rfl
      | succ k => rfl

end

/-! ## The calls -/

/-- When a call books, gives back, debits and sends: it gives back only what it has booked, and
after its payment was sent only on an answer it takes for a failure. -/
def CallMid (r : Record) : Command → Prop
  | .reserve _ => r.booking = .none ∧ r.sent = none
  | .giveBack cost => r.booking = .reserved cost ∧ (r.sent = none ∨ r.failed = true)
  | .finalize => ∃ cost, r.booking = .reserved cost
  | .send header => ∀ h, header = some h → h.payload.moved ≤ r.booking.amount
  | .answer => r.failed = false
  | _ => True

/-- A wallet that signs no more than was reserved. -/
def CallCan (r : Record) : (c : Command) → Reply c → Prop
  | .signPayment _, .ok header => header.payload.moved ≤ r.booking.amount
  | _, _ => True

def callGhost (session : Session) : Prog.Ghost Command Reply Record :=
  ⟨Record.next session, CallCan⟩

abbrev CallMeets (session : Session) (r : Record) (p : Program (Except String Response)) : Prop :=
  Prog.Meets (callGhost session) CallMid (fun _ _ => True) r p

section
variable {session : Session} {limit cost : ℕ}

/-- A call that sent no payment, or whose answer failed, may give its reservation back. -/
theorem refundAndThrow_meets {r : Record} {e : String} (hbooking : r.booking = .reserved cost)
    (hsent : r.sent = none ∨ r.failed = true) :
    CallMeets session r (refundAndThrow cost e) :=
  Prog.Meets.ask ⟨hbooking, hsent⟩ fun _ _ => trivial

/-- The retry of the MCP server debits its reservation, gives it back or, unpaid, keeps it. -/
theorem mcpRetry_meets {config : McpConfig} {stored : Option ℕ} {header : Option PaymentHeader}
    (hmoved : ∀ h, header = some h → h.payload.moved ≤ cost) :
    CallMeets (.mcp config stored) ⟨.reserved cost, none, false⟩ (mcpRetry cost header) := by
  refine Prog.Meets.ask hmoved ?_
  intro _ _
  -- with a header or without, the call waits for the answer with its booking
  have hsent : ∃ sent, (callGhost (.mcp config stored)).move ⟨.reserved cost, none, false⟩
      (.send header) () = ⟨.reserved cost, sent, false⟩ ∧ (header = none → sent = none) := by
    cases header with
    | none => exact ⟨none, rfl, fun _ => rfl⟩
    | some h => exact ⟨some h.payload.moved, rfl, by simp⟩
  obtain ⟨sent, hsent, hnone⟩ := hsent
  rw [hsent]
  refine Prog.Meets.ask rfl ?_
  intro reply _
  cases reply with
  | error e => exact refundAndThrow_meets rfl (Or.inr rfl)
  | ok resp =>
    dsimp only
    split
    next hok =>
      unfold parsePaidJson
      split
      · trivial
      next hjson =>
        refine refundAndThrow_meets rfl (Or.inr ?_)
        show (!(resp.ok && resp.isJson)) = true
        simp [hjson]
    next hok =>
      cases header with
      | none => trivial
      | some h =>
        refine refundAndThrow_meets rfl (Or.inr ?_)
        show (!(resp.ok && resp.isJson)) = true
        simp [hok]

/-- A whole call of the MCP server. -/
theorem paidCall_meets (js : JsNumber) (jsonParse : String → Option Json) (config : McpConfig)
    (stored : Option ℕ) (url : String) :
    CallMeets (.mcp config stored) .empty (paidCall js jsonParse config url) := by
  refine Prog.Meets.ask trivial ?_
  intro reply _
  cases reply with
  | error e => trivial
  | ok resp =>
    dsimp only
    split
    · split
      · trivial
      next raw _ =>
      split
      · trivial
      next paymentInfo costMicro _ =>
      refine Prog.Meets.ask ⟨rfl, rfl⟩ ?_
      intro reserved _
      cases reserved with
      | error e => trivial
      | ok _ =>
        refine Prog.Meets.ask trivial ?_
        intro signer _
        -- a signature that fails gives the reservation back
        cases hsign : mcpSign config signer paymentInfo costMicro url with
        | error e => exact refundAndThrow_meets rfl (Or.inl rfl)
        | ok header =>
          apply mcpRetry_meets
          rintro h rfl
          exact mcpSign_moved_le hsign
    · split
      · unfold parsePaidJson
        split <;> trivial
      · trivial

/-- The retry of the AI SDK adapter debits its reservation or gives it back. -/
theorem aiSdkRetry_meets {sessionBudget : Option ℕ} {header : PaymentHeader}
    (hmoved : header.payload.moved ≤ cost) :
    CallMeets (.aiSdk sessionBudget) ⟨.reserved cost, none, false⟩ (aiSdkRetry cost header) := by
  refine Prog.Meets.ask (by rintro h ⟨⟩; exact hmoved) ?_
  intro _ _
  refine Prog.Meets.ask rfl ?_
  intro reply _
  cases reply with
  | error e => exact refundAndThrow_meets rfl (Or.inr rfl)
  | ok resp =>
    dsimp only
    split
    · exact Prog.Meets.ask ⟨cost, rfl⟩ fun _ _ => trivial
    next hok =>
      have hfailed : (!resp.ok) = true := by simp [hok]
      split
      · exact refundAndThrow_meets rfl (Or.inr hfailed)
      · exact refundAndThrow_meets rfl (Or.inr hfailed)

/-- A whole call of the AI SDK adapter. -/
theorem solvelaFetch_meets (js : JsNumber) (jsonParse : String → Option Json)
    (sessionBudget : Option ℕ) (callerSig : Bool) (body : Except String Unit) :
    CallMeets (.aiSdk sessionBudget) .empty (solvelaFetch js jsonParse callerSig body) := by
  refine Prog.Meets.ask trivial ?_
  intro reply _
  cases reply with
  | error e => trivial
  | ok resp =>
    dsimp only
    split
    · trivial
    split
    · trivial
    split
    · trivial
    · trivial
    next parsed _ cost _ _ =>
    refine Prog.Meets.ask ⟨rfl, rfl⟩ ?_
    intro reserved _
    cases reserved with
    | error e => trivial
    | ok _ =>
      refine Prog.Meets.ask trivial ?_
      intro signed hsigned
      cases signed with
      | error e => exact refundAndThrow_meets rfl (Or.inl rfl)
      | ok header =>
        refine Prog.Meets.ask trivial ?_
        -- a call that is aborted before the retry gives the reservation back
        intro aborted _
        cases aborted with
        | true => exact refundAndThrow_meets rfl (Or.inl rfl)
        | false => exact aiSdkRetry_meets hsigned

/-- Every request of a session keeps to the rules of a call. -/
theorem program_meets (js : JsNumber) (jsonParse : String → Option Json)
    (request : Session.Request) :
    CallMeets session .empty (session.program js jsonParse request) := by
  cases session with
  | mcp config stored => exact paidCall_meets js jsonParse config stored request.url
  | aiSdk sessionBudget =>
    exact solvelaFetch_meets js jsonParse sessionBudget request.callerSig request.body

/-! ## The invariant -/

/-- A call goes on as specified; a payment that was sent is covered by its booking, unless its
answer was a failure, and then it is not collected. -/
structure CallInv (session : Session) (call : Call) : Prop where
  meets : CallMeets session call.record call.program
  covered : ∀ a, call.record.sent = some a →
    call.record.failed = true ∨ a ≤ call.record.booking.amount
  uncollected : call.record.failed = true → call.collected = false

/-- The gateway takes no more from a call than the call has booked. -/
theorem CallInv.taken_le {call : Call} (h : CallInv session call) :
    call.taken ≤ call.record.booking.amount := by
  unfold Call.taken
  split
  next hcollected =>
    cases hsent : call.record.sent with
    | none => exact Nat.zero_le _
    | some a =>
      rcases h.covered a hsent with hfailed | hle
      · rw [h.uncollected hfailed] at hcollected
        cases hcollected
      · exact hle
  · exact Nat.zero_le _

def System.bookings (s : System) : List Booking := s.calls.map (·.record.booking)

structure Inv (session : Session) (limit : ℕ) (s : System) : Prop where
  counts : Counts limit s.bookings s.purse
  within : total Booking.amount s.bookings ≤ limit
  calls : ∀ call ∈ s.calls, CallInv session call

/-- Over all calls the gateway takes no more than the limit. -/
theorem Inv.collected_le {s : System} (h : Inv session limit s) : s.collected ≤ limit := by
  have htaken : (s.calls.map Call.taken).sum ≤ (s.calls.map (·.record.booking.amount)).sum := by
    apply List.sum_le_sum
    intro call hcall
    exact (h.calls call hcall).taken_le
  have hbookings : (s.calls.map (·.record.booking.amount)).sum =
      total Booking.amount s.bookings := by
    simp [total, System.bookings, Function.comp_def]
  have hwithin := h.within
  unfold System.collected
  omega

/-- Nothing is booked when a session begins. -/
theorem inv_init (h : session.sessionBudget = some limit) :
    Inv session limit (System.init session) := by
  refine ⟨?_, Nat.zero_le _, by simp [System.init]⟩
  cases session with
  | mcp config stored => exact ⟨h, rfl, fun _ => rfl⟩
  | aiSdk sessionBudget =>
    have hbudget : sessionBudget = some limit := h
    rw [hbudget]
    exact ⟨by simp [System.bookings, System.init, total], rfl, fun _ => rfl⟩

/-- A command leaves the counters those of the bookings, and the sum within the budget. -/
theorem exec_counts (session : Session) {purse : Purse} {bookings : List Booking} {i : ℕ}
    {r : Record} (env : Env) (hcounts : Counts limit bookings purse)
    (hwithin : total Booking.amount bookings ≤ limit)
    (hi : bookings[i]? = some r.booking) {c : Command} (hmid : CallMid r c) :
    Counts limit (bookings.set i (r.next session c (exec env i purse c).1).booking)
        (exec env i purse c).2 ∧
      total Booking.amount
        (bookings.set i (r.next session c (exec env i purse c).1).booking) ≤ limit := by
  have hsame : bookings.set i r.booking = bookings := set_booking_self hi
  cases c with
  -- a reservation is made if it fits, and changes nothing otherwise
  | reserve cost =>
    rw [hmid.1] at hi
    rcases reserve_counts cost hcounts hi with ⟨hok, hcounts', hwithin'⟩ | ⟨⟨e, he⟩, hcounts'⟩
    · simp only [exec, hok, Record.next]
      exact ⟨hcounts', hwithin'⟩
    · simp only [exec, he, Record.next, hsame]
      exact ⟨hcounts', hwithin⟩
  | giveBack cost =>
    rw [hmid.1] at hi
    have hamount := total_set Booking.amount hi .none
    simp only [Booking.amount] at hamount
    refine ⟨giveBack_counts hcounts hi, ?_⟩
    simp only [Record.next]
    omega
  | finalize =>
    obtain ⟨cost, hbooking⟩ := hmid
    rw [hbooking] at hi
    have hamount := total_set Booking.amount hi (.finalized cost)
    simp only [Booking.amount] at hamount
    simp only [exec, Record.next, hbooking, Booking.amount]
    refine ⟨finalize_counts hcounts hi, ?_⟩
    omega
  -- the other commands book nothing
  | send header =>
    cases header with
    | none =>
      simp only [exec, Record.next, hsame]
      exact ⟨hcounts, hwithin⟩
    | some header =>
      simp only [exec, Record.next, hsame]
      exact ⟨hcounts, hwithin⟩
  | _ =>
    simp only [exec, Record.next, hsame]
    exact ⟨hcounts, hwithin⟩

/-- A command of a call leaves its payment covered. -/
theorem covered_next {r : Record} {c : Command} {reply : Reply c} (hmid : CallMid r c)
    (h : ∀ a, r.sent = some a → r.failed = true ∨ a ≤ r.booking.amount) :
    ∀ a, (r.next session c reply).sent = some a →
      (r.next session c reply).failed = true ∨ a ≤ (r.next session c reply).booking.amount := by
  cases c with
  | reserve cost =>
    intro a ha
    cases reply with
    | error e => exact h a ha
    | ok _ =>
      have hsent : r.sent = some a := ha
      rw [hmid.2] at hsent
      cases hsent
  | giveBack cost =>
    intro a ha
    have hsent : r.sent = some a := ha
    rcases hmid.2 with hnone | hfailed
    · rw [hnone] at hsent
      cases hsent
    · exact Or.inl hfailed
  | finalize => exact h
  | send header =>
    cases header with
    | none => exact h
    | some header =>
      intro a ha
      obtain rfl : header.payload.moved = a := Option.some.inj ha
      exact Or.inr (hmid header rfl)
  | answer =>
    intro a ha
    -- the booking is judged anew only when there was no failure yet
    rcases h a ha with hfailed | hle
    · rw [show r.failed = false from hmid] at hfailed
      cases hfailed
    · exact Or.inr hle
  | _ => exact h

theorem failed_next {r : Record} {c : Command} {reply : Reply c} (hc : c ≠ .answer) :
    (r.next session c reply).failed = r.failed := by
  cases c with
  | answer => exact absurd rfl hc
  | reserve cost => cases reply <;> rfl
  | send header => cases header <;> rfl
  | _ => rfl

variable {js : JsNumber} {jsonParse : String → Option Json} {s : System}

/-- A new call has booked nothing. -/
theorem inv_start (h : Inv session limit s) (request : Session.Request) :
    Inv session limit (step js jsonParse session s (.start request)) := by
  have hbookings : (step js jsonParse session s (.start request)).bookings =
      s.bookings ++ [.none] := by
    simp [step, System.bookings, Record.empty]
  refine ⟨?_, ?_, ?_⟩
  · rw [hbookings]
    exact counts_append h.counts
  · rw [hbookings, total_append_none Booking.amount _ rfl]
    exact h.within
  · intro call hcall
    rcases List.mem_append.1 hcall with hcall | hcall
    · exact h.calls call hcall
    · rw [List.mem_singleton.1 hcall]
      exact ⟨program_meets js jsonParse request, by simp [Record.empty], by simp⟩

/-- The state after a call has moved. -/
theorem inv_set {i : ℕ} {purse : Purse} {call : Call} (h : Inv session limit s)
    (hcounts : Counts limit (s.bookings.set i call.record.booking) purse)
    (hwithin : total Booking.amount (s.bookings.set i call.record.booking) ≤ limit)
    (hcall : CallInv session call) : Inv session limit ⟨purse, s.calls.set i call⟩ := by
  have hbookings : System.bookings ⟨purse, s.calls.set i call⟩ =
      s.bookings.set i call.record.booking := by
    simp [System.bookings, List.map_set]
  refine ⟨by rw [hbookings]; exact hcounts, by rw [hbookings]; exact hwithin, ?_⟩
  intro call' hcall'
  rcases List.mem_or_eq_of_mem_set hcall' with hmem | rfl
  · exact h.calls call' hmem
  · exact hcall

theorem bookings_getElem? {i : ℕ} {call : Call} (hget : s.calls[i]? = some call) :
    s.bookings[i]? = some call.record.booking := by
  simp [System.bookings, hget]

/-- An honest gateway collects only what it was sent a payment for. -/
theorem inv_collect {i : ℕ} (h : Inv session limit s)
    (hhonest : honest session s (.collect i) = true) :
    Inv session limit (step js jsonParse session s (.collect i)) := by
  cases hget : s.calls[i]? with
  | none =>
    simp only [step, hget]
    exact h
  | some call =>
    have hcall := h.calls call (List.mem_of_getElem? hget)
    have hfailed : call.record.failed = false := by simpa [honest, hget] using hhonest
    have hbookings := set_booking_self (bookings_getElem? hget)
    simp only [step, hget]
    split
    · apply inv_set h
      · rw [hbookings]
        exact h.counts
      · rw [hbookings]
        exact h.within
      · exact ⟨hcall.meets, hcall.covered, by simp [hfailed]⟩
    · exact h

/-- A call goes on by one command. -/
theorem inv_advance {i : ℕ} {env : Env} (h : Inv session limit s)
    (hhonest : honest session s (.advance i env) = true) :
    Inv session limit (step js jsonParse session s (.advance i env)) := by
  cases hget : s.calls[i]? with
  | none =>
    simp only [step, hget]
    exact h
  | some call =>
    have hcall := h.calls call (List.mem_of_getElem? hget)
    have hhonest : call.honest session env = true := by simpa [honest, hget] using hhonest
    cases hprogram : call.program with
    | done a =>
      simp only [step, hget, hprogram]
      exact h
    | call c next =>
      unfold Call.honest at hhonest
      rw [hprogram] at hhonest
      have hmeets : CallMeets session call.record (.call c next) := by
        rw [← hprogram]
        exact hcall.meets
      -- an honest wallet signs no more than it was asked to
      have hcan : CallCan call.record c (exec env i s.purse c).1 := by
        cases c with
        | signPayment paymentRequired =>
          show CallCan call.record (.signPayment paymentRequired) env.wallet
          cases hwallet : env.wallet with
          | error e => trivial
          | ok header =>
            simp only [hwallet, decide_eq_true_eq] at hhonest
            exact hhonest
        | _ => trivial
      -- a call that fails has not been collected, by the honesty of its gateway
      have huncollected : (call.record.next session c (exec env i s.purse c).1).failed = true →
          call.collected = false := by
        by_cases hanswer : c = .answer
        · subst hanswer
          intro hfails
          simpa [show session.fails env.answer = true from hfails] using hhonest
        · rw [failed_next hanswer]
          exact hcall.uncollected
      have hcounts := exec_counts session env h.counts h.within (bookings_getElem? hget) hmeets.1
      simp only [step, hget, hprogram]
      apply inv_set h hcounts.1 hcounts.2
      exact ⟨hmeets.reply hcan, covered_next hmeets.1 hcall.covered, huncollected⟩

/-- What one step preserves, while the gateway is honest. -/
theorem step_inv {a : Label} (h : Inv session limit s) (hhonest : honest session s a = true) :
    Inv session limit (step js jsonParse session s a) := by
  cases a with
  | start request => exact inv_start h request
  | advance i env => exact inv_advance h hhonest
  | collect i => exact inv_collect h hhonest

end

/-- In every run in which the gateway collects no payment whose answer the client takes for a
failure, and in which a wallet signs no more than was reserved, what the gateway collected is
within the budget. -/
theorem collected_le_budget (js : JsNumber) (jsonParse : String → Option Json) (session : Session)
    {limit : ℕ} (hbudget : session.sessionBudget = some limit) (labels : List Label)
    (hhonest : AllSteps (step js jsonParse session) (fun s a => honest session s a = true)
      (System.init session) labels) :
    (run (step js jsonParse session) (System.init session) labels).collected ≤ limit := by
  have hinv : Inv session limit (run (step js jsonParse session) (System.init session) labels) :=
    run_invariant_of_allSteps (fun _ _ => step_inv) (inv_init hbudget) hhonest
  exact hinv.collected_le

/-! ## A lost answer -/

/-- A 402 body that asks for 5 micro-USDC, and its text. -/
def quoteBody : Json :=
  .obj [("x402_version", .num 2),
    ("resource", .obj [("url", .str "/v1/search"), ("method", .str "POST")]),
    ("accepts", .arr [.obj [("scheme", .str "exact"), ("network", .str "solana"),
      ("amount", .str "5"), ("asset", .str usdcMint), ("pay_to", .str "A"),
      ("max_timeout_seconds", .num 300)]]),
    ("cost_breakdown", .obj [("provider_cost", .str "0.000005"), ("platform_fee", .str "0"),
      ("total", .str "0.000005"), ("currency", .str "USDC"), ("fee_percent", .num 5)]),
    ("error", .str "Payment required")]

def quoteRaw : String :=
  "\x7b\"x402_version\":2,\"resource\":\x7b\"url\":\"/v1/search\",\"method\":\"POST\"\x7d," ++
  "\"accepts\":[\x7b\"scheme\":\"exact\",\"network\":\"solana\",\"amount\":\"5\"," ++
  "\"asset\":\"EPjFWdd5AufqSSqeM2qN1xzybapC8G4wEGGkZwyTDt1v\",\"pay_to\":\"A\"," ++
  "\"max_timeout_seconds\":300\x7d],\"cost_breakdown\":\x7b\"provider_cost\":" ++
  "\"0.000005\",\"platform_fee\":\"0\",\"total\":\"0.000005\",\"currency\":\"USDC\"," ++
  "\"fee_percent\":5\x7d,\"error\":\"Payment required\"\x7d"

def quoteParse (text : String) : Option Json := if text = quoteRaw then some quoteBody else none

def quoteNumber : JsNumber where
  isAmount s := s = "0.000005" ∨ s = "0" ∨ s = "5"
  toMicro s := if s = "0.000005" then 5 else digitsValue s.toList * 1000000

/-- The header either client signs for it. -/
def quoteHeader : PaymentHeader :=
  ⟨"/v1/search", ⟨"exact", "solana", "5", usdcMint, "A", 300, none⟩, .transaction "A" 5⟩

def quoteEnv (answer : Except String Response) : Env :=
  ⟨.ok ⟨402, some quoteRaw, true⟩, localSigner, .ok quoteHeader, false, answer⟩

/-- The call `i` of `n` commands up to the retry; the payment is collected, and the call goes on
with the answer. -/
def collectedCall (n i : ℕ) (answer : Except String Response) : List Label :=
  .start ⟨"/v1/search", false, .ok ()⟩ :: List.replicate n (.advance i (quoteEnv answer)) ++
    [.collect i, .advance i (quoteEnv answer), .advance i (quoteEnv answer)]

def mcpSession : Session := .mcp ⟨some 5, .auto, none, none⟩ none

def aiSdkSession : Session := .aiSdk (some 5)

/-- One call for 4 of a budget of 5 that is answered. -/
theorem collected_le_budget_of_answered :
    (run (step quoteNumber quoteParse mcpSession) (System.init mcpSession)
      (collectedCall 4 0 (.ok ⟨200, none, true⟩))).collected ≤ 5 :=
  collected_le_budget quoteNumber quoteParse mcpSession rfl _ (by decide +kernel)

/-- Two calls time out after their payments were collected: 10 micro-USDC of a budget of 5. -/
theorem timeouts_overspend :
    5 < (run (step quoteNumber quoteParse mcpSession) (System.init mcpSession)
        (collectedCall 4 0 (.error "timed out") ++
          collectedCall 4 1 (.error "timed out"))).collected ∧
      5 < (run (step quoteNumber quoteParse aiSdkSession) (System.init aiSdkSession)
        (collectedCall 5 0 (.error "timed out") ++
          collectedCall 5 1 (.error "timed out"))).collected := by
  decide +kernel

end Solvela.Client
