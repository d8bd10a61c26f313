import Mathlib.Data.List.Basic
import Mathlib.Data.Nat.Notation

/-!
# Events in a text that arrives in pieces

An event stream is a text in which a blank line ends each event. A reader appends what arrives to a
buffer, takes the complete events out and keeps the rest.

* `splitEvents` takes the events out; `splitEvents_append` says that it makes no difference
  whether the text arrives in one piece or in two;
* `unixLines` replaces CRLF by LF. Applied to a buffer again and again it gives what it gives for
  the whole text, unless the text has `\r\r\n` in it: `unixLines_append`;
* `feed` runs a handler over events until it closes the stream.
-/

namespace Solvela.Lib.Sse

/-! ## Events -/

/-- The events before each blank line, without it, and what is left after the last one. -/
def splitEvents : List Char → List (List Char) × List Char
  | [] => ([], [])
  | '\n' :: '\n' :: rest => ([] :: (splitEvents rest).1, (splitEvents rest).2)
  | c :: rest =>
    match splitEvents rest with
    | ([], left) => ([], c :: left)
    | (event :: events, left) => ((c :: event) :: events, left)

/-- A text without a blank line. -/
theorem splitEvents_left {text : List Char} (h : (splitEvents text).1 = []) :
    (splitEvents text).2 = text := by
  induction text using splitEvents.induct with
  | case1 => rfl
  | case2 rest ih => exact absurd h (by simp [splitEvents])
  | case3 c rest hne left hrest ih =>
    rw [hrest] at ih
    simp only [splitEvents, hrest]
    rw [show left = rest from ih rfl]
  | case4 c rest hne event events left hrest ih =>
    rw [splitEvents, hrest] at h
    · exact absurd h (by simp)
    · exact hne

/-- A character before a text that has events joins the first of them. -/
theorem splitEvents_cons {c : Char} {text event left : List Char} {events : List (List Char)}
    (hne : ∀ rest, c = '\n' → text = '\n' :: rest → False)
    (h : splitEvents text = (event :: events, left)) :
    splitEvents (c :: text) = ((c :: event) :: events, left) := by
  rw [splitEvents, h]
  exact hne

/-- A text with events in it is not empty. -/
theorem exists_cons_of_events {text event left : List Char} {events : List (List Char)}
    (h : splitEvents text = (event :: events, left)) : ∃ c rest, text = c :: rest := by
  cases text with
  | nil => exact absurd h (by simp [splitEvents])
  | cons c rest => exact ⟨c, rest, rfl⟩

/-- A text that arrives in two pieces. -/
theorem splitEvents_append (x y : List Char) :
    splitEvents (x ++ y) =
      ((splitEvents x).1 ++ (splitEvents ((splitEvents x).2 ++ y)).1,
        (splitEvents ((splitEvents x).2 ++ y)).2) := by
  induction x using splitEvents.induct with
  | case1 => rfl
  | case2 rest ih =>
    simp only [List.cons_append, splitEvents, ih]
  | case3 c rest hne left hrest ih =>
    -- nothing is complete yet
    have hnone : (splitEvents (c :: rest)).1 = [] := by simp only [splitEvents, hrest]
    rw [splitEvents_left hnone, hnone]
    rfl
  | case4 c rest hne event events left hrest ih =>
    obtain ⟨d, rest', rfl⟩ := exists_cons_of_events hrest
    rw [splitEvents_cons hne hrest]
    rw [hrest] at ih
    apply splitEvents_cons _ ih
    intro more hc hmore
    exact hne rest' hc (by rw [(List.cons.inj hmore).1])

/-! ## Line endings -/

/-- `str::replace` of CRLF by LF. -/
def unixLines : List Char → List Char
  | [] => []
  | '\r' :: '\n' :: rest => '\n' :: unixLines rest
  | c :: rest => c :: unixLines rest

/-- The text has a line that ends in two carriage returns. -/
def HasCrCrLf (text : List Char) : Prop := ['\r', '\r', '\n'] <:+: text

/-- The text has a CRLF. -/
def HasCrLf (text : List Char) : Prop := ['\r', '\n'] <:+: text

instance (text : List Char) : Decidable (HasCrCrLf text) :=
  inferInstanceAs (Decidable (_ <:+: _))

theorem hasCrLf_cons {c : Char} {text : List Char} :
    HasCrLf (c :: text) ↔ (c = '\r' ∧ ∃ rest, text = '\n' :: rest) ∨ HasCrLf text := by
  unfold HasCrLf
  rw [List.infix_cons_iff]
  apply or_congr_left
  cases text with
  | nil => simp
  | cons d text =>
    constructor
    · intro h
      obtain ⟨hc, hd⟩ := List.cons_prefix_cons.mp h
      exact ⟨hc.symm, text, by rw [(List.cons_prefix_cons.mp hd).1]⟩
    · rintro ⟨rfl, rest, heq⟩
      rw [heq]
      exact ⟨rest, rfl⟩

theorem HasCrCrLf.cons {text : List Char} (c : Char) (h : HasCrCrLf text) :
    HasCrCrLf (c :: text) :=
  List.infix_cons h

/-- A character that does not begin a CRLF. -/
theorem unixLines_cons {c : Char} {text : List Char}
    (h : ∀ rest, c = '\r' → text = '\n' :: rest → False) :
    unixLines (c :: text) = c :: unixLines text := by
  rw [unixLines]
  exact h

/-- Where the replaced text begins with LF, the text does, or with CRLF. -/
theorem unixLines_head {text rest : List Char} (h : unixLines text = '\n' :: rest) :
    (∃ more, text = '\n' :: more) ∨ ∃ more, text = '\r' :: '\n' :: more := by
  cases text using unixLines.fun_cases with
  | case1 => exact absurd h (by simp [unixLines])
  | case2 more => exact Or.inr ⟨more, rfl⟩
  | case3 c more hne =>
    rw [unixLines_cons hne] at h
    exact Or.inl ⟨more, by rw [(List.cons.inj h).1]⟩

theorem unixLines_ne_nil {c : Char} {text : List Char} : unixLines (c :: text) ≠ [] := by
  intro h
  obtain ⟨full, hfull⟩ : ∃ full, c :: text = full := ⟨_, rfl⟩
  rw [hfull] at h
  cases full using unixLines.fun_cases with
  | case1 => exact absurd hfull (by simp)
  | case2 rest => exact absurd h (by simp [unixLines])
  | case3 d rest hne =>
    rw [unixLines_cons hne] at h
    exact absurd h (by simp)

/-- One replacement is enough, unless a line ends in two carriage returns. -/
theorem not_hasCrLf_unixLines {text : List Char} (h : ¬ HasCrCrLf text) :
    ¬ HasCrLf (unixLines text) := by
  induction text using unixLines.induct with
  | case1 => simp [unixLines, HasCrLf]
  | case2 rest ih =>
    rw [unixLines, hasCrLf_cons]
    rintro (⟨hc, -⟩ | hrest)
    · exact absurd hc (by decide)
    · exact ih (fun hin => h ((hin.cons _).cons _)) hrest
  | case3 c rest hne ih =>
    rw [unixLines_cons hne, hasCrLf_cons]
    rintro (⟨rfl, more, hmore⟩ | hrest)
    · rcases unixLines_head hmore with ⟨more', rfl⟩ | ⟨more', rfl⟩
      · exact hne more' rfl rfl
      · exact h ⟨[], more', rfl⟩
    · exact ih (fun hin => h (hin.cons c)) hrest

/-- Replacing in a buffer that has been replaced in before. -/
theorem unixLines_append {x y : List Char} (h : ¬ HasCrCrLf (x ++ y)) :
    unixLines (unixLines x ++ y) = unixLines (x ++ y) := by
  induction x using unixLines.induct with
  | case1 => rfl
  | case2 rest ih =>
    have hrest : ¬ HasCrCrLf (rest ++ y) := fun hin => h ((hin.cons _).cons _)
    rw [unixLines, List.cons_append, unixLines_cons fun _ hc => absurd hc (by decide), ih hrest]
    rfl
  | case3 c rest hne ih =>
    have hrest : ¬ HasCrCrLf (rest ++ y) := fun hin => h (hin.cons _)
    rw [unixLines_cons hne, List.cons_append, List.cons_append]
    cases rest with
    | nil => rfl
    | cons d rest =>
      rw [unixLines_cons, ih hrest, unixLines_cons]
      · intro more hc hmore
        exact hne rest hc (by rw [(List.cons.inj hmore).1])
      · intro more hc hmore
        -- a CRLF that the first replacement made would be a CRCRLF of the text
        cases hreplaced : unixLines (d :: rest) with
        | nil => exact unixLines_ne_nil hreplaced
        | cons e replaced =>
          rw [hreplaced, List.cons_append] at hmore
          rw [(List.cons.inj hmore).1] at hreplaced
          rcases unixLines_head hreplaced with ⟨more', hd⟩ | ⟨more', hd⟩
          · exact hne more' hc hd
          · rw [hc, hd] at h
            exact h ⟨[], more' ++ y, rfl⟩

/-- A text without CRLF, and what arrives after it: replacing in the rest that is still in the
buffer is replacing in everything. -/
theorem splitEvents_unixLines {x : List Char} (h : ¬ HasCrLf x) (y : List Char) :
    splitEvents (unixLines (x ++ y)) =
      ((splitEvents x).1 ++ (splitEvents (unixLines ((splitEvents x).2 ++ y))).1,
        (splitEvents (unixLines ((splitEvents x).2 ++ y))).2) := by
  induction x using splitEvents.induct with
  | case1 => rfl
  | case2 rest ih =>
    rw [hasCrLf_cons, hasCrLf_cons] at h
    have hrest := ih fun hin => h (Or.inr (Or.inr hin))
    rw [List.cons_append, List.cons_append, unixLines_cons fun _ hc => absurd hc (by decide),
      unixLines_cons fun _ hc => absurd hc (by decide)]
    simp only [splitEvents, hrest, List.cons_append]
  -- no event ends here, so all of it is left
  | case3 c rest hne left hrest ih =>
    have hnone : (splitEvents (c :: rest)).1 = [] := by simp only [splitEvents, hrest]
    rw [splitEvents_left hnone, hnone]
    rfl
  | case4 c rest hne event events left hrest ih =>
    rw [hasCrLf_cons] at h
    push Not at h
    have htail := ih h.2
    obtain ⟨d, rest', rfl⟩ := exists_cons_of_events hrest
    rw [splitEvents_cons hne hrest]
    rw [hrest] at htail
    rw [List.cons_append, unixLines_cons]
    -- a line end that the cleaning makes anew would have ended an event before
    · apply splitEvents_cons _ htail
      intro more hc hmore
      rcases unixLines_head hmore with ⟨more', hd⟩ | ⟨more', hd⟩
      · exact hne rest' hc (by rw [(List.cons.inj hd).1])
      · -- the rest has an event, so it is longer than its first character
        obtain ⟨rfl, hnext⟩ := List.cons.inj hd
        cases rest' with
        | nil => exact absurd hrest (by simp [splitEvents])
        | cons e rest' =>
          apply h.2
          rw [hasCrLf_cons]
          exact Or.inl ⟨rfl, rest', by rw [(List.cons.inj hnext).1]⟩
    · intro more hc hmore
      exact h.1 hc rest' (by rw [(List.cons.inj hmore).1])

/-! ## Readers -/

/-- What a handler did with some input: its state afterwards, what it sent, and whether it closed
the stream. -/
structure Fed (σ α : Type*) where
  state : σ
  sent : List α
  closed : Bool

section Readers
variable {σ ε α : Type*} (handle : σ → ε → Fed σ α)

/-- One input after another, until the stream is closed. -/
def feed : σ → List ε → Fed σ α
  | s, [] => ⟨s, [], false⟩
  | s, e :: es =>
    if (handle s e).closed then handle s e
    else { feed (handle s e).state es with
      sent := (handle s e).sent ++ (feed (handle s e).state es).sent }

/-- Nothing is read behind the end. -/
theorem feed_append_of_closed {s : σ} {es : List ε} (h : (feed handle s es).closed = true)
    (es' : List ε) : feed handle s (es ++ es') = feed handle s es := by
  induction es generalizing s with
  | nil => exact absurd h (by simp [feed])
  | cons e es ih =>
    rw [List.cons_append, feed, feed]
    rw [feed] at h
    split
    · rfl
    · rename_i hopen
      rw [if_neg hopen] at h
      rw [ih h]

theorem feed_append_of_open {s : σ} {es : List ε} (h : (feed handle s es).closed = false)
    (es' : List ε) :
    feed handle s (es ++ es') = { feed handle (feed handle s es).state es' with
      sent := (feed handle s es).sent ++ (feed handle (feed handle s es).state es').sent } := by
  induction es generalizing s with
  | nil => simp [feed]
  | cons e es ih =>
    rw [feed] at h
    split at h
    · rename_i hclosed
      exact absurd h (by simp [hclosed])
    · rename_i hopen
      rw [List.cons_append, feed, if_neg hopen, feed, if_neg hopen, ih h]
      simp only [List.append_assoc]

end Readers

section Chunks
variable {σ α : Type*} (norm : List Char → List Char) (handle : σ → List Char → Fed σ α)

/-- A buffer that is appended to, put through `norm` and emptied of its events for every piece of
text that arrives. -/
def readChunks : σ → List Char → List (List Char) → Fed σ α
  | s, _, [] => ⟨s, [], false⟩
  | s, buffer, chunk :: chunks =>
    let split := splitEvents (norm (buffer ++ chunk))
    let fed := feed handle s split.1
    if fed.closed then fed
    else { readChunks fed.state split.2 chunks with
      sent := fed.sent ++ (readChunks fed.state split.2 chunks).sent }

/-- Pieces of `text` can be put through `norm` as they arrive. -/
def Incremental (text : List Char) : Prop :=
  ∀ x y, x ++ y <+: text →
    splitEvents (norm (x ++ y)) =
      ((splitEvents (norm x)).1 ++ (splitEvents (norm ((splitEvents (norm x)).2 ++ y))).1,
        (splitEvents (norm ((splitEvents (norm x)).2 ++ y))).2)

theorem incremental_id (text : List Char) : Incremental id text := by
  intro x y _
  exact splitEvents_append x y

theorem incremental_unixLines {text : List Char} (h : ¬ HasCrCrLf text) :
    Incremental unixLines text := by
  intro x y hprefix
  have hxy : ¬ HasCrCrLf (x ++ y) := fun hin => h (hin.trans hprefix.isInfix)
  have hx : ¬ HasCrCrLf x := fun hin => hxy (hin.trans (List.prefix_append x y).isInfix)
  rw [← unixLines_append hxy]
  exact splitEvents_unixLines (not_hasCrLf_unixLines hx) y

variable {norm}

/-- However the text arrives, the events are those of the whole text. -/
theorem readChunks_append {text : List Char} (hinc : Incremental norm text) {s₀ : σ}
    {chunks : List (List Char)} {before : List Char} (htext : before ++ chunks.flatten = text)
    (hopen : (feed handle s₀ (splitEvents (norm before)).1).closed = false) :
    let fed := feed handle s₀ (splitEvents (norm before)).1
    let rest := readChunks norm handle fed.state (splitEvents (norm before)).2 chunks
    let whole := feed handle s₀ (splitEvents (norm text)).1
    whole.sent = fed.sent ++ rest.sent ∧ whole.closed = rest.closed := by
  induction chunks generalizing before with
  | nil =>
    rw [List.flatten_nil, List.append_nil] at htext
    rw [← htext]
    exact ⟨(List.append_nil _).symm, hopen⟩
  | cons chunk chunks ih =>
    rw [List.flatten_cons, ← List.append_assoc] at htext
    have hsplit := hinc before chunk ⟨chunks.flatten, htext⟩
    dsimp only
    rw [readChunks]
    dsimp only
    obtain ⟨next, hnext⟩ : ∃ next, feed handle
        (feed handle s₀ (splitEvents (norm before)).1).state
        (splitEvents (norm ((splitEvents (norm before)).2 ++ chunk))).1 = next := ⟨_, rfl⟩
    rw [hnext]
    have hthrough := feed_append_of_open handle hopen
      (splitEvents (norm ((splitEvents (norm before)).2 ++ chunk))).1
    rw [hnext] at hthrough
    -- what the events up to the end of this chunk do
    have hfed : feed handle s₀ (splitEvents (norm (before ++ chunk))).1 =
        { next with sent :=
          (feed handle s₀ (splitEvents (norm before)).1).sent ++ next.sent } := by
      rw [hsplit]
      exact hthrough
    cases hclosed : next.closed with
    | true =>
      have hlater := hinc (before ++ chunk) chunks.flatten
        ⟨[], by rw [List.append_nil, htext]⟩
      have hwhole : feed handle s₀ (splitEvents (norm text)).1 =
          feed handle s₀ (splitEvents (norm (before ++ chunk))).1 := by
        rw [← htext, hlater]
        apply feed_append_of_closed
        rw [hfed]
        exact hclosed
      rw [hwhole, hfed, if_pos rfl]
      exact ⟨rfl, rfl⟩
    | false =>
      have hnow : (feed handle s₀ (splitEvents (norm (before ++ chunk))).1).closed = false := by
        rw [hfed]
        exact hclosed
      have hrest := ih htext hnow
      have hstate : (feed handle s₀ (splitEvents (norm (before ++ chunk))).1).state =
          next.state := by rw [hfed]
      dsimp only at hrest
      rw [hstate, hsplit] at hrest
      rw [if_neg (by simp)]
      refine ⟨?_, hrest.2⟩
      rw [hrest.1, ← List.append_assoc]
      congr 1
      rw [hsplit] at hfed
      dsimp only at hfed
      rw [hfed]

/-- A reader that starts with an empty buffer. -/
theorem readChunks_eq {chunks : List (List Char)} (hinc : Incremental norm chunks.flatten)
    (hnil : norm [] = []) (s : σ) :
    (readChunks norm handle s [] chunks).sent =
        (feed handle s (splitEvents (norm chunks.flatten)).1).sent ∧
      (readChunks norm handle s [] chunks).closed =
        (feed handle s (splitEvents (norm chunks.flatten)).1).closed := by
  have hempty : splitEvents (norm []) = ([], []) := by rw [hnil]; rfl
  have hspec := @readChunks_append _ _ norm handle _ hinc s chunks [] rfl
    (by rw [hempty]; rfl)
  rw [hempty] at hspec
  exact ⟨hspec.1.symm, hspec.2.symm⟩

end Chunks

/-! ## Lines -/

/-- `str::lines`. -/
def lines : List Char → List (List Char)
  | [] => []
  | '\n' :: rest => [] :: lines rest
  | '\r' :: '\n' :: rest => [] :: lines rest
  | c :: rest =>
    match lines rest with
    | [] => [[c]]
    | line :: more => (c :: line) :: more

/-- A line and what follows it. -/
theorem lines_line {line : List Char} (hn : '\n' ∉ line) (hr : '\r' ∉ line) (rest : List Char) :
    lines (line ++ '\n' :: rest) = line :: lines rest := by
  induction line with
  | nil => rfl
  | cons c line ih =>
    have hc : c ≠ '\n' := fun h => hn (h ▸ List.mem_cons_self ..)
    have hc' : c ≠ '\r' := fun h => hr (h ▸ List.mem_cons_self ..)
    rw [List.cons_append, lines,
      ih (fun h => hn (List.mem_cons_of_mem c h)) (fun h => hr (List.mem_cons_of_mem c h))]
    · exact fun h => hc h
    · exact fun _ h => absurd h hc'

/-- The last line. -/
theorem lines_last {line : List Char} (hne : line ≠ []) (hn : '\n' ∉ line) :
    lines line = [line] := by
  induction line with
  | nil => exact absurd rfl hne
  | cons c line ih =>
    have hc : c ≠ '\n' := fun h => hn (h ▸ List.mem_cons_self ..)
    have hrest : '\n' ∉ line := fun h => hn (List.mem_cons_of_mem c h)
    rw [lines]
    · cases line with
      | nil => rfl
      | cons d line => rw [ih (by simp) hrest]
    · exact fun h => hc h
    · intro rest _ hline
      exact hrest (by rw [hline]; exact List.mem_cons_self ..)

end Solvela.Lib.Sse
