import ModbusRTU.Vcom.DriverWorld

/-!
# The copies of the serial driver

`adv_uart.c` moves the bytes of the terminal: `adv_uart_xmit` from the circular buffer of the serial core
to the receive ring, and `adv_uart_recv_chars` from the transmit ring to the terminal.  Each of its loops
makes three rounds at most.

* **`advUartXmit_spec`** — three rounds are enough: a round ends at an end of one of the two buffers, and
  there are two of these on the way.  All that is pending is appended to the ring, or as much as there is
  room for, in order.
* **`recvRounds_spec`** — the terminal gets the first bytes of the ring, as many as it takes.
* **`recvRounds_all`** — a terminal that takes all it is offered gets the whole ring.

What the serial core and the terminal's buffer do is not in the source: the core is the pair of positions
of `struct circ_buf`, and the buffer takes of what it is offered as many bytes as it likes.
-/

namespace ModbusRTU.UartCopies

open RingWindow SpanCopies PortBuffers DriverWorld

/-- `struct circ_buf` of the serial core, which puts at `head`. -/
structure CircBuf where
  head : ℕ
  tail : ℕ
  buf : ℕ → UInt8

def uartXmitSize : ℕ := 4096

structure CircBuf.WF (xmit : CircBuf) : Prop where
  head_lt : xmit.head < uartXmitSize
  tail_lt : xmit.tail < uartXmitSize

def uartCircEmpty (xmit : CircBuf) : Bool := xmit.head == xmit.tail

def uartCircCharsPending (xmit : CircBuf) : ℕ :=
  (xmit.head + uartXmitSize - xmit.tail) &&& (uartXmitSize - 1)

/-- The bytes that are pending. -/
def CircBuf.bytes (xmit : CircBuf) : List UInt8 :=
  window uartXmitSize xmit.buf xmit.tail (uartCircCharsPending xmit)

/-! ### `adv_uart_xmit` -/

/-- The variables of the loop. -/
structure XmitLoop where
  xmit : CircBuf
  tx : RingBuf
  cells : ℕ → UInt8
  count : ℕ

/-- A round.  The source reads `tx_lsize` before the loop and again at the end of each round. -/
def xmitRound (s : XmitLoop) : XmitLoop :=
  let txLsize := getRbLroom s.tx
  let mcplen := if s.count > txLsize then txLsize else s.count
  let mcplen :=
    if (s.xmit.tail + mcplen) &&& (uartXmitSize - 1) < s.xmit.tail then uartXmitSize - s.xmit.tail
    else mcplen
  { xmit := { s.xmit with tail := (s.xmit.tail + mcplen) &&& (uartXmitSize - 1) }
    tx := moveRbTail s.tx mcplen
    cells := store s.cells s.tx.tail (span s.xmit.buf s.xmit.tail mcplen)
    count := s.count - mcplen }

/-- `do … while (count > 0 && max_retry > 0)`. -/
def xmitRounds : ℕ → XmitLoop → XmitLoop
  | 0, s => s
  | maxRetry + 1, s =>
      if (xmitRound s).count > 0 then xmitRounds maxRetry (xmitRound s) else xmitRound s

def advUartXmit (xmit : CircBuf) (tx : Ring) : CircBuf × Ring :=
  if uartCircEmpty xmit then (xmit, tx)
  else if getRbRoom tx.buf = 0 then (xmit, tx)
  else
    let count := uartCircCharsPending xmit
    let txSize := getRbRoom tx.buf
    let count := if count < txSize then count else txSize
    let s := xmitRounds 3 ⟨xmit, tx.buf, tx.cells, count⟩
    (s.xmit, { tx with buf := s.tx, cells := s.cells })

/-! ### `adv_uart_recv_chars` -/

/-- The rounds of its loop.  `take` is what the terminal's buffer takes (`tty_insert_flip_string`) when so
many rounds are left, if it is offered as much; the result has what it took. -/
def recvRounds (take : ℕ → ℕ) : ℕ → Ring → ℕ → Ring × List UInt8
  | 0, rx, _ => (rx, [])
  | maxRetry + 1, rx, count =>
      if count > 0 then
        let ret := min (take maxRetry) (getRbLlength rx.buf)
        if ret > 0 then
          let (left, taken) := recvRounds take maxRetry (rx.moveHead ret) (count - ret)
          (left, span rx.cells rx.buf.head ret ++ taken)
        else (rx, [])
      else (rx, [])

/-! ### The circular buffer -/

theorem land_mask (n : ℕ) : n &&& (uartXmitSize - 1) = n % uartXmitSize :=
  Nat.and_two_pow_sub_one_eq_mod n 12

/-- The core's buffer as a ring, which is filled at `head` and emptied at `tail`. -/
def CircBuf.ring (xmit : CircBuf) : RingBuf := ⟨xmit.tail, xmit.head, uartXmitSize⟩

section Circ

variable {xmit : CircBuf} (h : xmit.WF)
include h

theorem ring_wf : xmit.ring.WF := ⟨h.tail_lt, h.head_lt⟩

theorem pending_eq_length : uartCircCharsPending xmit = getRbLength xmit.ring := by
  have hhead := h.head_lt
  have htail := h.tail_lt
  rw [uartCircCharsPending, land_mask, mod_eq_ite (by omega)]
  show _ = if xmit.head ≥ xmit.tail then xmit.head - xmit.tail else uartXmitSize - xmit.tail + xmit.head
  split <;> split <;> omega

theorem bytes_eq_queue : xmit.bytes = queue xmit.ring xmit.buf := by
  rw [CircBuf.bytes, pending_eq_length h]
  rfl

theorem pending_lt : uartCircCharsPending xmit < uartXmitSize := by
  rw [pending_eq_length h]
  exact getRbLength_lt (ring_wf h)

theorem pending_eq_zero_iff : uartCircEmpty xmit = true ↔ uartCircCharsPending xmit = 0 := by
  rw [pending_eq_length h, ← isRbEmpty_iff (ring_wf h)]
  rfl

/-- A copy of `n` bytes ends at the end of the buffer. -/
theorem cut_eq_min {n : ℕ} (hn : n < uartXmitSize) :
    (if (xmit.tail + n) % uartXmitSize < xmit.tail then uartXmitSize - xmit.tail else n) =
      min n (uartXmitSize - xmit.tail) := by
  have htail := h.tail_lt
  rw [mod_eq_ite (show xmit.tail + n < uartXmitSize + uartXmitSize by omega)]
  by_cases hlt : xmit.tail + n < uartXmitSize
  · rw [if_pos hlt, if_neg (by omega)]
    omega
  · rw [if_neg hlt, if_pos (by omega)]
    omega

/-- The core's buffer after `n` bytes were taken. -/
theorem advance_wf (n : ℕ) : CircBuf.WF { xmit with tail := (xmit.tail + n) % uartXmitSize } :=
  ⟨h.head_lt, Nat.mod_lt _ (by decide)⟩

theorem pending_advance {n : ℕ} (hn : n ≤ uartCircCharsPending xmit) :
    uartCircCharsPending { xmit with tail := (xmit.tail + n) % uartXmitSize } =
      uartCircCharsPending xmit - n := by
  rw [pending_eq_length h] at hn ⊢
  rw [pending_eq_length (advance_wf h n)]
  exact getRbLength_moveRbHead (ring_wf h) hn

theorem bytes_advance {n : ℕ} (hn : n ≤ uartCircCharsPending xmit) :
    CircBuf.bytes { xmit with tail := (xmit.tail + n) % uartXmitSize } = xmit.bytes.drop n := by
  rw [pending_eq_length h] at hn
  rw [bytes_eq_queue h, bytes_eq_queue (advance_wf h n)]
  exact queue_moveRbHead (ring_wf h) xmit.buf hn

end Circ

/-! ### The rounds of `adv_uart_xmit` -/

/-- What there is to copy is pending, and there is room for it. -/
structure Fits (s : XmitLoop) : Prop where
  xmit_wf : s.xmit.WF
  tx_wf : s.tx.WF
  pending : s.count ≤ uartCircCharsPending s.xmit
  room : s.count ≤ getRbRoom s.tx

/-- `n` bytes went from the one buffer to the other. -/
structure Copied (n : ℕ) (s t : XmitLoop) : Prop where
  xmit : t.xmit = { s.xmit with tail := (s.xmit.tail + n) % uartXmitSize }
  tx : t.tx = moveRbTail s.tx n
  queue : queue t.tx t.cells = queue s.tx s.cells ++ s.xmit.bytes.take n
  count : t.count = s.count - n

/-- Whether the end of a buffer is on the way of `count` bytes. -/
def atEnd (size pos count : ℕ) : ℕ := if size - pos < count then 1 else 0

/-- The ends of the two buffers that are on the way. -/
def ends (s : XmitLoop) : ℕ :=
  atEnd s.tx.size s.tx.tail s.count + atEnd uartXmitSize s.xmit.tail s.count

/-- The length of a round is up to the next end, or all. -/
def roundLength (s : XmitLoop) : ℕ :=
  min s.count (min (s.tx.size - s.tx.tail) (uartXmitSize - s.xmit.tail))

theorem xmitRound_eq {s : XmitLoop} (h : Fits s) :
    xmitRound s =
      { xmit := { s.xmit with tail := (s.xmit.tail + roundLength s) % uartXmitSize }
        tx := moveRbTail s.tx (roundLength s)
        cells := store s.cells s.tx.tail (span s.xmit.buf s.xmit.tail (roundLength s))
        count := s.count - roundLength s } := by
  have htail := h.xmit_wf.tail_lt
  have hcount := h.pending
  have hpending := pending_lt h.xmit_wf
  have hroom := h.room
  have hlroom := getRbLroom_eq_min s.tx
  unfold xmitRound
  simp only [land_mask]
  have hfirst : (if s.count > getRbLroom s.tx then getRbLroom s.tx else s.count) =
      min s.count (s.tx.size - s.tx.tail) := by
    split <;> omega
  rw [hfirst]
  rw [cut_eq_min h.xmit_wf (by omega), Nat.min_assoc]
  rfl

theorem copied_xmitRound {s : XmitLoop} (h : Fits s) : Copied (roundLength s) s (xmitRound s) := by
  have hcount : roundLength s ≤ s.count := Nat.min_le_left ..
  have hend : s.tx.tail + roundLength s ≤ s.tx.size := by
    have htail := h.tx_wf.tail_lt
    unfold roundLength
    omega
  have hend' : s.xmit.tail + roundLength s ≤ uartXmitSize := by
    have htail := h.xmit_wf.tail_lt
    unfold roundLength
    omega
  rw [xmitRound_eq h]
  refine ⟨rfl, rfl, ?_, rfl⟩
  have hqueue := queue_store h.tx_wf s.cells (span s.xmit.buf s.xmit.tail (roundLength s))
    (by rw [length_span]; exact hcount.trans h.room) (by rw [length_span]; exact hend)
  rw [length_span] at hqueue
  rw [hqueue, CircBuf.bytes, take_window _ _ (hcount.trans h.pending), window_straight _ hend']
  rfl

theorem Copied.fits {n : ℕ} {s t : XmitLoop} (h : Copied n s t) (hs : Fits s) (hn : n ≤ s.count) :
    Fits t := by
  have hpending := hs.pending
  have hroom := hs.room
  have hwf := moveRbTail_wf hs.tx_wf n
  have htotal := getRbRoom_add hs.tx_wf
  have htotal' := getRbRoom_add hwf
  have hlength := getRbLength_moveRbTail hs.tx_wf (n := n) (by omega)
  have hsize : (moveRbTail s.tx n).size = s.tx.size := rfl
  refine ⟨?_, ?_, ?_, ?_⟩
  · rw [h.xmit]
    exact advance_wf hs.xmit_wf n
  · rw [h.tx]
    exact hwf
  · rw [h.xmit, h.count, pending_advance hs.xmit_wf (by omega)]
    omega
  · rw [h.tx, h.count]
    omega

theorem Copied.trans {m n : ℕ} {s t u : XmitLoop} (hst : Copied m s t) (htu : Copied n t u)
    (hs : Fits s) (hm : m ≤ s.count) : Copied (m + n) s u := by
  have hbytes : t.xmit.bytes = s.xmit.bytes.drop m := by
    rw [hst.xmit, bytes_advance hs.xmit_wf (hm.trans hs.pending)]
  refine ⟨?_, ?_, ?_, ?_⟩
  · rw [htu.xmit, hst.xmit]
    simp only [Nat.mod_add_mod, Nat.add_assoc]
  · rw [htu.tx, hst.tx, moveRbTail_moveRbTail]
  · rw [htu.queue, hst.queue, hbytes, List.append_assoc, List.take_add]
  · rw [htu.count, hst.count, Nat.sub_sub]

/-- No end comes onto the way. -/
theorem atEnd_advance_le {size pos count n : ℕ} (hpos : pos < size) (hcount : count ≤ size)
    (hn : n ≤ size - pos) : atEnd size ((pos + n) % size) (count - n) ≤ atEnd size pos count := by
  unfold atEnd
  rw [mod_eq_ite (by omega)]
  split_ifs <;> omega

/-- An end that a round comes to is behind it. -/
theorem atEnd_advance_lt {size pos count : ℕ} (hpos : pos < size) (hcount : count ≤ size)
    (hlt : size - pos < count) :
    atEnd size ((pos + (size - pos)) % size) (count - (size - pos)) < atEnd size pos count := by
  unfold atEnd
  rw [Nat.add_sub_cancel' hpos.le, Nat.mod_self, if_neg (by omega), if_pos hlt]
  exact Nat.zero_lt_one

/-- **A round passes an end** or is the last one. -/
theorem ends_xmitRound {s : XmitLoop} (h : Fits s) :
    (xmitRound s).count = 0 ∨ ends (xmitRound s) < ends s := by
  have hxmit := h.xmit_wf.tail_lt
  have htx := h.tx_wf.tail_lt
  have hxmitCount : s.count ≤ uartXmitSize := by
    have hpending := pending_lt h.xmit_wf
    exact h.pending.trans hpending.le
  have htxCount : s.count ≤ s.tx.size := by
    have hroom := getRbRoom_add h.tx_wf
    have hcount := h.room
    omega
  have hends : ends (xmitRound s) =
      atEnd s.tx.size ((s.tx.tail + roundLength s) % s.tx.size) (s.count - roundLength s) +
        atEnd uartXmitSize ((s.xmit.tail + roundLength s) % uartXmitSize) (s.count - roundLength s) := by
    rw [xmitRound_eq h]
    rfl
  have hleft : (xmitRound s).count = s.count - roundLength s := by rw [xmitRound_eq h]
  have htxLe := atEnd_advance_le (n := roundLength s) htx htxCount (by
    unfold roundLength
    omega)
  have hxmitLe := atEnd_advance_le (n := roundLength s) hxmit hxmitCount (by
    unfold roundLength
    omega)
  rw [hends, hleft, ends]
  have hlength : roundLength s = s.count ∨
      (roundLength s = s.tx.size - s.tx.tail ∧ s.tx.size - s.tx.tail < s.count) ∨
      (roundLength s = uartXmitSize - s.xmit.tail ∧ uartXmitSize - s.xmit.tail < s.count) := by
    unfold roundLength
    omega
  rcases hlength with hall | ⟨hround, hlt⟩ | ⟨hround, hlt⟩
  · left
    rw [hall, Nat.sub_self]
  · right
    have hbehind := atEnd_advance_lt htx htxCount hlt
    rw [← hround] at hbehind
    exact Nat.add_lt_add_of_lt_of_le hbehind hxmitLe
  · right
    have hbehind := atEnd_advance_lt hxmit hxmitCount hlt
    rw [← hround] at hbehind
    exact Nat.add_lt_add_of_le_of_lt htxLe hbehind

/-- As many rounds as there are ends, and one more, copy all. -/
theorem copied_xmitRounds {n : ℕ} {s : XmitLoop} (h : Fits s) (hn : ends s < n) :
    Copied s.count s (xmitRounds n s) := by
  induction n generalizing s with
  | zero => exact absurd hn (Nat.not_lt_zero _)
  | succ n ih =>
      have hround := copied_xmitRound h
      have hle : roundLength s ≤ s.count := Nat.min_le_left ..
      have hcount : roundLength s + (xmitRound s).count = s.count := by
        rw [hround.count]
        omega
      unfold xmitRounds
      split
      · next hmore =>
          have hfewer := (ends_xmitRound h).resolve_left (by omega)
          have hrest := ih (hround.fits h hle) (by omega)
          rw [← hcount]
          exact hround.trans hrest h hle
      · next hlast =>
          obtain hlast : (xmitRound s).count = 0 := by omega
          rw [hlast, Nat.add_zero] at hcount
          rw [← hcount]
          exact hround

/-- **Three rounds are enough.** -/
theorem copied_three {s : XmitLoop} (h : Fits s) : Copied s.count s (xmitRounds 3 s) := by
  refine copied_xmitRounds h ?_
  unfold ends atEnd
  split <;> split <;> omega

/-- The bytes that a call of `adv_uart_xmit` moves. -/
def xmitCount (xmit : CircBuf) (tx : Ring) : ℕ :=
  min (uartCircCharsPending xmit) (getRbRoom tx.buf)

/-- `n` bytes went from the core's buffer to the ring. -/
structure Xmitted (n : ℕ) (xmit : CircBuf) (tx : Ring) (r : CircBuf × Ring) : Prop where
  core : r.1 = { xmit with tail := (xmit.tail + n) % uartXmitSize }
  ring : r.2 = { tx with buf := moveRbTail tx.buf n, cells := r.2.cells }
  bytes : r.2.bytes = tx.bytes ++ xmit.bytes.take n

theorem xmitted_nothing {xmit : CircBuf} {tx : Ring} (hxmit : xmit.WF) (htx : tx.buf.WF) :
    Xmitted 0 xmit tx (xmit, tx) := by
  refine ⟨?_, ?_, ?_⟩
  · rw [Nat.add_zero, Nat.mod_eq_of_lt hxmit.tail_lt]
  · rw [moveRbTail_zero htx]
  · rw [List.take_zero, List.append_nil]

/-- **What `adv_uart_xmit` does.** -/
theorem advUartXmit_spec {xmit : CircBuf} {tx : Ring} (hxmit : xmit.WF) (htx : tx.buf.WF) :
    Xmitted (xmitCount xmit tx) xmit tx (advUartXmit xmit tx) := by
  unfold advUartXmit
  split
  · next hempty =>
      have hcount : xmitCount xmit tx = 0 := by
        rw [xmitCount, (pending_eq_zero_iff hxmit).mp hempty, Nat.zero_min]
      rw [hcount]
      exact xmitted_nothing hxmit htx
  · split
    · next hfull =>
        have hcount : xmitCount xmit tx = 0 := by rw [xmitCount, hfull, Nat.min_zero]
        rw [hcount]
        exact xmitted_nothing hxmit htx
    · have hcount : (if uartCircCharsPending xmit < getRbRoom tx.buf then uartCircCharsPending xmit
          else getRbRoom tx.buf) = xmitCount xmit tx := by
        unfold xmitCount
        split <;> omega
      simp only [hcount]
      have hfits : Fits ⟨xmit, tx.buf, tx.cells, xmitCount xmit tx⟩ :=
        ⟨hxmit, htx, Nat.min_le_left .., Nat.min_le_right ..⟩
      have hcopied := copied_three hfits
      exact ⟨hcopied.xmit, by rw [hcopied.tx], hcopied.queue⟩

/-! ### The rounds of `adv_uart_recv_chars` -/

theorem moveHead_of_not_clean {rx : Ring} (hclean : rx.clean = false) (n : ℕ) :
    rx.moveHead n = { rx with buf := moveRbHead rx.buf n } := by
  rw [Ring.moveHead, hclean]
  rfl

/-- `n` bytes went from the ring to the terminal. -/
def Taken (n : ℕ) (rx : Ring) (r : Ring × List UInt8) : Prop :=
  r = ({ rx with buf := moveRbHead rx.buf n }, rx.bytes.take n)

theorem taken_nothing {rx : Ring} (hwf : rx.buf.WF) : Taken 0 rx (rx, []) := by
  rw [Taken, moveRbHead_zero hwf, List.take_zero]

/-- A round and the others. -/
theorem taken_round {rx : Ring} (hwf : rx.buf.WF) {m n : ℕ} (hm : m ≤ getRbLlength rx.buf)
    {r : Ring × List UInt8} (hrest : Taken n { rx with buf := moveRbHead rx.buf m } r) :
    Taken (m + n) rx (r.1, span rx.cells rx.buf.head m ++ r.2) := by
  have hhead := hwf.head_lt
  have hlength := getRbLlength_eq_min rx.buf
  have hspan : span rx.cells rx.buf.head m = rx.bytes.take m := by
    rw [Ring.bytes, queue, take_window _ _ (by omega), window_straight _ (by omega), span]
  have hbytes : Ring.bytes { rx with buf := moveRbHead rx.buf m } = rx.bytes.drop m :=
    queue_moveRbHead hwf rx.cells (by omega)
  obtain rfl := hrest
  rw [Taken, hspan, hbytes, moveRbHead_moveRbHead, List.take_add]

/-- **What `adv_uart_recv_chars` does.**  The first bytes of the ring go. -/
theorem recvRounds_spec (take : ℕ → ℕ) {n : ℕ} {rx : Ring} (hwf : rx.buf.WF)
    (hclean : rx.clean = false) :
    ∃ k ≤ getRbLength rx.buf, Taken k rx (recvRounds take n rx (getRbLength rx.buf)) := by
  induction n generalizing rx with
  | zero => exact ⟨0, Nat.zero_le _, taken_nothing hwf⟩
  | succ n ih =>
      unfold recvRounds
      split
      · dsimp only
        split
        · have hlength := getRbLlength_eq_min rx.buf
          generalize hret : min (take n) (getRbLlength rx.buf) = ret
          have hle : ret ≤ getRbLlength rx.buf := hret ▸ Nat.min_le_right ..
          have hleft := getRbLength_moveRbHead hwf (n := ret) (by omega)
          obtain ⟨k, hk, htaken⟩ :=
            @ih { rx with buf := moveRbHead rx.buf ret } (moveRbHead_wf hwf ret) hclean
          rw [hleft] at hk
          refine ⟨ret + k, by omega, ?_⟩
          rw [moveHead_of_not_clean hclean, ← hleft]
          exact taken_round hwf hle htaken
        · exact ⟨0, Nat.zero_le _, taken_nothing hwf⟩
      · exact ⟨0, Nat.zero_le _, taken_nothing hwf⟩

theorem recvRounds_zero (take : ℕ → ℕ) (n : ℕ) (rx : Ring) : recvRounds take n rx 0 = (rx, []) := by
  cases n with
  | zero => rfl
  | succ n => rfl

/-- **A terminal that takes what it is offered** gets the whole ring, in one round or in two. -/
theorem recvRounds_all {take : ℕ → ℕ} {n : ℕ} {rx : Ring} (hwf : rx.buf.WF)
    (hclean : rx.clean = false) (htake : ∀ k, rx.buf.size ≤ take k)
    (hn : (if rx.buf.size - rx.buf.head < getRbLength rx.buf then 1 else 0) < n) :
    Taken (getRbLength rx.buf) rx (recvRounds take n rx (getRbLength rx.buf)) := by
  induction n generalizing rx with
  | zero => exact absurd hn (Nat.not_lt_zero _)
  | succ n ih =>
      have hhead := hwf.head_lt
      have hlength := getRbLlength_eq_min rx.buf
      have hlt := getRbLength_lt hwf
      unfold recvRounds
      split
      · have hret : min (take n) (getRbLlength rx.buf) = getRbLlength rx.buf :=
          Nat.min_eq_right (by have := htake n; omega)
        simp only [hret]
        rw [if_pos (by omega), moveHead_of_not_clean hclean]
        have hleft := getRbLength_moveRbHead hwf (n := getRbLlength rx.buf) (by omega)
        have hround : ∀ r, Taken (getRbLength rx.buf - getRbLlength rx.buf)
            { rx with buf := moveRbHead rx.buf (getRbLlength rx.buf) } r →
            Taken (getRbLength rx.buf) rx
              (r.1, span rx.cells rx.buf.head (getRbLlength rx.buf) ++ r.2) := by
          intro r hr
          have htaken := taken_round hwf le_rfl hr
          rw [Nat.add_sub_cancel' (by omega)] at htaken
          exact htaken
        refine hround _ ?_
        rw [← hleft]
        by_cases hwrap : rx.buf.size - rx.buf.head < getRbLength rx.buf
        · -- what is left stands at the front of the page
          rw [if_pos hwrap] at hn
          refine @ih { rx with buf := moveRbHead rx.buf (getRbLlength rx.buf) }
            (moveRbHead_wf hwf _) hclean htake ?_
          have hfront : (moveRbHead rx.buf (getRbLlength rx.buf)).head = 0 := by
            show (rx.buf.head + getRbLlength rx.buf) % rx.buf.size = 0
            rw [show rx.buf.head + getRbLlength rx.buf = rx.buf.size by omega, Nat.mod_self]
          have hsize : (moveRbHead rx.buf (getRbLlength rx.buf)).size = rx.buf.size := rfl
          rw [hfront, hsize, hleft, if_neg (by omega)]
          omega
        · rw [show getRbLength rx.buf - getRbLlength rx.buf = 0 by omega] at hleft
          rw [hleft, recvRounds_zero]
          exact taken_nothing (moveRbHead_wf hwf _)
      · next hnone =>
          have hzero : getRbLength rx.buf = 0 := by omega
          rw [hzero]
          exact taken_nothing hwf

end ModbusRTU.UartCopies
