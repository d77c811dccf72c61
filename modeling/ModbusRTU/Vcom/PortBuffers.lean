import ModbusRTU.Storage.SpanCopies

/-!
# The ring buffers of a port

Each port of the `ttyADV` driver has two pages of memory that it shares with the daemon `vcomd`, each
a ring of bytes with a head and a tail.  The functions on `struct ring_buf` come from `advvcom.h`; the
copies in and out of a ring are those of `vc_common_recv` and `vc_common_xmit` in the daemon.

The queue a ring stands for is a window of its page (`queue`).  A byte is appended by storing it and
moving the tail, and removed by moving the head:

* **`queue_copyIn`** — data that fits the room is appended by `copyIn`, which goes round the end in
  two copies, and a move of the tail.
* **`copyOut_eq_take`** — `copyOut` reads the first bytes of the queue.
* **`queue_moveRbTail`** — moving the tail appends what stands behind it.
* **`queue_moveRbHead`** — moving the head removes the first bytes of the queue and nothing else.
-/

namespace ModbusRTU.PortBuffers

open RingWindow SpanCopies

/-- `struct ring_buf`: positions in a page of `size` bytes. -/
structure RingBuf where
  head : ℕ
  tail : ℕ
  size : ℕ
  deriving DecidableEq, Repr

/-- The positions lie in the page. -/
structure RingBuf.WF (buf : RingBuf) : Prop where
  head_lt : buf.head < buf.size
  tail_lt : buf.tail < buf.size

instance (buf : RingBuf) : Decidable buf.WF :=
  decidable_of_iff (buf.head < buf.size ∧ buf.tail < buf.size)
    ⟨fun h => ⟨h.1, h.2⟩, fun h => ⟨h.head_lt, h.tail_lt⟩⟩

def isRbEmpty (buf : RingBuf) : Bool := buf.tail == buf.head

def getRbLength (buf : RingBuf) : ℕ :=
  if buf.tail ≥ buf.head then buf.tail - buf.head else buf.size - buf.head + buf.tail

/-- The bytes up to the end of the page. -/
def getRbLlength (buf : RingBuf) : ℕ :=
  let a := buf.size - buf.head
  let b := getRbLength buf
  if a < b then a else b

def getRbRoom (buf : RingBuf) : ℕ := buf.size - getRbLength buf - 1

/-- The room up to the end of the page. -/
def getRbLroom (buf : RingBuf) : ℕ :=
  let a := buf.size - buf.tail
  let b := getRbRoom buf
  if a < b then a else b

def moveRbTail (buf : RingBuf) (length : ℕ) : RingBuf :=
  { buf with tail := (buf.tail + length) % buf.size }

/-- `move_rb_head` when the ring is not marked clean. -/
def moveRbHead (buf : RingBuf) (length : ℕ) : RingBuf :=
  { buf with head := (buf.head + length) % buf.size }

/-- The bytes in the ring, oldest first. -/
def queue (buf : RingBuf) (cells : ℕ → UInt8) : List UInt8 :=
  window buf.size cells buf.head (getRbLength buf)

/-- The copies of `vc_common_recv`: at the tail, and what does not fit there at the front. -/
def copyIn (buf : RingBuf) (cells : ℕ → UInt8) (data : List UInt8) : ℕ → UInt8 :=
  if getRbLroom buf ≥ data.length then store cells buf.tail data
  else store (store cells buf.tail (data.take (getRbLroom buf))) 0 (data.drop (getRbLroom buf))

/-- The copies of `vc_common_xmit`: no more than `limit` bytes from the head, and what does not stand
there from the front. -/
def copyOut (buf : RingBuf) (cells : ℕ → UInt8) (limit : ℕ) : List UInt8 :=
  let llen := min (getRbLlength buf) limit
  let len := min (getRbLength buf) limit
  if llen = len then span cells buf.head llen
  else span cells buf.head llen ++ span cells 0 (len - llen)

/-! ### Lengths -/

theorem getRbLlength_eq_min (buf : RingBuf) :
    getRbLlength buf = min (buf.size - buf.head) (getRbLength buf) := by
  show (if _ < _ then _ else _) = _
  split <;> omega

theorem getRbLroom_eq_min (buf : RingBuf) :
    getRbLroom buf = min (buf.size - buf.tail) (getRbRoom buf) := by
  show (if _ < _ then _ else _) = _
  split <;> omega

section Lengths

variable {buf : RingBuf} (h : buf.WF)
include h

/-- The tail is as far behind the head as the ring is long. -/
theorem tail_eq : buf.tail = (buf.head + getRbLength buf) % buf.size := by
  have hhead := h.head_lt
  have htail := h.tail_lt
  unfold getRbLength
  split
  · rw [Nat.mod_eq_of_lt (by omega)]
    omega
  · rw [show buf.head + (buf.size - buf.head + buf.tail) = buf.tail + buf.size by omega,
      Nat.add_mod_right, Nat.mod_eq_of_lt htail]

theorem getRbLength_lt : getRbLength buf < buf.size := by
  have hhead := h.head_lt
  have htail := h.tail_lt
  unfold getRbLength
  split <;> omega

theorem getRbRoom_add : getRbRoom buf + getRbLength buf + 1 = buf.size := by
  have hlt := getRbLength_lt h
  unfold getRbRoom
  omega

theorem isRbEmpty_iff : isRbEmpty buf = true ↔ getRbLength buf = 0 := by
  have hhead := h.head_lt
  have htail := h.tail_lt
  rw [isRbEmpty, beq_iff_eq, getRbLength]
  split <;> omega

theorem moveRbTail_wf (n : ℕ) : (moveRbTail buf n).WF :=
  ⟨h.head_lt, Nat.mod_lt _ (Nat.zero_lt_of_lt h.head_lt)⟩

theorem moveRbHead_wf (n : ℕ) : (moveRbHead buf n).WF :=
  ⟨Nat.mod_lt _ (Nat.zero_lt_of_lt h.head_lt), h.tail_lt⟩

theorem moveRbTail_zero : moveRbTail buf 0 = buf := by
  rw [moveRbTail, Nat.add_zero, Nat.mod_eq_of_lt h.tail_lt]

theorem moveRbHead_zero : moveRbHead buf 0 = buf := by
  rw [moveRbHead, Nat.add_zero, Nat.mod_eq_of_lt h.head_lt]

theorem getRbLength_moveRbTail {n : ℕ} (hn : n ≤ getRbRoom buf) :
    getRbLength (moveRbTail buf n) = getRbLength buf + n := by
  have hhead := h.head_lt
  have htail := h.tail_lt
  have hroom := getRbRoom_add h
  have hmod := mod_eq_ite (show buf.tail + n < buf.size + buf.size by omega)
  unfold getRbLength moveRbTail at *
  simp only [hmod]
  split at hroom <;> split <;> split <;> omega

theorem getRbLength_moveRbHead {n : ℕ} (hn : n ≤ getRbLength buf) :
    getRbLength (moveRbHead buf n) = getRbLength buf - n := by
  have hhead := h.head_lt
  have htail := h.tail_lt
  have hlength := getRbLength_lt h
  have hmod := mod_eq_ite (show buf.head + n < buf.size + buf.size by omega)
  unfold getRbLength moveRbHead at *
  simp only [hmod]
  split at hn <;> split <;> split <;> omega

end Lengths

/-! ### The queue -/

@[simp] theorem length_queue (buf : RingBuf) (cells : ℕ → UInt8) :
    (queue buf cells).length = getRbLength buf := length_window ..

theorem moveRbTail_moveRbTail (buf : RingBuf) (m n : ℕ) :
    moveRbTail (moveRbTail buf m) n = moveRbTail buf (m + n) := by
  simp only [moveRbTail, Nat.mod_add_mod, Nat.add_assoc]

theorem moveRbHead_moveRbHead (buf : RingBuf) (m n : ℕ) :
    moveRbHead (moveRbHead buf m) n = moveRbHead buf (m + n) := by
  simp only [moveRbHead, Nat.mod_add_mod, Nat.add_assoc]

section Queue

variable {buf : RingBuf} (h : buf.WF)
include h

/-- Moving the tail appends what stands behind it. -/
theorem queue_moveRbTail (cells : ℕ → UInt8) {n : ℕ} (hn : n ≤ getRbRoom buf) :
    queue (moveRbTail buf n) cells = queue buf cells ++ window buf.size cells buf.tail n := by
  rw [queue, getRbLength_moveRbTail h hn]
  show window buf.size cells buf.head (getRbLength buf + n) = _
  rw [window_add, ← tail_eq h]
  rfl

/-- A block that fits in front of the end of the page is appended by a copy and a move of the tail. -/
theorem queue_store (cells : ℕ → UInt8) (data : List UInt8) (hroom : data.length ≤ getRbRoom buf)
    (hend : buf.tail + data.length ≤ buf.size) :
    queue (moveRbTail buf data.length) (store cells buf.tail data) = queue buf cells ++ data := by
  have htotal := getRbRoom_add h
  have htail := tail_eq h
  rw [queue, getRbLength_moveRbTail h hroom]
  show window buf.size (store cells buf.tail data) buf.head (getRbLength buf + data.length) = _
  rw [htail]
  exact window_push cells (by omega) (by omega)

/-- **Appending to the ring.**  Data that fits the room is appended, whether it goes round the end
or not. -/
theorem queue_copyIn (cells : ℕ → UInt8) {data : List UInt8} (hroom : data.length ≤ getRbRoom buf) :
    queue (moveRbTail buf data.length) (copyIn buf cells data) = queue buf cells ++ data := by
  have htail := h.tail_lt
  have hlroom := getRbLroom_eq_min buf
  unfold copyIn
  split
  · exact queue_store h cells data hroom (by omega)
  · -- the first piece fills the page, so the tail is at its front for the second
    have hfirst : (data.take (getRbLroom buf)).length = buf.size - buf.tail := by
      rw [List.length_take]
      omega
    have hqueue := queue_store h cells (data.take (getRbLroom buf)) (by omega) (by omega)
    have hwf := moveRbTail_wf h (data.take (getRbLroom buf)).length
    have hfront : (moveRbTail buf (data.take (getRbLroom buf)).length).tail = 0 := by
      show (buf.tail + _) % buf.size = 0
      rw [hfirst, show buf.tail + (buf.size - buf.tail) = buf.size by omega, Nat.mod_self]
    have hroom' := getRbRoom_add hwf
    have hroom'' := getRbRoom_add h
    have hlength := getRbLength_moveRbTail h (n := (data.take (getRbLroom buf)).length) (by omega)
    have hsize : (moveRbTail buf (data.take (getRbLroom buf)).length).size = buf.size := rfl
    have hrest : (data.drop (getRbLroom buf)).length = data.length - getRbLroom buf :=
      List.length_drop
    have hsecond := queue_store hwf (store cells buf.tail (data.take (getRbLroom buf)))
      (data.drop (getRbLroom buf)) (by omega) (by omega)
    rw [hfront, hqueue, List.append_assoc, List.take_append_drop, moveRbTail_moveRbTail,
      ← List.length_append, List.take_append_drop] at hsecond
    exact hsecond

/-- What `copyIn` copies stands behind the tail. -/
theorem window_copyIn (cells : ℕ → UInt8) {data : List UInt8} (hroom : data.length ≤ getRbRoom buf) :
    window buf.size (copyIn buf cells data) buf.tail data.length = data := by
  have hqueue := queue_copyIn h cells hroom
  rw [queue_moveRbTail h (copyIn buf cells data) hroom] at hqueue
  exact (List.append_inj hqueue (by rw [length_queue, length_queue])).2

/-- **Removing from the ring.** -/
theorem queue_moveRbHead (cells : ℕ → UInt8) {n : ℕ} (hn : n ≤ getRbLength buf) :
    queue (moveRbHead buf n) cells = (queue buf cells).drop n := by
  rw [queue, getRbLength_moveRbHead h hn, queue, drop_window cells buf.head hn]
  rfl

/-- **Reading the ring.**  `copyOut` reads the first bytes of the queue, no more than the limit. -/
theorem copyOut_eq_take (cells : ℕ → UInt8) (limit : ℕ) :
    copyOut buf cells limit = (queue buf cells).take limit := by
  have hhead := h.head_lt
  have hlength := getRbLength_lt h
  have hllength := getRbLlength_eq_min buf
  have hspan : ∀ pos n, pos + n ≤ buf.size → span cells pos n = window buf.size cells pos n :=
    fun pos n hle => (window_straight cells hle).symm
  have htake : (queue buf cells).take limit =
      window buf.size cells buf.head (min (getRbLength buf) limit) := by
    by_cases hle : limit ≤ getRbLength buf
    · rw [queue, take_window cells buf.head hle, Nat.min_eq_right hle]
    · rw [List.take_of_length_le (by rw [length_queue]; omega), Nat.min_eq_left (by omega), queue]
  rw [htake]
  show (if min (getRbLlength buf) limit = min (getRbLength buf) limit then _ else _) = _
  split
  · next heq => rw [heq, hspan _ _ (by omega)]
  · next hne =>
      -- the queue goes round the end of the page
      have hfront : (buf.head + min (getRbLlength buf) limit) % buf.size = 0 := by
        rw [show buf.head + min (getRbLlength buf) limit = buf.size by omega, Nat.mod_self]
      have hsplit : window buf.size cells buf.head _ = _ :=
        window_add cells buf.head (min (getRbLlength buf) limit)
          (min (getRbLength buf) limit - min (getRbLlength buf) limit)
      rw [Nat.add_sub_cancel' (by omega), hfront] at hsplit
      rw [hspan _ _ (by omega), hspan _ _ (by omega), hsplit]

end Queue

end ModbusRTU.PortBuffers
