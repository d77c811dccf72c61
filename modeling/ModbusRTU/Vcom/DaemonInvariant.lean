import ModbusRTU.Vcom.DriverWorld
import ModbusRTU.Vcom.DaemonStates

/-!
# What the daemon knows of its port

Between two calls of the daemon the terminal goes on, so what the daemon read of a ring is a view that
can be out of date: of the receive ring it may miss bytes at the end (`RxView`), of the transmit ring it
may count bytes that are gone (`TxView`).  Both stay true while the terminal goes on.

* **`Linked`** — the daemon's record of its port fits the port: the connection, the entry of the
  attributes, its view of the receive ring, and the bytes it waits to be acknowledged.
* **`Steady`** — the shapes of the stack of states between the steps of the main loop: it is at the bottom
  without a connection, or at `netup` or `pause`, or at `idle` over one of these, with one.
* **`Held`** — both.  Each operation of the daemon keeps it.
-/

namespace ModbusRTU.DaemonInvariant

open CallProgram WorldLogic PortBuffers DaemonCalls DaemonStates DriverWorld

/-! ### Views of the rings -/

/-- The bytes that were sent and wait for their acknowledgement are the first of the ring, and
acknowledging them keeps the order in which they were sent. -/
def Pending (n : ℕ) (p : Port) : Prop :=
  n ≠ 0 → ∃ data, data.length = n ∧ data <+: p.rx.bytes ∧ (p.acks ++ [data]).Sublist p.sent

structure RxView (buf r : RingBuf) : Prop where
  head : buf.head = r.head
  tail_lt : buf.tail < r.size
  le : getRbLength buf ≤ getRbLength r

structure TxView (buf r : RingBuf) : Prop where
  tail : buf.tail = r.tail
  head_lt : buf.head < r.size
  le : getRbLength r ≤ getRbLength buf

/-! ### The daemon and its port -/

structure Base (a : VcAttr) (p : Port) : Prop where
  sound : Sound p
  sk : a.sk = p.sk
  attrPtr : a.attrPtr = p.usrPtr
  rxSize : a.rx.size = p.rx.buf.size
  txSize : a.tx.size = p.tx.buf.size

/-- `keep` says whether the bytes that wait for their acknowledgement matter. -/
structure Tied (keep : Prop) (a : VcAttr) (p : Port) : Prop extends Base a p where
  clean : p.rx.clean = false
  pending : keep → Pending a.xmitPending p

structure Linked (keep : Prop) (a : VcAttr) (p : Port) : Prop extends Tied keep a p where
  rx : RxView a.rx p.rx.buf

/-- The states over the bottom in which data is exchanged. -/
def Upper (stk : StkVc) : Prop := stk = [.netup] ∨ stk = [.pause]

/-- The daemon between two steps of the main loop. -/
inductive Steady (a : VcAttr) : Prop where
  | down (hstk : a.stk = []) (hsk : a.sk = none) (hopen : a.eki.isOpen = 0)
      (hpending : a.xmitPending = 0)
  | up (hstk : Upper a.stk) (hsk : a.sk.isSome) (hopen : a.eki.isOpen = 1)
  | idle (below : StkVc) (hstk : a.stk = .idle :: below) (hbelow : Upper below) (hsk : a.sk.isSome)
      (hopen : a.eki.isOpen = 1)

structure Held (a : VcAttr) (p : Port) : Prop where
  linked : Linked True a p
  steady : Steady a

/-- `b` is `a` but for the views of the rings, the transaction number and the line settings. -/
structure Same (a b : VcAttr) : Prop where
  sk : b.sk = a.sk
  stk : b.stk = a.stk
  isOpen : b.eki.isOpen = a.eki.isOpen
  xmitPending : b.xmitPending = a.xmitPending
  buf : b.buf = a.buf

theorem Same.trans {a b c : VcAttr} (h : Same a b) (h' : Same b c) : Same a c :=
  ⟨h'.sk.trans h.sk, h'.stk.trans h.stk, h'.isOpen.trans h.isOpen,
    h'.xmitPending.trans h.xmitPending, h'.buf.trans h.buf⟩

theorem Steady.congr {a b : VcAttr} (h : Steady a) (hstk : b.stk = a.stk) (hsk : b.sk = a.sk)
    (hopen : b.eki.isOpen = a.eki.isOpen) (hpending : b.xmitPending = a.xmitPending) :
    Steady b := by
  cases h with
  | down hstk' hsk' hopen' hpending' =>
      exact .down (hstk.trans hstk') (hsk.trans hsk') (hopen.trans hopen') (hpending.trans hpending')
  | up hstk' hsk' hopen' => exact .up (hstk ▸ hstk') (hsk ▸ hsk') (hopen.trans hopen')
  | idle below hstk' hbelow hsk' hopen' =>
      exact .idle below (hstk.trans hstk') hbelow (hsk ▸ hsk') (hopen.trans hopen')

theorem Steady.same {a b : VcAttr} (h : Steady a) (hsame : Same a b) : Steady b :=
  h.congr hsame.stk hsame.sk hsame.isOpen hsame.xmitPending

/-! ### The terminal goes on -/

def Stable (P : Port → Prop) : Prop := ∀ ⦃p q⦄, P p → Drift p q → P q

theorem bytes_of_drift {p q : Port} (h : Drift p q) : p.rx.bytes <+: q.rx.bytes := by
  obtain ⟨data, cells, n, info, -, hqueue, -, rfl⟩ := h
  exact ⟨data, hqueue.symm⟩

theorem Pending.drift (n : ℕ) : Stable (Pending n) := by
  intro p q h hdrift hn
  obtain ⟨data, hlength, hstart, hsent⟩ := h hn
  have hbytes := bytes_of_drift hdrift
  obtain ⟨_, _, _, _, -, -, -, rfl⟩ := hdrift
  exact ⟨data, hlength, hstart.trans hbytes, hsent⟩

theorem RxView.drift {buf : RingBuf} {p q : Port} (h : RxView buf p.rx.buf) (hwf : p.rx.buf.WF)
    (hdrift : Drift p q) : RxView buf q.rx.buf := by
  obtain ⟨data, _, _, _, hroom, -, -, rfl⟩ := hdrift
  have hlength := getRbLength_moveRbTail hwf hroom
  refine ⟨h.head, h.tail_lt, ?_⟩
  show getRbLength buf ≤ getRbLength (moveRbTail p.rx.buf data.length)
  have hle := h.le
  omega

theorem TxView.drift {buf : RingBuf} {p q : Port} (h : TxView buf p.tx.buf) (hwf : p.tx.buf.WF)
    (hdrift : Drift p q) : TxView buf q.tx.buf := by
  obtain ⟨_, _, n, _, -, -, hn, rfl⟩ := hdrift
  have hlength := getRbLength_moveRbHead hwf hn
  refine ⟨h.tail, h.head_lt, ?_⟩
  show getRbLength (moveRbHead p.tx.buf n) ≤ getRbLength buf
  have hle := h.le
  omega

theorem Base.drift {a : VcAttr} : Stable (Base a) := by
  intro p q h hdrift
  have hsound := h.sound.drift hdrift
  obtain ⟨_, _, _, _, -, -, -, rfl⟩ := hdrift
  exact ⟨hsound, h.sk, h.attrPtr, h.rxSize, h.txSize⟩

variable {keep : Prop} {a b : VcAttr} {p q : Port}

theorem Tied.drift : Stable (Tied keep a) := by
  intro p q h hdrift
  have hbase := Base.drift h.toBase hdrift
  have hpending : keep → Pending a.xmitPending q :=
    fun hkeep => Pending.drift _ (h.pending hkeep) hdrift
  obtain ⟨_, _, _, _, -, -, -, rfl⟩ := hdrift
  exact ⟨hbase, h.clean, hpending⟩

theorem Linked.drift : Stable (Linked keep a) := by
  intro p q h hdrift
  exact ⟨Tied.drift h.toTied hdrift, h.rx.drift h.sound.rx_wf hdrift⟩

/-- What stands at the front of the receive ring stays there. -/
theorem Linked.drift_prefix (data : List UInt8) :
    Stable fun u => Linked keep a u ∧ data <+: u.rx.bytes := by
  intro p q h hdrift
  exact ⟨h.1.drift hdrift, h.2.trans (bytes_of_drift hdrift)⟩

theorem Held.drift : Stable (Held a) := fun _ _ h hdrift => ⟨h.linked.drift hdrift, h.steady⟩

/-! ### Changes that do not matter -/

theorem Base.congr (h : Base a p) (hsk : b.sk = a.sk) (hptr : b.attrPtr = a.attrPtr)
    (hrx : b.rx.size = a.rx.size) (htx : b.tx.size = a.tx.size) : Base b p :=
  ⟨h.sound, hsk.trans h.sk, hptr.trans h.attrPtr, hrx.trans h.rxSize, htx.trans h.txSize⟩

/-- The fields that `Linked` does not look at may change. -/
theorem Linked.congr (h : Linked keep a p) (hsk : b.sk = a.sk) (hptr : b.attrPtr = a.attrPtr)
    (hrx : b.rx = a.rx) (htx : b.tx.size = a.tx.size) (hpending : b.xmitPending = a.xmitPending) :
    Linked keep b p where
  toBase := h.toBase.congr hsk hptr (by rw [hrx]) htx
  clean := h.clean
  pending := fun hkeep => hpending ▸ h.pending hkeep
  rx := hrx ▸ h.rx

theorem Linked.stkOp (h : Linked keep a p) (op : StkOp) : Linked keep (a.stkOp op) p :=
  h.congr rfl rfl rfl rfl rfl

/-- Nothing waits for an acknowledgement any more. -/
theorem Linked.nothingPending (h : Linked keep a p) (hsk : b.sk = a.sk)
    (hptr : b.attrPtr = a.attrPtr) (hrx : b.rx = a.rx) (htx : b.tx.size = a.tx.size)
    (hpending : b.xmitPending = 0) : Linked True b p where
  toBase := h.toBase.congr hsk hptr (by rw [hrx]) htx
  clean := h.clean
  pending := fun _ hne => absurd hpending hne
  rx := hrx ▸ h.rx

theorem Linked.sent (h : Linked keep a p) (more : List (List UInt8)) :
    Linked keep a { p with sent := p.sent ++ more } where
  sound := ⟨h.sound.rx_wf, h.sound.tx_wf, h.sound.written,
    h.sound.acked.trans (List.sublist_append_left ..), h.sound.received⟩
  sk := h.sk
  attrPtr := h.attrPtr
  rxSize := h.rxSize
  txSize := h.txSize
  clean := h.clean
  pending := by
    intro hkeep hne
    obtain ⟨data, hlength, hstart, hsent⟩ := h.pending hkeep hne
    exact ⟨data, hlength, hstart, hsent.trans (List.sublist_append_left ..)⟩
  rx := h.rx

theorem Linked.received (h : Linked keep a p) (more : List UInt8) :
    Linked keep a { p with received := p.received ++ more, unread := p.unread ++ more } where
  sound := by
    have hmay : may p (.recv a.sk more.length) := h.sk
    exact h.sound.after hmay (some more)
  sk := h.sk
  attrPtr := h.attrPtr
  rxSize := h.rxSize
  txSize := h.txSize
  clean := h.clean
  pending := h.pending
  rx := h.rx

/-- The connection is another one, or none. -/
theorem Linked.socket (h : Linked keep a p) (sk : Sock) :
    Linked keep { a with sk := sk } { p with sk := sk } where
  sound := ⟨h.sound.rx_wf, h.sound.tx_wf, h.sound.written, h.sound.acked, h.sound.received⟩
  sk := rfl
  attrPtr := h.attrPtr
  rxSize := h.rxSize
  txSize := h.txSize
  clean := h.clean
  pending := h.pending
  rx := h.rx

/-! ### Rules for calls -/

section Calls

variable {β : Type} {op : Op} {f : Ans op → Daemon β} {Q : β → Port → Prop} {P : Port → Prop}

/-- A call and the rest of the work. -/
theorem wp_ask (hmay : may p op)
    (hf : ∀ r q, answers p op r → Drift (after p op r) q → wp driver (f r) Q q) :
    wp driver (ask op >>= f) Q p :=
  wp_call hmay fun r q hstep => hf r q hstep.1 hstep.2

/-- A call that only asks: what stays true while the terminal goes on is true after it. -/
theorem wp_quiet (hP : Stable P) (hp : P p) (hmay : may p op) (hquiet : ∀ r, after p op r = p)
    (hf : ∀ r q, answers p op r → P q → wp driver (f r) Q q) :
    wp driver (ask op >>= f) Q p := by
  refine wp_ask hmay fun r q hans hdrift => ?_
  rw [hquiet r] at hdrift
  exact hf r q hans (hP hp hdrift)

/-- A program that ends with a call that only asks. -/
theorem wp_quiet_last {Q : Ans op → Port → Prop} (hP : Stable P) (hp : P p) (hmay : may p op)
    (hquiet : ∀ r, after p op r = p) (hQ : ∀ r q, answers p op r → P q → Q r q) :
    wp driver (ask op) Q p := by
  refine ⟨hmay, fun r q hstep => ?_⟩
  have hdrift := hstep.2
  rw [hquiet r] at hdrift
  exact hQ r q hstep.1 (hP hp hdrift)

end Calls

end ModbusRTU.DaemonInvariant
