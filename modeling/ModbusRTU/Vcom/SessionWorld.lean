import ModbusRTU.Vcom.DaemonSettings
import ModbusRTU.Vcom.ServerSession

/-!
# The connection as the daemon's world

A `Wire` is what the server heard on the daemon's connection, the settings that the driver published
last, and how long the daemon waited in `select` since it last received a byte.  `wire` is the world of
the calls that have to do with these; the other calls may be answered anything.  `may` is what the
daemon has to keep to:

* every packet that it sends is one that may come next in the conversation, and after a packet that was
  not sent whole there is only `CLOSE`;
* data of the terminal is sent, and waited for, only after the server was told the settings the driver
  published last;
* it opens a connection only if it has none, and uses and closes the one it has;
* it never waits on a connection with a third `select` if nothing came at all, and never after it waited
  more than twenty seconds for a byte.

`Attuned` is the invariant: at the bottom of the stack the daemon has no connection and remembers
nothing, and in the states above the server is up to date, knows what the daemon remembers and knows
whether it may send.
-/

namespace ModbusRTU.SessionWorld

open CallProgram WorldLogic PortBuffers Packets DaemonCalls DaemonStates DaemonLoop
open DaemonInvariant (Upper)
open DaemonSettings ServerRequests ServerSession

/-- `waited` is in microseconds; `silent` is how often a `select` found nothing at all. -/
structure Wire where
  sk : Sock
  page : AdvPortInfo
  session : Session
  waited : ℕ
  silent : ℕ

/-! ### What the calls do -/

def Wire.connect (w : Wire) (sk : Sock) : Wire :=
  { w with sk := sk, session := .new, waited := 0, silent := 0 }

/-- The packet was not sent whole. -/
def Wire.cut (w : Wire) : Wire := { w with session := { w.session with phase := .cut } }

def Wire.recv (w : Wire) (data : List UInt8) : Wire :=
  if data = [] then w else { w with waited := 0, silent := 0 }

/-- How long a `select` took. -/
def took (r : Selected) : ℕ :=
  if r.ret = 0 then vcPullTime.toNat else vcPullTime.toNat - r.left.toNat

def Wire.select (w : Wire) (r : Selected) : Wire :=
  { w with
    waited := w.waited + took r
    silent := if r.ret = 0 then w.silent + 1 else w.silent }

section World

variable (dev : UInt16) (port : UInt32)

def Wire.send (w : Wire) (data : List UInt8) (sent : ℤ) : Wire :=
  if sent = data.length then { w with session := (w.session.hear dev port data).getD w.session }
  else w.cut

/-- What a call does to the connection. -/
def Wire.after (w : Wire) : (op : Op) → Ans op → Wire
  | .vcConnect, r => w.connect r
  | .send _ data, r => w.send dev port data r
  | .recv _ _, r => w.recv (r.getD [])
  | .close _, _ => { w with sk := none }
  | .select .., r => w.select r
  | _, _ => w

def may (w : Wire) : Op → Prop
  | .vcConnect => w.sk = none
  | .send sk data => sk = w.sk ∧ sk.isSome ∧ (w.session.hear dev port data).isSome ∧
      (WritesData data → w.session.Told w.page)
  | .close sk => sk = w.sk ∧ sk.isSome
  | .select _ read _ =>
      (w.sk.isSome → w.waited ≤ 2 * vcPullTime.toNat ∧ w.silent ≤ 1) ∧
        (read = true → w.session.Told w.page)
  | .exit => False
  | _ => True

def step (w : Wire) : (op : Op) → Ans op → Wire → Prop
  | .attr _, r, u => r = w.page ∧ u = w
  | .rxRead _ n, r, u => r.length = n ∧ u = w
  | .iocGAttrPtr, _, u => ∃ page, Known page ∧ u = { w with page := page }
  | .select .., r, u => r.left ≤ vcPullTime ∧ u = w.select r
  | op, r, u => u = w.after dev port op r

def wire : World Op Ans Wire where
  may := may dev port
  step := step dev port

end World

/-! ### What the daemon knows of the server -/

/-- What the daemon remembers when it has no connection. -/
def unknownInfo : AdvPortInfo := ⟨0, 0, advFlowUndef, 0, advPairUndef, advStopUndef, 0⟩

/-- The free space that the server was told, by the state. -/
def queueOf : VcOps → UInt32
  | .netup => 1024
  | _ => 0

section Invariant

-- the operations leave the device, the port and the time without a packet as they are
variable (dev : UInt16) (port lrecv : UInt32)

structure Joined (a : VcAttr) (w : Wire) : Prop where
  sk : w.sk = a.sk
  devid : a.devid = dev
  port : a.port = port
  lrecv : a.lrecv = lrecv
  page : Known w.page

/-- The bottom of the stack. -/
structure Down (a : VcAttr) (w : Wire) : Prop extends Joined dev port lrecv a w where
  stk : a.stk = []
  none : a.sk = none
  tid : a.tid = 0
  eki : a.eki = unknownInfo

/-- There is a connection and the numbers fit. -/
structure Live (a : VcAttr) (w : Wire) : Prop extends Joined dev port lrecv a w where
  up : a.sk.isSome
  isOpen : a.eki.isOpen = 1
  inStep : w.session.InStep a.tid

/-- The server is up to date. -/
structure Served (current : VcOps) (a : VcAttr) (w : Wire) : Prop extends Live dev port lrecv a w where
  running : w.session.phase = .running
  knows : Knows a.eki w.session
  upper : current = .netup ∨ current = .pause
  queue : w.session.queue = some (queueOf current)

inductive Standing (a : VcAttr) (w : Wire) : Prop where
  | down (h : Down dev port lrecv a w)
  | up (current : VcOps) (h : Served dev port lrecv current a w) (hstk : a.stk = [current])
  | idle (current : VcOps) (h : Served dev port lrecv current a w) (hstk : a.stk = [.idle, current])

/-- A silent `select` makes the daemon ask the server for an answer, another one ends the
connection; the rest of the time is counted in `lrecv`. -/
structure Timely (a : VcAttr) (w : Wire) : Prop where
  waited : w.waited ≤ lrecv.toNat + vcPullTime.toNat * w.silent
  silent : w.silent ≤ if stkCurnt a = .idle then 1 else 0

structure Attuned (a : VcAttr) (w : Wire) : Prop where
  standing : Standing dev port lrecv a w
  timely : a.sk.isSome → Timely lrecv a w

end Invariant

/-! ### Changes that do not matter -/

/-- `b` is `a` but for the stack, the views of the rings, what waits for its acknowledgement and the
buffer. -/
structure Alike (a b : VcAttr) : Prop where
  sk : b.sk = a.sk
  devid : b.devid = a.devid
  port : b.port = a.port
  lrecv : b.lrecv = a.lrecv
  tid : b.tid = a.tid
  eki : b.eki = a.eki

structure Kin (a b : VcAttr) : Prop extends Alike a b where
  stk : b.stk = a.stk

theorem Kin.refl (a : VcAttr) : Kin a a := ⟨⟨rfl, rfl, rfl, rfl, rfl, rfl⟩, rfl⟩

theorem Kin.trans {a b c : VcAttr} (h : Kin a b) (h' : Kin b c) : Kin a c :=
  ⟨⟨h'.sk.trans h.sk, h'.devid.trans h.devid, h'.port.trans h.port, h'.lrecv.trans h.lrecv,
    h'.tid.trans h.tid, h'.eki.trans h.eki⟩, h'.stk.trans h.stk⟩

variable {dev : UInt16} {port lrecv : UInt32} {current : VcOps} {a b : VcAttr} {w u : Wire}

theorem Joined.congr (h : Joined dev port lrecv a w) (hsk : b.sk = a.sk) (hdevid : b.devid = a.devid)
    (hport : b.port = a.port) (hlrecv : b.lrecv = a.lrecv) : Joined dev port lrecv b w :=
  ⟨h.sk.trans hsk.symm, hdevid.trans h.devid, hport.trans h.port, hlrecv.trans h.lrecv, h.page⟩

theorem Live.alike (h : Live dev port lrecv a w) (hab : Alike a b) : Live dev port lrecv b w := by
  refine ⟨h.toJoined.congr hab.sk hab.devid hab.port hab.lrecv, ?_, ?_, ?_⟩
  · rw [hab.sk]
    exact h.up
  · rw [hab.eki]
    exact h.isOpen
  · rw [hab.tid]
    exact h.inStep

theorem Served.alike (h : Served dev port lrecv current a w) (hab : Alike a b) :
    Served dev port lrecv current b w :=
  ⟨h.toLive.alike hab, h.running, hab.eki ▸ h.knows, h.upper, h.queue⟩

theorem Served.stkOp (h : Served dev port lrecv current a w) (op : StkOp) :
    Served dev port lrecv current (a.stkOp op) w := h.alike ⟨rfl, rfl, rfl, rfl, rfl, rfl⟩

theorem Standing.kin (h : Standing dev port lrecv a w) (hkin : Kin a b) :
    Standing dev port lrecv b w := by
  cases h with
  | down h =>
      exact .down ⟨h.toJoined.congr hkin.sk hkin.devid hkin.port hkin.lrecv, hkin.stk.trans h.stk,
        hkin.sk.trans h.none, hkin.tid.trans h.tid, hkin.eki.trans h.eki⟩
  | up current h hstk => exact .up current (h.alike hkin.toAlike) (hkin.stk.trans hstk)
  | idle current h hstk => exact .idle current (h.alike hkin.toAlike) (hkin.stk.trans hstk)

theorem stkCurnt_congr (hstk : b.stk = a.stk) : stkCurnt b = stkCurnt a := by
  unfold stkCurnt
  rw [hstk]

theorem Timely.kin (h : Timely lrecv a w) (hkin : Kin a b) : Timely lrecv b w := by
  refine ⟨h.waited, ?_⟩
  rw [stkCurnt_congr hkin.stk]
  exact h.silent

theorem Attuned.kin (h : Attuned dev port lrecv a w) (hkin : Kin a b) : Attuned dev port lrecv b w := by
  refine ⟨h.standing.kin hkin, fun hup => (h.timely ?_).kin hkin⟩
  rwa [← hkin.sk]

/-- The driver publishes other settings. -/
def Wire.publish (w : Wire) (page : AdvPortInfo) : Wire := { w with page := page }

/-- Nothing happens but that. -/
def Published (w u : Wire) : Prop := u = w ∨ ∃ page, Known page ∧ u = w.publish page

theorem Joined.publish (h : Joined dev port lrecv a w) {page : AdvPortInfo} (hpage : Known page) :
    Joined dev port lrecv a (w.publish page) := ⟨h.sk, h.devid, h.port, h.lrecv, hpage⟩

theorem Served.publish (h : Served dev port lrecv current a w) {page : AdvPortInfo}
    (hpage : Known page) : Served dev port lrecv current a (w.publish page) :=
  ⟨⟨h.toJoined.publish hpage, h.up, h.isOpen, h.inStep⟩, h.running, h.knows, h.upper, h.queue⟩

theorem Joined.published (h : Joined dev port lrecv a w) (hkin : Kin a b) (hu : Published w u) :
    Joined dev port lrecv b u := by
  rcases hu with rfl | ⟨page, hpage, rfl⟩
  · exact h.congr hkin.sk hkin.devid hkin.port hkin.lrecv
  · exact (h.publish hpage).congr hkin.sk hkin.devid hkin.port hkin.lrecv

theorem Standing.published (h : Standing dev port lrecv a w) (hu : Published w u) :
    Standing dev port lrecv a u := by
  rcases hu with rfl | ⟨page, hpage, rfl⟩
  · exact h
  · cases h with
    | down h => exact .down ⟨h.toJoined.publish hpage, h.stk, h.none, h.tid, h.eki⟩
    | up current h hstk => exact .up current (h.publish hpage) hstk
    | idle current h hstk => exact .idle current (h.publish hpage) hstk

theorem Published.times (h : Published w u) : u.waited = w.waited ∧ u.silent = w.silent := by
  rcases h with rfl | ⟨page, -, rfl⟩
  · exact ⟨rfl, rfl⟩
  · exact ⟨rfl, rfl⟩

theorem Attuned.published (h : Attuned dev port lrecv a w) (hu : Published w u) :
    Attuned dev port lrecv a u := by
  obtain ⟨hwaited, hsilent⟩ := hu.times
  refine ⟨h.standing.published hu, fun hup => ⟨?_, ?_⟩⟩
  · rw [hwaited, hsilent]
    exact (h.timely hup).waited
  · rw [hsilent]
    exact (h.timely hup).silent

theorem Attuned.joined (h : Attuned dev port lrecv a w) : Joined dev port lrecv a w := by
  cases h.standing with
  | down h => exact h.toJoined
  | up current h hstk => exact h.toJoined
  | idle current h hstk => exact h.toJoined

theorem Down.attuned (h : Down dev port lrecv a w) : Attuned dev port lrecv a w := by
  refine ⟨.down h, fun hup => ?_⟩
  rw [h.none] at hup
  exact absurd hup (by decide)

theorem stkCurnt_of_stk {below : StkVc} (hstk : a.stk = current :: below) : stkCurnt a = current := by
  unfold stkCurnt
  rw [hstk]
  rfl

/-- In `netup` and `pause` nothing was silent. -/
theorem Served.attuned (h : Served dev port lrecv current a w) (hstk : a.stk = [current])
    (hwaited : w.waited ≤ lrecv.toNat) (hsilent : w.silent = 0) : Attuned dev port lrecv a w := by
  refine ⟨.up current h hstk, fun _ => ⟨by omega, ?_⟩⟩
  rw [hsilent]
  exact Nat.zero_le _

theorem Served.attuned_idle (h : Served dev port lrecv current a w) (hstk : a.stk = [.idle, current])
    (hwaited : w.waited ≤ lrecv.toNat + vcPullTime.toNat * w.silent) (hsilent : w.silent ≤ 1) :
    Attuned dev port lrecv a w := by
  refine ⟨.idle current h hstk, fun _ => ⟨hwaited, ?_⟩⟩
  rw [stkCurnt_of_stk hstk]
  exact hsilent

theorem Served.isUpper (h : Served dev port lrecv current a w) (hstk : a.stk = [current]) :
    Upper a.stk := by
  rw [hstk]
  rcases h.upper with rfl | rfl
  · exact .inl rfl
  · exact .inr rfl

/-- In `netup` and `pause` the server was told the settings that were published last. -/
structure Informed (dev : UInt16) (port lrecv : UInt32) (a : VcAttr) (w : Wire) : Prop
    extends Attuned dev port lrecv a w where
  told : Upper a.stk → w.session.Told w.page

theorem Down.informed (h : Down dev port lrecv a w) : Informed dev port lrecv a w := by
  refine ⟨h.attuned, fun hupper => ?_⟩
  rw [h.stk] at hupper
  exact absurd hupper (by simp [Upper])

/-! ### Packets and times -/

theorem Joined.cut (h : Joined dev port lrecv a w) : Joined dev port lrecv a w.cut :=
  ⟨h.sk, h.devid, h.port, h.lrecv, h.page⟩

/-- What was not sent whole leaves the connection. -/
theorem Joined.unsent (h : Joined dev port lrecv a w) (hu : u = w ∨ u = w.cut) :
    Joined dev port lrecv a u := by
  rcases hu with rfl | rfl
  · exact h
  · exact h.cut

theorem Joined.recv (h : Joined dev port lrecv a w) (data : List UInt8) :
    Joined dev port lrecv a (w.recv data) := by
  unfold Wire.recv
  split
  · exact h
  · exact ⟨h.sk, h.devid, h.port, h.lrecv, h.page⟩

theorem Served.recv (h : Served dev port lrecv current a w) (data : List UInt8) :
    Served dev port lrecv current a (w.recv data) := by
  unfold Wire.recv
  split
  · exact h
  · exact ⟨⟨⟨h.sk, h.devid, h.port, h.lrecv, h.page⟩, h.up, h.isOpen, h.inStep⟩, h.running, h.knows,
      h.upper, h.queue⟩

theorem Standing.recv (h : Standing dev port lrecv a w) (data : List UInt8) :
    Standing dev port lrecv a (w.recv data) := by
  cases h with
  | down h => exact .down ⟨h.toJoined.recv data, h.stk, h.none, h.tid, h.eki⟩
  | up current h hstk => exact .up current (h.recv data) hstk
  | idle current h hstk => exact .idle current (h.recv data) hstk

/-- The count of the time without a packet starts again, or goes on. -/
theorem Joined.restart (h : Joined dev port lrecv a w) (next : UInt32) :
    Joined dev port next { a with lrecv := next } w := ⟨h.sk, h.devid, h.port, rfl, h.page⟩

theorem Down.restart (h : Down dev port lrecv a w) (next : UInt32) :
    Down dev port next { a with lrecv := next } w :=
  ⟨h.toJoined.restart next, h.stk, h.none, h.tid, h.eki⟩

theorem Served.restart (h : Served dev port lrecv current a w) (next : UInt32) :
    Served dev port next current { a with lrecv := next } w :=
  ⟨⟨h.toJoined.restart next, h.up, h.isOpen, h.inStep⟩, h.running, h.knows, h.upper, h.queue⟩

theorem Standing.restart (h : Standing dev port lrecv a w) (next : UInt32) :
    Standing dev port next { a with lrecv := next } w := by
  cases h with
  | down h => exact .down (h.restart next)
  | up current h hstk => exact .up current (h.restart next) hstk
  | idle current h hstk => exact .idle current (h.restart next) hstk

/-- A request that changes nothing but the number. -/
theorem Served.counted (h : Served dev port lrecv current a w) :
    Served dev port lrecv current { a with tid := a.tid + 1 }
      { w with session := { w.session with next := a.tid + 1 } } :=
  ⟨⟨⟨h.sk, h.devid, h.port, h.lrecv, h.page⟩, h.up, h.isOpen, .inl rfl⟩, h.running,
    h.knows.next _, h.upper, h.queue⟩

theorem Served.select (h : Served dev port lrecv current a w) (r : Selected) :
    Served dev port lrecv current a (w.select r) :=
  ⟨⟨⟨h.sk, h.devid, h.port, h.lrecv, h.page⟩, h.up, h.isOpen, h.inStep⟩, h.running, h.knows, h.upper,
    h.queue⟩

/-- In `netup` and `pause` the times are simple. -/
theorem Attuned.unhurried (h : Attuned dev port lrecv a w) (hserved : Served dev port lrecv current a w)
    (hstk : a.stk = [current]) : w.waited ≤ lrecv.toNat ∧ w.silent = 0 := by
  have htimely := h.timely hserved.up
  have hwaited := htimely.waited
  have hsilent := htimely.silent
  have hidle : current ≠ .idle := by
    rcases hserved.upper with rfl | rfl <;> decide
  rw [stkCurnt_of_stk hstk, if_neg hidle, Nat.le_zero] at hsilent
  rw [hsilent, Nat.mul_zero, Nat.add_zero] at hwaited
  exact ⟨hwaited, hsilent⟩

/-! ### Rules for calls -/

section Calls

variable {β : Type} {op : Op} {f : Ans op → Daemon β} {Q : β → Wire → Prop}

/-- A call that leaves the wire as it is, and the rest of the work. -/
theorem wp_still (hmay : may dev port w op) (hstill : ∀ r u, step dev port w op r u → u = w)
    (hf : ∀ r, step dev port w op r w → wp (wire dev port) (f r) Q w) :
    wp (wire dev port) (ask op >>= f) Q w := by
  refine wp_call hmay fun r u hstep => ?_
  have hstep' : step dev port w op r u := hstep
  obtain rfl := hstill r u hstep'
  exact hf r hstep'

theorem wp_still_last {Q : Ans op → Wire → Prop} (hmay : may dev port w op)
    (hstill : ∀ r u, step dev port w op r u → u = w) (hQ : ∀ r, step dev port w op r w → Q r w) :
    wp (wire dev port) (ask op) Q w := by
  refine ⟨hmay, fun r u hstep => ?_⟩
  have hstep' : step dev port w op r u := hstep
  obtain rfl := hstill r u hstep'
  exact hQ r hstep'

end Calls

end ModbusRTU.SessionWorld
