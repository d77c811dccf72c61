import ModbusRTU.Vcom.SessionRuns
import ModbusRTU.Vcom.UartRuns

/-!
# The terminal, the daemon and the server

The daemon runs between the driver of `adv_main.c` and `adv_uart.c` and a server that listens.  Any
number of passes, any answers of the server, any operations of the terminal between two calls.

* **`site_simulates`** — such a run is a run on the connection, so what was proved there holds here.
* **`conversation_of_reached`** — each packet that is sent may come next in the conversation.
* **`told_of_reached`** — data of the terminal is sent only to a server that was told the settings which
  the driver published last.
* **`waited_of_reached`** — at no point has the daemon waited for a byte of the server for more than thirty
  seconds.
* **`attuned_of_reached`** — between two passes the server knows what the daemon remembers.
-/

namespace ModbusRTU.SystemRuns

open CallProgram WorldLogic PortBuffers DaemonCalls DaemonLoop DaemonInvariant DaemonRuns UartPorts
open UartRuns ServerRequests ServerSession SessionWorld SessionRuns

/-- The driver with its port, what the server heard, and the time. -/
structure Site where
  uart : UartPort
  session : Session
  waited : ℕ
  silent : ℕ

/-- What the daemon's connection is, and what the driver published last. -/
def Site.wire (s : Site) : Wire :=
  ⟨s.uart.port.sk, s.uart.port.attrs s.uart.port.usrPtr, s.session, s.waited, s.silent⟩

/-- What `select` leaves of its time is not more than it was given. -/
def InTime : (op : Op) → Ans op → Prop
  | .select .., r => r.left ≤ vcPullTime
  | _, _ => True

/-- The driver does what it does, and the server hears what is sent. -/
def site (dev : UInt16) (port : UInt32) : World Op Ans Site where
  may := fun s op => uartDriver.may s.uart op ∧ (wire dev port).may s.wire op
  step := fun s op r t =>
    uartDriver.step s.uart op r t.uart ∧ InTime op r ∧
      t.session = (s.wire.after dev port op r).session ∧
      t.waited = (s.wire.after dev port op r).waited ∧
      t.silent = (s.wire.after dev port op r).silent

/-! ### A step of the system -/

/-- The terminal changes neither the connection nor what was published. -/
theorem page_of_drift {p q : DriverWorld.Port} (h : DriverWorld.Drift p q) :
    q.sk = p.sk ∧ q.attrs q.usrPtr = p.attrs p.usrPtr := by
  obtain ⟨_, _, _, _, -, -, -, rfl⟩ := h
  exact ⟨rfl, rfl⟩

theorem page_of_advMainClear (p : DriverWorld.Port) (mask : UInt32) :
    (DriverWorld.advMainClear p mask).sk = p.sk ∧
      (DriverWorld.advMainClear p mask).attrs (DriverWorld.advMainClear p mask).usrPtr =
        p.attrs p.usrPtr := by
  unfold DriverWorld.advMainClear
  dsimp only
  split_ifs <;> exact ⟨rfl, rfl⟩

/-- Only where it is asked for the settings does the driver publish others. -/
theorem after_wire (dev : UInt16) (port : UInt32) (s : Site) {op : Op} (r : Ans op)
    (hop : op ≠ .iocGAttrPtr) :
    (s.wire.after dev port op r).sk = (DriverWorld.after s.uart.port op r).sk ∧
      (s.wire.after dev port op r).page =
        (DriverWorld.after s.uart.port op r).attrs (DriverWorld.after s.uart.port op r).usrPtr := by
  cases op with
  | iocGAttrPtr => exact absurd rfl hop
  | iocSClr mask =>
      obtain ⟨hsk, hpage⟩ := page_of_advMainClear s.uart.port mask
      exact ⟨hsk.symm, hpage.symm⟩
  | send sk data =>
      unfold Wire.after Wire.send
      dsimp only
      split <;> exact ⟨rfl, rfl⟩
  | recv sk len =>
      unfold Wire.after Wire.recv
      dsimp only
      split <;> exact ⟨rfl, rfl⟩
  | _ => exact ⟨rfl, rfl⟩

variable {dev : UInt16} {port : UInt32} {s t : Site}

/-- **A step of the system** is a step on the connection. -/
theorem step_site (hok : Ok s.uart) {op : Op} {r : Ans op} (hmay : DriverWorld.may s.uart.port op)
    (hstep : (site dev port).step s op r t) :
    Ok t.uart ∧ (wire dev port).step s.wire op r t.wire := by
  obtain ⟨huart, htime, hsession, hwaited, hsilent⟩ := hstep
  obtain ⟨hok', hanswer, hdrift⟩ := step_uartDriver hok huart
  refine ⟨hok', ?_⟩
  obtain ⟨hsk, hpage⟩ := page_of_drift hdrift
  by_cases hop : op = .iocGAttrPtr
  · subst hop
    refine ⟨t.uart.port.attrs t.uart.port.usrPtr, hok'.attrs _, ?_⟩
    rw [Site.wire, hsession, hwaited, hsilent, hsk]
    rfl
  · have heq : t.wire = s.wire.after dev port op r := by
      obtain ⟨hsk', hpage'⟩ := after_wire dev port s r hop
      rw [Site.wire, hsession, hwaited, hsilent, hsk, hpage, ← hsk', ← hpage']
    cases op with
    | iocGAttrPtr => exact absurd rfl hop
    | attr ptr =>
        obtain rfl : ptr = s.uart.port.usrPtr := hmay
        exact ⟨hanswer, heq⟩
    | rxRead pos n =>
        refine ⟨?_, heq⟩
        rw [show r = _ from hanswer]
        exact SpanCopies.length_span ..
    | select sk read write => exact ⟨htime, heq⟩
    | _ => exact heq

/-! ### Runs -/

/-- A point of a run of the system. -/
abbrev SiteReached (a : VcAttr) (s₀ : Site) : Daemon VcAttr → Site → Prop :=
  Reached (site a.devid a.port) (mainStart a) mainPass s₀

section Runs

variable {a b : VcAttr} {s₀ : Site} (hok : Ok s₀.uart) (hrest : AtRest s₀.uart.port)

/-- The driver's part of a run. -/
theorem uart_of_reached {prog : Daemon VcAttr} (h : SiteReached a s₀ prog s) :
    UartReached a s₀.uart prog s.uart := by
  have hstep : ∀ v op (k : Ans op → Daemon VcAttr) r u, SiteReached a s₀ (.call op k) v → True →
      (site a.devid a.port).step v op r u → True ∧ uartDriver.step v.uart op r u.uart :=
    fun _ _ _ _ _ _ _ hstep => ⟨trivial, hstep.1⟩
  exact (Reached.simulate trivial hstep h).2

include hok hrest

/-- **A run of the system** is a run on the connection. -/
theorem site_simulates {prog : Daemon VcAttr} (h : SiteReached a s₀ prog s) :
    WireReached a s₀.wire prog s.wire := by
  have hstep : ∀ v op (k : Ans op → Daemon VcAttr) r u, SiteReached a s₀ (.call op k) v → Ok v.uart →
      (site a.devid a.port).step v op r u →
      Ok u.uart ∧ (wire a.devid a.port).step v.wire op r u.wire :=
    fun _ _ _ _ _ hreach hv hstep =>
      step_site hv (uart_may hok hrest (uart_of_reached hreach)) hstep
  refine (Reached.simulate ?_ hstep h).2
  exact hok

/-- **Every call may be made**, by the driver and by the server. -/
theorem site_may {op : Op} {k : Ans op → Daemon VcAttr} (h : SiteReached a s₀ (.call op k) s) :
    (site a.devid a.port).may s op :=
  ⟨uart_may hok hrest (uart_of_reached h),
    wire_may hrest.sk (hok.attrs _) (site_simulates hok hrest h)⟩

end Runs

/-! ### The first run -/

def newSite : Site := ⟨newUart, .new, 0, 0⟩

def siteReply (ops : List UartOp) (incoming : ℕ → List UInt8) (i : ℕ) (s : Site) (op : Op) :
    Option (Ans op × Site) :=
  (replyOf ops incoming i s.uart op).map fun x =>
    (x.1, ⟨x.2, (s.wire.after 0x1526 1 op x.1).session, (s.wire.after 0x1526 1 op x.1).waited,
      (s.wire.after 0x1526 1 op x.1).silent⟩)

theorem inTime_answerOf {p : DriverWorld.Port} {incoming : List UInt8} {op : Op} {r : Ans op}
    (h : answerOf p incoming op = some r) : InTime op r := by
  cases op with
  | select sk read write =>
      obtain rfl := Option.some.inj h
      exact Nat.zero_le _
  | _ => exact trivial

theorem step_siteReply {ops : List UartOp} {incoming : ℕ → List UInt8} (i : ℕ) (s : Site) (op : Op)
    (r : Ans op) (t : Site) (h : siteReply ops incoming i s op = some (r, t)) :
    (site 0x1526 1).step s op r t := by
  obtain ⟨⟨r', u⟩, hreply, hpair⟩ := Option.map_eq_some_iff.mp h
  obtain ⟨rfl, rfl⟩ := Prod.mk.inj hpair
  exact ⟨step_replyOf i s.uart op _ u hreply, inTime_answerOf (answer_of_replyOf hreply), rfl, rfl, rfl⟩

theorem exists_siteReached (n : ℕ) (check : Daemon VcAttr × Site → Bool)
    (h : (follow (siteReply firstOps firstBytes) (mainStart newAttr) mainPass newSite n).any check = true) :
    ∃ prog s, SiteReached newAttr newSite prog s ∧ check (prog, s) = true :=
  exists_reached step_siteReply h

/-- The program is about to send the bytes of the terminal. -/
def writing : Daemon VcAttr × Site → Bool
  | (.call (.send _ data) _, _) => heard data == some [(9, .write [1, 2, 3])]
  | _ => false

theorem exists_writing : ∃ sk data k s, SiteReached newAttr newSite (.call (.send sk data) k) s ∧
    heard data = some [(9, .write [1, 2, 3])] := by
  obtain ⟨prog, s, h, hcheck⟩ := exists_siteReached 60 writing (by decide +kernel)
  cases prog with
  | ret b => exact absurd hcheck Bool.false_ne_true
  | call op k =>
      cases op with
      | send sk data => exact ⟨sk, data, k, s, h, eq_of_beq hcheck⟩
      | _ => exact absurd hcheck Bool.false_ne_true

/-! ### Safety -/

variable {a b : VcAttr} {s₀ : Site}

/-- **The conversation.**  A packet that is sent may come next. -/
theorem conversation_of_reached (hok : Ok s₀.uart) (hrest : AtRest s₀.uart.port) {sk : Sock}
    {data : List UInt8} {k : ℤ → Daemon VcAttr} (h : SiteReached a s₀ (.call (.send sk data) k) s) :
    sk = s.uart.port.sk ∧ (s.session.hear a.devid a.port data).isSome := by
  obtain ⟨-, hsk, -, hhear, -⟩ := site_may hok hrest h
  exact ⟨hsk, hhear⟩

theorem conversation_of_reached_first : ∃ sk data k s,
    SiteReached newAttr newSite (.call (.send sk data) k) s ∧
      sk = s.uart.port.sk ∧ (s.session.hear 0x1526 1 data).isSome := by
  obtain ⟨sk, data, k, s, h, -⟩ := exists_writing
  exact ⟨sk, data, k, s, h,
    conversation_of_reached (ok_advUartInit _ _ _) (atRest_advMainInit _ _) h⟩

/-- **Data follows its settings.** -/
theorem told_of_reached (hok : Ok s₀.uart) (hrest : AtRest s₀.uart.port) {sk : Sock}
    {data : List UInt8} {k : ℤ → Daemon VcAttr} (h : SiteReached a s₀ (.call (.send sk data) k) s)
    (hdata : WritesData data) : s.session.Told (s.uart.port.attrs s.uart.port.usrPtr) := by
  obtain ⟨-, -, -, -, htold⟩ := site_may hok hrest h
  exact htold hdata

theorem told_of_reached_first : ∃ sk data k s,
    SiteReached newAttr newSite (.call (.send sk data) k) s ∧
      s.session.Told (s.uart.port.attrs s.uart.port.usrPtr) := by
  obtain ⟨sk, data, k, s, h, hheard⟩ := exists_writing
  exact ⟨sk, data, k, s, h, told_of_reached (ok_advUartInit _ _ _) (atRest_advMainInit _ _) h
    ⟨_, 9, [1, 2, 3], hheard, List.mem_singleton_self _⟩⟩

/-- **A silent server is given up.** -/
theorem waited_of_reached (hok : Ok s₀.uart) (hrest : AtRest s₀.uart.port) {prog : Daemon VcAttr}
    (h : SiteReached a s₀ prog s) (hup : s.uart.port.sk.isSome) :
    s.waited ≤ 3 * vcPullTime.toNat :=
  wire_waited hrest.sk (hok.attrs _) (site_simulates hok hrest h) hup

/-- After the first `select`. -/
theorem waited_of_reached_first : ∃ prog s, SiteReached newAttr newSite prog s ∧
    s.waited = 10000000 ∧ s.waited ≤ 3 * vcPullTime.toNat := by
  obtain ⟨prog, s, h, hcheck⟩ := exists_siteReached 63
    (fun x => x.2.waited == 10000000 && x.2.uart.port.sk.isSome) (by decide +kernel)
  obtain ⟨hwaited, hup⟩ := Bool.and_eq_true_iff.mp hcheck
  exact ⟨prog, s, h, eq_of_beq hwaited,
    waited_of_reached (ok_advUartInit _ _ _) (atRest_advMainInit _ _) h hup⟩

/-- **Between two passes** the daemon is in tune with the server and the driver. -/
theorem attuned_of_reached (hok : Ok s₀.uart) (hrest : AtRest s₀.uart.port)
    (h : SiteReached a s₀ (pure b) s) :
    Tuned a.devid a.port b s.wire ∧ DaemonInvariant.Held b s.uart.port :=
  ⟨wire_tuned hrest.sk (hok.attrs _) (site_simulates hok hrest h),
    held_of_reached hrest (uart_simulates hok (uart_of_reached h)).2⟩

/-- At the end of the first pass. -/
theorem attuned_of_reached_first : ∃ b s, SiteReached newAttr newSite (pure b) s ∧
    s.uart.port.drained = [7, 8] ∧ Tuned 0x1526 1 b s.wire ∧ DaemonInvariant.Held b s.uart.port := by
  obtain ⟨prog, s, h, hcheck⟩ := exists_siteReached 69
    (fun x => x.2.uart.port.drained == [7, 8] && returned x.1) (by decide +kernel)
  obtain ⟨hdrained, hreturned⟩ := Bool.and_eq_true_iff.mp hcheck
  cases prog with
  | ret b =>
      exact ⟨b, s, h, eq_of_beq hdrained,
        attuned_of_reached (ok_advUartInit _ _ _) (atRest_advMainInit _ _) h⟩
  | call op k => exact absurd hreturned Bool.false_ne_true

end ModbusRTU.SystemRuns
