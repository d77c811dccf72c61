import ModbusRTU.Vcom.ServerRequests

/-!
# The conversation with the server

What the server heard on one connection, and what may be said to it next.  A connection begins with
`CREATE` and six packets that bring the server up to date, in a fixed order; then settings and data
follow in any order; it ends with `CLOSE`, with a `PURGE` before it or not.  A packet has the next
transaction number, or skips one, but for the first two, which have the same.

* **`takeAll_numbered`** — requests that are accepted one after the other are taken under numbers that
  count up.
* **`hear_buildAll`** — so is the stream that the daemon builds for them.
* **`Session.Told`** — the server was told these settings.  It was, if it knows what the daemon remembers
  (`Knows`) and this is what the driver published.
-/

namespace ModbusRTU.ServerSession

open Packets DaemonCalls DaemonStates ServerRequests

/-- How far a connection has come.  It is `cut` when a packet was not sent whole. -/
inductive Phase where
  | fresh | created | rts | dtr | mask | modem | running | purged | closed | cut
  deriving DecidableEq, Repr

/-- What the server heard: the next transaction number, the free space it was told, the settings. -/
structure Session where
  phase : Phase
  next : UInt32
  queue : Option UInt32
  baud : Option UInt32
  line : Option (UInt8 × UInt8 × UInt8)
  flow : Option (UInt32 × UInt32)
  rts : Option Bool
  dtr : Option Bool
  deriving DecidableEq, Repr

/-- A new connection. -/
def Session.new : Session := ⟨.fresh, 0, none, none, none, none, none, none⟩

/-! ### What is accepted -/

/-- A request to a server that is up to date. -/
def Session.run (s : Session) : Request → Option Session
  | .write _ | .getWaitMask | .setWaitMask _ | .waitOnMask | .getModem => some s
  | .queueFree size => some { s with queue := some size }
  | .setBaud baud => some { s with baud := some baud }
  | .setLine stop pair byte => some { s with line := some (stop, pair, byte) }
  | .setFlow chflow flowrep _ => some { s with flow := some (chflow, flowrep) }
  | .setRts on => some { s with rts := some on }
  | .setDtr on => some { s with dtr := some on }
  | .purge _ => some { s with phase := .purged }
  | .close => some { s with phase := .closed }
  | .create .. => none

def Session.accept (s : Session) (asked : Request) : Option Session :=
  match s.phase, asked with
  | .created, .setRts on => some { s with phase := .rts, rts := some on }
  | .rts, .setDtr on => some { s with phase := .dtr, dtr := some on }
  | .dtr, .setWaitMask _ => some { s with phase := .mask }
  | .mask, .getModem => some { s with phase := .modem }
  | .modem, .queueFree size => some { s with phase := .running, queue := some size }
  | .running, asked => s.run asked
  | .purged, .close => some { s with phase := .closed }
  | .cut, .close => some { s with phase := .closed }
  | _, _ => none

def Session.acceptAll (s : Session) : List Request → Option Session
  | [] => some s
  | asked :: more => (s.accept asked).bind fun t => t.acceptAll more

/-- The number is the next one, or the one after it. -/
def Session.InStep (s : Session) (tid : UInt32) : Prop := tid = s.next ∨ tid = s.next + 1

instance (s : Session) (tid : UInt32) : Decidable (s.InStep tid) :=
  inferInstanceAs (Decidable (_ ∨ _))

section Take

variable (dev : UInt16) (port : UInt32)

/-- A request for the device and its port under its number.  The number of `CREATE` is used again by the
packet after it. -/
def Session.take (s : Session) (m : Numbered) : Option Session :=
  if s.phase = .fresh then
    if m = (1, .create dev port) then some { s with phase := .created, next := 1 } else none
  else if s.InStep m.1 then (s.accept m.2).map fun t => { t with next := m.1 + 1 }
  else none

def Session.takeAll (s : Session) : List Numbered → Option Session
  | [] => some s
  | m :: ms => (s.take dev port m).bind fun t => t.takeAll ms

/-- The bytes of a packet, or of more than one. -/
def Session.hear (s : Session) (bytes : List UInt8) : Option Session :=
  (heard bytes).bind (s.takeAll dev port)

end Take

/-- Requests under numbers that count up. -/
def numbered : UInt32 → List Request → List Numbered
  | _, [] => []
  | tid, asked :: more => (tid, asked) :: numbered (tid + 1) more

/-- The number after as many requests. -/
def numberAfter : UInt32 → List Request → UInt32
  | tid, [] => tid
  | tid, _ :: more => numberAfter (tid + 1) more

/-! ### Requests one after the other -/

variable {dev : UInt16} {port : UInt32} {s t : Session} {tid : UInt32}

/-- The number plays no part in what is accepted. -/
theorem accept_next (s : Session) (next : UInt32) (asked : Request) :
    Session.accept { s with next := next } asked =
      (s.accept asked).map fun t => { t with next := next } := by
  obtain ⟨phase, _, _, _, _, _, _, _⟩ := s
  cases phase <;> cases asked <;> rfl

theorem accept_some_ne_fresh {asked : Request} (h : s.accept asked = some t) :
    s.phase ≠ .fresh := by
  intro hfresh
  unfold Session.accept at h
  rw [hfresh] at h
  exact absurd h (by simp)

theorem accept_running {asked : Request} (h : s.phase = .running) : s.accept asked = s.run asked := by
  unfold Session.accept
  rw [h]

theorem accept_created (h : s.phase = .created) (on : Bool) :
    s.accept (.setRts on) = some { s with phase := .rts, rts := some on } := by
  unfold Session.accept
  rw [h]

theorem inStep_next (s : Session) (tid : UInt32) : Session.InStep { s with next := tid } tid := .inl rfl

/-- A request that is accepted is taken under a number that is in step. -/
theorem take_of_accept {asked : Request} (hstep : s.InStep tid) (h : s.accept asked = some t) :
    s.take dev port (tid, asked) = some { t with next := tid + 1 } := by
  rw [Session.take, if_neg (accept_some_ne_fresh h), if_pos hstep, h]
  rfl

theorem acceptAll_next (s : Session) (next : UInt32) (asks : List Request) :
    Session.acceptAll { s with next := next } asks =
      (s.acceptAll asks).map fun t => { t with next := next } := by
  induction asks generalizing s with
  | nil => rfl
  | cons asked more ih =>
      rw [Session.acceptAll, Session.acceptAll, accept_next]
      cases haccept : s.accept asked with
      | none => rfl
      | some u => exact ih u

/-- **Requests under numbers that count up.** -/
theorem takeAll_numbered {asks : List Request} (hstep : s.InStep tid)
    (h : s.acceptAll asks = some t) (hne : asks ≠ []) :
    s.takeAll dev port (numbered tid asks) = some { t with next := numberAfter tid asks } := by
  induction asks generalizing s t tid with
  | nil => exact absurd rfl hne
  | cons asked more ih =>
      rw [Session.acceptAll] at h
      obtain ⟨u, hu, hmore⟩ := Option.bind_eq_some_iff.mp h
      rw [numbered, Session.takeAll, take_of_accept hstep hu, Option.bind_some]
      cases more with
      | nil =>
          obtain rfl : u = t := Option.some.inj hmore
          rfl
      | cons asked' more =>
          have hnext := acceptAll_next u (tid + 1) (asked' :: more)
          rw [hmore, Option.map_some] at hnext
          have hrest := ih (inStep_next u (tid + 1)) hnext (by simp)
          exact hrest

theorem plain_pair {asked asked' : Request} (h : asked.Plain) (h' : asked'.Plain) :
    ∀ x ∈ [asked, asked'], x.Plain :=
  List.forall_mem_cons.mpr ⟨h, List.forall_mem_singleton.mpr h'⟩

theorem forall_numbered {asks : List Request} {P : Request → Prop} (h : ∀ asked ∈ asks, P asked) :
    ∀ m ∈ numbered tid asks, P m.2 := by
  induction asks generalizing tid with
  | nil => exact fun m hm => absurd hm List.not_mem_nil
  | cons asked more ih =>
      intro m hm
      rw [numbered, List.mem_cons] at hm
      rcases hm with rfl | hmore
      · exact h asked List.mem_cons_self
      · exact ih (fun x hx => h x (List.mem_cons_of_mem asked hx)) m hmore

/-- The bytes of requests under numbers that count up. -/
def buildAll (stale tid : UInt32) (asks : List Request) : List UInt8 :=
  (numbered tid asks).flatMap fun m => m.2.build stale m.1

theorem heard_buildAll {stale : UInt32} {asks : List Request} (hfits : ∀ asked ∈ asks, asked.Fits) :
    heard (buildAll stale tid asks) = some (numbered tid asks) :=
  heard_flatMap_build stale (forall_numbered hfits)

/-- **What the daemon builds for them** is heard. -/
theorem hear_buildAll {stale : UInt32} {asks : List Request} (hstep : s.InStep tid)
    (hfits : ∀ asked ∈ asks, asked.Fits) (h : s.acceptAll asks = some t) (hne : asks ≠ []) :
    s.hear dev port (buildAll stale tid asks) = some { t with next := numberAfter tid asks } := by
  rw [Session.hear, heard_buildAll hfits, Option.bind_some, takeAll_numbered hstep h hne]

theorem buildAll_singleton (stale tid : UInt32) (asked : Request) :
    buildAll stale tid [asked] = asked.build stale tid := List.append_nil _

theorem hear_build {stale : UInt32} {asked : Request} (hstep : s.InStep tid) (hfits : asked.Fits)
    (h : s.accept asked = some t) :
    s.hear dev port (asked.build stale tid) = some { t with next := tid + 1 } := by
  have hall : s.acceptAll [asked] = some t := by
    rw [Session.acceptAll, h]
    rfl
  rw [← buildAll_singleton]
  exact hear_buildAll hstep (fun x hx => List.mem_singleton.mp hx ▸ hfits) hall (by simp)

/-- There is data of the terminal in these bytes. -/
def WritesData (bytes : List UInt8) : Prop :=
  ∃ ms tid data, heard bytes = some ms ∧ (tid, Request.write data) ∈ ms

theorem not_writesData_buildAll {stale : UInt32} {asks : List Request}
    (hplain : ∀ asked ∈ asks, asked.Plain) : ¬ WritesData (buildAll stale tid asks) := by
  rintro ⟨ms, tid', data, hms, hmem⟩
  rw [heard_buildAll fun asked hasked => (hplain asked hasked).fits] at hms
  obtain rfl := Option.some.inj hms
  exact forall_numbered hplain _ hmem

theorem not_writesData_build {stale : UInt32} {asked : Request} (hplain : asked.Plain) :
    ¬ WritesData (asked.build stale tid) := by
  rw [← buildAll_singleton]
  exact not_writesData_buildAll fun x hx => List.mem_singleton.mp hx ▸ hplain

/-- The first packet of a connection. -/
theorem hear_create : Session.new.hear dev port (vcPackOpen 1 dev port pbufLen) =
    some { Session.new with phase := .created, next := 1 } := by
  have hheard := heard_build 0 1 (show Request.Fits (.create dev port) from trivial)
  rw [Request.build] at hheard
  have htake : Session.new.take dev port (1, .create dev port) =
      some { Session.new with phase := .created, next := 1 } := by
    rw [Session.take, if_pos (show Session.new.phase = .fresh from rfl)]
    exact if_pos rfl
  rw [Session.hear, hheard, Option.bind_some, Session.takeAll, htake]
  rfl

/-! ### The settings the server was told -/

/-- An output is raised. -/
def raised (ms mask : UInt32) : Bool := ms &&& mask != 0

structure Session.Told (s : Session) (info : AdvPortInfo) : Prop where
  baud : info.baud = 0 ∨ s.baud = some info.baud
  line : s.line = some (info.stop.toUInt8, info.pair.toUInt8, info.byte.toUInt8)
  flow : s.flow = some (hflowOf info.flowctl)
  rts : s.rts = some (raised info.ms advMsRts)
  dtr : s.dtr = some (raised info.ms advMsDtr)

/-- The server was told what the daemon remembers, but for what is marked as unknown. -/
structure Knows (eki : AdvPortInfo) (s : Session) : Prop where
  baud : eki.baud = 0 ∨ s.baud = some eki.baud
  line : eki.pair = advPairUndef ∨
    s.line = some (eki.stop.toUInt8, eki.pair.toUInt8, eki.byte.toUInt8)
  flow : eki.flowctl = advFlowUndef ∨ s.flow = some (hflowOf eki.flowctl)
  rts : s.rts = some (raised eki.ms advMsRts)
  dtr : s.dtr = some (raised eki.ms advMsDtr)

theorem Knows.next {eki : AdvPortInfo} {s : Session} (h : Knows eki s) (next : UInt32) :
    Knows eki { s with next := next } := ⟨h.baud, h.line, h.flow, h.rts, h.dtr⟩

end ModbusRTU.ServerSession
