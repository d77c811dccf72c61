import ModbusRTU.Interaction.CallExpansion
import ModbusRTU.Vcom.ConnectCalls
import ModbusRTU.Vcom.UartRuns

/-!
# The sockets of the daemon

In `DaemonRuns` the call `vcConnect` gives a connection or none.  Here it is the program `vc_connect`, and
the process has sockets: each is in a state, and each call on it needs one of them.

* **`implements_hostCall`** — `vc_connect` does what the call stands for, while the terminal goes on.
* **`host_may`** — so over any number of connections the daemon uses a socket only when it is connected, and
  closes it once.
* **`undefined_iff_unresolved`** — `sknum` and `skmax` are read without a value exactly after a lookup that
  failed.
* **`sockets_of_reached`** — between two passes every socket is as it was at the start, but the one in
  `attr->sk`.
-/

namespace ModbusRTU.SocketRuns

open CallProgram WorldLogic CallExpansion PortBuffers DaemonCalls DaemonLoop DriverWorld DaemonRuns
open ConnectCalls UartRuns

/-! ### The daemon with its sockets -/

/-- A call of the daemon, or one of `vc_connect`. -/
abbrev HostOp := Op ⊕ NetOp

@[reducible] def HostAns : HostOp → Type
  | .inl op => Ans op
  | .inr op => NetAns op

/-- `vc_connect` in place of the call. -/
def hostCall (hasRed : Bool) : (op : Op) → Prog HostOp HostAns (Ans op)
  | .vcConnect => beside Sum.inr (fun _ r => r) (vcConnect hasRed)
  | op => Prog.perform (Sum.inl op)

def hostStart (hasRed : Bool) (a : VcAttr) : Prog HostOp HostAns VcAttr :=
  expand (hostCall hasRed) (mainStart a)

def hostPass (hasRed : Bool) (a : VcAttr) : Prog HostOp HostAns VcAttr :=
  expand (hostCall hasRed) (mainPass a)

/-- A port of the driver and the sockets of the process.  What the port says of the connection is not
used. -/
structure Host where
  port : Port
  net : NetState

/-- What a call of the daemon needs of its socket. -/
def sockMay (s : NetState) : Op → Prop
  | .fdcheck sk | .send sk _ | .siocinq sk | .siocoutq sk | .close sk =>
      ∃ fd, sk = some fd ∧ s.sockets fd = .connected
  | .recv sk _ | .selectRead sk => ∀ fd, sk = some fd → s.sockets fd = .connected
  | .vcConnect | .exit => False
  | _ => True

def netAfter (s : NetState) : Op → NetState
  | .close (some fd) => s.set fd .closed
  | _ => s

def host : World HostOp HostAns Host where
  may := fun v op =>
    match op with
    | .inl op => sockMay v.net op ∧ v.net.unresolved = false
    | .inr op => NetMay v.net op
  step := fun v op r u =>
    match op, r with
    | .inl op, r => answers v.port op r ∧ Drift (after v.port op r) u.port ∧ u.net = netAfter v.net op
    | .inr op, r => netStep v.net op r u.net ∧ Drift v.port u.port

/-! ### The port without its connection -/

theorem drift_socket {p q : Port} (h : Drift p q) (sk : Sock) :
    Drift { p with sk := sk } { q with sk := sk } := by
  obtain ⟨data, cells, n, info, hroom, hqueue, hn, rfl⟩ := h
  exact ⟨data, cells, n, info, hroom, hqueue, hn, rfl⟩

theorem answers_socket (p : Port) (sk : Sock) {op : Op} (r : Ans op) :
    answers { p with sk := sk } op r ↔ answers p op r := by
  cases op <;> exact Iff.rfl

theorem after_socket (p : Port) (sk : Sock) {op : Op} (hconnect : op ≠ .vcConnect)
    (hclose : ∀ x, op ≠ .close x) (r : Ans op) :
    after { p with sk := sk } op r = { after p op r with sk := sk } := by
  cases op with
  | vcConnect => exact absurd rfl hconnect
  | close x => exact absurd rfl (hclose x)
  | iocSClr mask =>
      show advMainClear { p with sk := sk } mask = { advMainClear p mask with sk := sk }
      unfold advMainClear
      dsimp only
      split_ifs <;> rfl
  | _ => rfl

/-- The terminal goes on. -/
def Drifts (u v : Host) : Prop := u.port.rx.buf.WF → u.port.tx.buf.WF → Drift u.port v.port

theorem Drifts.trans {u v w : Host} (h : Drifts u v) (h' : Drifts v w) : Drifts u w := by
  intro hrx htx
  have hdrift := h hrx htx
  have hwf : v.port.rx.buf.WF ∧ v.port.tx.buf.WF := by
    obtain ⟨data, cells, n, info, -, -, -, hport⟩ := hdrift
    rw [hport]
    exact ⟨moveRbTail_wf hrx _, moveRbHead_wf htx _⟩
  exact hdrift.trans hrx htx (h' hwf.1 hwf.2)

/-! ### The refinement -/

/-- The sockets are those of `base` but for the one of the connection. -/
structure Backed (base : ℕ → SkState) (p : Port) (v : Host) : Prop where
  port : p = { v.port with sk := p.sk }
  sound : Sound p
  listed : v.net.listed = false
  resolved : v.net.unresolved = false
  closed : ∀ fd, p.sk = some fd → base fd = .closed
  sockets : v.net.sockets = p.sk.elim base fun fd => Function.update base fd .connected

variable {base : ℕ → SkState} {p : Port} {v : Host}

theorem Backed.connected (h : Backed base p v) {fd : ℕ} (hsk : p.sk = some fd) :
    v.net.sockets fd = .connected := by
  rw [h.sockets, hsk]
  exact Function.update_self ..

theorem sockMay_of_may (h : Backed base p v) {op : Op} (hop : op ≠ .vcConnect) (hmay : may p op) :
    sockMay v.net op := by
  have hone : ∀ sk : Sock, sk = p.sk ∧ sk.isSome → ∃ fd, sk = some fd ∧ v.net.sockets fd = .connected := by
    rintro sk ⟨rfl, hsome⟩
    obtain ⟨fd, hfd⟩ := Option.isSome_iff_exists.mp hsome
    exact ⟨fd, hfd, h.connected hfd⟩
  have hall : ∀ sk : Sock, sk = p.sk → ∀ fd, sk = some fd → v.net.sockets fd = .connected := by
    rintro sk rfl fd hfd
    exact h.connected hfd
  cases op with
  | vcConnect => exact absurd rfl hop
  | exit => exact hmay
  | fdcheck sk => exact hone sk hmay
  | send sk data => exact hone sk hmay
  | siocinq sk => exact hone sk hmay
  | siocoutq sk => exact hone sk hmay
  | close sk => exact hone sk hmay
  | recv sk len => exact hall sk hmay
  | selectRead sk => exact hall sk hmay
  | _ => exact trivial

theorem Backed.congr (h : Backed base p v) {q : Port} {u : Host} (hport : q = { u.port with sk := q.sk })
    (hsound : Sound q) (hsk : q.sk = p.sk) (hnet : u.net = v.net) : Backed base q u := by
  refine ⟨hport, hsound, hnet ▸ h.listed, hnet ▸ h.resolved, fun fd hfd => h.closed fd (hsk ▸ hfd), ?_⟩
  rw [hnet, hsk]
  exact h.sockets

/-- The other calls. -/
theorem Backed.step (h : Backed base p v) {op : Op} {r : Ans op} {u : Host} (hop : op ≠ .vcConnect)
    (hmay : may p op) (hstep : host.step v (Sum.inl op) r u) :
    ∃ q, driver.step p op r q ∧ Backed base q u := by
  obtain ⟨hanswer, hdrift, hnet⟩ := hstep
  have hanswer' : answers p op r := by
    rw [h.port]
    exact (answers_socket v.port p.sk r).mpr hanswer
  by_cases hclose : ∃ sk, op = .close sk
  · obtain ⟨sk, rfl⟩ := hclose
    obtain ⟨rfl, hsome⟩ := hmay
    obtain ⟨fd, hfd⟩ := Option.isSome_iff_exists.mp hsome
    have hport : { p with sk := none } = { v.port with sk := none } := by
      conv_lhs => rw [h.port]
    have hstep : driver.step p (.close p.sk) r { u.port with sk := none } := by
      refine ⟨hanswer', ?_⟩
      show Drift { p with sk := none } { u.port with sk := none }
      rw [hport]
      exact drift_socket hdrift none
    have hset : u.net = v.net.set fd .closed := by
      rw [hnet, hfd]
      rfl
    have hmay : driver.may p (.close p.sk) := ⟨rfl, hsome⟩
    refine ⟨_, hstep, rfl, h.sound.step hmay hstep, ?_, ?_, nofun, ?_⟩
    · rw [hset]
      exact h.listed
    · rw [hset]
      exact h.resolved
    · show u.net.sockets = base
      have hclosed := h.closed fd hfd
      have hsockets : v.net.sockets = Function.update base fd .connected := by
        rw [h.sockets, hfd]
        rfl
      rw [hset, NetState.set, hsockets, Function.update_idem, ← hclosed, Function.update_eq_self]
  · have hafter : after p op r = { after v.port op r with sk := p.sk } := by
      conv_lhs => rw [h.port]
      exact after_socket v.port p.sk hop (fun x hx => hclose ⟨x, hx⟩) r
    have hdrift' : Drift (after p op r) { u.port with sk := p.sk } := by
      rw [hafter]
      exact drift_socket hdrift p.sk
    have hstep : driver.step p op r { u.port with sk := p.sk } := ⟨hanswer', hdrift'⟩
    refine ⟨_, hstep, h.congr rfl (h.sound.step hmay hstep) rfl ?_⟩
    rw [hnet]
    cases op with
    | close sk => exact absurd ⟨sk, rfl⟩ hclose
    | _ => rfl

/-- **Making a connection** is the call it stands for. -/
theorem implements_connect (hasRed : Bool) :
    Implements driver host (Backed base) .vcConnect (hostCall hasRed .vcConnect) := by
  intro p v h hmay
  have hsk : p.sk = none := hmay
  have hport : p = { v.port with sk := none } := hsk ▸ h.port
  have hrx : v.port.rx.buf.WF := by
    have hwf := h.sound.rx_wf
    rwa [hport] at hwf
  have htx : v.port.tx.buf.WF := by
    have hwf := h.sound.tx_wf
    rwa [hport] at hwf
  have hbase : v.net.sockets = base := by
    rw [h.sockets, hsk]
    rfl
  have hmay' : ∀ u op, NetMay (Host.net u) op → host.may u (Sum.inr op) := fun _ _ hop => hop
  have hstep' : ∀ u op (r : NetAns op) u', host.step u (Sum.inr op) r u' →
      netStep (Host.net u) op r (Host.net u') ∧ Drifts u u' :=
    fun _ _ _ _ hstep => ⟨hstep.1, fun _ _ => hstep.2⟩
  refine wp_mono (wp_beside Host.net Drifts (fun u => Drift.refl) (fun _ _ _ => Drifts.trans) hmay' hstep'
    (vcConnect_spec hasRed h.listed h.resolved)) fun r u hu => ?_
  obtain ⟨⟨hlisted, hresolved, hsockets⟩, hdrift⟩ := hu
  have hstep : driver.step p .vcConnect r { u.port with sk := r } := by
    rw [hport]
    exact ⟨trivial, drift_socket (hdrift hrx htx) r⟩
  refine ⟨_, hstep, rfl, h.sound.step hmay hstep, hlisted, hresolved, fun fd hfd => ?_, ?_⟩
  · obtain rfl : r = some fd := hfd
    rw [← hbase]
    exact hsockets.1
  · cases r with
    | none => exact hsockets.trans hbase
    | some fd =>
        have hset : u.net.sockets = Function.update v.net.sockets fd .connected := hsockets.2
        rw [hset, hbase]
        rfl

theorem implements_hostCall (hasRed : Bool) (op : Op) :
    Implements driver host (Backed base) op (hostCall hasRed op) := by
  by_cases hconnect : op = .vcConnect
  · subst hconnect
    exact implements_connect hasRed
  · have hcall : hostCall hasRed op = Prog.perform (Sum.inl op) := by
      cases op with
      | vcConnect => exact absurd rfl hconnect
      | _ => rfl
    rw [hcall]
    intro p v h hmay
    refine ⟨⟨sockMay_of_may h hconnect hmay, h.resolved⟩, fun r u hstep => ?_⟩
    exact h.step hconnect hmay hstep

/-! ### Runs -/

/-- A point of a run of the daemon with its sockets. -/
abbrev HostReached (hasRed : Bool) (a : VcAttr) (v₀ : Host) : Prog HostOp HostAns VcAttr → Host → Prop :=
  Reached host (hostStart hasRed a) (hostPass hasRed) v₀

/-- The driver's port is at rest, and nothing is looked up. -/
structure Ready (v : Host) : Prop where
  rest : AtRest v.port
  listed : v.net.listed = false
  resolved : v.net.unresolved = false

variable {hasRed : Bool} {a b : VcAttr} {v₀ : Host}

theorem wp_of_hostReached (h₀ : Ready v₀) {prog : Prog HostOp HostAns VcAttr}
    (h : HostReached hasRed a v₀ prog v) :
    wp host prog (fun b u => ∃ p, Backed v₀.net.sockets p u ∧ DaemonInvariant.Held b p) v := by
  have hbacked : Backed v₀.net.sockets v₀.port v₀ := by
    refine ⟨rfl, h₀.rest.sound, h₀.listed, h₀.resolved, fun fd hfd => ?_, ?_⟩
    · rw [h₀.rest.sk] at hfd
      exact nomatch hfd
    · rw [h₀.rest.sk]
      rfl
  exact reached_expand (implements_hostCall hasRed) hbacked (mainStart_spec h₀.rest)
    (fun _ _ => mainPass_spec) h

/-! ### A first run -/

/-- The device has two addresses or is unknown.  The sockets 3 and 4 are free; the connection of the first
one is refused, that of the second one is made. -/
def netReply (found : Bool) (s : NetState) : (op : NetOp) → Option (NetAns op × NetState)
  | .getaddrinfo _ =>
      if found then some (some [.inet6, .inet], { s with listed := true })
      else some (none, { s with unresolved := true })
  | .freeaddrinfo => some ((), { s with listed := false })
  | .socket _ =>
      if s.sockets 3 = .closed then some (some 3, s.set 3 .fresh)
      else if s.sockets 4 = .closed then some (some 4, s.set 4 .fresh)
      else some (none, s)
  | .connect sk _ => some (.inProgress, s.set sk .connecting)
  | .selectWrite _ fds =>
      some (some fds, { s with sockets := fun sk => if sk ∈ fds then .ready else s.sockets sk })
  | .getSoError sk => if sk = 3 then some (some 111, s.set sk .failed) else some (some 0, s.set sk .connected)
  | .close sk => some ((), s.set sk .closed)
  | .setBlocking .. | .setNodelay _ => some ((), s)
  | .undefined => none

/-- The terminal has the port open. -/
def hostReply (found : Bool) (_ : ℕ) (v : Host) : (op : HostOp) → Option (HostAns op × Host)
  | .inl op => (answerOf v.port [] op).bind fun r =>
      if (after v.port op r).rx.buf.WF ∧ (after v.port op r).tx.buf.WF then
        some (r, ⟨{ after v.port op r with info := ⟨1, 9600, 0, 8, 0, 0, 6⟩ }, netAfter v.net op⟩)
      else none
  | .inr op =>
      if v.port.rx.buf.WF ∧ v.port.tx.buf.WF then
        (netReply found v.net op).map fun x => (x.1, ⟨v.port, x.2⟩)
      else none

def newHost : Host :=
  ⟨advMainInit (fun _ => 0) (fun _ => 0), fun fd => if fd < 3 then .connected else .closed, false, false⟩

theorem step_netReply {found : Bool} {s t : NetState} {op : NetOp} {r : NetAns op}
    (h : netReply found s op = some (r, t)) : netStep s op r t := by
  cases op with
  | getaddrinfo addr =>
      dsimp only [netReply] at h
      split at h
      · obtain ⟨rfl, rfl⟩ := Prod.mk.inj (Option.some.inj h)
        rfl
      · obtain ⟨rfl, rfl⟩ := Prod.mk.inj (Option.some.inj h)
        rfl
  | freeaddrinfo => exact (Prod.mk.inj (Option.some.inj h)).2.symm
  | socket family =>
      dsimp only [netReply] at h
      split at h
      · next hthree =>
          obtain ⟨rfl, rfl⟩ := Prod.mk.inj (Option.some.inj h)
          exact ⟨hthree, rfl⟩
      · split at h
        · next hfour =>
            obtain ⟨rfl, rfl⟩ := Prod.mk.inj (Option.some.inj h)
            exact ⟨hfour, rfl⟩
        · obtain ⟨rfl, rfl⟩ := Prod.mk.inj (Option.some.inj h)
          rfl
  | setBlocking sk on => exact (Prod.mk.inj (Option.some.inj h)).2.symm
  | connect sk family =>
      obtain ⟨rfl, rfl⟩ := Prod.mk.inj (Option.some.inj h)
      rfl
  | selectWrite nfds fds =>
      obtain ⟨rfl, rfl⟩ := Prod.mk.inj (Option.some.inj h)
      exact ⟨fun _ hsk => hsk, rfl⟩
  | getSoError sk =>
      dsimp only [netReply] at h
      split at h
      · obtain ⟨rfl, rfl⟩ := Prod.mk.inj (Option.some.inj h)
        rfl
      · obtain ⟨rfl, rfl⟩ := Prod.mk.inj (Option.some.inj h)
        rfl
  | close sk => exact (Prod.mk.inj (Option.some.inj h)).2.symm
  | setNodelay sk => exact (Prod.mk.inj (Option.some.inj h)).2.symm
  | undefined => exact nomatch r

theorem step_hostReply {found : Bool} (i : ℕ) (v : Host) (op : HostOp) (r : HostAns op) (u : Host)
    (h : hostReply found i v op = some (r, u)) : host.step v op r u := by
  cases op with
  | inl op =>
      obtain ⟨r', hanswer, hrest⟩ := Option.bind_eq_some_iff.mp h
      split at hrest
      · next hwf =>
          obtain ⟨rfl, rfl⟩ := Prod.mk.inj (Option.some.inj hrest)
          exact ⟨answers_answerOf hanswer, Drift.settings hwf.1 hwf.2 _, rfl⟩
      · exact nomatch hrest
  | inr op =>
      dsimp only [hostReply] at h
      split at h
      · next hwf =>
          obtain ⟨⟨r', t⟩, hreply, hpair⟩ := Option.map_eq_some_iff.mp h
          obtain ⟨rfl, rfl⟩ := Prod.mk.inj hpair
          exact ⟨step_netReply hreply, Drift.refl hwf.1 hwf.2⟩
      · exact nomatch h

theorem exists_hostReached (found : Bool) (n : ℕ) (check : Prog HostOp HostAns VcAttr × Host → Bool)
    (h : (follow (hostReply found) (hostStart false newAttr) (hostPass false) newHost n).any check = true) :
    ∃ prog v, HostReached false newAttr newHost prog v ∧ check (prog, v) = true :=
  exists_reached step_hostReply h

theorem ready_newHost : Ready newHost := ⟨atRest_advMainInit _ _, rfl, rfl⟩

/-! ### Safety -/

/-- **Every call may be made.** -/
theorem host_may (h₀ : Ready v₀) {op : HostOp} {k : HostAns op → Prog HostOp HostAns VcAttr}
    (h : HostReached hasRed a v₀ (.call op k) v) : host.may v op :=
  (wp_of_hostReached h₀ h).1

def closing : Prog HostOp HostAns VcAttr × Host → Bool
  | (.call (.inr (.close fd)) _, _) => fd == 3
  | _ => false

/-- The socket that was refused is closed. -/
theorem host_may_first : ∃ k v, HostReached false newAttr newHost (.call (.inr (.close 3)) k) v ∧
    host.may v (.inr (.close 3)) := by
  obtain ⟨prog, v, h, hcheck⟩ := exists_hostReached true 24 closing (by decide +kernel)
  unfold closing at hcheck
  split at hcheck
  · next fd k u heq =>
      obtain ⟨rfl, rfl⟩ := Prod.mk.inj heq
      obtain rfl := eq_of_beq hcheck
      exact ⟨k, v, h, host_may ready_newHost h⟩
  · exact absurd hcheck Bool.false_ne_true

/-- **What `sknum` holds is read** without a value exactly after a lookup that failed. -/
theorem undefined_iff_unresolved (h₀ : Ready v₀) {op : HostOp}
    {k : HostAns op → Prog HostOp HostAns VcAttr} (h : HostReached hasRed a v₀ (.call op k) v) :
    op = .inr .undefined ↔ v.net.unresolved = true := by
  have hmay := (wp_of_hostReached h₀ h).1
  cases op with
  | inl op =>
      refine iff_of_false nofun fun hbad => ?_
      rw [hmay.2] at hbad
      exact Bool.false_ne_true hbad
  | inr op => exact ⟨fun heq => hmay.undefined.mpr (Sum.inr.inj heq), fun h =>
      congrArg _ (hmay.undefined.mp h)⟩

def reading : Prog HostOp HostAns VcAttr × Host → Bool
  | (.call (.inr .undefined) _, _) => true
  | _ => false

/-- A device that is not found. -/
theorem undefined_iff_unresolved_first :
    ∃ k v, HostReached false newAttr newHost (.call (.inr .undefined) k) v ∧ v.net.unresolved = true := by
  obtain ⟨prog, v, h, hcheck⟩ := exists_hostReached false 14 reading (by decide +kernel)
  unfold reading at hcheck
  split at hcheck
  · next k u heq =>
      obtain ⟨rfl, rfl⟩ := Prod.mk.inj heq
      exact ⟨k, v, h, (undefined_iff_unresolved ready_newHost h).mp rfl⟩
  · exact absurd hcheck Bool.false_ne_true

/-- **No socket is left over** after a pass. -/
theorem sockets_of_reached (h₀ : Ready v₀) (h : HostReached hasRed a v₀ (pure b) v) :
    v.net.sockets = b.sk.elim v₀.net.sockets fun fd => Function.update v₀.net.sockets fd .connected := by
  obtain ⟨p, hbacked, hheld⟩ := wp_of_hostReached h₀ h
  rw [hheld.linked.sk]
  exact hbacked.sockets

def connectedTo : Prog HostOp HostAns VcAttr × Host → Bool
  | (.ret b, _) => b.sk == some 4
  | _ => false

/-- The socket that was connected is left. -/
theorem sockets_of_reached_first : ∃ b v, HostReached false newAttr newHost (pure b) v ∧ b.sk = some 4 ∧
    v.net.sockets = Function.update newHost.net.sockets 4 .connected := by
  obtain ⟨prog, v, h, hcheck⟩ := exists_hostReached true 75 connectedTo (by decide +kernel)
  cases prog with
  | call op k => exact absurd hcheck Bool.false_ne_true
  | ret b =>
      have hsk : b.sk = some 4 := eq_of_beq hcheck
      have hsockets := sockets_of_reached ready_newHost h
      rw [hsk] at hsockets
      exact ⟨b, v, h, hsk, hsockets⟩

end ModbusRTU.SocketRuns
