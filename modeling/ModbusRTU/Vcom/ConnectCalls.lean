import ModbusRTU.Interaction.WorldLogic
import Mathlib.Data.List.Nodup
import Mathlib.Logic.Function.Basic

/-!
# Making a connection

`vc_connect` of `vc_client_netdown.c` looks up the addresses of the device, starts to connect a socket to
each of them, waits until some are ready, and takes the first one without an error.  The others are closed.
If no address of the device can be connected to, the redundant address is looked up too.

A lookup that fails leaves `sknum` and `skmax` as they are, and nothing else writes them.  To read them is
the call `undefined`, which has no answer.

* **`vcConnect_spec`** — what is left is one new socket that is connected, or no new socket at all; no socket
  is used in a state that does not allow it, and `undefined` is reached only after a lookup that failed.
* **`Listed.watched`** — `select` is given all the sockets, and a bound above them.
-/

namespace ModbusRTU.ConnectCalls

open CallProgram WorldLogic

/-- `ai_family`. -/
inductive Family where
  | inet | inet6 | other
  deriving DecidableEq, Repr

/-- What `connect` returns, with `errno`. -/
inductive Connected where
  | done | inProgress | failed
  deriving DecidableEq, Repr

/-- The two addresses of the command line. -/
inductive Address where
  | primary | redundant
  deriving DecidableEq, Repr

inductive NetOp where
  | getaddrinfo (addr : Address)
  | freeaddrinfo
  | socket (family : Family)
  | setBlocking (sk : ℕ) (on : Bool)
  | connect (sk : ℕ) (family : Family)
  | selectWrite (nfds : ℤ) (fds : List ℕ)
  | getSoError (sk : ℕ)
  | close (sk : ℕ)
  | setNodelay (sk : ℕ)
  | undefined
  deriving DecidableEq, Repr

/-- A failure is `none`, and so is a `select` that is not positive. -/
@[reducible] def NetAns : NetOp → Type
  | .getaddrinfo _ => Option (List Family)
  | .socket _ => Option ℕ
  | .connect .. => Connected
  | .selectWrite .. => Option (List ℕ)
  | .getSoError _ => Option ℤ
  | .freeaddrinfo | .setBlocking .. | .close _ | .setNodelay _ => Unit
  | .undefined => Empty

/-- A program that makes connections. -/
abbrev Net := Prog NetOp NetAns

def askNet (op : NetOp) : Net (NetAns op) := Prog.perform op

/-- A variable is read that was never written. -/
def undefinedNow {α : Type} : Net α := do
  let r ← askNet .undefined
  nomatch r

/-! ### The sockets of an address -/

def vcMaxSknum : ℕ := 16

/-- What `_create_sklist` returns and writes. -/
structure Sklist where
  sk : Option ℕ
  list : List ℕ
  skmax : ℤ

/-- The socket is in the list. -/
def Sklist.add (l : Sklist) (sk : ℕ) : Sklist :=
  { l with list := l.list ++ [sk], skmax := if (sk : ℤ) > l.skmax then sk else l.skmax }

/-- `__set_sockaddr_port` returns 0. -/
def setSockaddrPort : Family → Bool
  | .inet | .inet6 => true
  | .other => false

/-- The loop over the addresses.  A socket that is not added is closed, and its place is taken by the
next one. -/
def createSockets (maxlen : ℕ) : List Family → Sklist → Net Sklist
  | [], l => pure l
  | family :: rest, l =>
      if family ≠ .inet ∧ family ≠ .inet6 then createSockets maxlen rest l
      else if l.list.length ≥ maxlen then pure l
      else do
        let some sk ← askNet (.socket family) | createSockets maxlen rest l
        askNet (.setBlocking sk false)
        if setSockaddrPort family then
          match ← askNet (.connect sk family) with
          | .failed => do
              askNet (.close sk)
              createSockets maxlen rest l
          | .inProgress => createSockets maxlen rest (l.add sk)
          | .done => pure { l.add sk with sk := some sk }
        else
          askNet (.close sk)
          createSockets maxlen rest l

/-- `_create_sklist`. -/
def createSklist (maxlen : ℕ) (addr : Address) : Net (Option Sklist) := do
  let some families ← askNet (.getaddrinfo addr) | pure none
  let l ← createSockets maxlen families ⟨none, [], -1⟩
  askNet .freeaddrinfo
  pure (some l)

/-! ### One of the sockets -/

/-- `_sock_err` is not 0. -/
def sockErr (sk : ℕ) : Net Bool := do
  let some arg ← askNet (.getSoError sk) | pure true
  pure (arg != 0)

/-- The first ready socket without an error. -/
def firstConnected (ready : List ℕ) : List ℕ → Net (Option ℕ)
  | [] => pure none
  | sk :: rest =>
      if sk ∈ ready then do
        if ← sockErr sk then firstConnected ready rest else pure (some sk)
      else firstConnected ready rest

/-- The body of `do … while(0)`. -/
def chooseSocket (l : Sklist) : Net (Option ℕ) :=
  match l.sk with
  | some sk => pure (some sk)
  | none => do
      let some ready ← askNet (.selectWrite (l.skmax + 1) l.list) | pure none
      firstConnected ready l.list

def closeOthers (sk : Option ℕ) : List ℕ → Net Unit
  | [] => pure ()
  | other :: rest => do
      if some other ≠ sk then askNet (.close other)
      closeOthers sk rest

/-- The lists of the two addresses; `hasRed` is `attr->ip_red > 0`. -/
def createLists (hasRed : Bool) : Net Sklist := do
  let some first ← createSklist vcMaxSknum .primary | undefinedNow
  if first.sk = none ∧ hasRed then
    let some second ← createSklist (vcMaxSknum - first.list.length) .redundant | undefinedNow
    pure ⟨second.sk, first.list ++ second.list,
      if second.skmax > first.skmax then second.skmax else first.skmax⟩
  else pure first

def vcConnect (hasRed : Bool) : Net (Option ℕ) := do
  let l ← createLists hasRed
  let sk ← chooseSocket l
  closeOthers sk l.list
  match sk with
  | some sk => do
      askNet (.setBlocking sk true)
      askNet (.setNodelay sk)
      pure (some sk)
  | none => pure none

/-! ### The sockets as a world -/

/-- `ready` is a socket whose attempt is over, and nobody asked how it ended. -/
inductive SkState where
  | closed | fresh | connecting | ready | connected | failed
  deriving DecidableEq, Repr

/-- `listed` is a result of `getaddrinfo` that was not freed; `unresolved` remembers a failed lookup. -/
structure NetState where
  sockets : ℕ → SkState
  listed : Bool
  unresolved : Bool

def NetState.set (s : NetState) (sk : ℕ) (state : SkState) : NetState :=
  { s with sockets := Function.update s.sockets sk state }

/-- What the sockets allow. -/
def Allowed (s : NetState) : NetOp → Prop
  | .getaddrinfo _ => s.listed = false
  | .freeaddrinfo => s.listed = true
  | .socket _ => True
  | .setBlocking sk _ => s.sockets sk ≠ .closed
  | .connect sk family => s.sockets sk = .fresh ∧ family ≠ .other
  | .selectWrite nfds fds =>
      fds.length ≤ vcMaxSknum ∧ ∀ sk ∈ fds, s.sockets sk = .connecting ∧ (sk : ℤ) < nfds
  | .getSoError sk => s.sockets sk = .ready
  | .close sk => s.sockets sk ≠ .closed
  | .setNodelay sk => s.sockets sk = .connected
  | .undefined => True

/-- After a lookup that failed there is only `undefined`. -/
structure NetMay (s : NetState) (op : NetOp) : Prop where
  allowed : Allowed s op
  undefined : s.unresolved = true ↔ op = .undefined

def netStep (s : NetState) : (op : NetOp) → NetAns op → NetState → Prop
  | .getaddrinfo _, none, t => t = { s with unresolved := true }
  | .getaddrinfo _, some _, t => t = { s with listed := true }
  | .freeaddrinfo, _, t => t = { s with listed := false }
  | .socket _, none, t => t = s
  | .socket _, some sk, t => s.sockets sk = .closed ∧ t = s.set sk .fresh
  | .connect sk _, .done, t => t = s.set sk .connected
  | .connect sk _, .inProgress, t => t = s.set sk .connecting
  | .connect sk _, .failed, t => t = s.set sk .failed
  | .selectWrite .., none, t => t = s
  | .selectWrite _ fds, some ready, t =>
      (∀ sk ∈ ready, sk ∈ fds) ∧
        t = { s with sockets := fun sk => if sk ∈ ready then .ready else s.sockets sk }
  | .getSoError sk, r, t => t = s.set sk (if r = some 0 then .connected else .failed)
  | .close sk, _, t => t = s.set sk .closed
  | _, _, t => t = s

def net : World NetOp NetAns NetState where
  may := NetMay
  step := netStep

@[simp] theorem set_self (s : NetState) (sk : ℕ) (state : SkState) :
    (s.set sk state).sockets sk = state := Function.update_self ..

theorem set_of_ne {s : NetState} {sk x : ℕ} (h : x ≠ sk) (state : SkState) :
    (s.set sk state).sockets x = s.sockets x := Function.update_of_ne h ..

@[simp] theorem set_set (s : NetState) (sk : ℕ) (first state : SkState) :
    (s.set sk first).set sk state = s.set sk state := by
  unfold NetState.set
  rw [Function.update_idem]

/-- A socket that is closed again. -/
theorem set_closed {s : NetState} {sk : ℕ} (h : s.sockets sk = .closed) : s.set sk .closed = s := by
  unfold NetState.set
  rw [← h, Function.update_eq_self]

/-! ### The list -/

/-- The sockets of the list are new since `s₀`, and every other one is as it was. -/
structure Listed (s₀ : NetState) (l : Sklist) (s : NetState) : Prop where
  nodup : l.list.Nodup
  new : ∀ sk ∈ l.list, s₀.sockets sk = .closed
  connecting : ∀ sk ∈ l.list, l.sk ≠ some sk → s.sockets sk = .connecting
  connected : ∀ sk, l.sk = some sk → sk ∈ l.list ∧ s.sockets sk = .connected
  frame : ∀ sk, sk ∉ l.list → s.sockets sk = s₀.sockets sk
  skmax : ∀ sk ∈ l.list, (sk : ℤ) ≤ l.skmax

variable {s₀ s t : NetState} {l : Sklist}

theorem listed_nil (s : NetState) : Listed s ⟨none, [], -1⟩ s := by
  refine ⟨List.nodup_nil, ?_, ?_, ?_, fun _ _ => rfl, ?_⟩
  · exact fun sk hsk => absurd hsk List.not_mem_nil
  · exact fun sk hsk => absurd hsk List.not_mem_nil
  · exact fun sk hsk => nomatch hsk
  · exact fun sk hsk => absurd hsk List.not_mem_nil

theorem Listed.notMem (h : Listed s₀ l s) (hnone : l.sk = none) {sk : ℕ} (hsk : s.sockets sk = .closed) :
    sk ∉ l.list := by
  intro hmem
  have hconnecting := h.connecting sk hmem (by rw [hnone]; exact nofun)
  rw [hsk] at hconnecting
  exact SkState.noConfusion hconnecting

theorem Listed.add_frame (h : Listed s₀ l s) {sk : ℕ} (state : SkState) :
    ∀ x, x ∉ (l.add sk).list → (s.set sk state).sockets x = s₀.sockets x := by
  intro x hx
  have hne : x ∉ l.list ∧ x ≠ sk := by
    have hadd : x ∉ l.list ++ [sk] := hx
    rw [List.mem_append, not_or, List.mem_singleton] at hadd
    exact hadd
  rw [set_of_ne hne.2, h.frame x hne.1]

theorem Listed.add_nodup (h : Listed s₀ l s) {sk : ℕ} (hsk : sk ∉ l.list) : (l.add sk).list.Nodup := by
  refine List.nodup_append.mpr ⟨h.nodup, List.nodup_singleton sk, fun x hx y hy => ?_⟩
  obtain rfl := List.mem_singleton.mp hy
  exact fun heq => hsk (heq ▸ hx)

theorem Listed.add_new (h : Listed s₀ l s) {sk : ℕ} (hsk : sk ∉ l.list) (hclosed : s.sockets sk = .closed) :
    ∀ x ∈ (l.add sk).list, s₀.sockets x = .closed := by
  intro x hx
  rcases List.mem_append.mp hx with hold | hnew
  · exact h.new x hold
  · obtain rfl := List.mem_singleton.mp hnew
    rw [← h.frame _ hsk]
    exact hclosed

theorem Listed.add_skmax (h : Listed s₀ l s) (sk : ℕ) :
    ∀ x ∈ (l.add sk).list, (x : ℤ) ≤ (l.add sk).skmax := by
  intro x hx
  show (x : ℤ) ≤ if (sk : ℤ) > l.skmax then (sk : ℤ) else l.skmax
  rcases List.mem_append.mp hx with hold | hnew
  · have hle := h.skmax x hold
    split <;> omega
  · obtain rfl := List.mem_singleton.mp hnew
    split <;> omega

theorem Listed.add (h : Listed s₀ l s) (hnone : l.sk = none) {sk : ℕ} (hclosed : s.sockets sk = .closed) :
    Listed s₀ (l.add sk) (s.set sk .connecting) := by
  have hsk := h.notMem hnone hclosed
  refine ⟨h.add_nodup hsk, h.add_new hsk hclosed, fun x hx hne => ?_, fun x hx => ?_, h.add_frame _,
    h.add_skmax sk⟩
  · by_cases hx' : x = sk
    · rw [hx']
      exact set_self ..
    · rw [set_of_ne hx']
      have hold : x ∈ l.list := (List.mem_append.mp hx).resolve_right (by rwa [List.mem_singleton])
      exact h.connecting x hold hne
  · have hx' : l.sk = some x := hx
    rw [hnone] at hx'
    exact nomatch hx'

/-- The last one is connected at once. -/
theorem Listed.add_done (h : Listed s₀ l s) (hnone : l.sk = none) {sk : ℕ}
    (hclosed : s.sockets sk = .closed) :
    Listed s₀ { l.add sk with sk := some sk } (s.set sk .connected) := by
  have hsk := h.notMem hnone hclosed
  refine ⟨h.add_nodup hsk, h.add_new hsk hclosed, fun x hx hne => ?_, fun x hx => ?_, h.add_frame _,
    h.add_skmax sk⟩
  · have hx' : x ≠ sk := fun heq => hne (congrArg some heq.symm)
    rw [set_of_ne hx']
    have hold : x ∈ l.list := (List.mem_append.mp hx).resolve_right (by rwa [List.mem_singleton])
    exact h.connecting x hold (by rw [hnone]; exact nofun)
  · obtain rfl : sk = x := Option.some.inj hx
    exact ⟨List.mem_append_right _ (List.mem_singleton_self sk), set_self ..⟩

/-- The list of the second address after that of the first. -/
theorem Listed.append {first second : Sklist} (h : Listed s₀ first s) (hnone : first.sk = none)
    (h' : Listed s second t) :
    Listed s₀ ⟨second.sk, first.list ++ second.list,
      if second.skmax > first.skmax then second.skmax else first.skmax⟩ t := by
  have hapart : ∀ sk ∈ first.list, sk ∉ second.list :=
    fun sk hfirst hsecond => h.notMem hnone (h'.new sk hsecond) hfirst
  refine ⟨?_, fun sk hsk => ?_, fun sk hsk hne => ?_, fun sk hsk => ?_, fun sk hsk => ?_,
    fun sk hsk => ?_⟩
  · exact List.nodup_append.mpr
      ⟨h.nodup, h'.nodup, fun x hx y hy heq => hapart x hx (heq ▸ hy)⟩
  · rcases List.mem_append.mp hsk with hfirst | hsecond
    · exact h.new sk hfirst
    · have hclosed := h'.new sk hsecond
      rwa [h.frame sk fun hfirst => hapart sk hfirst hsecond] at hclosed
  · rcases List.mem_append.mp hsk with hfirst | hsecond
    · rw [h'.frame sk (hapart sk hfirst)]
      exact h.connecting sk hfirst (by rw [hnone]; exact nofun)
    · exact h'.connecting sk hsecond hne
  · obtain ⟨hmem, hconnected⟩ := h'.connected sk hsk
    exact ⟨List.mem_append_right _ hmem, hconnected⟩
  · have hne : sk ∉ first.list ∧ sk ∉ second.list := not_or.mp (mt List.mem_append.mpr hsk)
    rw [h'.frame sk hne.2, h.frame sk hne.1]
  · show (sk : ℤ) ≤ if second.skmax > first.skmax then second.skmax else first.skmax
    rcases List.mem_append.mp hsk with hfirst | hsecond
    · have hle := h.skmax sk hfirst
      split <;> omega
    · have hle := h'.skmax sk hsecond
      split <;> omega

/-! ### The rules -/

theorem netMay_of_resolved {op : NetOp} (hresolved : s.unresolved = false) (hop : op ≠ .undefined)
    (h : Allowed s op) : NetMay s op := by
  refine ⟨h, fun hbad => ?_, fun hbad => absurd hbad hop⟩
  rw [hresolved] at hbad
  exact absurd hbad Bool.false_ne_true

/-- Nothing else of the state changes. -/
structure Keeps (s t : NetState) : Prop where
  listed : t.listed = s.listed
  unresolved : t.unresolved = s.unresolved

theorem Keeps.refl (s : NetState) : Keeps s s := ⟨rfl, rfl⟩

theorem createSockets_spec {maxlen : ℕ} (families : List Family)
    (h : Listed s₀ l s) (hnone : l.sk = none) (hlen : l.list.length ≤ maxlen)
    (hresolved : s.unresolved = false) :
    wp net (createSockets maxlen families l)
      (fun m t => Listed s₀ m t ∧ m.list.length ≤ maxlen ∧ Keeps s t) s := by
  induction families generalizing l s with
  | nil => exact ⟨h, hlen, Keeps.refl s⟩
  | cons family rest ih =>
      unfold createSockets
      split
      · exact ih h hnone hlen hresolved
      · next hfamily =>
          have hother : family ≠ .other := by
            rintro rfl
            exact hfamily ⟨by decide, by decide⟩
          have hport : setSockaddrPort family = true := by
            cases family with
            | inet => rfl
            | inet6 => rfl
            | other => exact absurd rfl hother
          split
          · exact ⟨h, hlen, Keeps.refl s⟩
          · next hroom =>
              have hadd : ∀ sk, (l.add sk).list.length ≤ maxlen := by
                intro sk
                have hlength : (l.list ++ [sk]).length = l.list.length + 1 := List.length_append
                show (l.list ++ [sk]).length ≤ maxlen
                omega
              refine wp_call (netMay_of_resolved hresolved nofun trivial) fun r t hstep => ?_
              cases r with
              | none =>
                  obtain rfl : t = s := hstep
                  exact ih h hnone hlen hresolved
              | some sk =>
                  obtain ⟨hclosed, rfl⟩ : s.sockets sk = .closed ∧ t = s.set sk .fresh := hstep
                  have hopen : (s.set sk .fresh).sockets sk ≠ .closed := by
                    rw [set_self]
                    exact nofun
                  refine wp_call (netMay_of_resolved hresolved nofun hopen) fun _ t hstep => ?_
                  obtain rfl : t = s.set sk .fresh := hstep
                  refine wp_call (netMay_of_resolved hresolved nofun ⟨set_self .., hother⟩)
                    fun r t hstep => ?_
                  cases r with
                  | failed =>
                      obtain rfl : t = (s.set sk .fresh).set sk .failed := hstep
                      have hfailed : ((s.set sk .fresh).set sk .failed).sockets sk ≠ .closed := by
                        rw [set_self]
                        exact nofun
                      refine wp_call (netMay_of_resolved hresolved nofun hfailed) fun _ t hstep => ?_
                      obtain rfl : t = ((s.set sk .fresh).set sk .failed).set sk .closed := hstep
                      rw [set_set, set_set, set_closed hclosed]
                      exact ih h hnone hlen hresolved
                  | inProgress =>
                      obtain rfl : t = (s.set sk .fresh).set sk .connecting := hstep
                      rw [set_set]
                      exact wp_mono (ih (h.add hnone hclosed) hnone (hadd sk) hresolved)
                        fun m t ht => ⟨ht.1, ht.2.1, ht.2.2.listed, ht.2.2.unresolved⟩
                  | done =>
                      obtain rfl : t = (s.set sk .fresh).set sk .connected := hstep
                      rw [set_set]
                      exact ⟨h.add_done hnone hclosed, hadd sk, rfl, rfl⟩

theorem createSklist_spec (maxlen : ℕ) (addr : Address)
    (hlisted : s.listed = false) (hresolved : s.unresolved = false) :
    wp net (createSklist maxlen addr)
      (fun r t => match r with
        | none => t.unresolved = true
        | some l => Listed s l t ∧ l.list.length ≤ maxlen ∧ t.listed = false ∧ t.unresolved = false) s := by
  unfold createSklist
  refine wp_call (netMay_of_resolved hresolved nofun hlisted) fun r t hstep => ?_
  cases r with
  | none =>
      obtain rfl : t = { s with unresolved := true } := hstep
      rfl
  | some families =>
      obtain rfl : t = { s with listed := true } := hstep
      have hnil : Listed s ⟨none, [], -1⟩ { s with listed := true } := by
        have h := listed_nil s
        exact ⟨h.nodup, h.new, h.connecting, h.connected, h.frame, h.skmax⟩
      refine wp_seq (createSockets_spec families hnil rfl (Nat.zero_le _) hresolved) fun l t ht => ?_
      obtain ⟨h, hlen, hkeeps⟩ := ht
      have hresolved' : t.unresolved = false := hkeeps.unresolved.trans hresolved
      refine wp_call (netMay_of_resolved hresolved' nofun hkeeps.listed) fun _ u hstep => ?_
      obtain rfl : u = { t with listed := false } := hstep
      exact ⟨⟨h.nodup, h.new, h.connecting, h.connected, h.frame, h.skmax⟩, hlen, rfl, hresolved'⟩

/-- The bound that `select` gets. -/
theorem Listed.watched (h : Listed s₀ l s) (hnone : l.sk = none) :
    ∀ sk ∈ l.list, s.sockets sk = .connecting ∧ (sk : ℤ) < l.skmax + 1 := by
  intro sk hsk
  have hle := h.skmax sk hsk
  exact ⟨h.connecting sk hsk (by rw [hnone]; exact nofun), by omega⟩

theorem undefinedNow_spec {α : Type} {Q : α → NetState → Prop} (h : s.unresolved = true) :
    wp net undefinedNow Q s := by
  unfold undefinedNow
  exact wp_call ⟨trivial, iff_of_true h rfl⟩ fun r _ _ => nomatch r

theorem createLists_spec (hasRed : Bool) (hlisted : s.listed = false)
    (hresolved : s.unresolved = false) :
    wp net (createLists hasRed)
      (fun l t => Listed s l t ∧ l.list.length ≤ vcMaxSknum ∧ t.listed = false ∧
        t.unresolved = false) s := by
  unfold createLists
  refine wp_seq (createSklist_spec _ .primary hlisted hresolved) fun r t hr => ?_
  cases r with
  | none => exact undefinedNow_spec hr
  | some first =>
      obtain ⟨hfirst, hlen, hlisted', hresolved'⟩ := hr
      dsimp only
      split
      · next hred =>
          refine wp_seq (createSklist_spec _ .redundant hlisted' hresolved')
            fun r u hr => ?_
          cases r with
          | none => exact undefinedNow_spec hr
          | some second =>
              obtain ⟨hsecond, hlen', hlisted'', hresolved''⟩ := hr
              refine ⟨hfirst.append hred.1 hsecond, ?_, hlisted'', hresolved''⟩
              show (first.list ++ second.list).length ≤ vcMaxSknum
              rw [List.length_append]
              omega
      · exact ⟨hfirst, hlen, hlisted', hresolved'⟩

/-! ### One of them is left -/

/-- None of the sockets of the list is closed, and the one that was chosen is connected. -/
structure Chosen (s₀ : NetState) (list : List ℕ) (sk : Option ℕ) (s : NetState) : Prop where
  nodup : list.Nodup
  new : ∀ x ∈ list, s₀.sockets x = .closed
  opened : ∀ x ∈ list, s.sockets x ≠ .closed
  connected : ∀ x, sk = some x → x ∈ list ∧ s.sockets x = .connected
  frame : ∀ x, x ∉ list → s.sockets x = s₀.sockets x

theorem Listed.chosen (h : Listed s₀ l s) : Chosen s₀ l.list l.sk s := by
  refine ⟨h.nodup, h.new, fun x hx => ?_, h.connected, h.frame⟩
  by_cases hsk : l.sk = some x
  · rw [(h.connected x hsk).2]
    exact nofun
  · rw [h.connecting x hx hsk]
    exact nofun

theorem Chosen.set {list : List ℕ} (h : Chosen s₀ list none s) {sk : ℕ} (hsk : sk ∈ list) {state : SkState}
    (hstate : state ≠ .closed) : Chosen s₀ list none (s.set sk state) := by
  refine ⟨h.nodup, h.new, fun x hx => ?_, nofun, fun x hx => ?_⟩
  · by_cases hx' : x = sk
    · rw [hx', set_self]
      exact hstate
    · rw [set_of_ne hx']
      exact h.opened x hx
  · have hx' : x ≠ sk := fun heq => hx (heq ▸ hsk)
    rw [set_of_ne hx']
    exact h.frame x hx

theorem Chosen.choose {list : List ℕ} (h : Chosen s₀ list none s) {sk : ℕ} (hsk : sk ∈ list)
    (hconnected : s.sockets sk = .connected) : Chosen s₀ list (some sk) s := by
  refine ⟨h.nodup, h.new, h.opened, fun x hx => ?_, h.frame⟩
  obtain rfl := Option.some.inj hx
  exact ⟨hsk, hconnected⟩

/-- What `select` found. -/
theorem Chosen.poll {list ready : List ℕ} (h : Chosen s₀ list none s) (hsub : ∀ sk ∈ ready, sk ∈ list) :
    Chosen s₀ list none
      { s with sockets := fun sk => if sk ∈ ready then .ready else s.sockets sk } := by
  refine ⟨h.nodup, h.new, fun x hx => ?_, nofun, fun x hx => ?_⟩
  · show (if x ∈ ready then SkState.ready else s.sockets x) ≠ .closed
    split
    · exact nofun
    · exact h.opened x hx
  · show (if x ∈ ready then SkState.ready else s.sockets x) = s₀.sockets x
    rw [if_neg fun hin => hx (hsub x hin)]
    exact h.frame x hx

theorem sockErr_spec {sk : ℕ} (h : s.sockets sk = .ready) (hresolved : s.unresolved = false) :
    wp net (sockErr sk) (fun err t => t = s.set sk (if err then .failed else .connected)) s := by
  unfold sockErr
  refine wp_call (netMay_of_resolved hresolved nofun h) fun r t hstep => ?_
  obtain rfl : t = s.set sk (if r = some 0 then .connected else .failed) := hstep
  cases r with
  | none => rfl
  | some arg =>
      show s.set sk (if some arg = some 0 then _ else _) = s.set sk (if (arg != 0) = true then _ else _)
      by_cases harg : arg = 0
      · subst harg
        rfl
      · rw [if_neg fun heq => harg (Option.some.inj heq), if_pos (bne_iff_ne.mpr harg)]

theorem firstConnected_spec {ready list rest : List ℕ} (hrest : rest.Sublist list)
    (h : Chosen s₀ list none s) (hready : ∀ x ∈ rest, x ∈ ready → s.sockets x = .ready)
    (hresolved : s.unresolved = false) :
    wp net (firstConnected ready rest) (fun sk t => Chosen s₀ list sk t ∧ Keeps s t) s := by
  induction rest generalizing s with
  | nil => exact ⟨h, Keeps.refl s⟩
  | cons sk rest ih =>
      have hmem : sk ∈ list := hrest.subset List.mem_cons_self
      have hnotMem : sk ∉ rest := (List.nodup_cons.mp (hrest.nodup h.nodup)).1
      have hlater := (List.sublist_cons_self sk rest).trans hrest
      unfold firstConnected
      split
      · next hin =>
          refine wp_seq (sockErr_spec (hready sk List.mem_cons_self hin) hresolved) fun err t ht => ?_
          subst ht
          cases err with
          | false =>
              have hset := h.set hmem (show SkState.connected ≠ .closed from nofun)
              exact ⟨hset.choose hmem (set_self ..), rfl, rfl⟩
          | true =>
              refine wp_mono (ih hlater (h.set hmem nofun) (fun x hx hin' => ?_) hresolved)
                fun _ u hu => ⟨hu.1, hu.2.listed, hu.2.unresolved⟩
              have hx' : x ≠ sk := fun heq => hnotMem (heq ▸ hx)
              rw [set_of_ne hx']
              exact hready x (List.mem_cons_of_mem sk hx) hin'
      · exact ih hlater h (fun x hx => hready x (List.mem_cons_of_mem sk hx)) hresolved

theorem chooseSocket_spec (h : Listed s₀ l s) (hlen : l.list.length ≤ vcMaxSknum)
    (hresolved : s.unresolved = false) :
    wp net (chooseSocket l) (fun sk t => Chosen s₀ l.list sk t ∧ Keeps s t) s := by
  unfold chooseSocket
  have hchosen := h.chosen
  cases hsk : l.sk with
  | some sk =>
      rw [hsk] at hchosen
      exact ⟨hchosen, Keeps.refl s⟩
  | none =>
      rw [hsk] at hchosen
      refine wp_call (netMay_of_resolved hresolved nofun ⟨hlen, h.watched hsk⟩) fun r t hstep => ?_
      cases r with
      | none =>
          obtain rfl : t = s := hstep
          exact ⟨hchosen, Keeps.refl t⟩
      | some ready =>
          obtain ⟨hsub, rfl⟩ := hstep
          refine wp_mono (firstConnected_spec (List.Sublist.refl _) (hchosen.poll hsub)
            (fun x _ hin => if_pos hin) hresolved) fun _ u hu => ⟨hu.1, hu.2.listed, hu.2.unresolved⟩

theorem closeOthers_spec {sk : Option ℕ} {rest : List ℕ} (hnodup : rest.Nodup)
    (hopened : ∀ x ∈ rest, s.sockets x ≠ .closed) (hresolved : s.unresolved = false) :
    wp net (closeOthers sk rest)
      (fun _ t => Keeps s t ∧
        ∀ x, t.sockets x = if x ∈ rest ∧ some x ≠ sk then .closed else s.sockets x) s := by
  induction rest generalizing s with
  | nil => exact ⟨Keeps.refl s, fun x => (if_neg fun hx => List.not_mem_nil hx.1).symm⟩
  | cons other rest ih =>
      obtain ⟨hnotMem, hnodup'⟩ := List.nodup_cons.mp hnodup
      unfold closeOthers
      by_cases hsk : some other ≠ sk
      · rw [if_pos hsk]
        refine wp_call (netMay_of_resolved hresolved nofun (hopened other List.mem_cons_self))
          fun _ t hstep => ?_
        obtain rfl : t = s.set other .closed := hstep
        have hopened' : ∀ x ∈ rest, (s.set other .closed).sockets x ≠ .closed := by
          intro x hx
          have hx' : x ≠ other := fun heq => hnotMem (heq ▸ hx)
          rw [set_of_ne hx']
          exact hopened x (List.mem_cons_of_mem other hx)
        refine wp_mono (ih hnodup' hopened' hresolved) fun _ u hu => ?_
        refine ⟨⟨hu.1.listed, hu.1.unresolved⟩, fun x => ?_⟩
        rw [hu.2 x]
        by_cases hx : x = other
        · rw [hx, if_neg fun hmem => hnotMem hmem.1, set_self, if_pos ⟨List.mem_cons_self, hsk⟩]
        · rw [set_of_ne hx]
          simp only [List.mem_cons, hx, false_or]
      · rw [if_neg hsk]
        refine wp_mono (ih hnodup' (fun x hx => hopened x (List.mem_cons_of_mem other hx)) hresolved)
          fun _ u hu => ?_
        refine ⟨hu.1, fun x => ?_⟩
        rw [hu.2 x]
        by_cases hx : x = other
        · rw [hx, if_neg fun hmem => hsk hmem.2, if_neg fun hmem => hsk hmem.2]
        · simp only [List.mem_cons, hx, false_or]

/-- **One new socket that is connected, or none.** -/
theorem vcConnect_spec (hasRed : Bool) (hlisted : s.listed = false) (hresolved : s.unresolved = false) :
    wp net (vcConnect hasRed)
      (fun r t => t.listed = false ∧ t.unresolved = false ∧
        match r with
        | none => t.sockets = s.sockets
        | some sk => s.sockets sk = .closed ∧ t.sockets = (s.set sk .connected).sockets) s := by
  unfold vcConnect
  refine wp_seq (createLists_spec hasRed hlisted hresolved) fun l t ht => ?_
  obtain ⟨hl, hlen, hlisted', hresolved'⟩ := ht
  refine wp_seq (chooseSocket_spec hl hlen hresolved') fun sk u hu => ?_
  obtain ⟨hchosen, hkeeps⟩ := hu
  have hresolved₂ : u.unresolved = false := hkeeps.unresolved.trans hresolved'
  refine wp_seq (closeOthers_spec hchosen.nodup hchosen.opened hresolved₂) fun _ v hv => ?_
  obtain ⟨hkeeps', hclosed⟩ := hv
  have hlisted'' : v.listed = false := hkeeps'.listed.trans (hkeeps.listed.trans hlisted')
  have hresolved'' : v.unresolved = false := hkeeps'.unresolved.trans hresolved₂
  cases sk with
  | none =>
      refine ⟨hlisted'', hresolved'', funext fun x => ?_⟩
      rw [hclosed x]
      by_cases hx : x ∈ l.list
      · rw [if_pos ⟨hx, nofun⟩, hchosen.new x hx]
      · rw [if_neg fun h => hx h.1, hchosen.frame x hx]
  | some sk =>
      obtain ⟨hmem, hconnected⟩ := hchosen.connected sk rfl
      have hv : v.sockets sk = .connected := by
        rw [hclosed sk, if_neg fun h => h.2 rfl, hconnected]
      have hopen : v.sockets sk ≠ .closed := by
        rw [hv]
        exact nofun
      refine wp_call (netMay_of_resolved hresolved'' nofun hopen) fun _ x hstep => ?_
      obtain rfl : x = v := hstep
      refine wp_call (netMay_of_resolved hresolved'' nofun hv) fun _ y hstep => ?_
      obtain rfl : y = x := hstep
      refine ⟨hlisted'', hresolved'', hchosen.new sk hmem, funext fun z => ?_⟩
      by_cases hz : z = sk
      · rw [hz, hv, set_self]
      · rw [set_of_ne hz, hclosed z]
        by_cases hin : z ∈ l.list
        · rw [if_pos ⟨hin, fun heq => hz (Option.some.inj heq)⟩, hchosen.new z hin]
        · rw [if_neg fun h => hin h.1, hchosen.frame z hin]

end ModbusRTU.ConnectCalls
