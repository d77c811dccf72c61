import ModbusRTU.Vcom.DaemonStates

/-!
# What the server is asked

The packets of the daemon, read by whoever takes them apart on the other side: a stream is a list of
requests, each with its transaction number, or it means nothing.

* **`heard_encode_append`** — a stream is heard packet by packet.
* **`heard_build_append`** — what the daemon builds for a request is heard as this request, under its
  number, whatever follows it.
* **`heard_flatMap_build`** — requests sent one after the other are heard one after the other.
-/

namespace ModbusRTU.ServerRequests

open WireWords Packets DaemonStates

/-- What a packet of the daemon asks for. -/
inductive Request where
  | create (dev : UInt16) (port : UInt32)
  | close
  | write (data : List UInt8)
  | queueFree (size : UInt32)
  | setBaud (baud : UInt32)
  | setLine (stop pair byte : UInt8)
  | setFlow (chflow flowrep xonlimit : UInt32)
  | setRts (on : Bool)
  | setDtr (on : Bool)
  | getWaitMask
  | setWaitMask (mask : UInt32)
  | waitOnMask
  | purge (flags : UInt32)
  | getModem
  deriving DecidableEq, Repr

/-- A request and its transaction number. -/
abbrev Numbered := UInt32 × Request

/-! ### Reading a packet -/

/-- The settings, by their command and their data. -/
def ioctlRequest (subcmd : UInt32) (ext : List UInt8) : Option Request :=
  let buf := bufferOf ext
  if subcmd = vcomIoctlSetBaudRate ∧ ext.length = 4 then some (.setBaud (le32At buf 0))
  else if subcmd = vcomIoctlSetLineControl ∧ ext.length = 3 then
    some (.setLine (buf 0) (buf 1) (buf 2))
  else if subcmd = vcomIoctlSetHandflow ∧ ext.length = 16 then
    some (.setFlow (be32At buf 0) (be32At buf 4) (be32At buf 8))
  else if subcmd = vcomIoctlPurge ∧ ext.length = 4 then some (.purge (le32At buf 0))
  else if subcmd = vcomIoctlSetWaitMask ∧ ext.length = 4 then some (.setWaitMask (be32At buf 0))
  else if ext ≠ [] then none
  else if subcmd = vcomIoctlSetRts then some (.setRts true)
  else if subcmd = vcomIoctlClrRts then some (.setRts false)
  else if subcmd = vcomIoctlSetDtr then some (.setDtr true)
  else if subcmd = vcomIoctlClrDtr then some (.setDtr false)
  else if subcmd = vcomIoctlGetWaitMask then some .getWaitMask
  else if subcmd = vcomIoctlWaitOnMask then some .waitOnMask
  else if subcmd = vcomIoctlGetModemstatus then some .getModem
  else none

def request (p : Packet) : Option Request :=
  if p.cmd = vcomCmdIoctl then ioctlRequest p.p1 p.ext
  else if p.cmd = vcomCmdWrite then
    if p.p1.toNat = p.ext.length then some (.write p.ext) else none
  else if p.ext ≠ [] then none
  else if p.cmd = vcomCmdCreate then some (.create (p.p1 >>> 16).toUInt16 p.p2)
  else if p.cmd = vcomCmdClose then some .close
  else if p.cmd = vcomCmdQueuefree then some (.queueFree p.p2)
  else none

/-- The requests in a stream, in at most so many packets. -/
def hear : ℕ → List UInt8 → Option (List Numbered)
  | _, [] => some []
  | 0, _ :: _ => none
  | n + 1, b :: bytes => do
      let r ← decode (b :: bytes)
      let asked ← request r.1
      let rest ← hear n r.2
      pure ((r.1.tid, asked) :: rest)

def heard (bytes : List UInt8) : Option (List Numbered) := hear bytes.length bytes

/-- The bytes of a request.  `stale` is what the buffer holds at `xofflimit`. -/
def Request.build (stale tid : UInt32) : Request → List UInt8
  | .create dev port => vcPackOpen tid dev port pbufLen
  | .close => vcPackClose tid pbufLen
  | .write data => vcPackXmit tid data (xmitLen + hdrLen)
  | .queueFree size => vcPackQfsize tid size pbufLen
  | .setBaud baud => vcPackSbaud tid baud pbufLen
  | .setLine stop pair byte => vcPackSetlctl tid pair byte stop pbufLen
  | .setFlow chflow flowrep _ => vcPackHflow tid chflow flowrep stale pbufLen
  | .setRts on => if on then vcPackSetrts tid pbufLen else vcPackClrrts tid pbufLen
  | .setDtr on => if on then vcPackSetdtr tid pbufLen else vcPackClrdtr tid pbufLen
  | .getWaitMask => vcPackGetwmask tid hdrLen
  | .setWaitMask mask => vcPackSetwmask tid mask pbufLen
  | .waitOnMask => vcPackWomask tid pbufLen
  | .purge flags => vcPackPurge tid flags pbufLen
  | .getModem => vcPackGetmodem tid pbufLen

/-- The daemon can ask for it: there is room for the data, and `xonlimit` is always 512. -/
def Request.Fits : Request → Prop
  | .write data => data.length ≤ xmitLen
  | .setFlow _ _ xonlimit => xonlimit = 512
  | _ => True

/-- It carries no data of the terminal. -/
def Request.Plain : Request → Prop
  | .write _ => False
  | asked => asked.Fits

theorem Request.Plain.fits {asked : Request} (h : asked.Plain) : asked.Fits := by
  cases asked with
  | write data => exact h.elim
  | _ => exact h

/-! ### A stream is heard packet by packet -/

/-- A packet takes its header at least. -/
theorem length_of_decode {bytes rest : List UInt8} {p : Packet} (h : decode bytes = some (p, rest)) :
    rest.length + hdrLen ≤ bytes.length := by
  unfold decode at h
  dsimp only at h
  split at h
  · exact absurd h (by simp)
  · next hlong =>
      obtain ⟨-, rfl⟩ := Prod.mk.inj (Option.some.inj h)
      rw [List.length_drop]
      omega

/-- More packets than there are bytes change nothing. -/
theorem hear_congr {n m : ℕ} {bytes : List UInt8} (hn : bytes.length ≤ n) (hm : bytes.length ≤ m) :
    hear n bytes = hear m bytes := by
  induction n generalizing m bytes with
  | zero =>
      obtain rfl := List.eq_nil_of_length_eq_zero (Nat.le_zero.mp hn)
      rw [hear, hear]
  | succ n ih =>
      cases bytes with
      | nil => rw [hear, hear]
      | cons b bytes =>
          obtain ⟨m, rfl⟩ := Nat.exists_eq_add_one.mpr (Nat.lt_of_lt_of_le (Nat.succ_pos _) hm)
          rw [hear, hear]
          cases hdecode : decode (b :: bytes) with
          | none => rfl
          | some r =>
              have hrest := length_of_decode hdecode
              have hlen : 0 < hdrLen := by decide
              have hsame : hear n r.2 = hear m r.2 := ih (by omega) (by omega)
              simp only [Option.bind_eq_bind, Option.bind_some, hsame]

@[simp] theorem heard_nil : heard [] = some [] := rfl

/-- **A packet and what follows it.** -/
theorem heard_encode_append (p : Packet) (rest : List UInt8) :
    heard (p.encode ++ rest) =
      (request p).bind fun asked => (heard rest).map ((p.tid, asked) :: ·) := by
  have hlength := p.length_encode
  have hheader : hdrLen = 19 + 1 := rfl
  obtain ⟨b, bytes, hbytes⟩ : ∃ b bytes, p.encode ++ rest = b :: bytes := by
    refine List.exists_cons_of_length_pos ?_
    rw [List.length_append]
    omega
  have htotal : bytes.length + 1 = p.encode.length + rest.length := by
    rw [← List.length_append, hbytes, List.length_cons]
  have hdecode := decode_encode p rest
  rw [hbytes] at hdecode
  rw [hbytes, heard, List.length_cons, hear, hdecode]
  have hsame : hear bytes.length rest = heard rest := hear_congr (by omega) le_rfl
  simp only [Option.bind_eq_bind, Option.bind_some, hsame]
  cases request p with
  | none => rfl
  | some asked =>
      cases heard rest with
      | none => rfl
      | some ms => rfl

/-- A packet that was built, and what follows it. -/
theorem heard_pack_append {tid : UInt32} {cmd len : UInt16} {p1 p2 : UInt32} {ext : List UInt8}
    {buflen : ℕ} (hlen : len.toNat = ext.length) (hbuf : hdrLen + ext.length ≤ buflen)
    {asked : Request} (hasked : request ⟨tid, cmd, p1, p2, ext, hlen ▸ len.toNat_lt⟩ = some asked)
    (rest : List UInt8) :
    heard (pack tid cmd len p1 p2 ext buflen ++ rest) =
      (heard rest).map ((tid, asked) :: ·) := by
  rw [pack_eq_encode tid cmd len p1 p2 ext buflen hlen hbuf, heard_encode_append, hasked]
  rfl

/-! ### What is built is heard -/

/-- A packet of `_pack_ioctl_param`. -/
theorem heard_ioctlParam (tid : UInt32) {subcmd : UInt32} {buflen : ℕ} (hbuf : hdrLen ≤ buflen)
    {asked : Request} (hasked : ioctlRequest subcmd [] = some asked) (rest : List UInt8) :
    heard (packIoctlParam tid subcmd buflen ++ rest) = (heard rest).map ((tid, asked) :: ·) := by
  refine heard_pack_append rfl hbuf ?_ rest
  rw [request, if_pos rfl]
  exact hasked

/-- A packet of a setting, with its data. -/
theorem heard_ioctl {tid subcmd p2 : UInt32} {len : UInt16} {ext : List UInt8} {buflen : ℕ}
    (hlen : len.toNat = ext.length) (hbuf : hdrLen + ext.length ≤ buflen) {asked : Request}
    (hasked : ioctlRequest subcmd ext = some asked) (rest : List UInt8) :
    heard (pack tid vcomCmdIoctl len subcmd p2 ext buflen ++ rest) =
      (heard rest).map ((tid, asked) :: ·) := by
  refine heard_pack_append hlen hbuf ?_ rest
  rw [request, if_pos rfl]
  exact hasked

theorem holds_self (bytes : List UInt8) : Holds (bufferOf bytes) 0 bytes := by
  have h := holds_bufferOf [] bytes []
  rwa [List.nil_append, List.append_nil] at h

theorem create_dev (dev : UInt16) : (dev.toUInt32 <<< 16 >>> 16).toUInt16 = dev := by
  apply UInt16.toNat_inj.mp
  have hlt := dev.toNat_lt
  simp [Nat.shiftLeft_eq, Nat.shiftRight_eq_div_pow]
  omega

/-- The data of a `WRITE` packet has as many bytes as its parameter says. -/
theorem heard_xmit (tid : UInt32) {data : List UInt8} (h : data.length ≤ xmitLen)
    (rest : List UInt8) :
    heard (vcPackXmit tid data (xmitLen + hdrLen) ++ rest) =
      (heard rest).map ((tid, .write data) :: ·) := by
  have hfit : data.length ≤ 1024 := h
  have hlen : (UInt16.ofNat data.length).toNat = data.length := by
    rw [UInt16.toNat_ofNat', Nat.mod_eq_of_lt (by omega)]
  have hp1 : (UInt32.ofNat data.length).toNat = data.length := by
    rw [UInt32.toNat_ofNat', Nat.mod_eq_of_lt (by omega)]
  refine heard_pack_append hlen (by omega) ?_ rest
  have hcmd : vcomCmdWrite ≠ vcomCmdIoctl := by decide
  rw [request, if_neg hcmd, if_pos rfl]
  exact if_pos hp1

/-- The commands that are no settings and carry no data. -/
theorem heard_command {tid p1 p2 : UInt32} {cmd : UInt16} {asked : Request}
    (hasked : ∀ h, request ⟨tid, cmd, p1, p2, [], h⟩ = some asked) (rest : List UInt8) :
    heard (pack tid cmd 0 p1 p2 [] pbufLen ++ rest) = (heard rest).map ((tid, asked) :: ·) :=
  heard_pack_append rfl (by decide) (hasked _) rest

theorem ioctlRequest_setBaud (baud : UInt32) :
    ioctlRequest vcomIoctlSetBaudRate (le32 baud) = some (.setBaud baud) := by
  simp [ioctlRequest, le32At_eq (holds_self (le32 baud))]

theorem ioctlRequest_setLine (stop pair byte : UInt8) :
    ioctlRequest vcomIoctlSetLineControl [stop, pair, byte] = some (.setLine stop pair byte) := by
  simp [ioctlRequest, bufferOf]

theorem ioctlRequest_setFlow (chflow flowrep xonlimit stale : UInt32) :
    ioctlRequest vcomIoctlSetHandflow (be32 chflow ++ be32 flowrep ++ be32 xonlimit ++ be32 stale) =
      some (.setFlow chflow flowrep xonlimit) := by
  have hall := holds_self (be32 chflow ++ be32 flowrep ++ be32 xonlimit ++ be32 stale)
  simp only [holds_append, List.length_append, length_be32, Nat.reduceAdd] at hall
  obtain ⟨⟨⟨hchflow, hflowrep⟩, hxon⟩, -⟩ := hall
  unfold ioctlRequest
  dsimp only
  rw [be32At_eq hchflow, be32At_eq hflowrep, be32At_eq hxon]
  simp

theorem ioctlRequest_purge (flags : UInt32) :
    ioctlRequest vcomIoctlPurge (le32 flags) = some (.purge flags) := by
  have hbaud : vcomIoctlPurge ≠ vcomIoctlSetBaudRate := by decide
  simp [ioctlRequest, hbaud, le32At_eq (holds_self (le32 flags))]

theorem ioctlRequest_setWaitMask (mask : UInt32) :
    ioctlRequest vcomIoctlSetWaitMask (be32 mask) = some (.setWaitMask mask) := by
  have hbaud : vcomIoctlSetWaitMask ≠ vcomIoctlSetBaudRate := by decide
  have hpurge : vcomIoctlSetWaitMask ≠ vcomIoctlPurge := by decide
  simp [ioctlRequest, hbaud, hpurge, be32At_eq (holds_self (be32 mask))]

/-- **A request is heard as it was built**, whatever follows it. -/
theorem heard_build_append (stale tid : UInt32) {asked : Request} (h : asked.Fits)
    (rest : List UInt8) :
    heard (asked.build stale tid ++ rest) = (heard rest).map ((tid, asked) :: ·) := by
  have hparam : hdrLen ≤ pbufLen := by decide
  unfold Request.build
  cases asked with
  | create dev port =>
      refine heard_command (fun _ => ?_) rest
      simp [request, vcomCmdIoctl, vcomCmdWrite, vcomCmdCreate, create_dev]
  | close =>
      refine heard_command (fun _ => ?_) rest
      simp [request, vcomCmdIoctl, vcomCmdWrite, vcomCmdCreate, vcomCmdClose]
  | write data => exact heard_xmit tid h rest
  | queueFree size =>
      refine heard_command (fun _ => ?_) rest
      simp [request, vcomCmdIoctl, vcomCmdWrite, vcomCmdCreate, vcomCmdClose, vcomCmdQueuefree]
  | setBaud baud =>
      dsimp only [vcPackSbaud]
      exact heard_ioctl rfl (by simp [hdrLen, pbufLen]) (ioctlRequest_setBaud baud) rest
  | setLine stop pair byte =>
      dsimp only [vcPackSetlctl]
      exact heard_ioctl rfl (by simp [hdrLen, pbufLen]) (ioctlRequest_setLine stop pair byte) rest
  | setFlow chflow flowrep xonlimit =>
      obtain rfl : xonlimit = 512 := h
      dsimp only [vcPackHflow]
      exact heard_ioctl rfl (by simp [hdrLen, pbufLen]) (ioctlRequest_setFlow chflow flowrep 512 stale) rest
  | setRts on =>
      cases on with
      | false => exact heard_ioctlParam tid hparam (by decide) rest
      | true => exact heard_ioctlParam tid hparam (by decide) rest
  | setDtr on =>
      cases on with
      | false => exact heard_ioctlParam tid hparam (by decide) rest
      | true => exact heard_ioctlParam tid hparam (by decide) rest
  | getWaitMask => exact heard_ioctlParam tid le_rfl (by decide) rest
  | setWaitMask mask =>
      dsimp only [vcPackSetwmask]
      exact heard_ioctl rfl (by simp [hdrLen, pbufLen]) (ioctlRequest_setWaitMask mask) rest
  | waitOnMask => exact heard_ioctlParam tid hparam (by decide) rest
  | purge flags =>
      dsimp only [vcPackPurge]
      exact heard_ioctl rfl (by simp [hdrLen, pbufLen]) (ioctlRequest_purge flags) rest
  | getModem => exact heard_ioctlParam tid hparam (by decide) rest

/-- One request alone. -/
theorem heard_build (stale tid : UInt32) {asked : Request} (h : asked.Fits) :
    heard (asked.build stale tid) = some [(tid, asked)] := by
  have hheard := heard_build_append stale tid h []
  rwa [List.append_nil, heard_nil] at hheard

/-- **Requests sent one after the other** are heard one after the other. -/
theorem heard_flatMap_build (stale : UInt32) {ms : List Numbered} (h : ∀ m ∈ ms, m.2.Fits) :
    heard (ms.flatMap fun m => m.2.build stale m.1) = some ms := by
  induction ms with
  | nil => rfl
  | cons m ms ih =>
      rw [List.flatMap_cons, heard_build_append stale m.1 (h m List.mem_cons_self),
        ih fun x hx => h x (List.mem_cons_of_mem m hx)]
      rfl

end ModbusRTU.ServerRequests
