import ModbusRTU.Storage.WireWords

/-!
# Packets between the daemon and the server

The daemon `vcomd` and the serial device server exchange packets: a header with a magic number, a
transaction number, a command and the length of the data, then two parameters, then the data.  The
`vcPack…` functions are those of `vcom_proto_cmd.h` and `vcom_proto_ioctl.h`; where the source returns
length 0 because the buffer is too small they return no bytes.  The checks read a receive buffer.

`Packet` is a packet taken apart.  Its length field has 16 bits, which is part of the type.

* **`decode_encode`** — a stream that starts with an encoded packet is taken apart into that packet
  and the rest of the stream, so packets sent one after the other arrive one after the other.
* **`pack_eq_encode`** — what the `vcPack…` functions build is the encoding of a packet.
* **`vcPackHflow_stale`** — except that `vc_pack_hflow` writes `xonlimit` twice: the bytes of
  `xofflimit` are whatever the buffer held before.
-/

namespace ModbusRTU.Packets

open WireWords

/-! ### Numbers -/

def vcomMagic : UInt32 := 0x4d414441

def statusSuccess : UInt32 := 0x00000000
def statusDeviceBusy : UInt32 := 0x80000011

def vcomCmdCreate : UInt16 := 0x0000
def vcomCmdClose : UInt16 := 0x0002
def vcomCmdWrite : UInt16 := 0x0004
def vcomCmdIoctl : UInt16 := 0x000e
def vcomCmdQueuefree : UInt16 := 0x0900
def vcomCmdDataready : UInt16 := 0x0800

def vcomIoctlSetBaudRate : UInt32 := 0x01
def vcomIoctlSetLineControl : UInt32 := 0x03
def vcomIoctlSetDtr : UInt32 := 0x09
def vcomIoctlClrDtr : UInt32 := 0x0a
def vcomIoctlSetRts : UInt32 := 0x0c
def vcomIoctlClrRts : UInt32 := 0x0d
def vcomIoctlGetWaitMask : UInt32 := 0x10
def vcomIoctlSetWaitMask : UInt32 := 0x11
def vcomIoctlWaitOnMask : UInt32 := 0x12
def vcomIoctlPurge : UInt32 := 0x13
def vcomIoctlSetHandflow : UInt32 := 0x19
def vcomIoctlGetModemstatus : UInt32 := 0x1a

/-- The bytes of the header and the two parameters. -/
def hdrLen : ℕ := 20

/-! ### Building packets -/

def vcInitHdr (tid : UInt32) (cmd len : UInt16) : List UInt8 :=
  be32 vcomMagic ++ be32 tid ++ be16 cmd ++ be16 len

/-- What the `vcPack…` functions have in common: the length check, the header, the parameters. -/
def pack (tid : UInt32) (cmd len : UInt16) (p1 p2 : UInt32) (ext : List UInt8) (buflen : ℕ) :
    List UInt8 :=
  if hdrLen + ext.length > buflen then []
  else vcInitHdr tid cmd len ++ be32 p1 ++ be32 p2 ++ ext

def vcPackQfsize (tid fsize : UInt32) (buflen : ℕ) : List UInt8 :=
  pack tid vcomCmdQueuefree 0 0 fsize [] buflen

def vcPackClose (tid : UInt32) (buflen : ℕ) : List UInt8 := pack tid vcomCmdClose 0 0 0 [] buflen

def vcPackXmit (tid : UInt32) (data : List UInt8) (buflen : ℕ) : List UInt8 :=
  pack tid vcomCmdWrite (UInt16.ofNat data.length) (UInt32.ofNat data.length) 0 data buflen

def vcPackOpen (tid : UInt32) (dev : UInt16) (port : UInt32) (buflen : ℕ) : List UInt8 :=
  pack tid vcomCmdCreate 0 (dev.toUInt32 <<< 16) port [] buflen

/-- `_pack_ioctl_param`. -/
def packIoctlParam (tid subcmd : UInt32) (buflen : ℕ) : List UInt8 :=
  pack tid vcomCmdIoctl 0 subcmd 0 [] buflen

def vcPackWomask (tid : UInt32) (buflen : ℕ) : List UInt8 :=
  packIoctlParam tid vcomIoctlWaitOnMask buflen

def vcPackSetrts (tid : UInt32) (buflen : ℕ) : List UInt8 :=
  packIoctlParam tid vcomIoctlSetRts buflen

def vcPackSetdtr (tid : UInt32) (buflen : ℕ) : List UInt8 :=
  packIoctlParam tid vcomIoctlSetDtr buflen

def vcPackClrrts (tid : UInt32) (buflen : ℕ) : List UInt8 :=
  packIoctlParam tid vcomIoctlClrRts buflen

def vcPackClrdtr (tid : UInt32) (buflen : ℕ) : List UInt8 :=
  packIoctlParam tid vcomIoctlClrDtr buflen

def vcPackGetmodem (tid : UInt32) (buflen : ℕ) : List UInt8 :=
  packIoctlParam tid vcomIoctlGetModemstatus buflen

def vcPackGetwmask (tid : UInt32) (buflen : ℕ) : List UInt8 :=
  packIoctlParam tid vcomIoctlGetWaitMask buflen

def vcPackPurge (tid pflags : UInt32) (buflen : ℕ) : List UInt8 :=
  pack tid vcomCmdIoctl 4 vcomIoctlPurge 0 (le32 pflags) buflen

def vcPackSbaud (tid baud : UInt32) (buflen : ℕ) : List UInt8 :=
  pack tid vcomCmdIoctl 4 vcomIoctlSetBaudRate 0 (le32 baud) buflen

def vcPackSetwmask (tid mask : UInt32) (buflen : ℕ) : List UInt8 :=
  pack tid vcomCmdIoctl 4 vcomIoctlSetWaitMask 0 (be32 mask) buflen

/-- `stale` is what the buffer holds at `xofflimit`, which is not written. -/
def vcPackHflow (tid chflow flowrep stale : UInt32) (buflen : ℕ) : List UInt8 :=
  pack tid vcomCmdIoctl 16 vcomIoctlSetHandflow 0
    (be32 chflow ++ be32 flowrep ++ be32 512 ++ be32 stale) buflen

def vcPackSetlctl (tid : UInt32) (pair dbit sbit : UInt8) (buflen : ℕ) : List UInt8 :=
  pack tid vcomCmdIoctl 3 vcomIoctlSetLineControl 0 [sbit, pair, dbit] buflen

/-! ### Checking packets -/

/-- `vc_check_hdr` returns 0. -/
def vcCheckHdr (buf : ℕ → UInt8) (cmd len : UInt16) : Bool :=
  be32At buf 0 == vcomMagic && be16At buf 8 == cmd && be16At buf 10 == len

def vcCheckXmit (buf : ℕ → UInt8) (datalen : ℕ) (stat : UInt32) (buflen : ℕ) : Bool :=
  hdrLen ≤ buflen && vcCheckHdr buf vcomCmdWrite 0 && be32At buf 12 == stat &&
    be32At buf 16 == UInt32.ofNat datalen

def vcCheckOpen (buf : ℕ → UInt8) (port : UInt32) (buflen : ℕ) : Bool :=
  hdrLen ≤ buflen && vcCheckHdr buf vcomCmdCreate 0 && be32At buf 12 == statusSuccess &&
    be32At buf 16 == port

/-- The length of the data of a packet that announces data: the length field and the parameter have
to agree. -/
def vcCheckRecv (buf : ℕ → UInt8) : Option ℕ :=
  let plen := (be16At buf 10).toNat
  let alen := (be32At buf 16).toNat
  if be32At buf 12 ≠ statusSuccess then none
  else if plen ≠ alen then none
  else some alen

theorem vcCheckRecv_eq_some {buf : ℕ → UInt8} {n : ℕ} (h : vcCheckRecv buf = some n) :
    n = (be16At buf 10).toNat := by
  unfold vcCheckRecv at h
  dsimp only at h
  split at h
  · exact absurd h (by simp)
  · split at h
    · exact absurd h (by simp)
    · next hlen =>
        rw [not_not] at hlen
        exact (Option.some.inj h).symm.trans hlen.symm

/-! ### Packets taken apart -/

structure Packet where
  tid : UInt32
  cmd : UInt16
  p1 : UInt32
  p2 : UInt32
  ext : List UInt8
  ext_lt : ext.length < 65536

def Packet.encode (p : Packet) : List UInt8 :=
  vcInitHdr p.tid p.cmd (UInt16.ofNat p.ext.length) ++ be32 p.p1 ++ be32 p.p2 ++ p.ext

/-- The first packet of a stream of bytes and the rest of the stream. -/
def decode (bytes : List UInt8) : Option (Packet × List UInt8) :=
  let buf := bufferOf bytes
  let len := (be16At buf 10).toNat
  if bytes.length < hdrLen ∨ be32At buf 0 ≠ vcomMagic ∨ bytes.length < hdrLen + len then none
  else
    some (⟨be32At buf 4, be16At buf 8, be32At buf 12, be32At buf 16, (bytes.drop hdrLen).take len,
      Nat.lt_of_le_of_lt (List.length_take_le ..) (be16At buf 10).toNat_lt⟩,
      bytes.drop (hdrLen + len))

@[simp] theorem length_vcInitHdr (tid : UInt32) (cmd len : UInt16) :
    (vcInitHdr tid cmd len).length = 12 := rfl

/-- A packet fits in 20 bytes and its data. -/
theorem Packet.length_encode (p : Packet) : p.encode.length = hdrLen + p.ext.length := by
  simp only [encode, List.length_append, length_vcInitHdr, length_be32, hdrLen]

/-- What a buffer that starts with a packet holds where. -/
theorem holds_encode (p : Packet) (rest : List UInt8) :
    let buf := bufferOf (p.encode ++ rest)
    Holds buf 0 (be32 vcomMagic) ∧ Holds buf 4 (be32 p.tid) ∧ Holds buf 8 (be16 p.cmd) ∧
      Holds buf 10 (be16 (UInt16.ofNat p.ext.length)) ∧ Holds buf 12 (be32 p.p1) ∧
      Holds buf 16 (be32 p.p2) ∧ Holds buf 20 p.ext := by
  have h := holds_bufferOf [] p.encode rest
  rw [List.nil_append] at h
  simp only [Packet.encode, vcInitHdr, List.length_nil] at h
  simp only [holds_append, List.length_append, length_be32, length_be16, Nat.reduceAdd] at h
  obtain ⟨⟨⟨⟨⟨⟨hmagic, htid⟩, hcmd⟩, hlen⟩, hp1⟩, hp2⟩, hext⟩ := h
  exact ⟨hmagic, htid, hcmd, hlen, hp1, hp2, hext⟩

/-- **Framing.**  The first packet of a stream is found and the rest is left. -/
theorem decode_encode (p : Packet) (rest : List UInt8) :
    decode (p.encode ++ rest) = some (p, rest) := by
  obtain ⟨hmagic, htid, hcmd, hlen, hp1, hp2, -⟩ := holds_encode p rest
  have hlength := p.length_encode
  have hn : (UInt16.ofNat p.ext.length).toNat = p.ext.length := by
    rw [UInt16.toNat_ofNat', Nat.mod_eq_of_lt p.ext_lt]
  have hsplit : p.encode ++ rest =
      (vcInitHdr p.tid p.cmd (UInt16.ofNat p.ext.length) ++ be32 p.p1 ++ be32 p.p2) ++
        (p.ext ++ rest) := by
    rw [Packet.encode, List.append_assoc]
  have hdrop : (p.encode ++ rest).drop hdrLen = p.ext ++ rest := by
    rw [hsplit]
    exact List.drop_left' rfl
  have hrest : (p.encode ++ rest).drop (hdrLen + p.ext.length) = rest := by
    rw [← List.drop_drop, hdrop, List.drop_left]
  unfold decode
  simp only [be32At_eq hmagic, be32At_eq htid, be16At_eq hcmd, be16At_eq hlen, be32At_eq hp1,
    be32At_eq hp2, hn, hdrop, hrest, List.take_left]
  rw [if_neg]
  rw [List.length_append, hlength]
  simp only [hdrLen, ne_eq, not_true_eq_false, false_or]
  omega

/-- Packets sent one after the other are received one after the other. -/
def decodeAll : ℕ → List UInt8 → List Packet
  | 0, _ => []
  | n + 1, bytes =>
      match decode bytes with
      | none => []
      | some (p, rest) => p :: decodeAll n rest

theorem decodeAll_encode (ps : List Packet) :
    decodeAll ps.length (ps.flatMap Packet.encode) = ps := by
  induction ps with
  | nil => rfl
  | cons p ps ih =>
      rw [List.flatMap_cons, List.length_cons, decodeAll, decode_encode]
      show p :: decodeAll ps.length (ps.flatMap Packet.encode) = _
      rw [ih]

theorem decodeAll_nil (n : ℕ) : decodeAll n [] = [] := by
  cases n with
  | zero => rfl
  | succ n => rfl

/-- A stream that is one packet. -/
theorem decodeAll_single (p : Packet) : decodeAll p.encode.length p.encode = [p] := by
  have hdecode := decode_encode p []
  rw [List.append_nil] at hdecode
  have hlength := p.length_encode
  rw [show p.encode.length = hdrLen - 1 + p.ext.length + 1 by simp only [hdrLen] at *; omega]
  rw [decodeAll, hdecode]
  show p :: decodeAll _ [] = [p]
  rw [decodeAll_nil]

/-- **What is built is a packet**, if its length field is that of its data and the buffer is large
enough. -/
theorem pack_eq_encode (tid : UInt32) (cmd len : UInt16) (p1 p2 : UInt32) (ext : List UInt8)
    (buflen : ℕ) (hlen : len.toNat = ext.length) (hbuf : hdrLen + ext.length ≤ buflen) :
    pack tid cmd len p1 p2 ext buflen =
      Packet.encode ⟨tid, cmd, p1, p2, ext, hlen ▸ len.toNat_lt⟩ := by
  have hfield : UInt16.ofNat ext.length = len := by
    rw [← hlen, UInt16.ofNat_toNat]
  rw [pack, if_neg (by omega), Packet.encode, hfield]

/-- **The limit `xofflimit` is not set.**  Packets built over different buffers ask for different
limits. -/
theorem vcPackHflow_stale (tid chflow flowrep stale stale' : UInt32) :
    vcPackHflow tid chflow flowrep stale 1024 = vcPackHflow tid chflow flowrep stale' 1024 ↔
      stale = stale' := by
  have hbuf : ∀ x, ¬ hdrLen + (be32 chflow ++ be32 flowrep ++ be32 512 ++ be32 x).length > 1024 := by
    intro x
    simp [hdrLen]
  rw [vcPackHflow, vcPackHflow, pack, pack, if_neg (hbuf stale), if_neg (hbuf stale'),
    List.append_cancel_left_eq, List.append_cancel_left_eq, be32_injective.eq_iff]

end ModbusRTU.Packets
