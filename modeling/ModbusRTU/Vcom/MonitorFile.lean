import ModbusRTU.Storage.SpanCopies
import ModbusRTU.Vcom.DaemonCalls

/-!
# The monitor file

With `-l` the daemon keeps a file of 1024 bytes in memory (`vcom_monitor_dbg.h`): a status line, and
behind it the exceptions of the state stack, the newest first.  `mon_update` writes it after each
operation on the stack: it moves the old entries back and copies the new text from `tmp`, a buffer of 64
bytes.  A copy that leaves `tmp` or the page that is mapped for the file is `none` here.

* **`monitor_of_ops`** — after any operations on the stack no copy has left its buffer, and the file has
  the status line of the current state, padded to that of `Net Down`, and then the exceptions, newest
  first, as far as the file goes.  The other operations do not touch the file's time of change.
-/

namespace ModbusRTU.MonitorFile

open RingWindow SpanCopies DaemonCalls

def msize : ℕ := 1024
def tmpSize : ℕ := 64
def msgSize : ℕ := 128

/-- The file is mapped as a whole page. -/
def mappedSize : ℕ := 4096

def nul : Char := Char.ofNat 0

def cutter : List Char := "> ".toList

/-- `stk_curnt(stk)->name()`. -/
def name : VcOps → List Char
  | .netdown => "Net Down".toList
  | .netup => "Net Up".toList
  | .pause => "Pause".toList
  | .idle => "Idle".toList
  | .sync => "Sync".toList

/-- `struct vc_monitor`, the mapped bytes for `addr`, and how often the file was truncated to its size,
which is what `inotify` tells. -/
structure VcMonitor where
  mem : ℕ → Char
  pid : Fin (2 ^ 31)
  maxStatl : ℕ
  dbgFirst : Bool
  truncated : ℕ

/-! ### `mon_update` -/

/-- `snprintf` into a buffer of blanks: the buffer, and the length the text has. -/
def snprintf (size : ℕ) (text : List Char) : List Char × ℕ :=
  let kept := text.take (size - 1)
  (kept ++ nul :: List.replicate (size - 1 - kept.length) ' ', text.length)

/-- `memcpy` of `n` characters of `tmp`. -/
def memcpyTmp (mem : ℕ → Char) (pos : ℕ) (tmp : List Char) (n : ℕ) : Option (ℕ → Char) :=
  if n ≤ tmp.length ∧ pos + n ≤ mappedSize then some (store mem pos (tmp.take n)) else none

def memmoveMem (mem : ℕ → Char) (dst src n : ℕ) : Option (ℕ → Char) :=
  if dst + n ≤ mappedSize ∧ src + n ≤ mappedSize then some (memmove mem dst src n) else none

def statLine (pid : Fin (2 ^ 31)) (curnt : VcOps) : List Char :=
  "Pid ".toList ++ (Nat.repr pid.val).toList ++ " | State [".toList ++ name curnt ++ "] ".toList

/-- The status line.  A longer one than before moves the entries back. -/
def showStat (m : VcMonitor) (curnt : VcOps) : Option VcMonitor :=
  let tmp := (snprintf tmpSize (statLine m.pid curnt)).1
  let statl := (snprintf tmpSize (statLine m.pid curnt)).2
  if statl > m.maxStatl then
    (memmoveMem m.mem statl m.maxStatl (msize - statl)).bind fun mem =>
      (memcpyTmp mem 0 tmp statl).map fun mem => { m with mem := mem, maxStatl := statl }
  else (memcpyTmp m.mem 0 tmp m.maxStatl).map fun mem => { m with mem := mem }

/-- An entry in front of the others.  `statl` is the length of the status line without the padding. -/
def record (m : VcMonitor) (statl : ℕ) (dbg : List Char) : Option VcMonitor :=
  let tmp := (snprintf tmpSize (cutter ++ dbg)).1
  let dbgl := (snprintf tmpSize (cutter ++ dbg)).2
  if msize - dbgl - m.maxStatl ≤ 1 then some m
  else
    (if m.dbgFirst then some m.mem
      else memmoveMem m.mem (m.maxStatl + dbgl + 1) m.maxStatl (msize - statl - dbgl)).bind fun mem =>
        (memcpyTmp mem m.maxStatl tmp dbgl).map fun mem =>
          { m with
            mem := store mem (m.maxStatl + dbgl) [' ']
            dbgFirst := false
            truncated := m.truncated + 1 }

/-- `mon_update`.  `dbg` is given by `stk_excp` only, which is also the only one with `sig`. -/
def monUpdate (m : VcMonitor) (curnt : VcOps) (dbg : Option (List Char)) : Option VcMonitor :=
  if msize - (statLine m.pid curnt).length ≤ 1 then some m
  else
    (showStat m curnt).bind fun m =>
      match dbg with
      | none => some m
      | some dbg => record m (statLine m.pid curnt).length dbg

/-- `mon_init`, on a page as it is mapped. -/
def monInit (pid : Fin (2 ^ 31)) (page : ℕ → Char) : VcMonitor where
  mem := store page 0 (List.replicate msize ' ')
  pid := pid
  maxStatl := 0
  dbgFirst := true
  truncated := 0

/-! ### The stack -/

/-- The uses of `stk_excp`: `__func__` and `__LINE__`. -/
def excpSites : List (String × ℕ) :=
  [("vc_common_open", 62), ("vc_common_open", 70), ("vc_common_open", 77),
    ("vc_common_xmit", 128), ("vc_common_xmit", 136), ("vc_common_xmit", 143),
    ("vc_common_ioctl", 286), ("vc_common_ioctl", 291),
    ("vc_common_recv", 371), ("vc_common_recv", 384), ("vc_common_recv", 396),
    ("vc_common_recv", 411), ("vc_common_recv", 417), ("vc_common_recv", 450),
    ("vc_common_close", 512), ("vc_common_close", 518), ("vc_common_close", 523),
    ("vc_idle_poll", 70), ("vc_idle_error", 90),
    ("vc_idle_init", 110), ("vc_idle_init", 118), ("vc_idle_init", 125),
    ("vc_netup_error", 84), ("vc_netup_pause", 143),
    ("vc_pause_error", 73), ("vc_pause_event", 111), ("vc_pause_resume", 164),
    ("vc_pause_resume", 174), ("vc_sync_close", 60), ("vc_sync_error", 71),
    ("vc_sync_init", 263), ("vc_sync_init", 270), ("vc_sync_init", 277),
    ("vc_sync_recv", 302), ("vc_sync_recv", 308), ("vc_sync_recv", 318),
    ("vc_recv_desp", 78)]

abbrev Site := { site : String × ℕ // site ∈ excpSites }

/-- `_expmsg` above the bottom of the stack. -/
def expmsg (curnt : VcOps) (site : Site) : List Char :=
  ("(".toList ++ name curnt ++ ")".toList ++ site.val.1.toList ++ ",".toList ++
    (Nat.repr site.val.2).toList).take (msgSize - 1)

def stkRun (stk : StkVc) (ops : List StkOp) : StkVc := ops.foldl stkStep stk

/-- An operation on the stack and where it stands, which matters for an exception only. -/
abbrev SitedOp := StkOp × Site

/-- What an operation gives to `mon_update` for the record. -/
def excpMsg (stk : StkVc) (op : SitedOp) : Option (List Char) :=
  match op.1 with
  | .excp => stk.head?.map fun curnt => expmsg curnt op.2
  | _ => none

/-- Whether it calls `mon_update` at all. -/
def updates (stk : StkVc) : StkOp → Bool
  | .push _ => !decide (stk.length + 1 ≥ stackMax)
  | .pop => true
  | .rpls _ => true
  | .excp => !stk.isEmpty
  | .restart => !stk.isEmpty

def monStep (stk : StkVc) (m : VcMonitor) (op : SitedOp) : Option VcMonitor :=
  if updates stk op.1 then monUpdate m ((stkStep stk op.1).headD .netdown) (excpMsg stk op) else some m

def monRun : StkVc → VcMonitor → List SitedOp → Option VcMonitor
  | _, m, [] => some m
  | stk, m, op :: ops => (monStep stk m op).bind fun m => monRun (stkStep stk op.1) m ops

/-- `main` pushes `vc_netdown_ops` on the empty stack. -/
def monitored (pid : Fin (2 ^ 31)) (page : ℕ → Char) (ops : List SitedOp) : Option VcMonitor :=
  (monUpdate (monInit pid page) .netdown none).bind fun m => monRun [] m ops

/-! ### What the file is for -/

/-- The messages, newest first. -/
def logged : StkVc → List (List Char) → List SitedOp → List (List Char)
  | _, msgs, [] => msgs
  | stk, msgs, op :: ops => logged (stkStep stk op.1) ((excpMsg stk op).toList ++ msgs) ops

def entry (msg : List Char) : List Char := cutter ++ msg ++ [' ']

/-- The width of the status line. -/
def width (pid : Fin (2 ^ 31)) : ℕ := (statLine pid .netdown).length

def header (pid : Fin (2 ^ 31)) (curnt : VcOps) : List Char :=
  ((statLine pid curnt) ++ nul :: List.replicate tmpSize ' ').take (width pid)

/-- The entries and the blanks behind them. -/
def entries (msgs : List (List Char)) : List Char := msgs.flatMap entry ++ List.replicate msize ' '

def contents (pid : Fin (2 ^ 31)) (curnt : VcOps) (msgs : List (List Char)) : List Char :=
  header pid curnt ++ (entries msgs).take (msize - width pid)

/-! ### Lengths -/

theorem length_name_le (curnt : VcOps) : (name curnt).length ≤ 8 := by
  cases curnt <;> decide

theorem length_repr_le {n k : ℕ} (hk : 0 < k) (h : n < 10 ^ k) : (Nat.repr n).toList.length ≤ k := by
  rw [Nat.toList_repr]
  exact (Nat.length_toDigits_le_iff (by decide) hk).mpr h

/-- Only the name of the state varies. -/
theorem length_statLine (pid : Fin (2 ^ 31)) (curnt : VcOps) :
    (statLine pid curnt).length = (Nat.repr pid.val).toList.length + (name curnt).length + 16 := by
  have hlength : ∀ a b c d e : List Char,
      (a ++ b ++ c ++ d ++ e).length = a.length + b.length + c.length + d.length + e.length := by
    intro a b c d e
    simp only [List.length_append]
  have hall := hlength "Pid ".toList (Nat.repr pid.val).toList " | State [".toList (name curnt) "] ".toList
  unfold statLine
  have hpid : "Pid ".toList.length = 4 := by decide
  have hstate : " | State [".toList.length = 10 := by decide
  have hend : "] ".toList.length = 2 := by decide
  omega

theorem length_statLine_le_width (pid : Fin (2 ^ 31)) (curnt : VcOps) :
    (statLine pid curnt).length ≤ width pid := by
  have hname := length_name_le curnt
  have hdown : (name .netdown).length = 8 := by decide
  rw [width, length_statLine, length_statLine, hdown]
  omega

theorem width_le (pid : Fin (2 ^ 31)) : width pid ≤ 34 := by
  have hdigits := length_repr_le (show 0 < 10 by decide)
    (show pid.val < 10 ^ 10 from pid.isLt.trans (by decide))
  have hdown : (name .netdown).length = 8 := by decide
  rw [width, length_statLine, hdown]
  omega

/-- Every message fits `tmp` behind the cutter. -/
theorem length_expmsg_le (curnt : VcOps) (site : Site) : (expmsg curnt site).length ≤ 61 := by
  have hsites : excpSites.all
      (fun site => decide (site.1.toList.length ≤ 15 ∧ site.2 < 10 ^ 3)) = true := by decide
  obtain ⟨hfunc, hline⟩ := of_decide_eq_true (List.all_eq_true.mp hsites site.val site.property)
  have hname := length_name_le curnt
  have hdigits := length_repr_le (by decide) hline
  have hopen : "(".toList.length = 1 := by decide
  have hclose : ")".toList.length = 1 := by decide
  have hcomma : ",".toList.length = 1 := by decide
  rw [expmsg, List.length_take]
  simp only [List.length_append]
  omega

theorem length_cutter : cutter.length = 2 := by decide

theorem length_entry (msg : List Char) : (entry msg).length = msg.length + 3 := by
  simp only [entry, List.length_append, length_cutter, List.length_singleton]
  omega

/-! ### Copies from `tmp` -/

/-- A text that fits `tmp` is copied from there, and blanks behind it as far as they are asked for. -/
theorem memcpyTmp_snprintf (mem : ℕ → Char) {pos n : ℕ} {text : List Char}
    (htext : text.length < tmpSize) (hn : n ≤ tmpSize) (hpos : pos + n ≤ mappedSize) :
    memcpyTmp mem pos (snprintf tmpSize text).1 n =
      some (store mem pos ((text ++ nul :: List.replicate tmpSize ' ').take n)) := by
  have hkept : text.take (tmpSize - 1) = text := List.take_of_length_le (by omega)
  have htmp : (snprintf tmpSize text).1 =
      (text ++ nul :: List.replicate tmpSize ' ').take tmpSize := by
    show text.take (tmpSize - 1) ++ nul :: List.replicate _ ' ' = _
    rw [hkept, List.take_append, List.take_of_length_le (by omega : text.length ≤ tmpSize)]
    congr 1
    obtain ⟨k, hk⟩ : ∃ k, tmpSize - text.length = k + 1 := ⟨tmpSize - text.length - 1, by omega⟩
    rw [hk, List.take_succ_cons, List.take_replicate, show tmpSize - 1 - text.length = k by omega,
      Nat.min_eq_left (by omega)]
  have hlength : (snprintf tmpSize text).1.length = tmpSize := by
    rw [htmp, List.length_take, List.length_append, List.length_cons, List.length_replicate]
    omega
  rw [memcpyTmp, if_pos ⟨by omega, hpos⟩, htmp, List.take_take, Nat.min_eq_left hn]

/-! ### One update -/

/-- The file shows a state and the messages. -/
structure Shows (m : VcMonitor) (curnt : VcOps) (msgs : List (List Char)) : Prop where
  maxStatl : m.maxStatl = width m.pid
  header : span m.mem 0 (width m.pid) = header m.pid curnt
  entries : span m.mem (width m.pid) (msize - width m.pid) = (entries msgs).take (msize - width m.pid)
  first : m.dbgFirst = msgs.isEmpty
  truncated : m.truncated = msgs.length

theorem length_header (pid : Fin (2 ^ 31)) (curnt : VcOps) : (header pid curnt).length = width pid := by
  have hwidth := width_le pid
  rw [header, List.length_take, List.length_append, List.length_cons, List.length_replicate]
  unfold tmpSize
  omega

theorem statLine_lt (pid : Fin (2 ^ 31)) (curnt : VcOps) : (statLine pid curnt).length < tmpSize := by
  have hstat := length_statLine_le_width pid curnt
  have hwidth := width_le pid
  unfold tmpSize
  omega

/-- A blank file. -/
structure Blank (m : VcMonitor) : Prop where
  maxStatl : m.maxStatl = 0
  blank : span m.mem 0 msize = List.replicate msize ' '
  first : m.dbgFirst = true
  truncated : m.truncated = 0

theorem blank_monInit (pid : Fin (2 ^ 31)) (page : ℕ → Char) : Blank (monInit pid page) := by
  have hback := span_store page 0 (List.replicate msize ' ')
  rw [List.length_replicate] at hback
  refine ⟨rfl, ?_, rfl, rfl⟩
  dsimp only [monInit]
  exact hback

/-- The first status line moves the blanks of the whole file. -/
theorem showStat_blank {m : VcMonitor} (h : Blank m) :
    ∃ m', showStat m .netdown = some m' ∧ m'.pid = m.pid ∧ Shows m' .netdown [] := by
  have hwidth := width_le m.pid
  have hlt := statLine_lt m.pid .netdown
  have hlength := length_header m.pid .netdown
  have hpos : width m.pid > 0 := by
    rw [width, length_statLine]
    omega
  have hmove : memmoveMem m.mem (width m.pid) 0 (msize - width m.pid) =
      some (memmove m.mem (width m.pid) 0 (msize - width m.pid)) := by
    rw [memmoveMem, if_pos (by unfold msize mappedSize; omega)]
  refine ⟨{ m with
    mem := store (memmove m.mem (width m.pid) 0 (msize - width m.pid)) 0 (header m.pid .netdown)
    maxStatl := width m.pid }, ?_, rfl, ⟨rfl, ?_, ?_, h.first, h.truncated⟩⟩
  · unfold showStat
    dsimp only
    rw [h.maxStatl, show (snprintf tmpSize (statLine m.pid .netdown)).2 = width m.pid from rfl,
      if_pos hpos, hmove, Option.bind_some, memcpyTmp_snprintf _ hlt (by unfold tmpSize; omega)
        (by unfold mappedSize; omega), Option.map_some]
    rfl
  · show span (store _ 0 (header m.pid .netdown)) 0 (width m.pid) = header m.pid .netdown
    rw [← hlength]
    exact span_store _ _ _
  · show span (store _ 0 (header m.pid .netdown)) (width m.pid) (msize - width m.pid) = _
    rw [span_store_behind _ _ (by omega), span_memmove _ _ _ le_rfl, ← take_span _ _ (Nat.sub_le ..),
      h.blank]
    rfl

/-- Later the status line is no longer than the place it has. -/
theorem showStat_shows {m : VcMonitor} {curnt : VcOps} {msgs : List (List Char)} (h : Shows m curnt msgs)
    (next : VcOps) :
    ∃ m', showStat m next = some m' ∧ m'.pid = m.pid ∧ Shows m' next msgs := by
  have hwidth := width_le m.pid
  have hlt := statLine_lt m.pid next
  have hle := length_statLine_le_width m.pid next
  have hlength := length_header m.pid next
  refine ⟨{ m with mem := store m.mem 0 (header m.pid next) }, ?_, rfl, h.maxStatl, ?_, ?_, h.first,
    h.truncated⟩
  · show (if (statLine m.pid next).length > m.maxStatl then _ else
      (memcpyTmp m.mem 0 (snprintf tmpSize (statLine m.pid next)).1 m.maxStatl).map _) = _
    rw [if_neg (by rw [h.maxStatl]; omega), h.maxStatl,
      memcpyTmp_snprintf _ hlt (by unfold tmpSize; omega) (by unfold mappedSize; omega), Option.map_some]
    rfl
  · show span (store m.mem 0 (header m.pid next)) 0 (width m.pid) = header m.pid next
    rw [← hlength]
    exact span_store _ _ _
  · show span (store m.mem 0 (header m.pid next)) (width m.pid) (msize - width m.pid) = _
    rw [span_store_behind _ _ (by omega)]
    exact h.entries

theorem take_append_take {α : Type} (front back : List α) (n : ℕ) :
    (front ++ back.take n).take n = (front ++ back).take n := by
  rw [List.take_append, List.take_append, List.take_take, Nat.min_eq_left (Nat.sub_le ..)]

/-- Blanks behind a position are blanks behind a later one. -/
theorem span_of_blank {mem : ℕ → Char} {pos m n : ℕ}
    (h : span mem pos (m + n) = List.replicate (m + n) ' ') :
    span mem (pos + m) n = List.replicate n ' ' := by
  rw [span_add, List.replicate_add] at h
  exact (List.append_inj h (by simp)).2

/-- The monitor after a message, on a file where there is place for it. -/
def recorded (m : VcMonitor) (mem : ℕ → Char) (msg : List Char) : VcMonitor :=
  { m with
    mem := store mem (width m.pid) (entry msg)
    maxStatl := width m.pid
    dbgFirst := false
    truncated := m.truncated + 1 }

/-- A message is recorded in front of the others. -/
theorem record_shows {m : VcMonitor} {curnt : VcOps} {msgs : List (List Char)} (h : Shows m curnt msgs)
    {statl : ℕ} (hstatl : statl ≤ width m.pid) {msg : List Char} (hmsg : msg.length ≤ 61) :
    ∃ m', record m statl msg = some m' ∧ m'.pid = m.pid ∧ Shows m' curnt (msg :: msgs) := by
  have hwidth := width_le m.pid
  have hdbgl : (cutter ++ msg).length = msg.length + 2 := by
    rw [List.length_append, length_cutter]
    omega
  have hentry := length_entry msg
  have htext : ((cutter ++ msg) ++ nul :: List.replicate tmpSize ' ').take (msg.length + 2) =
      cutter ++ msg := List.take_left' hdbgl
  -- the copies behind the move, if there is one
  have hcopy : ∀ mem, memcpyTmp mem (width m.pid) (snprintf tmpSize (cutter ++ msg)).1 (msg.length + 2) =
      some (store mem (width m.pid) (cutter ++ msg)) := fun mem => by
    rw [memcpyTmp_snprintf mem (by unfold tmpSize; omega) (by unfold tmpSize; omega)
      (by unfold mappedSize; omega), htext]
  have hblank : ∀ mem, store (store mem (width m.pid) (cutter ++ msg)) (width m.pid + (msg.length + 2))
      [' '] = store mem (width m.pid) (entry msg) := fun mem => by
    rw [← hdbgl, store_store]
    rfl
  -- what the file has after them, if the entries stand where they should
  have hshows : ∀ mem, span mem 0 (width m.pid) = header m.pid curnt →
      span (store mem (width m.pid) (entry msg)) (width m.pid) (msize - width m.pid) =
        (entries (msg :: msgs)).take (msize - width m.pid) →
      Shows (recorded m mem msg) curnt (msg :: msgs) := by
    intro mem hheader hentries
    refine ⟨rfl, ?_, hentries, rfl, ?_⟩
    · show span (store mem (width m.pid) (entry msg)) 0 (width m.pid) = header m.pid curnt
      rw [span_store_before _ _ (by omega)]
      exact hheader
    · show m.truncated + 1 = (msg :: msgs).length
      rw [h.truncated, List.length_cons]
  have hcons : entries (msg :: msgs) = entry msg ++ entries msgs := by
    rw [entries, entries, List.flatMap_cons, List.append_assoc]
  unfold record
  dsimp only
  rw [show (snprintf tmpSize (cutter ++ msg)).2 = msg.length + 2 from hdbgl, h.maxStatl,
    if_neg (by unfold msize; omega)]
  cases hfirst : m.dbgFirst with
  | true =>
      have hnone : msgs = [] := List.isEmpty_iff.mp (h.first ▸ hfirst)
      refine ⟨recorded m m.mem msg, ?_, rfl, hshows m.mem h.header ?_⟩
      · rw [if_pos rfl, Option.bind_some, hcopy, Option.map_some, hblank]
        rfl
      · have hold : span m.mem (width m.pid) (msize - width m.pid) =
            List.replicate (msize - width m.pid) ' ' := by
          rw [h.entries, hnone]
          show (List.replicate msize ' ').take _ = _
          rw [List.take_replicate, Nat.min_eq_left (Nat.sub_le ..)]
        obtain ⟨k, hk⟩ : ∃ k, msize - width m.pid = (entry msg).length + k :=
          Nat.exists_eq_add_of_le (by unfold msize; omega)
        rw [hk] at hold ⊢
        rw [span_add, span_store, span_store_behind _ _ le_rfl, span_of_blank hold, hcons, hnone,
          List.take_length_add_append]
        show _ = _ ++ (List.replicate msize ' ').take k
        rw [List.take_replicate, Nat.min_eq_left (by omega)]
  | false =>
      have hmove : memmoveMem m.mem (width m.pid + (msg.length + 2) + 1) (width m.pid)
          (msize - statl - (msg.length + 2)) =
          some (memmove m.mem (width m.pid + (entry msg).length) (width m.pid)
            (msize - statl - (msg.length + 2))) := by
        have hplace : width m.pid + (msg.length + 2) + 1 = width m.pid + (entry msg).length := by omega
        rw [memmoveMem, if_pos (by unfold msize mappedSize; omega), hplace]
      refine ⟨recorded m (memmove m.mem (width m.pid + (entry msg).length) (width m.pid)
        (msize - statl - (msg.length + 2))) msg, ?_, rfl, hshows _ ?_ ?_⟩
      · rw [if_neg Bool.false_ne_true, hmove, Option.bind_some, hcopy, Option.map_some, hblank]
        rfl
      · rw [memmove, span_store_before _ _ (by omega)]
        exact h.header
      · rw [span_insert _ _ (by unfold msize; omega) (by unfold msize; omega), h.entries,
          take_append_take, hcons]

/-! ### Runs -/

section Runs

variable {m : VcMonitor} {curnt : VcOps} {msgs : List (List Char)}

theorem monUpdate_shows (h : Shows m curnt msgs) (next : VcOps) (dbg : Option (List Char))
    (hdbg : ∀ msg ∈ dbg, msg.length ≤ 61) :
    ∃ m', monUpdate m next dbg = some m' ∧ m'.pid = m.pid ∧ Shows m' next (dbg.toList ++ msgs) := by
  have hlt := statLine_lt m.pid next
  have hle := length_statLine_le_width m.pid next
  obtain ⟨m₁, hstat, hpid, hshows⟩ := showStat_shows h next
  unfold monUpdate
  rw [if_neg (by unfold msize tmpSize at *; omega), hstat, Option.bind_some]
  cases dbg with
  | none => exact ⟨m₁, rfl, hpid, hshows⟩
  | some msg =>
      obtain ⟨m₂, hrecord, hpid', hshows'⟩ :=
        record_shows hshows (hpid.symm ▸ hle) (hdbg msg rfl)
      exact ⟨m₂, hrecord, hpid'.trans hpid, hshows'⟩

/-- What an operation gives to the record fits `tmp`. -/
theorem length_of_excpMsg {stk : StkVc} {op : SitedOp} {msg : List Char} (h : msg ∈ excpMsg stk op) :
    msg.length ≤ 61 := by
  obtain ⟨op, site⟩ := op
  cases op with
  | excp =>
      obtain ⟨current, -, rfl⟩ := Option.map_eq_some_iff.mp h
      exact length_expmsg_le current site
  | push current => cases h
  | pop => cases h
  | rpls current => cases h
  | restart => cases h

/-- An operation that does not call `mon_update` leaves the stack as it is. -/
theorem stkStep_of_not_updates {stk : StkVc} {op : SitedOp} (h : updates stk op.1 = false) :
    stkStep stk op.1 = stk ∧ excpMsg stk op = none := by
  obtain ⟨op, site⟩ := op
  dsimp only at h ⊢
  cases op with
  | push current =>
      have hfull : stk.length + 1 ≥ stackMax := by
        unfold updates at h
        simpa using h
      exact ⟨if_pos hfull, rfl⟩
  | pop => exact absurd h Bool.noConfusion
  | rpls current => exact absurd h Bool.noConfusion
  | excp =>
      cases stk with
      | nil => exact ⟨rfl, rfl⟩
      | cons current below => exact absurd h (by simp [updates])
  | restart =>
      cases stk with
      | nil => exact ⟨rfl, rfl⟩
      | cons current below => exact absurd h (by simp [updates])

/-- **An operation.** -/
theorem monStep_shows {stk : StkVc} (h : Shows m (stk.headD .netdown) msgs) (op : SitedOp) :
    ∃ m', monStep stk m op = some m' ∧ m'.pid = m.pid ∧
      Shows m' ((stkStep stk op.1).headD .netdown) ((excpMsg stk op).toList ++ msgs) := by
  unfold monStep
  cases hupdates : updates stk op.1 with
  | true =>
      rw [if_pos rfl]
      exact monUpdate_shows h _ _ fun msg hmsg => length_of_excpMsg hmsg
  | false =>
      obtain ⟨hstk, hmsg⟩ := stkStep_of_not_updates hupdates
      rw [hstk, hmsg]
      exact ⟨m, rfl, rfl, h⟩

/-- **A sequence of operations.** -/
theorem monRun_shows {stk : StkVc} (h : Shows m (stk.headD .netdown) msgs) (ops : List SitedOp) :
    ∃ m', monRun stk m ops = some m' ∧ m'.pid = m.pid ∧
      Shows m' ((stkRun stk (ops.map (·.1))).headD .netdown) (logged stk msgs ops) := by
  induction ops generalizing stk m msgs with
  | nil => exact ⟨m, rfl, rfl, h⟩
  | cons op ops ih =>
      obtain ⟨m₁, hstep, hpid, hshows⟩ := monStep_shows h op
      obtain ⟨m₂, hrun, hpid', hshows'⟩ := ih hshows
      refine ⟨m₂, ?_, hpid'.trans hpid, hshows'⟩
      rw [monRun, hstep, Option.bind_some]
      exact hrun

/-- **The file.**  It was truncated, and so its watcher told, once for every message. -/
theorem monitor_of_ops (pid : Fin (2 ^ 31)) (page : ℕ → Char) (ops : List SitedOp) :
    ∃ m, monitored pid page ops = some m ∧
      span m.mem 0 msize = contents pid ((stkRun [] (ops.map (·.1))).headD .netdown) (logged [] [] ops) ∧
      m.truncated = (logged [] [] ops).length := by
  have hwidth := width_le pid
  have hlt := statLine_lt pid .netdown
  obtain ⟨m₁, hstat, hpid, hshows⟩ := showStat_blank (blank_monInit pid page)
  have hbottom : Shows m₁ (([] : StkVc).headD .netdown) [] := hshows
  obtain ⟨m₂, hrun, hpid', hshows'⟩ := monRun_shows hbottom ops
  have hpid₂ : m₂.pid = pid := hpid'.trans hpid
  refine ⟨m₂, ?_, ?_, hshows'.truncated⟩
  · have hupdate : monUpdate (monInit pid page) .netdown none = some m₁ := by
      unfold monUpdate
      rw [if_neg (by unfold msize tmpSize at *; show ¬ 1024 - (statLine pid .netdown).length ≤ 1; omega),
        hstat]
      rfl
    rw [monitored, hupdate, Option.bind_some]
    exact hrun
  · have hheader := hshows'.header
    have hentries := hshows'.entries
    rw [hpid₂] at hheader hentries
    rw [show msize = width pid + (msize - width pid) by unfold msize; omega, span_add, hheader,
      Nat.zero_add, hentries]
    rfl

end Runs

end ModbusRTU.MonitorFile
