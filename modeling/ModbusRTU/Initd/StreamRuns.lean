import ModbusRTU.Initd.ProcCalls
import ModbusRTU.Interaction.WorldLogic

/-!
# The streams of a search

A search of descriptors that ends with a `readlink` that failed closes its stream and keeps it, and the next
search reads it again.

* **`misused_iff`** — in any run of `advttyd` or `advps`, whatever the kernel answers, this is the only call
  on a stream or a file that is not open.
* **`opened_of_done`** — when a program is done, no stream and no file is left open.
-/

namespace ModbusRTU.StreamRuns

open CallProgram WorldLogic TtyConfig PortCommands ProcCalls

/-! ### Streams and files -/

inductive Handle where
  | fresh | opened | closed
  deriving DecidableEq, Repr

/-- `failed` is set from a `readlink` that failed to the next `closedir`; `lost` is the stream that this
one closed. -/
structure Kernel where
  dirs : ℕ → Handle
  files : ℕ → Handle
  failed : Bool
  lost : Option ℕ

/-- A call on a stream or a file that is not open. -/
def Misused (s : Kernel) : ProcOp → Prop
  | .readdir dir | .closedir dir => s.dirs dir ≠ .opened
  | .fread fp | .fclose fp => s.files fp ≠ .opened
  | _ => False

def kernelStep (s : Kernel) : (op : ProcOp) → ProcAns op → Kernel → Prop
  | .opendir _, some dir, t =>
      s.dirs dir = .fresh ∧ t = { s with dirs := Function.update s.dirs dir .opened }
  | .readdir dir, _, t => s.dirs dir = .opened ∧ t = s
  | .closedir dir, _, t =>
      t = { s with
        dirs := Function.update s.dirs dir .closed
        failed := false
        lost := if s.failed then some dir else s.lost }
  | .readlink _, none, t => t = { s with failed := true }
  | .fopen _, some fp, t =>
      s.files fp = .fresh ∧ t = { s with files := Function.update s.files fp .opened }
  | .fclose fp, _, t => t = { s with files := Function.update s.files fp .closed }
  | _, _, t => t = s

/-- Any answers.  Reading a stream that is not open has no result. -/
def kernel : World ProcOp ProcAns Kernel where
  may := fun s op => Misused s op ↔ ∃ dir, op = .readdir dir ∧ s.lost = some dir
  step := kernelStep

/-- What a search of descriptors leaves for the next one. -/
structure Kept (dir : Option ℕ) (s : Kernel) : Prop where
  failed : s.failed = false
  lost : s.lost = dir
  closed : ∀ d, dir = some d → s.dirs d = .closed

/-- The same streams and files are open. -/
structure Same (s t : Kernel) : Prop where
  dirs : ∀ x, t.dirs x = .opened ↔ s.dirs x = .opened
  files : ∀ x, t.files x = .opened ↔ s.files x = .opened

/-- A stream was closed. -/
structure Closes (dir : ℕ) (s t : Kernel) : Prop where
  dirs : ∀ x, t.dirs x = .opened ↔ s.dirs x = .opened ∧ x ≠ dir
  files : ∀ x, t.files x = .opened ↔ s.files x = .opened

section Kernel

variable {s t u : Kernel} {dir : ℕ} {fdDir : Option ℕ}

theorem Same.refl (s : Kernel) : Same s s := ⟨fun _ => Iff.rfl, fun _ => Iff.rfl⟩

theorem Same.trans (h : Same s t) (h' : Same t u) : Same s u :=
  ⟨fun x => (h'.dirs x).trans (h.dirs x), fun x => (h'.files x).trans (h.files x)⟩

theorem Same.closes (h : Same s t) (h' : Closes dir t u) : Closes dir s u :=
  ⟨fun x => (h'.dirs x).trans (and_congr_left' (h.dirs x)), fun x => (h'.files x).trans (h.files x)⟩

/-- A stream that was new is closed again. -/
theorem Closes.same (hfresh : s.dirs dir = .fresh)
    (h : Closes dir { s with dirs := Function.update s.dirs dir .opened } t) : Same s t := by
  refine ⟨fun x => (h.dirs x).trans ?_, h.files⟩
  by_cases hx : x = dir
  · subst hx
    rw [hfresh]
    exact iff_of_false (fun hbad => hbad.2 rfl) nofun
  · show Function.update s.dirs dir .opened x = .opened ∧ x ≠ dir ↔ _
    rw [Function.update_of_ne hx]
    exact and_iff_left hx

/-- A call that uses no stream and no file. -/
theorem may_of_free {op : ProcOp} (hop : ¬ Misused s op) (hread : ∀ d, op ≠ .readdir d) :
    kernel.may s op :=
  iff_of_false hop fun ⟨d, heq, _⟩ => hread d heq

theorem Kept.readdir (h : Kept fdDir s) (hdir : s.dirs dir = .opened) :
    kernel.may s (.readdir dir) := by
  refine iff_of_false (fun hbad => hbad hdir) ?_
  rintro ⟨d, heq, hlost⟩
  obtain rfl := ProcOp.readdir.inj heq
  rw [h.lost] at hlost
  have hclosed := h.closed dir hlost
  rw [hdir] at hclosed
  exact nomatch hclosed

/-- A new stream. -/
theorem Kept.opendir (h : Kept fdDir s) (hfresh : s.dirs dir = .fresh) :
    Kept fdDir { s with dirs := Function.update s.dirs dir .opened } := by
  refine ⟨h.failed, h.lost, fun d hd => ?_⟩
  have hclosed := h.closed d hd
  have hne : d ≠ dir := by
    rintro rfl
    rw [hfresh] at hclosed
    exact nomatch hclosed
  show Function.update s.dirs dir .opened d = .closed
  rw [Function.update_of_ne hne]
  exact hclosed

/-- The end of a search. -/
theorem Kept.closedir (h : Kept fdDir s) (hdir : s.dirs dir = .opened) :
    wp kernel (askProc (.closedir dir)) (fun _ t => Kept fdDir t ∧ Closes dir s t) s := by
  refine ⟨may_of_free (fun hbad => hbad hdir) nofun, fun _ t hstep => ?_⟩
  obtain rfl := hstep
  refine ⟨⟨rfl, ?_, fun d hd => ?_⟩, fun x => ?_, fun _ => Iff.rfl⟩
  · show (if s.failed then some dir else s.lost) = fdDir
    rw [h.failed]
    exact h.lost
  · have hclosed := h.closed d hd
    have hne : d ≠ dir := by
      rintro rfl
      rw [hdir] at hclosed
      exact nomatch hclosed
    show Function.update s.dirs dir .closed d = .closed
    rw [Function.update_of_ne hne]
    exact hclosed
  · show Function.update s.dirs dir .closed x = .opened ↔ _
    by_cases hx : x = dir
    · subst hx
      rw [Function.update_self]
      exact iff_of_false nofun fun hbad => hbad.2 rfl
    · rw [Function.update_of_ne hx]
      exact (and_iff_left hx).symm

/-- The end of a search where `readlink` failed. -/
theorem wp_lose (hdir : s.dirs dir = .opened) :
    wp kernel (askProc (.closedir dir))
      (fun _ t => Kept (some dir) t ∧ Closes dir s t) { s with failed := true } := by
  refine ⟨may_of_free (fun hbad => hbad hdir) nofun, fun _ t hstep => ?_⟩
  obtain rfl := hstep
  refine ⟨⟨rfl, rfl, fun d hd => ?_⟩, fun x => ?_, fun _ => Iff.rfl⟩
  · obtain rfl := Option.some.inj hd
    exact Function.update_self ..
  · show Function.update s.dirs dir .closed x = .opened ↔ _
    by_cases hx : x = dir
    · subst hx
      rw [Function.update_self]
      exact iff_of_false nofun fun hbad => hbad.2 rfl
    · rw [Function.update_of_ne hx]
      exact (and_iff_left hx).symm

/-- What is said of a failure changes nothing. -/
def Harmless (say : Say) : Prop := ∀ failure s, wp kernel (say failure) (fun _ t => t = s) s

theorem harmless_logged : Harmless logged := by
  intro failure s
  cases failure <;> exact ⟨may_of_free id nofun, fun _ _ hstep => hstep⟩

theorem harmless_printed : Harmless printed := by
  intro failure s
  cases failure with
  | readdirProc => rfl
  | fopen => rfl
  | _ => exact ⟨may_of_free id nofun, fun _ _ hstep => hstep⟩

theorem Harmless.wp_say {say : Say} (hsay : Harmless say) (failure : Failure) {α : Type}
    {f : Scan α} {Q : α → Kernel → Prop} (h : wp kernel f Q s) :
    wp kernel (say failure >>= fun _ => f) Q s :=
  wp_seq (hsay failure s) fun _ _ ht => ht ▸ h

theorem goOn_spec {α : Type} {Q : α → Kernel → Prop} : wp kernel goOn Q s :=
  wp_call (may_of_free id nofun) fun r _ _ => nomatch r

section Search

variable {say : Say} (hsay : Harmless say)
include hsay

/-- A search of descriptors. -/
theorem fdLoop_spec (h : Kept none s) (hdir : s.dirs dir = .opened) (pid : ℕ) (file : List Char)
    (limit : ℕ) :
    wp kernel (fdLoop say pid file dir limit) (fun r t => Kept r.2 t ∧ Closes dir s t) s := by
  induction limit with
  | zero => exact goOn_spec
  | succ limit ih =>
      unfold fdLoop
      refine wp_call (h.readdir hdir) fun r t hstep => ?_
      obtain ⟨-, rfl⟩ := hstep
      cases r with
      | none => exact wp_seq (h.closedir hdir) fun _ u hu => hu
      | some name =>
          dsimp only
          split
          · refine wp_call (may_of_free id nofun) fun found u hstep => ?_
            obtain rfl := hstep
            cases found with
            | false => exact hsay.wp_say .stat ih
            | true =>
                refine wp_call (may_of_free id nofun) fun found v hstep => ?_
                obtain rfl := hstep
                cases found with
                | false => exact hsay.wp_say .lstat ih
                | true =>
                    refine wp_call (may_of_free id nofun) fun link w hstep => ?_
                    cases link with
                    | none =>
                        obtain rfl := hstep
                        exact hsay.wp_say .readlink (wp_seq (wp_lose hdir) fun _ u hu => hu)
                    | some link =>
                        obtain rfl := hstep
                        dsimp only
                        split
                        · exact wp_seq (h.closedir hdir) fun _ u hu => hu
                        · exact ih
          · exact ih

/-- **A search of descriptors**: the stream that was lost is read, or nothing is misused. -/
theorem searchFd_spec (h : Kept fdDir s) (limit pid : ℕ) (file : List Char) :
    wp kernel (searchFd say limit pid file fdDir) (fun r t => Kept r.2 t ∧ Same s t) s := by
  unfold searchFd
  cases fdDir with
  | none =>
      refine wp_call (may_of_free id nofun) fun r t hstep => ?_
      cases r with
      | none =>
          obtain rfl := hstep
          exact hsay.wp_say _ ⟨h, Same.refl t⟩
      | some dir =>
          obtain ⟨hfresh, rfl⟩ := hstep
          refine wp_mono (fdLoop_spec hsay (h.opendir hfresh) (Function.update_self ..) pid file limit)
            fun r u hu => ⟨hu.1, hu.2.same hfresh⟩
  | some d =>
      cases limit with
      | zero => exact goOn_spec
      | succ limit =>
          have hclosed := h.closed d rfl
          have hmisused : s.dirs d ≠ .opened := by
            rw [hclosed]
            exact nofun
          refine wp_call (iff_of_true hmisused ⟨d, rfl, h.lost⟩) fun r t hstep => ?_
          exact absurd hstep.1 hmisused

theorem readCmdline_spec (h : Kept fdDir s) (pid : ℕ) (buf : Option (List Char)) :
    wp kernel (readCmdline say pid buf) (fun _ t => Kept fdDir t ∧ Same s t) s := by
  unfold readCmdline
  refine wp_call (may_of_free id nofun) fun r t hstep => ?_
  cases r with
  | none =>
      obtain rfl := hstep
      exact hsay.wp_say _ ⟨h, Same.refl t⟩
  | some fp =>
      obtain ⟨hfresh, rfl⟩ := hstep
      have hopen : Function.update s.files fp Handle.opened fp = .opened := Function.update_self ..
      refine wp_call (may_of_free (fun hbad => hbad hopen) nofun) fun data u hstep => ?_
      obtain rfl := hstep
      refine wp_call (may_of_free (fun hbad => hbad hopen) nofun) fun _ v hstep => ?_
      obtain rfl := hstep
      refine ⟨⟨h.failed, h.lost, h.closed⟩, fun _ => Iff.rfl, fun x => ?_⟩
      show Function.update (Function.update s.files fp .opened) fp .closed x = .opened ↔ _
      rw [Function.update_idem]
      by_cases hx : x = fp
      · subst hx
        rw [Function.update_self, hfresh]
        exact iff_of_false nofun nofun
      · rw [Function.update_of_ne hx]

end Search

theorem contents_spec (buf : Option (List Char)) : wp kernel (contents buf) (fun _ t => t = s) s := by
  cases buf with
  | none => exact ⟨may_of_free id nofun, fun _ _ hstep => hstep⟩
  | some buf => rfl

/-- What a check of a process has to leave. -/
def Checks {α : Type} (check : ℕ → Option (List Char) → Option ℕ → Scan (Checked α)) : Prop :=
  ∀ s fdDir pid buf, Kept fdDir s →
    wp kernel (check pid buf fdDir) (fun r t => Kept r.fdDir t ∧ Same s t) s

theorem procLoop_spec {α : Type} {say : Say} (hsay : Harmless say)
    {check : ℕ → Option (List Char) → Option ℕ → Scan (Checked α)} (hcheck : Checks check) (limit : ℕ)
    (buf : Option (List Char)) (h : Kept fdDir s) (hdir : s.dirs dir = .opened) :
    wp kernel (procLoop say check dir limit buf fdDir) (fun r t => Kept r.2 t ∧ Closes dir s t) s := by
  induction limit generalizing buf fdDir s with
  | zero => exact goOn_spec
  | succ limit ih =>
      unfold procLoop
      refine wp_call (h.readdir hdir) fun r t hstep => ?_
      obtain ⟨-, rfl⟩ := hstep
      cases r with
      | none => exact hsay.wp_say _ (wp_seq (h.closedir hdir) fun _ u hu => hu)
      | some name =>
          dsimp only
          split
          · refine wp_seq (hcheck _ _ _ buf h) fun r u hu => ?_
            obtain ⟨hkept, hsame⟩ := hu
            have hopen := (hsame.dirs dir).mpr hdir
            cases hresult : r.result with
            | some a => exact wp_seq (hkept.closedir hopen) fun _ v hv => ⟨hv.1, hsame.closes hv.2⟩
            | none => exact wp_mono (ih r.buf hkept hopen) fun _ v hv => ⟨hv.1, hsame.closes hv.2⟩
          · exact ih buf h hdir

/-- **A search of processes.** -/
theorem procSearch_spec {α : Type} {say : Say} (hsay : Harmless say)
    {check : ℕ → Option (List Char) → Option ℕ → Scan (Checked α)} (hcheck : Checks check) (limit : ℕ)
    (h : Kept fdDir s) :
    wp kernel (procSearch say check limit fdDir) (fun r t => Kept r.2 t ∧ Same s t) s := by
  unfold procSearch
  refine wp_call (may_of_free id nofun) fun r t hstep => ?_
  cases r with
  | none =>
      obtain rfl := hstep
      exact hsay.wp_say _ ⟨h, Same.refl t⟩
  | some dir =>
      obtain ⟨hfresh, rfl⟩ := hstep
      exact wp_mono (procLoop_spec hsay hcheck limit none (h.opendir hfresh) (Function.update_self ..))
        fun r u hu => ⟨hu.1, hu.2.same hfresh⟩

/-! ### The two programs -/

theorem checks_cmdCheck (limit : ℕ) (cmd file : List Char) : Checks (cmdCheck limit cmd file) := by
  intro s fdDir pid buf h
  unfold cmdCheck
  refine wp_call (may_of_free id nofun) fun found u hstep => ?_
  obtain rfl := hstep
  cases found with
  | false => exact ⟨h, Same.refl _⟩
  | true =>
      refine wp_seq (readCmdline_spec harmless_logged h pid buf) fun r t ht => ?_
      obtain ⟨hkept, hsame⟩ := ht
      cases r with
      | none => exact ⟨hkept, hsame⟩
      | some buf =>
          refine wp_seq (contents_spec buf) fun line u hu => ?_
          obtain rfl := hu
          split
          · exact wp_seq (searchFd_spec harmless_logged hkept limit pid file)
              fun r v hv => ⟨hv.1, hsame.trans hv.2⟩
          · exact ⟨hkept, hsame⟩

theorem checks_findCheck (limit : ℕ) (cmd file : List Char) : Checks (findCheck limit cmd file) := by
  intro s fdDir pid buf h
  unfold findCheck
  refine wp_seq (readCmdline_spec harmless_printed h pid buf) fun r t ht => ?_
  obtain ⟨hkept, hsame⟩ := ht
  cases r with
  | none => exact ⟨hkept, hsame⟩
  | some buf =>
      refine wp_seq (contents_spec buf) fun line u hu => ?_
      obtain rfl := hu
      split
      · refine wp_call (may_of_free id nofun) fun found v hstep => ?_
        obtain rfl := hstep
        cases found with
        | false => exact ⟨hkept, hsame⟩
        | true =>
            refine wp_call (may_of_free id nofun) fun found v hstep => ?_
            obtain rfl := hstep
            cases found with
            | false => exact ⟨hkept, hsame⟩
            | true =>
                exact wp_seq (searchFd_spec harmless_printed hkept limit pid file)
                  fun r v hv => ⟨hv.1, hsame.trans hv.2⟩
      · exact ⟨hkept, hsame⟩

theorem respawn_spec (cmd : List Char) (info : TtyInfo) (found : Option (ℕ × List Char)) :
    wp kernel (respawn cmd info found) (fun _ t => t = s) s := by
  have hsystem : ∀ t, t = s →
      wp kernel (askProc (.system (syscmd cmd info))) (fun _ u => u = s) t :=
    fun t ht => ⟨may_of_free id nofun, fun _ _ hstep => hstep.trans ht⟩
  unfold respawn
  cases found with
  | none => exact hsystem s rfl
  | some old =>
      dsimp only
      split
      · split
        · rfl
        · exact wp_call (may_of_free id nofun) fun _ t hstep => hsystem t hstep
      · exact hsystem s rfl

theorem spawnTtyp_spec (limit : ℕ) (cmd : List Char) (infos : List TtyInfo) (h : Kept fdDir s) :
    wp kernel (spawnTtyp limit cmd infos fdDir) (fun _ t => Same s t) s := by
  induction infos generalizing fdDir s with
  | nil => exact Same.refl s
  | cons info infos ih =>
      unfold spawnTtyp
      refine wp_seq (procSearch_spec harmless_logged (checks_cmdCheck limit cmd _) limit h) fun r t ht => ?_
      refine wp_seq (respawn_spec cmd info r.1) fun _ u hu => ?_
      obtain rfl := hu
      exact wp_mono (ih ht.1) fun _ v hv => ht.2.trans hv

theorem advps_spec (limit : ℕ) (ports : List ℕ) (h : Kept fdDir s) :
    wp kernel (advps limit ports fdDir) (fun _ t => Same s t) s := by
  induction ports generalizing fdDir s with
  | nil => exact Same.refl s
  | cons i ports ih =>
      unfold advps
      refine wp_seq (procSearch_spec harmless_printed (checks_findCheck limit _ _) limit h) fun r t ht => ?_
      have hrest : wp kernel (advps limit ports r.2) (fun _ u => Same s u) t :=
        wp_mono (ih ht.1) fun _ v hv => ht.2.trans hv
      cases hfound : r.1 with
      | none => exact hrest
      | some pid =>
          refine wp_call (may_of_free id nofun) fun _ u hstep => ?_
          obtain rfl := hstep
          exact hrest

end Kernel

/-! ### Runs -/

/-- The two programs, `advps` for the ports it goes through. -/
inductive Program where
  | advttyd (cmd : List Char) (infos : List TtyInfo)
  | advps (ports : List ℕ)

def Program.main (limit : ℕ) : Program → Scan Unit
  | .advttyd cmd infos => spawnTtyp limit cmd infos none
  | .advps ports => ProcCalls.advps limit ports none

/-- Nothing is open. -/
def newKernel : Kernel := ⟨fun _ => .fresh, fun _ => .fresh, false, none⟩

abbrev ScanReached (limit : ℕ) (program : Program) : Scan Unit → Kernel → Prop :=
  Reached kernel (program.main limit) pure newKernel

variable {limit : ℕ} {program : Program} {s : Kernel}

theorem wp_of_scanReached {prog : Scan Unit} (h : ScanReached limit program prog s) :
    wp kernel prog (fun _ t => Same newKernel t) s := by
  have hkept : Kept none newKernel := ⟨rfl, rfl, nofun⟩
  refine wp_of_reached ?_ (fun _ _ hsame => hsame) h
  cases program with
  | advttyd cmd infos => exact spawnTtyp_spec limit cmd infos hkept
  | advps ports => exact advps_spec limit ports hkept

/-- The answers of a kernel whose directories all have an entry 7, up to a step, and no links. -/
def kernelReply (ends i : ℕ) (s : Kernel) : (op : ProcOp) → Option (ProcAns op × Kernel)
  | .opendir _ =>
      if s.dirs i = .fresh then some (some i, { s with dirs := Function.update s.dirs i .opened })
      else none
  | .readdir dir => if s.dirs dir = .opened then some (if i < ends then some ['7'] else none, s) else none
  | .closedir dir =>
      some ((), { s with
        dirs := Function.update s.dirs dir .closed
        failed := false
        lost := if s.failed then some dir else s.lost })
  | .stat _ | .lstat _ => some (true, s)
  | .readlink _ => some (none, { s with failed := true })
  | .fopen _ =>
      if s.files i = .fresh then some (some i, { s with files := Function.update s.files i .opened })
      else none
  | .fread _ => some ("vcomd".toList, s)
  | .fclose fp => some ((), { s with files := Function.update s.files fp .closed })
  | .unset => some ([], s)
  | .kill _ | .system _ | .row .. | .printf _ | .syslog _ => some ((), s)
  | .goOn => none

theorem step_kernelReply {ends : ℕ} (i : ℕ) (s : Kernel) (op : ProcOp) (r : ProcAns op) (t : Kernel)
    (h : kernelReply ends i s op = some (r, t)) : kernel.step s op r t := by
  cases op with
  | opendir path =>
      dsimp only [kernelReply] at h
      split at h
      · next hfresh =>
          obtain ⟨rfl, rfl⟩ := Prod.mk.inj (Option.some.inj h)
          exact ⟨hfresh, rfl⟩
      · exact nomatch h
  | readdir dir =>
      dsimp only [kernelReply] at h
      split at h
      · next hopen => exact ⟨hopen, (Prod.mk.inj (Option.some.inj h)).2.symm⟩
      · exact nomatch h
  | readlink path =>
      obtain ⟨rfl, rfl⟩ := Prod.mk.inj (Option.some.inj h)
      rfl
  | fopen path =>
      dsimp only [kernelReply] at h
      split at h
      · next hfresh =>
          obtain ⟨rfl, rfl⟩ := Prod.mk.inj (Option.some.inj h)
          exact ⟨hfresh, rfl⟩
      · exact nomatch h
  | goOn => exact nomatch h
  | _ => exact (Prod.mk.inj (Option.some.inj h)).2.symm

/-- **The stream that was lost**, and no other, is read when it is not open. -/
theorem misused_iff {op : ProcOp} {k : ProcAns op → Scan Unit}
    (h : ScanReached limit program (.call op k) s) :
    Misused s op ↔ ∃ dir, op = .readdir dir ∧ s.lost = some dir :=
  (wp_of_scanReached h).1

def readsLost : Scan Unit × Kernel → Bool
  | (.call (.readdir dir) _, s) => s.lost == some dir
  | _ => false

/-- The descriptors of the next process. -/
theorem misused_iff_lost : ∃ dir k s, ScanReached 3 (.advps [0]) (.call (.readdir dir) k) s ∧
    Misused s (.readdir dir) := by
  have hlost : (follow (kernelReply 30) ((Program.advps [0]).main 3) pure newKernel 20).any readsLost =
      true := by decide +kernel
  obtain ⟨prog, s, h, hcheck⟩ := exists_reached step_kernelReply hlost
  unfold readsLost at hcheck
  split at hcheck
  · next dir k u heq =>
      obtain ⟨rfl, rfl⟩ := Prod.mk.inj heq
      exact ⟨dir, k, s, h, (misused_iff h).mpr ⟨dir, rfl, eq_of_beq hcheck⟩⟩
  · exact absurd hcheck Bool.false_ne_true

/-- **When a program is done**, nothing is open. -/
theorem opened_of_done (h : ScanReached limit program (pure ()) s) (x : ℕ) :
    s.dirs x ≠ .opened ∧ s.files x ≠ .opened := by
  have hsame : Same newKernel s := wp_of_scanReached h
  exact ⟨fun hbad => absurd ((hsame.dirs x).mp hbad) nofun,
    fun hbad => absurd ((hsame.files x).mp hbad) nofun⟩

/-- One process whose link cannot be read. -/
theorem opened_of_done_first : ∃ s, ScanReached 3 (.advps [0]) (pure ()) s ∧ s.lost.isSome ∧
    ∀ x, s.dirs x ≠ .opened ∧ s.files x ≠ .opened := by
  have hlast : (follow (kernelReply 14) ((Program.advps [0]).main 3) pure newKernel 16).any
      (fun x => returned x.1 && x.2.lost.isSome) = true := by decide +kernel
  obtain ⟨prog, s, h, hcheck⟩ := exists_reached step_kernelReply hlast
  obtain ⟨hreturned, hlost⟩ := Bool.and_eq_true_iff.mp hcheck
  cases prog with
  | call op k => exact absurd hreturned Bool.false_ne_true
  | ret u => exact ⟨s, h, hlost, opened_of_done h⟩

end ModbusRTU.StreamRuns
