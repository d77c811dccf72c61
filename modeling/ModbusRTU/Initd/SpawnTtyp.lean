import ModbusRTU.Initd.PortCommands

/-!
# The daemons that run

`advttyd` is run again whenever its configuration changes.  For each port it looks for a `vcomd` that holds
the port's file; if there is one with the same command it is left alone, if its command differs it is
killed, and unless it was left alone a new one is started.

* **`spawnTtyp_served`** — then each port that can be started has a daemon with its command, and no port
  has two.
* **`spawnTtyp_again`** — a second run with the same configuration kills and starts nothing.
* **`length_spawnTtyp_unfound`** — but `advttyd` looks for the file that the words of the line name, and
  `vcomd` opens that of the number: for a minor number that is not written as it is printed, each run
  starts another daemon.

Processes are looked for in the order of the list.  A process that ends on its own, and what is wrong with a
command that the shell does not take as words, are left out.
-/

namespace ModbusRTU.SpawnTtyp

open LineWords Numerals TtyConfig PortCommands

/-- A process: its words as `__cmd_search_file` reads them, with a blank behind each, and the file of the
driver that it holds. -/
structure Proc where
  pid : ℕ
  cmdline : List Char
  file : List Char
  deriving DecidableEq, Repr

/-- The processes that run, and a number that none of them had. -/
structure Procs where
  running : List Proc
  next : ℕ

def advproc : List Char := "/proc/vcom/advproc".toList

/-- `"/proc/vcom/advproc%s"`. -/
def vcomif (info : TtyInfo) : List Char := advproc ++ info.mptNameidxStr

/-- `"/proc/vcom/advproc%d"`, which `vcomd` opens. -/
def fileOf (ttyid : ℕ) : List Char := advproc ++ Nat.toDigits 10 ttyid

variable (cmd : List Char)

/-- `__cmd_search_file`. -/
def cmdSearchFile (file : List Char) (s : Procs) : Option Proc :=
  s.running.find? fun p => cmd.isPrefixOf p.cmdline && p.file == file

/-- An option of the command, as `getopt` takes it apart. -/
def optionOf : List Char → Option PortOption
  | '-' :: option :: argument => some (option, argument)
  | _ => none

/-- `system(syscmd)`: the shell finds the words of the command, and `vcomd` goes on if `startup` takes its
options and the driver has the file. -/
def system (syscmd : List Char) (s : Procs) : Procs :=
  let words := scanWords isSpace syscmd.length syscmd
  match startup (words.tail.filterMap optionOf) with
  | none => { s with next := s.next + 1 }
  | some p =>
      if p.ttyid < cfMaxports then
        ⟨s.running ++ [⟨s.next, spell ' ' words, fileOf p.ttyid.toNat⟩], s.next + 1⟩
      else { s with next := s.next + 1 }

/-- `kill -9`. -/
def kill (pid : ℕ) (s : Procs) : Procs := { s with running := s.running.filter (·.pid ≠ pid) }

/-- What `spawn_ttyp` does for a port. -/
def spawnPort (s : Procs) (info : TtyInfo) : Procs :=
  match cmdSearchFile cmd (vcomif info) s with
  | some old =>
      if syscmd cmd info = old.cmdline then s
      else system (syscmd cmd info) (kill old.pid s)
  | none => system (syscmd cmd info) s

def spawnTtyp (s : Procs) (infos : List TtyInfo) : Procs := infos.foldl (spawnPort cmd) s

/-! ### What is kept -/

/-- No two processes have a number in common, and no two daemons a file. -/
structure Apart (s : Procs) : Prop where
  pid_lt : ∀ p ∈ s.running, p.pid < s.next
  pid : ∀ p ∈ s.running, ∀ q ∈ s.running, p.pid = q.pid → p = q
  file : ∀ p ∈ s.running, ∀ q ∈ s.running, cmd <+: p.cmdline → cmd <+: q.cmdline →
    p.file = q.file → p = q

/-- The port has its daemon. -/
def Served (s : Procs) (info : TtyInfo) : Prop :=
  ∃ p ∈ s.running, p.cmdline = syscmd cmd info ∧ p.file = vcomif info

/-- `vcomd` goes on for this port, and opens the file that `advttyd` looks for. -/
structure Startable (info : TtyInfo) : Prop extends WellFormed info where
  name : ∃ n < cfMaxports, info.mptNameidxStr = Nat.toDigits 10 n
  devid : ∀ type, hexstr info.devTypeStr = some type → type % 65536 ≠ 0

variable {cmd}

theorem prefix_syscmd (cmd : List Char) (info : TtyInfo) : cmd <+: syscmd cmd info := by
  unfold syscmd argv spell
  rw [List.flatMap_cons, List.append_assoc]
  exact List.prefix_append ..

/-- What is found is a daemon with the file. -/
theorem match_of_cmdSearchFile {s : Procs} {file : List Char} {p : Proc}
    (h : cmdSearchFile cmd file s = some p) : p ∈ s.running ∧ cmd <+: p.cmdline ∧ p.file = file := by
  have hmatch := List.find?_some h
  rw [Bool.and_eq_true, List.isPrefixOf_iff_prefix, beq_iff_eq] at hmatch
  exact ⟨List.mem_of_find?_eq_some h, hmatch⟩

/-- A daemon that serves the port is the one that is found. -/
theorem cmdSearchFile_of_served {s : Procs} {info : TtyInfo} (hapart : Apart cmd s)
    (h : Served cmd s info) :
    ∃ p, cmdSearchFile cmd (vcomif info) s = some p ∧ p.cmdline = syscmd cmd info := by
  obtain ⟨p, hp, hcmdline, hfile⟩ := h
  have hstart : cmd <+: p.cmdline := by
    rw [hcmdline]
    exact prefix_syscmd cmd info
  have hsome : (cmdSearchFile cmd (vcomif info) s).isSome := by
    refine List.find?_isSome.mpr ⟨p, hp, ?_⟩
    rw [Bool.and_eq_true, List.isPrefixOf_iff_prefix, beq_iff_eq]
    exact ⟨hstart, hfile⟩
  obtain ⟨q, hq⟩ := Option.isSome_iff_exists.mp hsome
  obtain ⟨hmem, hstart', hfile'⟩ := match_of_cmdSearchFile hq
  have hsame : q = p := hapart.file q hmem p hp hstart' hstart (hfile'.trans hfile.symm)
  exact ⟨q, hq, by rw [hsame, hcmdline]⟩

/-- **A port that is served** is left alone. -/
theorem spawnPort_of_served {s : Procs} {info : TtyInfo} (hapart : Apart cmd s)
    (h : Served cmd s info) : spawnPort cmd s info = s := by
  obtain ⟨p, hp, hcmdline⟩ := cmdSearchFile_of_served hapart h
  rw [spawnPort, hp]
  exact if_pos hcmdline.symm

/-! ### What a port that is started gets -/

theorem filterMap_optionOf (cmd : List Char) (info : TtyInfo) :
    (argv cmd info).tail.filterMap optionOf = portOptions (monOf info) info := by
  show ((portOptions (monOf info) info).map word).filterMap optionOf = _
  rw [List.filterMap_map]
  exact List.filterMap_some

/-- A number that was printed is read. -/
theorem scanInt_toDigits {n : ℕ} (hn : n < 2 ^ 31) : scanInt (Nat.toDigits 10 n) = some (n : ℤ) := by
  rcases scanInt_of_atoi (atoi_toDigits hn) with hread | ⟨hnone, hzero⟩
  · exact hread
  · -- 0 has a digit as well
    obtain rfl : n = 0 := by exact_mod_cast hzero
    exact absurd hnone (by decide)

theorem le_length_syscmd (cmd : List Char) (info : TtyInfo) : 7 ≤ (syscmd cmd info).length := by
  simp only [syscmd, argv, portOptions, word, spell, List.flatMap_cons, List.map_cons, List.cons_append,
    List.length_append, List.length_cons, List.nil_append]
  omega

/-- **A daemon that goes on** has the command it was started with. -/
theorem system_of_startup {info : TtyInfo} (hcmd : IsWord isSpace cmd) (h : WellFormed info)
    {p : VcomPort} (hp : startup (portOptions (monOf info) info) = some p) (hlt : p.ttyid < cfMaxports)
    (s : Procs) :
    system (syscmd cmd info) s =
      ⟨s.running ++ [⟨s.next, syscmd cmd info, fileOf p.ttyid.toNat⟩], s.next + 1⟩ := by
  have hwords := argv_syscmd h hcmd (le_length_syscmd cmd info)
  unfold system
  rw [hwords]
  dsimp only
  rw [filterMap_optionOf, hp]
  exact if_pos hlt

/-- **The daemon of a port that can be started** has its command and its file. -/
theorem system_syscmd {info : TtyInfo} (hcmd : IsWord isSpace cmd) (h : Startable info) (s : Procs) :
    system (syscmd cmd info) s =
      ⟨s.running ++ [⟨s.next, syscmd cmd info, vcomif info⟩], s.next + 1⟩ := by
  obtain ⟨n, hn, hname⟩ := h.name
  obtain ⟨type, htype, -⟩ := h.type
  obtain ⟨portidx, -, hstartup⟩ := startup_portOptions h.toWellFormed (monOf info) htype
  have hscan : (scanInt info.mptNameidxStr).getD (-1) = n := by
    rw [hname, scanInt_toDigits (Nat.lt_trans hn (by decide)), Option.getD_some]
  have hgoes : ¬ ((n : ℤ) < 0 ∨ type % 65536 = 0) := by
    rintro (hneg | hdev)
    · omega
    · exact h.devid type htype hdev
  rw [hscan, if_neg hgoes] at hstartup
  have hlt : (n : ℤ) < cfMaxports := by exact_mod_cast hn
  rw [system_of_startup hcmd h.toWellFormed hstartup hlt, vcomif, hname]
  rfl

/-! ### A run of `advttyd` -/

theorem Apart.kill {s : Procs} (h : Apart cmd s) (pid : ℕ) : Apart cmd (kill pid s) where
  pid_lt := fun p hp => h.pid_lt p (List.mem_filter.mp hp).1
  pid := fun p hp q hq => h.pid p (List.mem_filter.mp hp).1 q (List.mem_filter.mp hq).1
  file := fun p hp q hq => h.file p (List.mem_filter.mp hp).1 q (List.mem_filter.mp hq).1

/-- A process is started for a file that no daemon holds. -/
theorem Apart.start {s : Procs} (h : Apart cmd s) {cmdline file : List Char}
    (hfree : ∀ p ∈ s.running, cmd <+: p.cmdline → p.file ≠ file) :
    Apart cmd ⟨s.running ++ [⟨s.next, cmdline, file⟩], s.next + 1⟩ := by
  refine ⟨fun p hp => ?_, fun p hp q hq hpid => ?_, fun p hp q hq hcmdp hcmdq hfile => ?_⟩
  · rcases List.mem_append.mp hp with hold | hnew
    · exact Nat.lt_succ_of_lt (h.pid_lt p hold)
    · obtain rfl := List.mem_singleton.mp hnew
      exact Nat.lt_succ_self _
  · rcases List.mem_append.mp hp with hp | hp
    · rcases List.mem_append.mp hq with hq | hq
      · exact h.pid p hp q hq hpid
      · obtain rfl := List.mem_singleton.mp hq
        exact absurd hpid (Nat.ne_of_lt (h.pid_lt p hp))
    · obtain rfl := List.mem_singleton.mp hp
      rcases List.mem_append.mp hq with hq | hq
      · exact absurd hpid.symm (Nat.ne_of_lt (h.pid_lt q hq))
      · exact (List.mem_singleton.mp hq).symm
  · rcases List.mem_append.mp hp with hp | hp
    · rcases List.mem_append.mp hq with hq | hq
      · exact h.file p hp q hq hcmdp hcmdq hfile
      · obtain rfl := List.mem_singleton.mp hq
        exact absurd hfile (hfree p hp hcmdp)
    · obtain rfl := List.mem_singleton.mp hp
      rcases List.mem_append.mp hq with hq | hq
      · exact absurd hfile.symm (hfree q hq hcmdq)
      · exact (List.mem_singleton.mp hq).symm

/-- Nothing is found: no daemon holds the file. -/
theorem free_of_cmdSearchFile {s : Procs} {file : List Char} (h : cmdSearchFile cmd file s = none) :
    ∀ p ∈ s.running, cmd <+: p.cmdline → p.file ≠ file := by
  intro p hp hstart hfile
  have hnot := List.find?_eq_none.mp h p hp
  rw [Bool.and_eq_true, List.isPrefixOf_iff_prefix, beq_iff_eq] at hnot
  exact hnot ⟨hstart, hfile⟩

/-- The one that is found was the only one. -/
theorem free_of_kill {s : Procs} (hapart : Apart cmd s) {file : List Char} {old : Proc}
    (h : cmdSearchFile cmd file s = some old) :
    ∀ p ∈ (kill old.pid s).running, cmd <+: p.cmdline → p.file ≠ file := by
  intro p hp hstart hfile
  obtain ⟨hold, hstart', hfile'⟩ := match_of_cmdSearchFile h
  obtain ⟨hmem, hpid⟩ := List.mem_filter.mp hp
  have hsame : p = old := hapart.file p hmem old hold hstart hstart' (hfile.trans hfile'.symm)
  rw [hsame] at hpid
  simp at hpid

/-- **What a port's turn does**: the port has its daemon then, no two daemons have a file, and the daemons
of other files are left alone. -/
theorem spawnPort_spec {s : Procs} {info : TtyInfo} (hcmd : IsWord isSpace cmd) (h : Startable info)
    (hapart : Apart cmd s) :
    Apart cmd (spawnPort cmd s info) ∧ Served cmd (spawnPort cmd s info) info ∧
      ∀ p ∈ s.running, p.file ≠ vcomif info → p ∈ (spawnPort cmd s info).running := by
  have hstart : ∀ t : Procs, Apart cmd t →
      (∀ p ∈ t.running, cmd <+: p.cmdline → p.file ≠ vcomif info) →
      Apart cmd (system (syscmd cmd info) t) ∧ Served cmd (system (syscmd cmd info) t) info ∧
        ∀ p ∈ t.running, p ∈ (system (syscmd cmd info) t).running := by
    intro t ht hfree
    rw [system_syscmd hcmd h]
    refine ⟨ht.start hfree, ⟨_, List.mem_append_right _ (List.mem_singleton_self _), rfl, rfl⟩, ?_⟩
    exact fun p hp => List.mem_append_left _ hp
  unfold spawnPort
  split
  · next old hfound =>
      obtain ⟨hold, -, hfile'⟩ := match_of_cmdSearchFile hfound
      split
      · next hsame => exact ⟨hapart, ⟨old, hold, hsame.symm, hfile'⟩, fun p hp _ => hp⟩
      · obtain ⟨hapart', hserved, hkept⟩ :=
          hstart (kill old.pid s) (hapart.kill old.pid) (free_of_kill hapart hfound)
        refine ⟨hapart', hserved, fun p hp hfile => hkept p (List.mem_filter.mpr ⟨hp, ?_⟩)⟩
        have hpid : p.pid ≠ old.pid := by
          intro heq
          have hsame := hapart.pid p hp old hold heq
          exact hfile (by rw [hsame, hfile'])
        simpa using hpid
  · next hnone =>
      obtain ⟨hapart', hserved, hkept⟩ := hstart s hapart (free_of_cmdSearchFile hnone)
      exact ⟨hapart', hserved, fun p hp _ => hkept p hp⟩

theorem vcomif_injective {info info' : TtyInfo} (h : vcomif info = vcomif info') :
    info.mptNameidxStr = info'.mptNameidxStr := List.append_cancel_left h

/-- A run keeps no two daemons on a file, gives each port its daemon, and leaves other files alone. -/
theorem spawnTtyp_spec {s : Procs} {infos : List TtyInfo} (hcmd : IsWord isSpace cmd)
    (hinfos : ∀ info ∈ infos, Startable info)
    (hnames : infos.Pairwise fun a b => a.mptNameidxStr ≠ b.mptNameidxStr) (hapart : Apart cmd s) :
    Apart cmd (spawnTtyp cmd s infos) ∧ (∀ info ∈ infos, Served cmd (spawnTtyp cmd s infos) info) ∧
      ∀ p ∈ s.running, (∀ info ∈ infos, p.file ≠ vcomif info) →
        p ∈ (spawnTtyp cmd s infos).running := by
  induction infos generalizing s with
  | nil => exact ⟨hapart, fun info hinfo => absurd hinfo List.not_mem_nil, fun p hp _ => hp⟩
  | cons info infos ih =>
      obtain ⟨hother, hnames'⟩ := List.pairwise_cons.mp hnames
      obtain ⟨hapart', hserved, hkept⟩ :=
        spawnPort_spec hcmd (hinfos info List.mem_cons_self) hapart
      obtain ⟨hapart'', hall, hkept'⟩ :=
        ih (fun x hx => hinfos x (List.mem_cons_of_mem info hx)) hnames' hapart'
      refine ⟨hapart'', fun x hx => ?_, fun p hp hfile => ?_⟩
      · rcases List.mem_cons.mp hx with rfl | hx
        · -- the daemon of this port has none of the files of the ports behind it
          obtain ⟨p, hp, hcmdline, hfile⟩ := hserved
          refine ⟨p, hkept' p hp fun y hy hsame => ?_, hcmdline, hfile⟩
          exact hother y hy (vcomif_injective (hfile.symm.trans hsame))
        · exact hall x hx
      · have hfirst := hkept p hp (hfile info List.mem_cons_self)
        exact hkept' p hfirst fun x hx => hfile x (List.mem_cons_of_mem info hx)

section Config

variable {s : Procs} {infos : List TtyInfo} (hcmd : IsWord isSpace cmd)
  (hinfos : ∀ info ∈ infos, Startable info)
  (hnames : infos.Pairwise fun a b => a.mptNameidxStr ≠ b.mptNameidxStr) (hapart : Apart cmd s)
include hcmd hinfos hnames hapart

/-- **Each port has its daemon**, and no port has two. -/
theorem spawnTtyp_served :
    Apart cmd (spawnTtyp cmd s infos) ∧ ∀ info ∈ infos, Served cmd (spawnTtyp cmd s infos) info :=
  ⟨(spawnTtyp_spec hcmd hinfos hnames hapart).1, (spawnTtyp_spec hcmd hinfos hnames hapart).2.1⟩

/-- **A second run** with the same configuration does nothing. -/
theorem spawnTtyp_again :
    spawnTtyp cmd (spawnTtyp cmd s infos) infos = spawnTtyp cmd s infos := by
  obtain ⟨hapart', hserved⟩ := spawnTtyp_served hcmd hinfos hnames hapart
  have hnothing : ∀ t, Apart cmd t → ∀ rest : List TtyInfo, (∀ info ∈ rest, Served cmd t info) →
      spawnTtyp cmd t rest = t := by
    intro t ht rest
    induction rest with
    | nil => exact fun _ => rfl
    | cons info rest ih =>
        intro hall
        have hrest := ih fun x hx => hall x (List.mem_cons_of_mem info hx)
        show spawnTtyp cmd (spawnPort cmd t info) rest = t
        rw [spawnPort_of_served ht (hall info List.mem_cons_self), hrest]
  exact hnothing _ hapart' infos hserved

end Config

theorem startable_twoPorts : ∀ info ∈ [onePort, nextPort], Startable info := by
  intro info hinfo
  refine ⟨wellFormed_twoPorts info hinfo, ?_, fun type heq => ?_⟩
  · rcases List.mem_pair.mp hinfo with rfl | rfl
    · exact ⟨0, by decide, rfl⟩
    · exact ⟨1, by decide, rfl⟩
  · have htype : hexstr info.devTypeStr = some 0x1322 := by
      rcases List.mem_pair.mp hinfo with rfl | rfl <;> decide
    obtain rfl := Option.some.inj (htype.symm.trans heq)
    decide

theorem apart_nil (cmd : List Char) : Apart cmd ⟨[], 1⟩ where
  pid_lt := fun _ hp => absurd hp List.not_mem_nil
  pid := fun _ hp => absurd hp List.not_mem_nil
  file := fun _ hp => absurd hp List.not_mem_nil

/-- The two ports of a device. -/
theorem spawnTtyp_again_twoPorts :
    spawnTtyp optVcomd (spawnTtyp optVcomd ⟨[], 1⟩ [onePort, nextPort]) [onePort, nextPort] =
      spawnTtyp optVcomd ⟨[], 1⟩ [onePort, nextPort] :=
  spawnTtyp_again isWord_optVcomd startable_twoPorts (List.pairwise_pair.mpr (by decide)) (apart_nil _)

/-! ### A number that is not written as it is printed -/

/-- **Each run starts another daemon** for a port whose file is not the one that is looked for. -/
theorem length_spawnTtyp_unfound {info : TtyInfo} (hcmd : IsWord isSpace cmd) (h : WellFormed info)
    {p : VcomPort} (hp : startup (portOptions (monOf info) info) = some p) (hlt : p.ttyid < cfMaxports)
    (hother : fileOf p.ttyid.toNat ≠ vcomif info) {s : Procs}
    (hfree : ∀ p ∈ s.running, p.file ≠ vcomif info) (runs : ℕ) :
    ((fun t => spawnTtyp cmd t [info])^[runs] s).running.length = s.running.length + runs := by
  induction runs generalizing s with
  | zero => rfl
  | succ runs ih =>
      have hnone : cmdSearchFile cmd (vcomif info) s = none := by
        refine List.find?_eq_none.mpr fun q hq hmatch => ?_
        rw [Bool.and_eq_true, beq_iff_eq] at hmatch
        exact hfree q hq hmatch.2
      have hrun : spawnTtyp cmd s [info] =
          ⟨s.running ++ [⟨s.next, syscmd cmd info, fileOf p.ttyid.toNat⟩], s.next + 1⟩ := by
        show spawnPort cmd s info = _
        rw [spawnPort, hnone]
        exact system_of_startup hcmd h hp hlt s
      rw [Function.iterate_succ_apply, hrun, ih]
      · rw [List.length_append, List.length_singleton]
        omega
      · intro q hq
        rcases List.mem_append.mp hq with hold | hnew
        · exact hfree q hold
        · rw [List.mem_singleton.mp hnew]
          exact hother

/-- The line `00 1322 10.0.0.1 1` names such a port: three runs, three daemons. -/
theorem length_spawnTtyp_unfound_three :
    ((fun t => spawnTtyp optVcomd t [{ onePort with mptNameidxStr := ['0', '0'] }])^[3] ⟨[], 1⟩).running.length
      = 3 := by
  have hread : paserConfig "00 1322 10.0.0.1 1\n".toList =
      some [{ onePort with mptNameidxStr := ['0', '0'] }] := by decide +kernel
  have hstartup : startup (portOptions (monOf { onePort with mptNameidxStr := ['0', '0'] })
      { onePort with mptNameidxStr := ['0', '0'] }) =
      some ⟨0, 0x1322, 1, some "10.0.0.1".toList, none⟩ := by decide
  exact length_spawnTtyp_unfound isWord_optVcomd
    ((wellFormed_of_paserConfig hread).2 _ (List.mem_singleton_self _)) hstartup (by decide) (by decide)
    (fun _ hp => absurd hp List.not_mem_nil) 3

end ModbusRTU.SpawnTtyp
