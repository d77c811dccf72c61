import ModbusRTU.Initd.ProcTable

/-!
# The ports that are listed

`advttyd` is run on a configuration, and then `advps`.

* **`shown_of_conf`** — each port of the configuration is listed once, with the number of the daemon that has
  its command, and what else is listed is a daemon that runs and holds the port's file.
-/

namespace ModbusRTU.ListedPorts

open CallProgram WorldLogic LineWords Numerals TtyConfig PortCommands ProcCalls ProcTable
open SpawnTtyp (Proc Procs advproc vcomif fileOf Apart Served Startable startable_twoPorts)

/-- The daemons hold different files, and no other copy of `vcomd` holds one. -/
structure Ready (cmd : List Char) (s : Procs) : Prop where
  orderly : Orderly s
  apart : Apart cmd s
  copies : ∀ p ∈ s.running, "vcomd".toList <:+: p.cmdline → advproc <+: p.file → cmd <+: p.cmdline

section Ready

variable {cmd : List Char} {s : Procs} {infos : List TtyInfo}

theorem orderly_spawnTtyp (h : Orderly s) (cmd : List Char) (infos : List TtyInfo) :
    Orderly (SpawnTtyp.spawnTtyp cmd s infos) ∧
      (SpawnTtyp.spawnTtyp cmd s infos).running.length ≤ s.running.length + infos.length := by
  induction infos generalizing s with
  | nil => exact ⟨h, Nat.le_refl _⟩
  | cons info infos ih =>
      obtain ⟨horderly, hlength⟩ := h.spawnPort cmd info
      obtain ⟨horderly', hlength'⟩ := ih horderly
      refine ⟨horderly', hlength'.trans ?_⟩
      rw [List.length_cons]
      omega

/-- What runs ran before, or has the command. -/
theorem mem_spawnPort (hcmd : IsWord isSpace cmd) {info : TtyInfo} (hinfo : Startable info) {p : Proc}
    (hp : p ∈ (SpawnTtyp.spawnPort cmd s info).running) : p ∈ s.running ∨ cmd <+: p.cmdline := by
  have hsystem : ∀ t : Procs, (∀ q ∈ t.running, q ∈ s.running) →
      p ∈ (SpawnTtyp.system (syscmd cmd info) t).running → p ∈ s.running ∨ cmd <+: p.cmdline := by
    intro t ht hmem
    rw [SpawnTtyp.system_syscmd hcmd hinfo] at hmem
    rcases List.mem_append.mp hmem with hold | hnew
    · exact Or.inl (ht p hold)
    · obtain rfl := List.mem_singleton.mp hnew
      exact Or.inr (SpawnTtyp.prefix_syscmd cmd info)
  unfold SpawnTtyp.spawnPort at hp
  split at hp
  · split at hp
    · exact Or.inl hp
    · exact hsystem _ (fun q hq => (List.mem_filter.mp hq).1) hp
  · exact hsystem s (fun q hq => hq) hp

theorem mem_spawnTtyp (hcmd : IsWord isSpace cmd) (hinfos : ∀ info ∈ infos, Startable info) {p : Proc}
    (hp : p ∈ (SpawnTtyp.spawnTtyp cmd s infos).running) : p ∈ s.running ∨ cmd <+: p.cmdline := by
  induction infos generalizing s with
  | nil => exact Or.inl hp
  | cons info infos ih =>
      rcases ih (fun x hx => hinfos x (List.mem_cons_of_mem info hx)) hp with hold | hnew
      · exact mem_spawnPort hcmd (hinfos info List.mem_cons_self) hold
      · exact Or.inr hnew

/-- **The configuration is served**, and what holds of the processes is kept. -/
theorem ready_spawnTtyp (h : Ready cmd s) (hcmd : IsWord isSpace cmd)
    (hinfos : ∀ info ∈ infos, Startable info)
    (hnames : infos.Pairwise fun a b => a.mptNameidxStr ≠ b.mptNameidxStr) :
    Ready cmd (SpawnTtyp.spawnTtyp cmd s infos) ∧
      ∀ info ∈ infos, Served cmd (SpawnTtyp.spawnTtyp cmd s infos) info := by
  obtain ⟨hapart, hserved, -⟩ := SpawnTtyp.spawnTtyp_spec hcmd hinfos hnames h.apart
  refine ⟨⟨(orderly_spawnTtyp h.orderly cmd infos).1, hapart, fun p hp hvcomd hfile => ?_⟩, hserved⟩
  rcases mem_spawnTtyp hcmd hinfos hp with hold | hnew
  · exact h.copies p hold hvcomd hfile
  · exact hnew

/-- What `advps` finds is a daemon with the file. -/
theorem mem_of_holder (h : Ready cmd s) {n : ℕ} {p : Proc} (hp : holder s n = some p) :
    p ∈ s.running ∧ cmd <+: p.cmdline ∧ p.file = fileOf n := by
  have hmem := List.mem_of_find?_eq_some hp
  have hmatch := List.find?_some hp
  rw [Bool.and_eq_true, decide_eq_true_eq, beq_iff_eq] at hmatch
  refine ⟨hmem, h.copies p hmem hmatch.1 ?_, hmatch.2⟩
  rw [hmatch.2]
  exact List.prefix_append ..

/-- A daemon with the file is what `advps` finds. -/
theorem holder_of_mem (h : Ready cmd s) (hvcomd : "vcomd".toList <:+: cmd) {n : ℕ} {p : Proc}
    (hp : p ∈ s.running) (hcmdline : cmd <+: p.cmdline) (hfile : p.file = fileOf n) :
    holder s n = some p := by
  have hsome : (holder s n).isSome := by
    refine List.find?_isSome.mpr ⟨p, hp, ?_⟩
    rw [Bool.and_eq_true, decide_eq_true_eq, beq_iff_eq]
    exact ⟨hvcomd.trans hcmdline.isInfix, hfile⟩
  obtain ⟨q, hq⟩ := Option.isSome_iff_exists.mp hsome
  obtain ⟨hmem, hcmdline', hfile'⟩ := mem_of_holder h hq
  rw [hq, h.apart.file q hmem p hp hcmdline' hcmdline (hfile'.trans hfile.symm)]

end Ready

/-! ### The list -/

/-- The ports that `advps` lists, each with the number of a process. -/
def portList (s : Procs) : List (ℕ × ℕ) :=
  (List.range cfMaxports).filterMap fun i => (holder s i).map fun p => (i, p.pid)

theorem mem_portList {s : Procs} {n pid : ℕ} :
    (n, pid) ∈ portList s ↔ n < cfMaxports ∧ ∃ p, holder s n = some p ∧ p.pid = pid := by
  unfold portList
  rw [List.mem_filterMap]
  constructor
  · rintro ⟨i, hi, hpair⟩
    obtain ⟨p, hp, heq⟩ := Option.map_eq_some_iff.mp hpair
    obtain ⟨rfl, rfl⟩ := Prod.mk.inj heq
    exact ⟨List.mem_range.mp hi, p, hp, rfl⟩
  · rintro ⟨hn, p, hp, rfl⟩
    refine ⟨n, List.mem_range.mpr hn, ?_⟩
    rw [hp]
    rfl

/-- `advttyd` and then `advps`. -/
def twoRuns (limit : ℕ) (cmd : List Char) (infos : List TtyInfo) : Scan Unit := do
  spawnTtyp limit cmd infos none
  advps limit (List.range cfMaxports) none

section Programs

variable {fs : ProcFs} {m : Machine} {cmd conf : List Char} {infos : List TtyInfo} {limit : ℕ}
  (hfew : ∀ p, (fs.listing (List.range (fs.fds p).length)).length < limit)
  (hlimit : fs.other.length + m.procs.running.length + infos.length < limit) (hshown : m.shown = [])
include hfew hlimit hshown

theorem twoRuns_machine (h : Orderly m.procs) :
    wp (machine fs) (twoRuns limit cmd infos)
      (fun _ t => t.procs = SpawnTtyp.spawnTtyp cmd m.procs infos ∧ t.shown = portList t.procs) m := by
  obtain ⟨horderly, hlength⟩ := orderly_spawnTtyp h cmd infos
  unfold twoRuns
  refine wp_seq (spawnTtyp_machine hfew cmd infos h hlimit) fun _ t ht => ?_
  obtain rfl := ht
  have hfits : fs.other.length + (SpawnTtyp.spawnTtyp cmd m.procs infos).running.length < limit := by omega
  refine wp_mono (advps_machine hfew (List.range cfMaxports) horderly hfits) fun _ u hu => ?_
  obtain rfl := hu
  refine ⟨rfl, ?_⟩
  show m.shown ++ _ = _
  rw [hshown]
  rfl

/-- **Each port of the configuration** is listed once, with its daemon. -/
theorem shown_of_conf (hready : Ready cmd m.procs) (hcmd : IsWord isSpace cmd)
    (hvcomd : "vcomd".toList <:+: cmd) (hconf : paserConfig conf = some infos)
    (hname : ∀ info ∈ infos, ∃ n < cfMaxports, info.mptNameidxStr = Nat.toDigits 10 n)
    (hdevid : ∀ info ∈ infos, ∀ type, hexstr info.devTypeStr = some type → type % 65536 ≠ 0)
    (hnames : infos.Pairwise fun a b => a.mptNameidxStr ≠ b.mptNameidxStr) :
    wp (machine fs) (twoRuns limit cmd infos)
      (fun _ t =>
        (∀ info ∈ infos, ∃ n, ∃ p ∈ t.procs.running, info.mptNameidxStr = Nat.toDigits 10 n ∧
          p.cmdline = syscmd cmd info ∧ ∀ pid, (n, pid) ∈ t.shown ↔ pid = p.pid) ∧
        ∀ n pid, (n, pid) ∈ t.shown ↔ n < cfMaxports ∧ ∃ p ∈ t.procs.running,
          cmd <+: p.cmdline ∧ p.file = fileOf n ∧ p.pid = pid) m := by
  have hwellFormed := (wellFormed_of_paserConfig hconf).2
  have hinfos : ∀ info ∈ infos, Startable info :=
    fun info hinfo => ⟨hwellFormed info hinfo, hname info hinfo, hdevid info hinfo⟩
  obtain ⟨hready', hserved⟩ := ready_spawnTtyp hready hcmd hinfos hnames
  refine wp_mono (twoRuns_machine hfew hlimit hshown hready.orderly) fun _ t ht => ?_
  obtain ⟨hprocs, ht⟩ := ht
  rw [← hprocs] at hready' hserved
  rw [ht]
  refine ⟨fun info hinfo => ?_, fun n pid => ?_⟩
  · obtain ⟨p, hp, hcmdline, hfile⟩ := hserved info hinfo
    obtain ⟨n, hn, hdigits⟩ := hname info hinfo
    have hprefix : cmd <+: p.cmdline := by
      rw [hcmdline]
      exact SpawnTtyp.prefix_syscmd cmd info
    have hfile' : p.file = fileOf n := by rw [hfile, vcomif, hdigits, fileOf]
    have hholder := holder_of_mem hready' hvcomd hp hprefix hfile'
    refine ⟨n, p, hp, hdigits, hcmdline, fun pid => mem_portList.trans ?_⟩
    rw [hholder]
    constructor
    · rintro ⟨-, q, hq, rfl⟩
      rw [Option.some.inj hq]
    · rintro rfl
      exact ⟨hn, p, rfl, rfl⟩
  · refine mem_portList.trans (and_congr_right fun _ => ?_)
    constructor
    · rintro ⟨p, hp, rfl⟩
      obtain ⟨hmem, hcmdline, hfile⟩ := mem_of_holder hready' hp
      exact ⟨p, hmem, hcmdline, hfile, rfl⟩
    · rintro ⟨p, hp, hcmdline, hfile, rfl⟩
      exact ⟨p, holder_of_mem hready' hvcomd hp hcmdline hfile, rfl⟩

end Programs

/-! ### A configuration with two ports -/

/-- A process has two descriptors. -/
def smallFs : ProcFs where
  other := [['.'], ['.', '.'], "self".toList]
  fds := fun p => ["/dev/null".toList, p.file]
  other_not := by decide
  mem_fds := by
    intro p file hdriver
    have hne : file ≠ "/dev/null".toList := by
      rintro rfl
      exact absurd hdriver (by decide)
    rw [List.mem_cons, List.mem_singleton, or_iff_right hne]
    exact eq_comm

def newMachine : Machine := ⟨⟨[], 1⟩, fun _ => none, fun _ => none, []⟩

theorem ready_newMachine (cmd : List Char) : Ready cmd newMachine.procs := by
  have hnone : ∀ p : Proc, p ∉ newMachine.procs.running := fun p => List.not_mem_nil
  refine ⟨⟨Nat.one_pos, ?_, ?_, ?_, ?_⟩, ⟨?_, ?_, ?_⟩, ?_⟩ <;>
    exact fun p hp => absurd hp (hnone p)

theorem shown_of_conf_first :
    wp (machine smallFs) (twoRuns 10 optVcomd [onePort, nextPort])
      (fun _ t =>
        (∀ info ∈ [onePort, nextPort], ∃ n, ∃ p ∈ t.procs.running,
          info.mptNameidxStr = Nat.toDigits 10 n ∧ p.cmdline = syscmd optVcomd info ∧
          ∀ pid, (n, pid) ∈ t.shown ↔ pid = p.pid) ∧
        ∀ n pid, (n, pid) ∈ t.shown ↔ n < cfMaxports ∧ ∃ p ∈ t.procs.running,
          optVcomd <+: p.cmdline ∧ p.file = fileOf n ∧ p.pid = pid) newMachine := by
  have hconf : paserConfig twoLines = some [onePort, nextPort] := by decide +kernel
  refine shown_of_conf (fun p => ?_) (by decide) rfl (ready_newMachine _) isWord_optVcomd (by decide) hconf
    (fun info hinfo => (startable_twoPorts info hinfo).name)
    (fun info hinfo => (startable_twoPorts info hinfo).devid) (List.pairwise_pair.mpr (by decide))
  show 5 < 10
  decide

end ModbusRTU.ListedPorts
