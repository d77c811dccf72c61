import ModbusRTU.Initd.ProcCalls
import ModbusRTU.Interaction.WorldLogic

/-!
# The processes as `/proc` shows them

A `Machine` has processes (`Procs`) and shows them in `/proc`: a directory for each, with its command line and
a link for each of its descriptors.  Nothing but the program itself starts and ends processes here.

* **`spawnTtyp_machine`** — then `advttyd`, call by call, does to the processes what `SpawnTtyp.spawnTtyp`
  does, uses only streams and files that are open, and comes to an end.
* **`advps_machine`** — and `advps` shows for each port the first process with `vcomd` in its command that
  holds the port's file.
* **`machine_answers`** — there is an answer to each call that may be made.

A process without a command line is judged by the last one that was read.  This makes no difference as long
as a process that holds a file of the driver has one.
-/

namespace ModbusRTU.ProcTable

open CallProgram WorldLogic LineWords Numerals TtyConfig PortCommands ProcCalls
open SpawnTtyp (Proc Procs advproc vcomif fileOf)

/-- What a directory of `/proc` has beside numbers, and the links of a process.  Of the files of the driver
a process holds the one that its record has. -/
structure ProcFs where
  other : List (List Char)
  fds : Proc → List (List Char)
  other_not : ∀ name ∈ other, isNumber name = false
  mem_fds : ∀ p file, advproc <+: file → (file ∈ fds p ↔ p.file = file)

def ProcFs.listing (fs : ProcFs) (numbers : List ℕ) : List (List Char) :=
  fs.other ++ numbers.map (Nat.toDigits 10)

/-- The processes, what is left of the streams that are open, the files that are open with the process
whose command line they are, and the lines of `advps`. -/
structure Machine where
  procs : Procs
  dirs : ℕ → Option (List (List Char))
  files : ℕ → Option ℕ
  shown : List (ℕ × ℕ)

def Machine.find (m : Machine) (pid : ℕ) : Option Proc := m.procs.running.find? (·.pid = pid)

section World

variable (fs : ProcFs)

def link (m : Machine) : Path → Option (List Char)
  | .fd pid n => (m.find pid).bind fun p => (fs.fds p)[n]?
  | _ => none

/-- `stat` finds the path. -/
def found (m : Machine) : Path → Bool
  | .proc => true
  | .pid pid | .cmdline pid | .fds pid => (m.find pid).isSome
  | .fd pid n => (link fs m (.fd pid n)).isSome

def entries (m : Machine) : Path → Option (List (List Char))
  | .proc => some (fs.listing (m.procs.running.map (·.pid)))
  | .fds pid => (m.find pid).map fun p => fs.listing (List.range (fs.fds p).length)
  | _ => none

def Machine.setDir (m : Machine) (dir : ℕ) (names : Option (List (List Char))) : Machine :=
  { m with dirs := Function.update m.dirs dir names }

def Machine.setFile (m : Machine) (fp : ℕ) (pid : Option ℕ) : Machine :=
  { m with files := Function.update m.files fp pid }

/-- Of the failures, none is met but the end of `/proc`. -/
def machineMay (m : Machine) : ProcOp → Prop
  | .readdir dir | .closedir dir => (m.dirs dir).isSome
  | .fread fp | .fclose fp => (m.files fp).isSome
  | .syslog text => text = "__cmd_search_file(164)readdir failed".toList
  | .printf _ | .goOn => False
  | _ => True

def machineStep (m : Machine) : (op : ProcOp) → ProcAns op → Machine → Prop
  | .opendir path, none, t => entries fs m path = none ∧ t = m
  | .opendir path, some dir, t => ∃ names, entries fs m path = some names ∧ m.dirs dir = none ∧
      t = m.setDir dir (some names)
  | .readdir dir, r, t => ∃ names, m.dirs dir = some names ∧ r = names.head? ∧
      t = m.setDir dir (some names.tail)
  | .closedir dir, _, t => t = m.setDir dir none
  | .stat path, r, t => r = found fs m path ∧ t = m
  | .lstat path, r, t => r = found fs m path ∧ t = m
  | .readlink path, r, t => r = link fs m path ∧ t = m
  | .fopen path, none, t => (∀ pid, path = .cmdline pid → m.find pid = none) ∧ t = m
  | .fopen path, some fp, t => ∃ pid p, path = .cmdline pid ∧ m.find pid = some p ∧
      m.files fp = none ∧ t = m.setFile fp (some pid)
  | .fread fp, data, t =>
      (∀ pid p, m.files fp = some pid → m.find pid = some p → cleaned data = p.cmdline) ∧ t = m
  | .fclose fp, _, t => t = m.setFile fp none
  | .unset, _, t => t = m
  | .kill pid, _, t => t = { m with procs := SpawnTtyp.kill pid m.procs }
  | .system syscmd, _, t => t = { m with procs := SpawnTtyp.system syscmd m.procs }
  | .row ttyid pid, _, t => t = { m with shown := m.shown ++ [(ttyid, pid)] }
  | .printf _, _, t => t = m
  | .syslog _, _, t => t = m

def machine : World ProcOp ProcAns Machine where
  may := machineMay
  step := machineStep fs

end World

/-! ### Names -/

theorem isNumber_toDigits (n : ℕ) : isNumber (Nat.toDigits 10 n) = true := by
  cases hdigits : Nat.toDigits 10 n with
  | nil => exact absurd hdigits Nat.toDigits_ne_nil
  | cons ch rest =>
      exact Nat.isDigit_of_mem_toDigits (b := 10) (n := n) (by decide) (by decide)
        (hdigits ▸ List.mem_cons_self)

/-- The numbers of a directory. -/
theorem filterMap_listing {α : Type} (fs : ProcFs) (f : ℕ → Option α) (numbers : List ℕ) :
    ((fs.listing numbers).filterMap fun name => if isNumber name then f (decimal name) else none) =
      numbers.filterMap f := by
  have hother : (fs.other.filterMap fun name => if isNumber name then f (decimal name) else none) = [] := by
    refine List.filterMap_eq_nil_iff.mpr fun name hname => ?_
    rw [fs.other_not name hname]
    rfl
  rw [ProcFs.listing, List.filterMap_append, hother, List.nil_append, List.filterMap_map]
  refine List.filterMap_congr fun n _ => ?_
  show (if isNumber (Nat.toDigits 10 n) then f (decimal (Nat.toDigits 10 n)) else none) = f n
  rw [isNumber_toDigits, decimal_toDigits]
  rfl

/-- An entry that is a number is one of the numbers. -/
theorem mem_of_mem_listing {fs : ProcFs} {numbers : List ℕ} {name : List Char}
    (h : name ∈ fs.listing numbers) (hname : isNumber name = true) : decimal name ∈ numbers := by
  rcases List.mem_append.mp h with hother | hnumber
  · rw [fs.other_not name hother] at hname
    exact absurd hname Bool.false_ne_true
  · obtain ⟨n, hn, rfl⟩ := List.mem_map.mp hnumber
    rw [decimal_toDigits]
    exact hn

/-! ### The descriptors of a process -/

section Machine

variable {fs : ProcFs} {m : Machine} {say : Say} {dir limit pid : ℕ} {file : List Char}

theorem setDir_setDir (m : Machine) (dir : ℕ) (names names' : Option (List (List Char))) :
    (m.setDir dir names).setDir dir names' = m.setDir dir names' := by
  unfold Machine.setDir
  rw [Function.update_idem]

theorem setDir_none (h : m.dirs dir = none) (names : Option (List (List Char))) :
    (m.setDir dir names).setDir dir none = m := by
  rw [setDir_setDir, Machine.setDir, ← h, Function.update_eq_self]

theorem setFile_none {fp : ℕ} (h : m.files fp = none) (pid : Option ℕ) :
    (m.setFile fp pid).setFile fp none = m := by
  unfold Machine.setFile
  rw [Function.update_idem, ← h, Function.update_eq_self]

/-- The end of a search. -/
theorem closedir_machine (fs : ProcFs) {α : Type} {names : List (List Char)}
    (hdir : m.dirs dir = some names) (a : α) :
    wp (machine fs) (askProc (.closedir dir) >>= fun _ => pure a)
      (fun r t => r = a ∧ t = m.setDir dir none) m := by
  refine wp_call (show (m.dirs dir).isSome from ?_) fun _ t hstep => ⟨rfl, hstep⟩
  rw [hdir]
  rfl

/-- The links behind the numbers. -/
def linksOf (fs : ProcFs) (m : Machine) (pid : ℕ) (names : List (List Char)) : List (List Char) :=
  names.filterMap fun name => if isNumber name then link fs m (.fd pid (decimal name)) else none

/-- The links that are left are looked through. -/
theorem fdLoop_machine {names : List (List Char)} (hdir : m.dirs dir = some names)
    (hlinks : ∀ name ∈ names, isNumber name = true → (link fs m (.fd pid (decimal name))).isSome)
    (hlimit : names.length < limit) :
    wp (machine fs) (fdLoop say pid file dir limit)
      (fun r t => r = (if file ∈ linksOf fs m pid names then some pid else none, none) ∧
        t = m.setDir dir none) m := by
  induction names generalizing m limit with
  | nil =>
      obtain ⟨limit, rfl⟩ := Nat.exists_eq_succ_of_ne_zero (Nat.ne_of_gt hlimit)
      unfold fdLoop
      refine wp_call (Option.isSome_iff_exists.mpr ⟨_, hdir⟩) fun r t hstep => ?_
      obtain ⟨names, hnames, rfl, rfl⟩ := hstep
      obtain rfl : [] = names := Option.some.inj (hdir.symm.trans hnames)
      have hopen : (m.setDir dir (some [])).dirs dir = some [] := Function.update_self ..
      have hclose := closedir_machine fs hopen ((none, none) : Option ℕ × Option ℕ)
      rw [setDir_setDir] at hclose
      exact hclose
  | cons name names ih =>
      obtain ⟨limit, rfl⟩ := Nat.exists_eq_succ_of_ne_zero (Nat.ne_of_gt (Nat.zero_lt_of_lt hlimit))
      have hopen : (m.setDir dir (some names)).dirs dir = some names := Function.update_self ..
      have hlater : ∀ x ∈ names, isNumber x = true →
          (link fs (m.setDir dir (some names)) (.fd pid (decimal x))).isSome :=
        fun x hx => hlinks x (List.mem_cons_of_mem name hx)
      have hrest := ih hopen hlater (Nat.lt_of_succ_lt_succ hlimit)
      rw [setDir_setDir] at hrest
      unfold fdLoop
      refine wp_call (Option.isSome_iff_exists.mpr ⟨_, hdir⟩) fun r t hstep => ?_
      obtain ⟨names', hnames', rfl, rfl⟩ := hstep
      obtain rfl : name :: names = names' := Option.some.inj (hdir.symm.trans hnames')
      show wp (machine fs) (if isNumber name then _ else _) _ (m.setDir dir (some names))
      by_cases hnumber : isNumber name = true
      · rw [if_pos hnumber]
        obtain ⟨target, htarget⟩ :=
          Option.isSome_iff_exists.mp (hlinks name List.mem_cons_self hnumber)
        have hlinksOf : linksOf fs m pid (name :: names) = target :: linksOf fs m pid names := by
          refine List.filterMap_cons_some ?_
          rw [hnumber]
          exact htarget
        have hfound : found fs (m.setDir dir (some names)) (.fd pid (decimal name)) = true :=
          Option.isSome_iff_exists.mpr ⟨target, htarget⟩
        refine wp_call trivial fun r t hstep => ?_
        obtain ⟨rfl, rfl⟩ := hstep
        rw [hfound]
        refine wp_call trivial fun r t hstep => ?_
        obtain ⟨rfl, rfl⟩ := hstep
        rw [hfound]
        refine wp_call trivial fun r t hstep => ?_
        obtain ⟨rfl, rfl⟩ := hstep
        rw [show link fs (m.setDir dir (some names)) (.fd pid (decimal name)) = some target from htarget,
          hlinksOf]
        show wp (machine fs) (if target = file then _ else _) _ _
        by_cases hsame : target = file
        · subst hsame
          rw [if_pos rfl, if_pos List.mem_cons_self]
          have hclose := closedir_machine fs hopen ((some pid, none) : Option ℕ × Option ℕ)
          rw [setDir_setDir] at hclose
          exact hclose
        · have hmem : file ∈ target :: linksOf fs m pid names ↔ file ∈ linksOf fs m pid names := by
            rw [List.mem_cons, or_iff_right fun heq => hsame heq.symm]
          rw [if_neg hsame]
          simp only [hmem]
          exact hrest
      · rw [if_neg hnumber]
        have hlinksOf : linksOf fs m pid (name :: names) = linksOf fs m pid names := by
          refine List.filterMap_cons_none ?_
          rw [if_neg hnumber]
        rw [hlinksOf]
        exact hrest

theorem mem_of_find {p : Proc} (h : m.find pid = some p) : p ∈ m.procs.running ∧ p.pid = pid := by
  have hpid := List.find?_some h
  exact ⟨List.mem_of_find?_eq_some h, of_decide_eq_true hpid⟩

/-- **The descriptors of a process** are looked through. -/
theorem searchFd_machine {p : Proc} (h : m.find pid = some p)
    (hlimit : (fs.listing (List.range (fs.fds p).length)).length < limit) :
    wp (machine fs) (searchFd say limit pid file none)
      (fun r t => r = (if file ∈ fs.fds p then some pid else none, none) ∧ t = m) m := by
  have hentries : entries fs m (.fds pid) = some (fs.listing (List.range (fs.fds p).length)) := by
    show (m.find pid).map _ = _
    rw [h]
    rfl
  have hlink : ∀ k, link fs m (.fd pid k) = (fs.fds p)[k]? := by
    intro k
    show (m.find pid).bind _ = _
    rw [h]
    rfl
  unfold searchFd
  refine wp_call trivial fun r t hstep => ?_
  cases r with
  | none =>
      have hnone : entries fs m (.fds pid) = none := hstep.1
      rw [hentries] at hnone
      exact nomatch hnone
  | some dir =>
      obtain ⟨names, hnames, hfree, rfl⟩ := hstep
      obtain rfl := Option.some.inj (hentries.symm.trans hnames)
      have hlinks : ∀ name ∈ fs.listing (List.range (fs.fds p).length), isNumber name = true →
          (link fs (m.setDir dir (some (fs.listing (List.range (fs.fds p).length))))
            (.fd pid (decimal name))).isSome := by
        intro name hname hnumber
        have hlt := List.mem_range.mp (mem_of_mem_listing hname hnumber)
        show (link fs m (.fd pid (decimal name))).isSome
        rw [hlink, List.getElem?_eq_getElem hlt]
        rfl
      have hall : file ∈ linksOf fs m pid (fs.listing (List.range (fs.fds p).length)) ↔ file ∈ fs.fds p := by
        unfold linksOf
        rw [filterMap_listing fs fun k => link fs m (.fd pid k), List.mem_filterMap,
          List.mem_iff_getElem?]
        constructor
        · rintro ⟨k, -, hk⟩
          exact ⟨k, (hlink k).symm.trans hk⟩
        · rintro ⟨k, hk⟩
          obtain ⟨hlt, -⟩ := List.getElem?_eq_some_iff.mp hk
          exact ⟨k, List.mem_range.mpr hlt, (hlink k).trans hk⟩
      refine wp_mono (fdLoop_machine (Function.update_self ..) hlinks hlimit) fun r t ht => ?_
      obtain ⟨hr, ht⟩ := ht
      refine ⟨hr.trans ?_, ht.trans (setDir_none hfree _)⟩
      exact congrArg (·, none) (if_congr hall rfl rfl)

/-- The command line of a process is read, and the file is closed again. -/
theorem readCmdline_machine {p : Proc} (h : m.find pid = some p) (buf : Option (List Char)) :
    wp (machine fs) (readCmdline say pid buf)
      (fun r t => (∃ data, cleaned data = p.cmdline ∧
        r = some (if data = [] then buf else some p.cmdline)) ∧ t = m) m := by
  unfold readCmdline
  refine wp_call trivial fun r t hstep => ?_
  cases r with
  | none =>
      have hnone := hstep.1 pid rfl
      rw [h] at hnone
      exact nomatch hnone
  | some fp =>
      obtain ⟨pid', p', hpath, hp', hfree, rfl⟩ := hstep
      obtain rfl := Path.cmdline.inj hpath
      have hopen : (m.setFile fp (some pid)).files fp = some pid := Function.update_self ..
      refine wp_call (Option.isSome_iff_exists.mpr ⟨_, hopen⟩) fun data t hstep => ?_
      obtain ⟨hdata, rfl⟩ := hstep
      have hclean := hdata pid p hopen h
      refine wp_call (Option.isSome_iff_exists.mpr ⟨_, hopen⟩) fun _ t hstep => ?_
      refine ⟨⟨data, hclean, ?_⟩, hstep.trans (setFile_none hfree _)⟩
      rw [hclean]

/-- A line that was read is in the buffer. -/
theorem contents_machine (buf : Option (List Char)) :
    wp (machine fs) (contents buf) (fun line t => (∀ s, buf = some s → line = s) ∧ t = m) m := by
  cases buf with
  | none => exact ⟨trivial, fun _ _ hstep => ⟨nofun, hstep⟩⟩
  | some buf => exact ⟨fun s hs => Option.some.inj hs, rfl⟩

/-! ### The processes -/

/-- What a search relies on: process numbers are positive, a process that holds a file of the driver has a
command line, and no process has too many descriptors for the loop. -/
structure Searchable (fs : ProcFs) (limit : ℕ) (s : Procs) : Prop where
  pid_pos : ∀ p ∈ s.running, 0 < p.pid
  named : ∀ p ∈ s.running, advproc <+: p.file → p.cmdline ≠ []
  few : ∀ p ∈ s.running, (fs.listing (List.range (fs.fds p).length)).length < limit

/-- The processes behind the numbers. -/
def procsOf (m : Machine) (names : List (List Char)) : List Proc :=
  names.filterMap fun name => if isNumber name then m.find (decimal name) else none

/-- The line by which a process that holds the file is judged is its own. -/
theorem Searchable.line {p : Proc} (hs : Searchable fs limit m.procs) (hp : p ∈ m.procs.running)
    (hfile : advproc <+: p.file) {data : List Char} (hdata : cleaned data = p.cmdline)
    (buf : Option (List Char)) : (if data = [] then buf else some p.cmdline) = some p.cmdline := by
  have hne : data ≠ [] := by
    rintro rfl
    exact hs.named p hp hfile hdata.symm
  exact if_neg hne

/-- No two processes have a number in common. -/
def Distinct (s : Procs) : Prop := ∀ p ∈ s.running, ∀ q ∈ s.running, p.pid = q.pid → p = q

theorem find_of_mem (h : Distinct m.procs) {p : Proc} (hp : p ∈ m.procs.running) :
    m.find p.pid = some p := by
  have hsome : (m.find p.pid).isSome :=
    List.find?_isSome.mpr ⟨p, hp, decide_eq_true rfl⟩
  obtain ⟨q, hq⟩ := Option.isSome_iff_exists.mp hsome
  obtain ⟨hmem, hpid⟩ := mem_of_find hq
  rw [hq, h q hmem p hp hpid]

/-- What is known of a process after it was looked at. -/
def Judges {α : Type} (fs : ProcFs) (s : Procs)
    (check : ℕ → Option (List Char) → Option ℕ → Scan (Checked α)) (f : Proc → Option α) : Prop :=
  ∀ m p buf, m.procs = s → m.find p.pid = some p →
    wp (machine fs) (check p.pid buf none) (fun r t => r.result = f p ∧ r.fdDir = none ∧ t = m) m

/-- What is said of the end of `/proc` may be said. -/
def Ends (fs : ProcFs) (say : Say) : Prop :=
  ∀ m, wp (machine fs) (say .readdirProc) (fun _ t => t = m) m

theorem ends_logged : Ends fs logged := fun _ => ⟨rfl, fun _ _ hstep => hstep⟩

theorem ends_printed : Ends fs printed := fun _ => rfl

section Search

variable {α : Type} {check : ℕ → Option (List Char) → Option ℕ → Scan (Checked α)} {f : Proc → Option α}
  (hsay : Ends fs say)
include hsay

theorem procLoop_machine {names : List (List Char)} (hcheck : Judges fs m.procs check f)
    (hdir : m.dirs dir = some names)
    (hfound : ∀ name ∈ names, isNumber name = true → (m.find (decimal name)).isSome)
    (hlimit : names.length < limit) (buf : Option (List Char)) :
    wp (machine fs) (procLoop say check dir limit buf none)
      (fun r t => r = ((procsOf m names).findSome? f, none) ∧ t = m.setDir dir none) m := by
  induction names generalizing m limit buf with
  | nil =>
      obtain ⟨limit, rfl⟩ := Nat.exists_eq_succ_of_ne_zero (Nat.ne_of_gt hlimit)
      unfold procLoop
      refine wp_call (Option.isSome_iff_exists.mpr ⟨_, hdir⟩) fun r t hstep => ?_
      obtain ⟨names, hnames, rfl, rfl⟩ := hstep
      obtain rfl : [] = names := Option.some.inj (hdir.symm.trans hnames)
      have hopen : (m.setDir dir (some [])).dirs dir = some [] := Function.update_self ..
      refine wp_seq (hsay _) fun _ t ht => ?_
      obtain rfl := ht
      have hclose := closedir_machine fs hopen ((none, none) : Option α × Option ℕ)
      rw [setDir_setDir] at hclose
      exact hclose
  | cons name names ih =>
      obtain ⟨limit, rfl⟩ := Nat.exists_eq_succ_of_ne_zero (Nat.ne_of_gt (Nat.zero_lt_of_lt hlimit))
      have hopen : (m.setDir dir (some names)).dirs dir = some names := Function.update_self ..
      have hlater : ∀ x ∈ names, isNumber x = true →
          ((m.setDir dir (some names)).find (decimal x)).isSome :=
        fun x hx => hfound x (List.mem_cons_of_mem name hx)
      have hrest := fun buf =>
        ih (m := m.setDir dir (some names)) hcheck hopen hlater (Nat.lt_of_succ_lt_succ hlimit) buf
      simp only [setDir_setDir] at hrest
      unfold procLoop
      refine wp_call (Option.isSome_iff_exists.mpr ⟨_, hdir⟩) fun r t hstep => ?_
      obtain ⟨names', hnames', rfl, rfl⟩ := hstep
      obtain rfl : name :: names = names' := Option.some.inj (hdir.symm.trans hnames')
      show wp (machine fs) (if isNumber name then _ else _) _ (m.setDir dir (some names))
      by_cases hnumber : isNumber name = true
      · rw [if_pos hnumber]
        obtain ⟨p, hp⟩ := Option.isSome_iff_exists.mp (hfound name List.mem_cons_self hnumber)
        obtain ⟨-, hpid⟩ := mem_of_find hp
        have hprocs : procsOf m (name :: names) = p :: procsOf m names := by
          refine List.filterMap_cons_some ?_
          rw [hnumber]
          exact hp
        rw [← hpid] at hp ⊢
        refine wp_seq (hcheck (m.setDir dir (some names)) p buf rfl hp) fun r t ht => ?_
        obtain ⟨hresult, hfdDir, rfl⟩ := ht
        rw [hprocs, List.findSome?_cons, hresult, hfdDir]
        cases f p with
        | none => exact hrest r.buf
        | some a =>
            have hclose := closedir_machine fs hopen ((some a, none) : Option α × Option ℕ)
            rw [setDir_setDir] at hclose
            exact hclose
      · rw [if_neg hnumber]
        have hprocs : procsOf m (name :: names) = procsOf m names := by
          refine List.filterMap_cons_none ?_
          rw [if_neg hnumber]
        rw [hprocs]
        exact hrest buf

/-- **A search of processes** comes to the first one. -/
theorem procSearch_machine (hcheck : Judges fs m.procs check f) (h : Distinct m.procs)
    (hlimit : fs.other.length + m.procs.running.length < limit) :
    wp (machine fs) (procSearch say check limit none)
      (fun r t => r = (m.procs.running.findSome? f, none) ∧ t = m) m := by
  unfold procSearch
  refine wp_call trivial fun r t hstep => ?_
  cases r with
  | none => exact nomatch hstep.1
  | some dir =>
      obtain ⟨names, hnames, hfree, rfl⟩ := hstep
      obtain rfl : fs.listing (m.procs.running.map (·.pid)) = names := Option.some.inj hnames
      have hfound : ∀ name ∈ fs.listing (m.procs.running.map (·.pid)), isNumber name = true →
          (m.find (decimal name)).isSome := by
        intro name hname hnumber
        obtain ⟨p, hp, hpid⟩ := List.mem_map.mp (mem_of_mem_listing hname hnumber)
        rw [← hpid, find_of_mem h hp]
        rfl
      have hall : procsOf m (fs.listing (m.procs.running.map (·.pid))) = m.procs.running := by
        have hsome : ∀ p ∈ m.procs.running, (m.find ∘ fun p => p.pid) p = some p :=
          fun p hp => find_of_mem h hp
        rw [procsOf, filterMap_listing, List.filterMap_map, List.filterMap_congr hsome,
          List.filterMap_some]
      have hlength : (fs.listing (m.procs.running.map (·.pid))).length < limit := by
        rw [ProcFs.listing, List.length_append, List.length_map, List.length_map]
        exact hlimit
      have hopen : (m.setDir dir (some (fs.listing (m.procs.running.map (·.pid))))).dirs dir =
          some (fs.listing (m.procs.running.map (·.pid))) := Function.update_self ..
      refine wp_mono (procLoop_machine (m := m.setDir dir _) hsay hcheck hopen hfound hlength none)
        fun r t ht => ?_
      obtain ⟨rfl, rfl⟩ := ht
      refine ⟨?_, setDir_none hfree _⟩
      exact congrArg (fun l => (List.findSome? f l, none)) hall

end Search

/-! ### The two searches -/

/-- A process that is looked for, and what is wanted of it. -/
def judge {α : Type} (wanted : Proc → Bool) (g : Proc → α) (p : Proc) : Option α :=
  if wanted p then some (g p) else none

theorem findSome?_judge {α : Type} (wanted : Proc → Bool) (g : Proc → α) (l : List Proc) :
    l.findSome? (judge wanted g) = (l.find? wanted).map g := by
  have hjudge : judge wanted g = Option.map g ∘ Option.guard wanted := by
    funext p
    unfold judge
    cases hp : wanted p with
    | true => simp [hp]
    | false => simp [hp]
  rw [hjudge, ← List.map_findSome?, List.findSome?_guard]

/-- Whether the line that is there or its own is checked makes no difference for a process that does not
hold the file. -/
theorem judge_line {α : Type} {p : Proc} {line : List Char} (hline : p.file = file → line = p.cmdline)
    (named : List Char → Bool) (g : Proc → α) :
    judge (fun p => named p.cmdline && p.file == file) g p =
      if named line then judge (fun p => p.file == file) g p else none := by
  unfold judge
  by_cases hfile : p.file = file
  · rw [hline hfile]
    cases hnamed : named p.cmdline with
    | true => simp [hnamed]
    | false => simp [hnamed]
  · simp [hfile]

/-- A search of descriptors after the check of the line. -/
theorem judge_machine {α : Type} {p : Proc} (hs : Searchable fs limit m.procs)
    (hp : m.find p.pid = some p) (hdriver : advproc <+: file) {a : α} {g : Proc → α}
    (ha : p.file = file → a = g p) (buf : Option (List Char)) :
    wp (machine fs)
      (searchFd say limit p.pid file none >>= fun r =>
        pure ⟨if r.1.any (0 < ·) then some a else none, buf, r.2⟩)
      (fun (r : Checked α) t =>
        r.result = judge (fun p => p.file == file) g p ∧ r.fdDir = none ∧ t = m) m := by
  obtain ⟨hmem, -⟩ := mem_of_find hp
  refine wp_seq (searchFd_machine hp (hs.few p hmem)) fun r t ht => ?_
  obtain ⟨rfl, rfl⟩ := ht
  refine ⟨?_, rfl, rfl⟩
  have hpos := hs.pid_pos p hmem
  have hheld := fs.mem_fds p file hdriver
  unfold judge
  by_cases hfile : p.file = file
  · simp [hheld.mpr hfile, hpos, hfile, ha hfile]
  · simp [mt hheld.mp hfile, hfile]

section Checks

variable {s : Procs} (hs : Searchable fs limit s) (hdriver : advproc <+: file) (cmd : List Char)
include hs hdriver

theorem judges_cmdCheck :
    Judges fs s (cmdCheck limit cmd file)
      (judge (fun p => cmd.isPrefixOf p.cmdline && p.file == file) fun p => (p.pid, p.cmdline)) := by
  rintro m p buf rfl hp
  obtain ⟨hmem, -⟩ := mem_of_find hp
  have hstat : found fs m (.pid p.pid) = true := Option.isSome_iff_exists.mpr ⟨p, hp⟩
  unfold cmdCheck
  refine wp_call trivial fun r t hstep => ?_
  obtain ⟨rfl, rfl⟩ := hstep
  rw [hstat]
  refine wp_seq (readCmdline_machine hp buf) fun r t ht => ?_
  obtain ⟨⟨data, hdata, rfl⟩, rfl⟩ := ht
  refine wp_seq (contents_machine _) fun line t ht => ?_
  obtain ⟨hline, rfl⟩ := ht
  have hown : p.file = file → line = p.cmdline :=
    fun hfile => hline _ (hs.line hmem (hfile ▸ hdriver) hdata buf)
  rw [judge_line hown cmd.isPrefixOf]
  split
  · exact judge_machine hs hp hdriver (fun hfile => by rw [hown hfile]) _
  · exact ⟨rfl, rfl, rfl⟩

theorem judges_findCheck :
    Judges fs s (findCheck limit cmd file)
      (judge (fun p => decide (cmd <:+: p.cmdline) && p.file == file) (·.pid)) := by
  rintro m p buf rfl hp
  obtain ⟨hmem, -⟩ := mem_of_find hp
  have hstat : found fs m (.pid p.pid) = true := Option.isSome_iff_exists.mpr ⟨p, hp⟩
  have hstat' : found fs m (.fds p.pid) = true := hstat
  unfold findCheck
  refine wp_seq (readCmdline_machine hp buf) fun r t ht => ?_
  obtain ⟨⟨data, hdata, rfl⟩, rfl⟩ := ht
  refine wp_seq (contents_machine _) fun line t ht => ?_
  obtain ⟨hline, rfl⟩ := ht
  have hown : p.file = file → line = p.cmdline :=
    fun hfile => hline _ (hs.line hmem (hfile ▸ hdriver) hdata buf)
  rw [judge_line hown fun line => decide (cmd <:+: line)]
  simp only [decide_eq_true_eq]
  split
  · refine wp_call trivial fun r t hstep => ?_
    obtain ⟨rfl, rfl⟩ := hstep
    rw [hstat]
    refine wp_call trivial fun r t hstep => ?_
    obtain ⟨rfl, rfl⟩ := hstep
    rw [hstat']
    exact judge_machine hs hp hdriver (fun _ => rfl) _
  · exact ⟨rfl, rfl, rfl⟩

end Checks

/-! ### The programs -/

/-- What holds of the processes. -/
structure Orderly (s : Procs) : Prop where
  next_pos : 0 < s.next
  pid_pos : ∀ p ∈ s.running, 0 < p.pid
  pid_lt : ∀ p ∈ s.running, p.pid < s.next
  distinct : Distinct s
  named : ∀ p ∈ s.running, advproc <+: p.file → p.cmdline ≠ []

theorem Orderly.kill {s : Procs} (h : Orderly s) (pid : ℕ) : Orderly (SpawnTtyp.kill pid s) where
  next_pos := h.next_pos
  pid_pos := fun p hp => h.pid_pos p (List.mem_filter.mp hp).1
  pid_lt := fun p hp => h.pid_lt p (List.mem_filter.mp hp).1
  distinct := fun p hp q hq => h.distinct p (List.mem_filter.mp hp).1 q (List.mem_filter.mp hq).1
  named := fun p hp => h.named p (List.mem_filter.mp hp).1

/-- Another process was started and ended. -/
theorem Orderly.skip {s : Procs} (h : Orderly s) : Orderly { s with next := s.next + 1 } where
  next_pos := Nat.succ_pos _
  pid_pos := h.pid_pos
  pid_lt := fun p hp => Nat.lt_succ_of_lt (h.pid_lt p hp)
  distinct := h.distinct
  named := h.named

theorem Orderly.start {s : Procs} (h : Orderly s) {cmdline file : List Char}
    (hcmdline : cmdline ≠ []) : Orderly ⟨s.running ++ [⟨s.next, cmdline, file⟩], s.next + 1⟩ := by
  refine ⟨Nat.succ_pos _, fun p hp => ?_, fun p hp => ?_, fun p hp q hq hpid => ?_, fun p hp hfile => ?_⟩
  · rcases List.mem_append.mp hp with hold | hnew
    · exact h.pid_pos p hold
    · obtain rfl := List.mem_singleton.mp hnew
      exact h.next_pos
  · rcases List.mem_append.mp hp with hold | hnew
    · exact Nat.lt_succ_of_lt (h.pid_lt p hold)
    · obtain rfl := List.mem_singleton.mp hnew
      exact Nat.lt_succ_self _
  · rcases List.mem_append.mp hp with hp | hp
    · rcases List.mem_append.mp hq with hq | hq
      · exact h.distinct p hp q hq hpid
      · obtain rfl := List.mem_singleton.mp hq
        exact absurd hpid (Nat.ne_of_lt (h.pid_lt p hp))
    · obtain rfl := List.mem_singleton.mp hp
      rcases List.mem_append.mp hq with hq | hq
      · exact absurd hpid.symm (Nat.ne_of_lt (h.pid_lt q hq))
      · exact (List.mem_singleton.mp hq).symm
  · rcases List.mem_append.mp hp with hold | hnew
    · exact h.named p hold hfile
    · obtain rfl := List.mem_singleton.mp hnew
      exact hcmdline

/-- A daemon that goes on has words in its command. -/
theorem spell_ne_nil_of_startup {words : List (List Char)} {p : VcomPort}
    (h : startup (words.tail.filterMap SpawnTtyp.optionOf) = some p) : spell ' ' words ≠ [] := by
  cases words with
  | nil => exact nomatch (show startup [] = some p from h)
  | cons w words => simp [spell]

theorem Orderly.system {s : Procs} (h : Orderly s) (syscmd : List Char) :
    Orderly (SpawnTtyp.system syscmd s) := by
  unfold SpawnTtyp.system
  dsimp only
  split
  · exact h.skip
  · next p hp =>
      split
      · exact h.start (spell_ne_nil_of_startup hp)
      · exact h.skip

theorem length_kill_le (pid : ℕ) (s : Procs) :
    (SpawnTtyp.kill pid s).running.length ≤ s.running.length := List.length_filter_le ..

theorem length_system_le (syscmd : List Char) (s : Procs) :
    (SpawnTtyp.system syscmd s).running.length ≤ s.running.length + 1 := by
  unfold SpawnTtyp.system
  dsimp only
  split
  · exact Nat.le_succ _
  · split
    · rw [List.length_append]
      exact Nat.le_refl _
    · exact Nat.le_succ _

theorem Orderly.spawnPort {s : Procs} (h : Orderly s) (cmd : List Char) (info : TtyInfo) :
    Orderly (SpawnTtyp.spawnPort cmd s info) ∧
      (SpawnTtyp.spawnPort cmd s info).running.length ≤ s.running.length + 1 := by
  unfold SpawnTtyp.spawnPort
  split
  · next old hfound =>
      split
      · exact ⟨h, Nat.le_succ _⟩
      · have hlength := length_system_le (syscmd cmd info) (SpawnTtyp.kill old.pid s)
        have hkill := length_kill_le old.pid s
        exact ⟨(h.kill old.pid).system _, by omega⟩
  · exact ⟨h.system _, length_system_le ..⟩

/-- What was found decides what is done. -/
theorem respawn_machine (h : Orderly m.procs) (cmd : List Char) (info : TtyInfo) :
    wp (machine fs)
      (respawn cmd info ((SpawnTtyp.cmdSearchFile cmd (vcomif info) m.procs).map
        fun p => (p.pid, p.cmdline)))
      (fun _ t => t = { m with procs := SpawnTtyp.spawnPort cmd m.procs info }) m := by
  unfold SpawnTtyp.spawnPort
  cases hfound : SpawnTtyp.cmdSearchFile cmd (vcomif info) m.procs with
  | none => exact ⟨trivial, fun _ _ hstep => hstep⟩
  | some old =>
      have hpos := h.pid_pos old (List.mem_of_find?_eq_some hfound)
      show wp (machine fs) (if 0 < old.pid then _ else _) _ m
      rw [if_pos hpos]
      dsimp only
      split
      · rfl
      · refine wp_call trivial fun _ t hstep => ?_
        obtain rfl := hstep
        exact ⟨trivial, fun _ _ hstep => hstep⟩

section Few

variable (hfew : ∀ p, (fs.listing (List.range (fs.fds p).length)).length < limit)
include hfew

theorem Orderly.searchable {s : Procs} (h : Orderly s) : Searchable fs limit s :=
  ⟨h.pid_pos, h.named, fun p _ => hfew p⟩

/-- **The calls of `advttyd`** do what it is described by. -/
theorem spawnTtyp_machine (cmd : List Char) (infos : List TtyInfo) (h : Orderly m.procs)
    (hlimit : fs.other.length + m.procs.running.length + infos.length < limit) :
    wp (machine fs) (spawnTtyp limit cmd infos none)
      (fun _ t => t = { m with procs := SpawnTtyp.spawnTtyp cmd m.procs infos }) m := by
  induction infos generalizing m with
  | nil => rfl
  | cons info infos ih =>
      rw [List.length_cons] at hlimit
      have hdriver : advproc <+: vcomif info := List.prefix_append ..
      have hfits : fs.other.length + m.procs.running.length < limit := by omega
      have hsearch := procSearch_machine (m := m) ends_logged
        (judges_cmdCheck (h.searchable hfew) hdriver cmd) h.distinct hfits
      rw [findSome?_judge] at hsearch
      obtain ⟨horderly, hlength⟩ := h.spawnPort cmd info
      unfold spawnTtyp
      refine wp_seq hsearch fun r t ht => ?_
      obtain ⟨rfl, rfl⟩ := ht
      refine wp_seq (respawn_machine h cmd info) fun _ u hu => ?_
      obtain rfl := hu
      refine wp_mono (ih horderly ?_) fun _ v hv => hv
      dsimp only
      omega

/-- The first process with `vcomd` in its command that holds the file. -/
def holder (s : Procs) (ttyid : ℕ) : Option Proc :=
  s.running.find? fun p => decide ("vcomd".toList <:+: p.cmdline) && p.file == fileOf ttyid

/-- **The calls of `advps`** show them. -/
theorem advps_machine (ports : List ℕ) (h : Orderly m.procs)
    (hlimit : fs.other.length + m.procs.running.length < limit) :
    wp (machine fs) (advps limit ports none)
      (fun _ t => t = { m with
        shown := m.shown ++ ports.filterMap fun i => (holder m.procs i).map fun p => (i, p.pid) }) m := by
  induction ports generalizing m with
  | nil =>
      show m = { m with shown := m.shown ++ [] }
      rw [List.append_nil]
  | cons i ports ih =>
      have hdriver : advproc <+: fileOf i := List.prefix_append ..
      have hsearch := procSearch_machine (m := m) ends_printed
        (judges_findCheck (h.searchable hfew) hdriver "vcomd".toList) h.distinct hlimit
      rw [findSome?_judge] at hsearch
      change wp (machine fs) _ (fun r t => r = ((holder m.procs i).map (·.pid), none) ∧ t = m) m at hsearch
      unfold advps
      refine wp_seq hsearch fun r t ht => ?_
      obtain ⟨rfl, rfl⟩ := ht
      rw [List.filterMap_cons]
      cases hfound : holder t.procs i with
      | none => exact ih h hlimit
      | some p =>
          refine wp_call trivial fun _ u hstep => ?_
          obtain rfl := hstep
          refine wp_mono (ih h hlimit) fun _ v hv => hv.trans ?_
          show Machine.mk _ _ _ (t.shown ++ [(i, p.pid)] ++ _) = _
          rw [List.append_assoc]
          rfl

end Few

/-! ### Answers -/

/-- A line without control characters can be read. -/
theorem cleaned_newline {line : List Char} (h : ∀ ch ∈ line, ¬ ch < ' ') :
    cleaned (line ++ ['\n']) = line := by
  unfold cleaned
  rw [List.getLast?_concat, if_pos rfl, List.dropLast_concat]
  conv_rhs => rw [← List.map_id line]
  exact List.map_congr_left fun ch hch => if_neg (h ch hch)

/-- **There is an answer** to each call that may be made. -/
theorem machine_answers {op : ProcOp} (hmay : (machine fs).may m op) (hdirs : ∃ dir, m.dirs dir = none)
    (hfiles : ∃ fp, m.files fp = none)
    (hlines : ∀ p ∈ m.procs.running, ∀ ch ∈ p.cmdline, ¬ ch < ' ') :
    ∃ r t, (machine fs).step m op r t := by
  cases op with
  | opendir path =>
      cases hentries : entries fs m path with
      | none => exact ⟨none, m, hentries, rfl⟩
      | some names =>
          obtain ⟨dir, hdir⟩ := hdirs
          exact ⟨some dir, _, names, hentries, hdir, rfl⟩
  | readdir dir =>
      obtain ⟨names, hnames⟩ := Option.isSome_iff_exists.mp hmay
      exact ⟨_, _, names, hnames, rfl, rfl⟩
  | stat path => exact ⟨_, m, rfl, rfl⟩
  | lstat path => exact ⟨_, m, rfl, rfl⟩
  | readlink path => exact ⟨_, m, rfl, rfl⟩
  | fopen path =>
      obtain ⟨fp, hfp⟩ := hfiles
      by_cases hpath : ∃ pid p, path = .cmdline pid ∧ m.find pid = some p
      · obtain ⟨pid, p, hpath, hp⟩ := hpath
        exact ⟨some fp, _, pid, p, hpath, hp, hfp, rfl⟩
      · refine ⟨none, m, fun pid heq => ?_, rfl⟩
        by_contra hne
        obtain ⟨p, hp⟩ := Option.ne_none_iff_exists'.mp hne
        exact hpath ⟨pid, p, heq, hp⟩
  | fread fp =>
      obtain ⟨pid, hpid⟩ := Option.isSome_iff_exists.mp hmay
      cases hp : m.find pid with
      | none =>
          refine ⟨[], m, fun pid' p hpid' hp' => ?_, rfl⟩
          obtain rfl := Option.some.inj (hpid.symm.trans hpid')
          exact nomatch hp.symm.trans hp'
      | some p =>
          refine ⟨p.cmdline ++ ['\n'], m, fun pid' p' hpid' hp' => ?_, rfl⟩
          obtain rfl := Option.some.inj (hpid.symm.trans hpid')
          obtain rfl := Option.some.inj (hp.symm.trans hp')
          exact cleaned_newline (hlines p (mem_of_find hp).1)
  | unset => exact ⟨[], m, rfl⟩
  | goOn => exact absurd hmay id
  | _ => exact ⟨(), _, rfl⟩

end Machine

end ModbusRTU.ProcTable
