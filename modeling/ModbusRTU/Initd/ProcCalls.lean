import ModbusRTU.Initd.SpawnTtyp
import ModbusRTU.Interaction.CallProgram

/-!
# Looking for a process

`advttyd` looks through `/proc` for the daemon of a port, and `advps` for whatever daemon holds a port's
file.  Both go through the numbers in `/proc`, read the command line of each process, and then go through
its descriptors.  The two searches of descriptors are the same, but for what they say of a failure: `advttyd`
tells it to `syslog`, `advps` prints it (`Say`).

Each search keeps its directory stream in a `static` variable.  Those of the processes are 0 between two
calls.  That of the descriptors is not set to 0 where `readlink` fails.

A loop goes on as long as there are entries.  `limit` is the number of times it may do so; a run that
comes to `goOn` goes on longer.  The buffer of the command line keeps what it had if nothing was read; what
it holds if nothing was ever read is asked for (`unset`).
-/

namespace ModbusRTU.ProcCalls

open CallProgram Numerals TtyConfig PortCommands SpawnTtyp

/-- `"/proc"`, and with the numbers `"/proc/%d"`, `"/proc/%d/cmdline"`, `"/proc/%d/fd"` and
`"/proc/%d/fd/%d"`. -/
inductive Path where
  | proc
  | pid (pid : ℕ)
  | cmdline (pid : ℕ)
  | fds (pid : ℕ)
  | fd (pid n : ℕ)
  deriving DecidableEq, Repr

/-- `kill` and `system` are both `system`; `row` is the `printf` of a port in `advps`, and `printf` any
other. -/
inductive ProcOp where
  | opendir (path : Path)
  | readdir (dir : ℕ)
  | closedir (dir : ℕ)
  | stat (path : Path)
  | lstat (path : Path)
  | readlink (path : Path)
  | fopen (path : Path)
  | fread (fp : ℕ)
  | fclose (fp : ℕ)
  | unset
  | kill (pid : ℕ)
  | system (syscmd : List Char)
  | row (ttyid pid : ℕ)
  | printf (text : List Char)
  | syslog (text : List Char)
  | goOn
  deriving DecidableEq, Repr

/-- A failure is `none` or `false`, and so is the end of a directory.  A link is never empty. -/
@[reducible] def ProcAns : ProcOp → Type
  | .opendir _ | .fopen _ => Option ℕ
  | .readdir _ | .readlink _ => Option (List Char)
  | .stat _ | .lstat _ => Bool
  | .fread _ | .unset => List Char
  | .closedir _ | .fclose _ | .kill _ | .system _ | .row .. | .printf _ | .syslog _ => Unit
  | .goOn => Empty

abbrev Scan := Prog ProcOp ProcAns

def askProc (op : ProcOp) : Scan (ProcAns op) := Prog.perform op

def goOn {α : Type} : Scan α := do
  let r ← askProc .goOn
  nomatch r

/-- `*name >= '0' && *name <= '9'`. -/
def isNumber : List Char → Bool
  | [] => false
  | ch :: _ => ch.isDigit

/-! ### What is said of a failure -/

inductive Failure where
  | opendirProc | readdirProc | fopen
  | opendirFds (pid : ℕ)
  | stat | lstat | readlink

abbrev Say := Failure → Scan Unit

/-- `advttyd`.  Two of its texts have the function and the line. -/
def logged : Say
  | .opendirProc => askProc (.syslog "Can't open /proc".toList)
  | .readdirProc => askProc (.syslog "__cmd_search_file(164)readdir failed".toList)
  | .fopen => askProc (.syslog "__cmd_search_file(182)fopen failed".toList)
  | .opendirFds pid =>
      askProc (.syslog ("Can't open /proc/fd: /proc/".toList ++ Nat.toDigits 10 pid ++ "/fd".toList))
  | .stat => askProc (.syslog "stat failed".toList)
  | .lstat => askProc (.syslog "lstat failed".toList)
  | .readlink => askProc (.syslog "readlink failed".toList)

/-- `advps`, which says nothing of the end of `/proc` and of a command line that cannot be opened. -/
def printed : Say
  | .opendirProc => askProc (.printf "Can't open /proc".toList)
  | .readdirProc => pure ()
  | .fopen => pure ()
  | .opendirFds pid =>
      askProc (.printf ("Can't open /proc/fd: /proc/".toList ++ Nat.toDigits 10 pid ++ "/fd\n".toList))
  | .stat => askProc (.printf "get stat\n".toList)
  | .lstat => askProc (.printf "lstat failed\n".toList)
  | .readlink => askProc (.printf "n = -1\n".toList)

/-! ### The descriptors of a process -/

/-- The loop of `__pid_search_fd`.  The second value is what `dir` holds afterwards. -/
def fdLoop (say : Say) (pid : ℕ) (file : List Char) (dir : ℕ) : ℕ → Scan (Option ℕ × Option ℕ)
  | 0 => goOn
  | limit + 1 => do
      match ← askProc (.readdir dir) with
      | none => do
          askProc (.closedir dir)
          pure (none, none)
      | some name =>
          if isNumber name then do
            let found ← askProc (.stat (.fd pid (decimal name)))
            if found then do
              let found ← askProc (.lstat (.fd pid (decimal name)))
              if found then
                match ← askProc (.readlink (.fd pid (decimal name))) with
                | none => do
                    -- `dir` keeps the stream
                    say .readlink
                    askProc (.closedir dir)
                    pure (none, some dir)
                | some link =>
                    if link = file then do
                      askProc (.closedir dir)
                      pure (some pid, none)
                    else fdLoop say pid file dir limit
              else do
                say .lstat
                fdLoop say pid file dir limit
            else do
              say .stat
              fdLoop say pid file dir limit
          else fdLoop say pid file dir limit

/-- The search, with its `static` variable. -/
def searchFd (say : Say) (limit pid : ℕ) (file : List Char) (dir : Option ℕ) :
    Scan (Option ℕ × Option ℕ) :=
  match dir with
  | some dir => fdLoop say pid file dir limit
  | none => do
      match ← askProc (.opendir (.fds pid)) with
      | none => do
          say (.opendirFds pid)
          pure (none, none)
      | some dir => fdLoop say pid file dir limit

/-- `__pid_search_fd` of `advttyd`. -/
def pidSearchFd (limit pid : ℕ) (file : List Char) (dir : Option ℕ) : Scan (Option ℕ × Option ℕ) :=
  searchFd logged limit pid file dir

/-- `_pid_findfd` of `advps`. -/
def pidFindfd (limit pid : ℕ) (file : List Char) (dir : Option ℕ) : Scan (Option ℕ × Option ℕ) :=
  searchFd printed limit pid file dir

/-! ### The command line of a process -/

/-- What the buffer holds of the characters that were read. -/
def cleaned (data : List Char) : List Char :=
  (if data.getLast? = some '\n' then data.dropLast else data).map fun ch => if ch < ' ' then ' ' else ch

/-- The command line in the buffer.  If it cannot be opened, the process is passed over. -/
def readCmdline (say : Say) (pid : ℕ) (buf : Option (List Char)) :
    Scan (Option (Option (List Char))) := do
  match ← askProc (.fopen (.cmdline pid)) with
  | none => do
      say .fopen
      pure none
  | some fp => do
      let data ← askProc (.fread fp)
      askProc (.fclose fp)
      pure (some (if data = [] then buf else some (cleaned data)))

def contents : Option (List Char) → Scan (List Char)
  | some buf => pure buf
  | none => askProc .unset

/-! ### The processes -/

/-- What is known when a process was looked at: the result, if it is the one, the buffer of the command line,
and the `static` variable of the search of descriptors. -/
structure Checked (α : Type) where
  result : Option α
  buf : Option (List Char)
  fdDir : Option ℕ

/-- The loop over `/proc`, with what is done for a process. -/
def procLoop {α : Type} (say : Say) (check : ℕ → Option (List Char) → Option ℕ → Scan (Checked α))
    (dir : ℕ) : ℕ → Option (List Char) → Option ℕ → Scan (Option α × Option ℕ)
  | 0, _, _ => goOn
  | limit + 1, buf, fdDir => do
      match ← askProc (.readdir dir) with
      | none => do
          say .readdirProc
          askProc (.closedir dir)
          pure (none, fdDir)
      | some name =>
          if isNumber name then do
            let r ← check (decimal name) buf fdDir
            match r.result with
            | some a => do
                askProc (.closedir dir)
                pure (some a, r.fdDir)
            | none => procLoop say check dir limit r.buf r.fdDir
          else procLoop say check dir limit buf fdDir

def procSearch {α : Type} (say : Say) (check : ℕ → Option (List Char) → Option ℕ → Scan (Checked α))
    (limit : ℕ) (fdDir : Option ℕ) : Scan (Option α × Option ℕ) := do
  match ← askProc (.opendir .proc) with
  | none => do
      say .opendirProc
      pure (none, fdDir)
  | some dir => procLoop say check dir limit none fdDir

/-- What `__cmd_search_file` does for a process. -/
def cmdCheck (limit : ℕ) (cmd file : List Char) (pid : ℕ) (buf : Option (List Char)) (fdDir : Option ℕ) :
    Scan (Checked (ℕ × List Char)) := do
  let found ← askProc (.stat (.pid pid))
  if found then
    match ← readCmdline logged pid buf with
    | none => pure ⟨none, buf, fdDir⟩
    | some buf => do
        let line ← contents buf
        if cmd.isPrefixOf line then do
          let r ← pidSearchFd limit pid file fdDir
          pure ⟨if r.1.any (0 < ·) then some (pid, line) else none, buf, r.2⟩
        else pure ⟨none, buf, fdDir⟩
  else pure ⟨none, buf, fdDir⟩

/-- `__cmd_search_file`: the process and its command line. -/
def cmdSearchFile (limit : ℕ) (cmd file : List Char) (fdDir : Option ℕ) :
    Scan (Option (ℕ × List Char) × Option ℕ) :=
  procSearch logged (cmdCheck limit cmd file) limit fdDir

/-- What `proc_findfd` of `advps` does for a process. -/
def findCheck (limit : ℕ) (cmd file : List Char) (pid : ℕ) (buf : Option (List Char)) (fdDir : Option ℕ) :
    Scan (Checked ℕ) := do
  match ← readCmdline printed pid buf with
  | none => pure ⟨none, buf, fdDir⟩
  | some buf => do
      let line ← contents buf
      if cmd <:+: line then do
        let found ← askProc (.stat (.pid pid))
        if found then do
          let found ← askProc (.stat (.fds pid))
          if found then do
            let r ← pidFindfd limit pid file fdDir
            pure ⟨if r.1.any (0 < ·) then some pid else none, buf, r.2⟩
          else pure ⟨none, buf, fdDir⟩
        else pure ⟨none, buf, fdDir⟩
      else pure ⟨none, buf, fdDir⟩

/-- `proc_findfd`. -/
def procFindfd (limit : ℕ) (cmd file : List Char) (fdDir : Option ℕ) : Scan (Option ℕ × Option ℕ) :=
  procSearch printed (findCheck limit cmd file) limit fdDir

/-! ### The programs -/

/-- What `spawn_ttyp` does for a port, after it looked for a daemon. -/
def respawn (cmd : List Char) (info : TtyInfo) : Option (ℕ × List Char) → Scan Unit
  | none => askProc (.system (syscmd cmd info))
  | some (oldpid, oldcmd) =>
      if 0 < oldpid then
        if syscmd cmd info = oldcmd then pure ()
        else do
          askProc (.kill oldpid)
          askProc (.system (syscmd cmd info))
      else askProc (.system (syscmd cmd info))

/-- `spawn_ttyp`. -/
def spawnTtyp (limit : ℕ) (cmd : List Char) : List TtyInfo → Option ℕ → Scan Unit
  | [], _ => pure ()
  | info :: infos, fdDir => do
      let r ← cmdSearchFile limit cmd (vcomif info) fdDir
      respawn cmd info r.1
      spawnTtyp limit cmd infos r.2

/-- The loop of `main` of `advps`, over the ports. -/
def advps (limit : ℕ) : List ℕ → Option ℕ → Scan Unit
  | [], _ => pure ()
  | i :: ports, fdDir => do
      let r ← procFindfd limit "vcomd".toList (fileOf i) fdDir
      match r.1 with
      | some pid => do
          askProc (.row i pid)
          advps limit ports r.2
      | none => advps limit ports r.2

end ModbusRTU.ProcCalls
