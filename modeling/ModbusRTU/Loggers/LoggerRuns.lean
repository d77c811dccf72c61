import ModbusRTU.Loggers.PollingLoggers

/-!
# Runs of the loggers, whatever the libraries do

What the libraries do in one pass is an `Outcomes`: a return value for each call, the registers of
the instrument and an error text.  `library` answers the calls of a pass accordingly and names each
new context and each `MYSQL` handle by the next number of a counter.  A run of `n` passes takes a
list of `n` outcomes, one pass independent of the other, and `runTrace` is the calls it makes.

Each part of a pass has one lemma that gives its calls under any outcomes (`run_insertRow`, and the
four exits of `pollRegisters`); nothing after this file unfolds the programs.
-/

namespace ModbusRTU.LoggerRuns

open CallProgram LibraryCalls PollingLoggers

/-- What the library calls of one pass return, the holding registers of the instrument by address,
and the text of `modbus_strerror(errno)`. -/
structure Outcomes where
  /-- whether `modbus_new_rtu` returns a context -/
  modbusNewRtu : Bool
  modbusConnect : ℤ
  modbusReadRegisters : ℤ
  registers : ℕ → UInt16
  modbusStrerror : String
  /-- whether `mysql_real_connect` returns its handle -/
  mysqlRealConnect : Bool
  mysqlQuery : ℤ

/-- The libraries in a pass with outcomes `o`; the state is the next unused name. -/
def library (o : Outcomes) : Env Op Ans ℕ
  | .modbusNewRtu .., n => if o.modbusNewRtu then (some ⟨n⟩, n + 1) else (none, n)
  | .modbusConnect _, n => (o.modbusConnect, n)
  | .modbusReadRegisters _ addr _, n =>
      (⟨o.modbusReadRegisters, fun i => o.registers (addr + i)⟩, n)
  | .modbusStrerror, n => (o.modbusStrerror, n)
  | .mysqlInit, n => (⟨n⟩, n + 1)
  | .mysqlRealConnect .., n => (o.mysqlRealConnect, n)
  | .mysqlQuery .., n => (o.mysqlQuery, n)
  | .modbusSetSlave .., n => ((), n)
  | .modbusSetByteTimeout .., n => ((), n)
  | .modbusClose _, n => ((), n)
  | .modbusFree _, n => ((), n)
  | .mysqlClose _, n => ((), n)
  | .cout _, n => ((), n)
  | .sleep _, n => ((), n)

/-- The calls of a run that makes one pass for each element of `outs`. -/
def runTrace (l : Logger) (outs : List Outcomes) : List Call :=
  (Prog.loop library l.pass outs 0).trace

/-! ### One call -/

section Calls

variable (o : Outcomes) (n : ℕ)

theorem run_modbusNewRtu_null (h : o.modbusNewRtu = false) (device : String) (baud : ℕ)
    (parity : Char) (dataBit stopBit : ℕ) :
    (modbusNewRtu device baud parity dataBit stopBit).run (library o) n =
      ⟨none, n, [⟨.modbusNewRtu device baud parity dataBit stopBit, none⟩]⟩ := by
  show Exec.mk (library o _ n).1 (library o _ n).2 [⟨_, (library o _ n).1⟩] = _
  simp [library, h]

theorem run_modbusNewRtu_context (h : o.modbusNewRtu = true) (device : String) (baud : ℕ)
    (parity : Char) (dataBit stopBit : ℕ) :
    (modbusNewRtu device baud parity dataBit stopBit).run (library o) n =
      ⟨some ⟨n⟩, n + 1, [⟨.modbusNewRtu device baud parity dataBit stopBit, some ⟨n⟩⟩]⟩ := by
  show Exec.mk (library o _ n).1 (library o _ n).2 [⟨_, (library o _ n).1⟩] = _
  simp [library, h]

@[simp] theorem run_modbusSetSlave (mb : ModbusT) (slave : ℕ) :
    (modbusSetSlave mb slave).run (library o) n = ⟨(), n, [⟨.modbusSetSlave mb slave, ()⟩]⟩ := rfl

@[simp] theorem run_modbusConnect (mb : ModbusT) :
    (modbusConnect mb).run (library o) n =
      ⟨o.modbusConnect, n, [⟨.modbusConnect mb, o.modbusConnect⟩]⟩ := rfl

@[simp] theorem run_modbusSetByteTimeout (mb : ModbusT) (timeout : Timeval) :
    (modbusSetByteTimeout mb timeout).run (library o) n =
      ⟨(), n, [⟨.modbusSetByteTimeout mb timeout, ()⟩]⟩ := rfl

@[simp] theorem run_modbusReadRegisters (mb : ModbusT) (addr nb : ℕ) :
    (modbusReadRegisters mb addr nb).run (library o) n =
      ⟨⟨o.modbusReadRegisters, fun i => o.registers (addr + i)⟩, n,
        [⟨.modbusReadRegisters mb addr nb,
          ⟨o.modbusReadRegisters, fun i => o.registers (addr + i)⟩⟩]⟩ := rfl

@[simp] theorem run_modbusClose (mb : ModbusT) :
    (modbusClose mb).run (library o) n = ⟨(), n, [⟨.modbusClose mb, ()⟩]⟩ := rfl

@[simp] theorem run_modbusFree (mb : ModbusT) :
    (modbusFree mb).run (library o) n = ⟨(), n, [⟨.modbusFree mb, ()⟩]⟩ := rfl

@[simp] theorem run_modbusStrerror :
    modbusStrerror.run (library o) n =
      ⟨o.modbusStrerror, n, [⟨.modbusStrerror, o.modbusStrerror⟩]⟩ := rfl

@[simp] theorem run_mysqlInit :
    mysqlInit.run (library o) n = ⟨⟨n⟩, n + 1, [⟨.mysqlInit, (⟨n⟩ : Mysql)⟩]⟩ := rfl

@[simp] theorem run_mysqlRealConnect (conn : Mysql) (host user passwd db : String) (port : ℕ)
    (unixSocket : Option String) (clientFlag : ClientFlag) :
    (mysqlRealConnect conn host user passwd db port unixSocket clientFlag).run (library o) n =
      ⟨o.mysqlRealConnect, n,
        [⟨.mysqlRealConnect conn host user passwd db port unixSocket clientFlag,
          o.mysqlRealConnect⟩]⟩ := rfl

@[simp] theorem run_mysqlQuery (conn : Mysql) (stmt : String) :
    (mysqlQuery conn stmt).run (library o) n =
      ⟨o.mysqlQuery, n, [⟨.mysqlQuery conn stmt, o.mysqlQuery⟩]⟩ := rfl

@[simp] theorem run_mysqlClose (conn : Mysql) :
    (mysqlClose conn).run (library o) n = ⟨(), n, [⟨.mysqlClose conn, ()⟩]⟩ := rfl

@[simp] theorem run_cout (line : String) :
    (cout line).run (library o) n = ⟨(), n, [⟨.cout line, ()⟩]⟩ := rfl

@[simp] theorem run_sleep (seconds : ℕ) :
    (sleep seconds).run (library o) n = ⟨(), n, [⟨.sleep seconds, ()⟩]⟩ := rfl

end Calls

/-! ### The calls of each part -/

/-- The calls of the MySQL block; its handle is named `n`. -/
def rowCalls (savedata : String) (o : Outcomes) (n : ℕ) : List Call :=
  ⟨.mysqlInit, (⟨n⟩ : Mysql)⟩ ::
  ⟨.mysqlRealConnect ⟨n⟩ "localhost" "data" "123456" "monitor" 0 none .foundRows,
    o.mysqlRealConnect⟩ ::
  if o.mysqlRealConnect then
    ⟨.mysqlQuery ⟨n⟩ savedata, o.mysqlQuery⟩ ::
    if o.mysqlQuery = 0 then [⟨.mysqlClose ⟨n⟩, ()⟩]
    else [⟨.cout "insert data error...", ()⟩, ⟨.mysqlClose ⟨n⟩, ()⟩]
  else [⟨.cout "connect mysql error...", ()⟩]

theorem run_insertRow (savedata : String) (o : Outcomes) (n : ℕ) :
    (insertRow savedata).run (library o) n = ⟨(), n + 1, rowCalls savedata o n⟩ := by
  cases hc : o.mysqlRealConnect with
  | false => simp [insertRow, rowCalls, hc]
  | true =>
      by_cases hq : o.mysqlQuery = 0
      · simp [insertRow, rowCalls, hc, hq]
      · simp [insertRow, rowCalls, hc, hq]

theorem run_insertThenRelease (sleepTime : ℕ) (savedata : TabReg → String) (mb : ModbusT)
    (tabReg : TabReg) (o : Outcomes) (n : ℕ) :
    (insertThenRelease sleepTime savedata mb tabReg).run (library o) n =
      ⟨(), n + 1, rowCalls (savedata tabReg) o n ++
        [⟨.modbusClose mb, ()⟩, ⟨.modbusFree mb, ()⟩, ⟨.sleep sleepTime, ()⟩]⟩ := by
  simp [insertThenRelease, run_insertRow]

theorem run_releaseThenInsert (sleepTime : ℕ) (savedata : TabReg → String) (mb : ModbusT)
    (tabReg : TabReg) (o : Outcomes) (n : ℕ) :
    (releaseThenInsert sleepTime savedata mb tabReg).run (library o) n =
      ⟨(), n + 1, [⟨.modbusClose mb, ()⟩, ⟨.modbusFree mb, ()⟩] ++
        rowCalls (savedata tabReg) o n ++ [⟨.sleep sleepTime, ()⟩]⟩ := by
  simp [releaseThenInsert, run_insertRow]

section Exits

variable (sleepTime : ℕ) (device : String) (addr nb : ℕ) (onRead : ModbusT → TabReg → Poll Unit)
  (o : Outcomes) (n : ℕ)

/-- The calls of a pass that gets no context, up to its `sleep`. -/
def noContextCalls : List Call :=
  [⟨.modbusNewRtu device 9600 'N' 8 1, none⟩,
    ⟨.cout "Unable to create the libmodbus context", ()⟩]

/-- The calls up to `modbus_connect`; the context is named `n`. -/
def connectCalls : List Call :=
  [⟨.modbusNewRtu device 9600 'N' 8 1, some ⟨n⟩⟩, ⟨.modbusSetSlave ⟨n⟩ 0x1, ()⟩,
    ⟨.modbusConnect ⟨n⟩, o.modbusConnect⟩]

/-- The calls between a failed `modbus_connect` and the `sleep`. -/
def connectFailedCalls : List Call :=
  [⟨.modbusStrerror, o.modbusStrerror⟩, ⟨.cout ("Connect failed: " ++ o.modbusStrerror), ()⟩,
    ⟨.modbusFree ⟨n⟩, ()⟩]

/-- The calls from a successful `modbus_connect` to the read. -/
def readCalls : List Call :=
  [⟨.modbusSetByteTimeout ⟨n⟩ ⟨0, 1000000⟩, ()⟩,
    ⟨.modbusReadRegisters ⟨n⟩ addr nb, ⟨o.modbusReadRegisters, fun i => o.registers (addr + i)⟩⟩]

/-- The calls between a failed `modbus_read_registers` and the `sleep`. -/
def readFailedCalls : List Call :=
  [⟨.modbusStrerror, o.modbusStrerror⟩, ⟨.cout o.modbusStrerror, ()⟩, ⟨.modbusFree ⟨n⟩, ()⟩]

/-- `tab_reg` after a read of `nb` registers from `addr`. -/
def tabRegOf : TabReg :=
  TabReg.store (fun _ => 0) fun i : Fin nb => o.registers (addr + i)

theorem run_noContext (hnew : o.modbusNewRtu = false) :
    (pollRegisters sleepTime device addr nb onRead).run (library o) n =
      ⟨(), n, noContextCalls device ++ [⟨.sleep sleepTime, ()⟩]⟩ := by
  simp [pollRegisters, noContextCalls, run_modbusNewRtu_null, hnew]

theorem run_connectFailed (hnew : o.modbusNewRtu = true) (hconn : o.modbusConnect = -1) :
    (pollRegisters sleepTime device addr nb onRead).run (library o) n =
      ⟨(), n + 1, connectCalls device o n ++ connectFailedCalls o n ++
        [⟨.sleep sleepTime, ()⟩]⟩ := by
  simp [pollRegisters, connectCalls, connectFailedCalls, run_modbusNewRtu_context, hnew, hconn]

theorem run_readFailed (hnew : o.modbusNewRtu = true) (hconn : o.modbusConnect ≠ -1)
    (hread : o.modbusReadRegisters = -1) :
    (pollRegisters sleepTime device addr nb onRead).run (library o) n =
      ⟨(), n + 1, connectCalls device o n ++ readCalls addr nb o n ++ readFailedCalls o n ++
        [⟨.sleep sleepTime, ()⟩]⟩ := by
  simp [pollRegisters, connectCalls, readCalls, readFailedCalls, run_modbusNewRtu_context, hnew,
    hconn, hread]

theorem run_read (hnew : o.modbusNewRtu = true) (hconn : o.modbusConnect ≠ -1)
    (hread : o.modbusReadRegisters ≠ -1) :
    (pollRegisters sleepTime device addr nb onRead).run (library o) n =
      let rest := (onRead ⟨n⟩ (tabRegOf addr nb o)).run (library o) (n + 1)
      ⟨rest.value, rest.state, connectCalls device o n ++ readCalls addr nb o n ++ rest.trace⟩ := by
  simp [pollRegisters, connectCalls, readCalls, tabRegOf, run_modbusNewRtu_context, hnew, hconn,
    hread]

end Exits

end ModbusRTU.LoggerRuns
