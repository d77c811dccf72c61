import ModbusRTU.Loggers.LibraryCalls
import ModbusRTU.Text.Numerals

/-!
# The polling loggers `cool`, `temp` and `press1`

Each `main` checks its arguments and then repeats one pass for ever: open the serial line, read a
few registers of the instrument, insert them as a row, close everything, sleep.  The passes are
programs over `LibraryCalls.Op`; a `continue` ends the pass, so what follows it in the source stands
in the other branch here.

The passes of the three loggers agree up to the registers (`pollRegisters`) and in the MySQL block
(`insertRow`).  They differ in what they read, in the statement they execute and, for `press1`, in
the order: it lets go of the serial line before it talks to the database, the others after it.
-/

namespace ModbusRTU.PollingLoggers

open CallProgram LibraryCalls Numerals

/-! ### Registers and statements -/

/-- `uint16_t tab_reg[64]`. -/
abbrev TabReg := Fin 64 → UInt16

/-- `tab_reg` after a read has stored its `nb` words at the front. -/
def TabReg.store {nb : ℕ} (tabReg : TabReg) (dest : Fin nb → UInt16) : TabReg :=
  fun i => if h : i.val < nb then dest ⟨i.val, h⟩ else tabReg i

/-- `%u` of a `uint16_t`. -/
def fmtWord (w : UInt16) : String := toString w.toNat

/-- `%u` of an `int`: its 32 bits are read as unsigned. -/
def fmtInt (n : ℤ) : String := toString (n % 2 ^ 32).toNat

def coolSavedata (tabReg : TabReg) : String :=
  "insert into cool values(now()," ++ fmtWord (tabReg 0) ++ "," ++ fmtWord (tabReg 4) ++ ")"

def tempSavedata (mod : ℤ) (tabReg : TabReg) : String :=
  "insert into temp values(now()," ++ fmtInt mod ++ "," ++ fmtWord (tabReg 0) ++ ","
    ++ fmtWord (tabReg 1) ++ "," ++ fmtWord (tabReg 2) ++ "," ++ fmtWord (tabReg 3) ++ ")"

/-- `(((unsigned int)tab_reg[0])<<16) + tab_reg[1]`. -/
def vaule (tabReg : TabReg) : UInt32 := ((tabReg 0).toUInt32 <<< 16) + (tabReg 1).toUInt32

def press1Savedata (tabReg : TabReg) : String :=
  "insert into press1 values(now()," ++ toString (vaule tabReg).toNat ++ ")"

/-! ### The passes -/

/-- From `MYSQL conn;` to the end of the block. -/
def insertRow (savedata : String) : Poll Unit := do
  let conn ← mysqlInit
  let connected ← mysqlRealConnect conn "localhost" "data" "123456" "monitor" 0 none .foundRows
  if connected then
    let rc ← mysqlQuery conn savedata
    if rc ≠ 0 then
      cout "insert data error..."
    mysqlClose conn
  else
    cout "connect mysql error..."

/-- From the top of the pass to the registers.  `onRead` is the `else` branch of the read and what
comes after it. -/
def pollRegisters (sleepTime : ℕ) (device : String) (addr nb : ℕ)
    (onRead : ModbusT → TabReg → Poll Unit) : Poll Unit := do
  let tabReg : TabReg := fun _ => 0
  match ← modbusNewRtu device 9600 'N' 8 1 with
  | none =>
      cout "Unable to create the libmodbus context"
      sleep sleepTime
  | some mb =>
      modbusSetSlave mb 0x1
      let rc ← modbusConnect mb
      if rc = -1 then
        let err ← modbusStrerror
        cout ("Connect failed: " ++ err)
        modbusFree mb
        sleep sleepTime
      else
        modbusSetByteTimeout mb ⟨0, 1000000⟩
        let got ← modbusReadRegisters mb addr nb
        if got.rc = -1 then
          -- this exit frees the context without `modbus_close`
          let err ← modbusStrerror
          cout err
          modbusFree mb
          sleep sleepTime
        else
          onRead mb (tabReg.store got.dest)

/-- The row first, then the serial line: the order of `cool` and `temp`. -/
def insertThenRelease (sleepTime : ℕ) (savedata : TabReg → String) (mb : ModbusT)
    (tabReg : TabReg) : Poll Unit := do
  insertRow (savedata tabReg)
  modbusClose mb
  modbusFree mb
  sleep sleepTime

/-- The serial line first, then the row: the order of `press1`. -/
def releaseThenInsert (sleepTime : ℕ) (savedata : TabReg → String) (mb : ModbusT)
    (tabReg : TabReg) : Poll Unit := do
  modbusClose mb
  modbusFree mb
  insertRow (savedata tabReg)
  sleep sleepTime

/-- `SLEEPTIME` of `cool.cc`, and below of the other two. -/
def coolSleepTime : ℕ := 5

def tempSleepTime : ℕ := 3

def press1SleepTime : ℕ := 5

def cool (device : String) : Poll Unit :=
  pollRegisters coolSleepTime device 0x0000 0x0005 (insertThenRelease coolSleepTime coolSavedata)

def temp (device : String) (mod : ℤ) : Poll Unit :=
  pollRegisters tempSleepTime device 0x0028 0x0004
    (insertThenRelease tempSleepTime (tempSavedata mod))

def press1 (device : String) : Poll Unit :=
  pollRegisters press1SleepTime device 0x006B 0x0002
    (releaseThenInsert press1SleepTime press1Savedata)

/-! ### The arguments -/

/-- A logger past its argument checks, about to enter `while(true)`. -/
inductive Logger where
  | cool (device : String)
  | temp (device : String) (mod : ℤ)
  | press1 (device : String)
  deriving DecidableEq, Repr

/-- The body of the loop. -/
def Logger.pass : Logger → Poll Unit
  | .cool device => PollingLoggers.cool device
  | .temp device mod => PollingLoggers.temp device mod
  | .press1 device => PollingLoggers.press1 device

/-- What `main` does with its arguments: print some lines and return a code, or start to poll. -/
inductive Main where
  | exits (lines : List String) (code : ℕ)
  | polls (logger : Logger)
  deriving DecidableEq, Repr

/-- What is printed for a wrong number of arguments.  Without any, `argv[0]` is null: the stream goes bad
there and what comes behind it is lost. -/
def usage (operands : String) : List String → List String
  | [] => ["argc != 2 ...", "eg: "]
  | name :: _ => ["argc != 2 ...", "eg: " ++ name ++ operands]

def coolMain (argv : List String) : Main :=
  if argv.length ≠ 2 then .exits (usage "  /dev/ttyUSBX" argv) 1
  else .polls (.cool (argv.getD 1 ""))

def press1Main (argv : List String) : Main :=
  if argv.length ≠ 2 then .exits (usage "  /dev/ttyUSBX" argv) 1
  else .polls (.press1 (argv.getD 1 ""))

/-- `s2i>>mod`, with `mod` as it was before.  A stream that holds nothing but spaces leaves `mod`
alone; else a number is stored, kept within `int`. -/
def readMod (mod : ℤ) (arg : List Char) : ℤ :=
  if arg.dropWhile isSpace = [] then mod else max (-2 ^ 31) (min (2 ^ 31 - 1) (signed arg))

/-- `int mod;` has no initial value, so `mod₀` is any. -/
def tempMain (mod₀ : ℤ) (argv : List String) : Main :=
  if argv.length ≠ 3 then .exits (usage "  /dev/ttyUSBX  [1/2]" argv) 1
  else
    let mod := readMod mod₀ (argv.getD 2 "").toList
    if mod ≠ 1 ∧ mod ≠ 2 then
      .exits ["The parameter mod can only be set to 1 or 2."] 1
    else .polls (.temp (argv.getD 1 "") mod)

end ModbusRTU.PollingLoggers
