import ModbusRTU.Interaction.CallProgram

/-!
# The calls the loggers make

`cool.cc`, `temp.cc` and `press1.cc` talk to the outside through libmodbus, the MySQL client,
`std::cout` and `sleep`.  Each call is a constructor of `Op` with its arguments, and `Ans` is what
the program gets back.  An `int` the loggers compare with a constant is an integer here; one that
no logger looks at is `Unit`.

`modbus_strerror(errno)` is one call with a text for an answer.  `MYSQL conn; mysql_init(&conn);`
is one call that answers with the handle `conn`.
-/

namespace ModbusRTU.LibraryCalls

open CallProgram

/-- A `modbus_t *` other than `NULL`.  Contexts are told apart by the call that returned them, so an
address handed out again after `modbus_free` is another context. -/
structure ModbusT where
  id : ℕ
  deriving DecidableEq, Repr

/-- The local `MYSQL conn` of one pass through its block. -/
structure Mysql where
  id : ℕ
  deriving DecidableEq, Repr

structure Timeval where
  tvSec : ℕ
  tvUsec : ℕ
  deriving DecidableEq, Repr

inductive ClientFlag where
  | foundRows
  deriving DecidableEq, Repr

inductive Op where
  | modbusNewRtu (device : String) (baud : ℕ) (parity : Char) (dataBit stopBit : ℕ)
  | modbusSetSlave (mb : ModbusT) (slave : ℕ)
  | modbusConnect (mb : ModbusT)
  | modbusSetByteTimeout (mb : ModbusT) (timeout : Timeval)
  | modbusReadRegisters (mb : ModbusT) (addr nb : ℕ)
  | modbusClose (mb : ModbusT)
  | modbusFree (mb : ModbusT)
  | modbusStrerror
  | mysqlInit
  | mysqlRealConnect (conn : Mysql) (host user passwd db : String) (port : ℕ)
      (unixSocket : Option String) (clientFlag : ClientFlag)
  | mysqlQuery (conn : Mysql) (stmt : String)
  | mysqlClose (conn : Mysql)
  | cout (line : String)
  | sleep (seconds : ℕ)
  deriving DecidableEq, Repr

/-- What `modbus_read_registers` gives back: its return value, and the words it stores in `dest`. -/
structure ReadAnswer (nb : ℕ) where
  rc : ℤ
  dest : Fin nb → UInt16

@[reducible] def Ans : Op → Type
  | .modbusNewRtu .. => Option ModbusT
  | .modbusConnect _ => ℤ
  | .modbusReadRegisters _ _ nb => ReadAnswer nb
  | .modbusStrerror => String
  | .mysqlInit => Mysql
  | .mysqlRealConnect .. => Bool
  | .mysqlQuery .. => ℤ
  | .modbusSetSlave .. | .modbusSetByteTimeout .. | .modbusClose _ | .modbusFree _
  | .mysqlClose _ | .cout _ | .sleep _ => Unit

abbrev Call := Event Op Ans

/-- A program of the loggers. -/
abbrev Poll := Prog Op Ans

def ask (op : Op) : Poll (Ans op) := Prog.perform op

def modbusNewRtu (device : String) (baud : ℕ) (parity : Char) (dataBit stopBit : ℕ) :
    Poll (Option ModbusT) := ask (.modbusNewRtu device baud parity dataBit stopBit)

def modbusSetSlave (mb : ModbusT) (slave : ℕ) : Poll Unit :=
  ask (.modbusSetSlave mb slave)

def modbusConnect (mb : ModbusT) : Poll ℤ := ask (.modbusConnect mb)

def modbusSetByteTimeout (mb : ModbusT) (timeout : Timeval) : Poll Unit :=
  ask (.modbusSetByteTimeout mb timeout)

def modbusReadRegisters (mb : ModbusT) (addr nb : ℕ) : Poll (ReadAnswer nb) :=
  ask (.modbusReadRegisters mb addr nb)

def modbusClose (mb : ModbusT) : Poll Unit := ask (.modbusClose mb)

def modbusFree (mb : ModbusT) : Poll Unit := ask (.modbusFree mb)

def modbusStrerror : Poll String := ask .modbusStrerror

def mysqlInit : Poll Mysql := ask .mysqlInit

def mysqlRealConnect (conn : Mysql) (host user passwd db : String) (port : ℕ)
    (unixSocket : Option String) (clientFlag : ClientFlag) : Poll Bool :=
  ask (.mysqlRealConnect conn host user passwd db port unixSocket clientFlag)

def mysqlQuery (conn : Mysql) (stmt : String) : Poll ℤ := ask (.mysqlQuery conn stmt)

def mysqlClose (conn : Mysql) : Poll Unit := ask (.mysqlClose conn)

def cout (line : String) : Poll Unit := ask (.cout line)

def sleep (seconds : ℕ) : Poll Unit := ask (.sleep seconds)

end ModbusRTU.LibraryCalls
