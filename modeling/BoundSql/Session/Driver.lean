import BoundSql.Session.Basic
/-!
What drivers do: opening and closing, running a statement on any connection, and setting one aside.
Opening happens by itself when it is needed.
-/

namespace BoundSql

namespace Action

def freshConnection : Action Nat :=
  modifyGet fun s => (s.connections + 1, { s with connections := s.connections + 1 })

def setDriver (d : Driver) : Action Unit :=
  modify fun s => { s with driver := d }

/-- A pool is opened at an address, which therefore has to be known. -/
def openPool (dsn : Option String) (minSize maxSize : Nat) : Action Unit := do
  match dsn with
  | none => throw (.configuration .addressMissing)
  | some address =>
    if address.isEmpty then throw (.configuration .addressMissing)
    else
      demand (.createPool address minSize maxSize)
      setDriver (.pooled dsn minSize maxSize true)
      note (.poolConnected maxSize)

def openFile (path : String) : Action Unit := do
  demand (.openFile path)
  setDriver (.file path true false)
  note (.fileConnected path)

def connect : Action Unit := do
  match (← get).driver with
  | .direct => demand .connect
  | .pooled dsn minSize maxSize isOpen => if isOpen then return else openPool dsn minSize maxSize
  | .file path isOpen _ => if isOpen then return else openFile path

def close : Action Unit := do
  match (← get).driver with
  | .direct => demand .disconnect
  | .pooled dsn minSize maxSize isOpen =>
    if isOpen then
      demand .closePool
      setDriver (.pooled dsn minSize maxSize false)
      note (.closed .postgres)
  | .file path isOpen isLocked =>
    if isOpen then
      if isLocked then throw .interrupted
      demand .closeFile
      setDriver (.file path false false)
      note (.closed .sqlite)

/-- Opens the driver for a statement. A driver from elsewhere sees to that itself. -/
def ensureOpen : Action Unit := do
  match (← get).driver with
  | .direct => return
  | .pooled .. | .file .. => connect

def executeAt (endpoint : Endpoint) (sql : Text) (params : List Value) : Action (List Record) := do
  return ((← request (.execute endpoint sql params)).getD [])

def executeFile (sql : Text) (params : List Value) : Action (List Record) := do
  let answer ← request (.execute .file sql params)
  match answer with
  | none =>
    demand .closeCursor
    return []
  | some rows => cleanedUp (do demand .fetchRows; return rows) (demand .closeCursor)

def isLocked : Action Bool := do
  match (← get).driver with
  | .file _ _ isLocked => return isLocked
  | .direct | .pooled .. => return false

/-- A locked file is waited for in vain, as its lock is not given back meanwhile. -/
def awaitLock : Action Unit := do
  if ← isLocked then throw .interrupted

def setLocked (isLocked : Bool) : Action Unit :=
  modify fun s =>
    match s.driver with
    | .file path isOpen _ => { s with driver := .file path isOpen isLocked }
    | .direct | .pooled .. => s

def executeAnywhere (sql : Text) (params : List Value) : Action (List Record) := do
  ensureOpen
  match (← get).driver with
  | .direct => executeAt .driver sql params
  | .pooled .. =>
    let n ← freshConnection
    demand (.acquire n)
    cleanedUp (executeAt (.connection n) sql params) (demand (.release n))
  | .file .. =>
    awaitLock
    executeFile sql params

def reserve : Action Lease := do
  ensureOpen
  match (← get).driver with
  | .direct =>
    let n ← freshConnection
    demand (.reserve n)
    return .connection n
  | .pooled .. =>
    let n ← freshConnection
    demand (.acquire n)
    return .connection n
  | .file .. =>
    awaitLock
    setLocked true
    return .file

def executeOn (lease : Lease) (sql : Text) (params : List Value) : Action (List Record) :=
  match lease with
  | .connection n => executeAt (.connection n) sql params
  | .file => executeFile sql params

def release : Lease → Action Unit
  | .connection n => demand (.release n)
  | .file => setLocked false

end Action

end BoundSql
