import Lorawan.Store.Basic

/-!
# Concurrent access to device rows

Reads and updates of devices as tasks that go forward step by step, in any order.  A task looks up its
row, waits for the row's lock and takes it.  A read then reads the row and frees the lock.  An update
copies the row, lets others go first, writes the changed copy back and frees the lock.

A task can be dropped wherever it lets others go first: before its look-up, while it waits for the lock,
when it was given the lock and has not gone on yet, and between its copy and its write.  Then the lock
that it holds is freed.  From the write on it is not held up any more.
-/

namespace Lorawan.Store

/-- How far a task has come. -/
inductive Stage where
  | start
  /-- The row exists, and the task waits for its lock. -/
  | waiting
  | locked
  /-- An update has copied the row, and lets others go first. -/
  | copied (d : Device)
  /-- The others have had their turn. -/
  | resumed (d : Device)
  /-- The row was read or written, and the lock is not free yet. -/
  | complete (d : Device)
  /-- The task is done, with the row as it was read or written, if there was one. -/
  | finished (result : Option Device)
  | dropped

/-- A row, and the task that holds its lock. -/
structure LockedRow where
  device : Device
  holder : Option Nat

/-- A step of a task, or its end before it is done. -/
inductive Move where
  | step (number : Nat)
  | drop (number : Nat)
  deriving DecidableEq, Repr

/-- The task that a move is of. -/
def Move.number : Move → Nat
  | step number | drop number => number

/-- A read of a device, or an update by a change. -/
structure Access where
  devEui : Eui64
  change : Option (Device → Device)
  stage : Stage

namespace Access

/-- What a step of a task makes of the task and of its row, if it can go on. -/
def step? (t : Access) (number : Nat) (row : Option LockedRow) : Option (Stage × Option LockedRow) :=
  match t.stage, row with
  | .start, none => some (.finished none, none)
  | .start, some row => some (.waiting, some row)
  | .waiting, some ⟨d, none⟩ => some (.locked, some ⟨d, some number⟩)
  | .locked, some row =>
    match t.change with
    | none => some (.complete row.device, some row)
    | some _ => some (.copied row.device, some row)
  | .copied d, row => some (.resumed d, row)
  | .resumed d, some row =>
    t.change.map fun change => (.complete (change d), some { row with device := change d })
  | .complete d, some row => some (.finished (some d), some { row with holder := none })
  | _, _ => none

/-- What dropping a task makes of the task and of its row, if it can be dropped. -/
def drop? (t : Access) (row : Option LockedRow) : Option (Stage × Option LockedRow) :=
  match t.stage, row with
  | .start, row | .waiting, row => some (.dropped, row)
  | .locked, some row | .copied _, some row => some (.dropped, some { row with holder := none })
  | _, _ => none

/-- What a move makes of its task and of the row, if it is possible. -/
def move? (t : Access) (row : Option LockedRow) : Move → Option (Stage × Option LockedRow)
  | .step number => t.step? number row
  | .drop _ => t.drop? row

end Access

/-- The rows and the tasks, which are known by their number. -/
structure Accesses where
  rows : Table Eui64 LockedRow
  tasks : List Access

namespace Accesses

/-- The start of some tasks on the devices of a store. -/
def ofStore (s : Store) (requests : List (Eui64 × Option (Device → Device))) : Accesses where
  rows := ⟨s.devices.rows.map fun (devEui, d) => (devEui, ⟨d, none⟩)⟩
  tasks := requests.map fun (devEui, change) => ⟨devEui, change, .start⟩

/-- The devices of the rows. -/
def devices (a : Accesses) : Table Eui64 Device :=
  ⟨a.rows.rows.map fun (devEui, row) => (devEui, row.device)⟩

/-- The same with a task at another stage, and its row after that if there is one. -/
def set (a : Accesses) (number : Nat) (devEui : Eui64) (stage : Stage) (row : Option LockedRow) :
    Accesses where
  rows := row.elim a.rows (a.rows.insert devEui)
  tasks := a.tasks.modify number fun t => { t with stage }

/-- What a move leads to, if it is possible. -/
def move? (a : Accesses) (m : Move) : Option Accesses := do
  let task ← a.tasks[m.number]?
  let (stage, row) ← task.move? (a.rows.get? task.devEui) m
  return a.set m.number task.devEui stage row

/-- Makes some moves one after the other; a move that is not possible changes nothing. -/
def play (a : Accesses) (moves : List Move) : Accesses :=
  moves.foldl (fun a m => (a.move? m).getD a) a

/-- Rounds in which every task has a turn, as many as let each of them come to its end. -/
def rounds (a : Accesses) : List Move :=
  (List.range (6 * a.tasks.length)).flatMap fun _ => (List.range a.tasks.length).map .step

end Accesses

/-- Updates one device by tasks that take turns. -/
def updateConcurrently (s : Store) (devEui : Eui64) (mutations : List DeviceMutation) : Store :=
  let a := Accesses.ofStore s (mutations.map fun m => (devEui, some fun d => d.apply m))
  { s with devices := (a.play a.rounds).devices }

end Lorawan.Store
