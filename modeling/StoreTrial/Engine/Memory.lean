import StoreTrial.Engine.Request
import StoreTrial.Store.Basic

/-! # The memory engine

An engine that answers from a store in memory and saves that store to a medium:
on close, and after every change when it was opened so. A call has two steps,
between which other calls on the same handle may come: it is accepted by the
closed flag, and then it is performed while no other call holds the store.
-/

namespace StoreTrial

/-- A handle of the memory engine. -/
structure MemoryEngine where
  path : String
  syncWrites : Bool
  store : Store
  closed : Bool
  deriving DecidableEq

namespace MemoryEngine

variable {μ : Type}

/-- Writes a store to a medium: whether that worked, and the medium afterwards. -/
abbrev Save (μ : Type) := Store → μ → Except Failure Unit × μ

/-- An answer, with the handle and the medium after it was given. -/
abbrev Reply (μ α : Type) := Except Failure α × MemoryEngine × μ

/-- A handle that answers from the given store. -/
def start (options : EngineOptions) (store : Store) : MemoryEngine where
  path := options.path
  syncWrites := options.syncWrites
  store := store
  closed := false

/-- Fails on a closed handle. -/
def requireOpen (engine : MemoryEngine) : Except Failure Unit :=
  if engine.closed then .error .closed else .ok ()

/-- The first step of a call: a closed handle refuses, and a close marks the
handle. -/
def accept (engine : MemoryEngine) (request : Request) : Except Failure Unit × MemoryEngine :=
  match request with
  | .close => (engine.requireOpen, { engine with closed := true })
  | _ => (engine.requireOpen, engine)

/-- Takes a changed store into the handle, and saves it when every change is to be
saved. -/
def keep (save : Save μ) (engine : MemoryEngine) (store : Store) (medium : μ) : Reply μ Unit :=
  let changed := { engine with store := store }
  if engine.syncWrites then
    let (result, saved) := save store medium
    (result, changed, saved)
  else (.ok (), changed, medium)

/-- The second step of a call: it reads or changes the store, and saves it where
that belongs to the call. -/
def perform (save : Save μ) (engine : MemoryEngine) (medium : μ) :
    (request : Request) → Reply μ request.Answer
  | .put key value => engine.keep save (engine.store.insert key value) medium
  | .get key =>
      match engine.store.get? key with
      | some value => (.ok value, engine, medium)
      | none => (.error .notFound, engine, medium)
  | .delete key =>
      if engine.store.contains key then engine.keep save (engine.store.erase key) medium
      else (.ok (), engine, medium)
  | .contains key => (.ok (engine.store.contains key), engine, medium)
  | .close =>
      let (result, saved) := save engine.store medium
      (result, engine, saved)

/-- A whole call with nothing between its steps. -/
def call (save : Save μ) (engine : MemoryEngine) (medium : μ) (request : Request) :
    Reply μ request.Answer :=
  match engine.accept request with
  | (.error failure, refused) => (.error failure, refused, medium)
  | (.ok (), accepted) => accepted.perform save medium request

/-- A closed handle refuses every call and stays as it is. -/
theorem call_of_closed (save : Save μ) {engine : MemoryEngine} (closed : engine.closed = true)
    (medium : μ) (request : Request) :
    engine.call save medium request = (.error .closed, engine, medium) := by
  cases engine with
  | mk path syncWrites store flag =>
      subst closed
      cases request <;> rfl

/-- The number of keys. -/
def size (engine : MemoryEngine) : Except Failure Nat := do
  engine.requireOpen
  return engine.store.size

/-- Whether there is no key. -/
def isEmpty (engine : MemoryEngine) : Except Failure Bool := do
  return (← engine.size) == 0

end MemoryEngine

end StoreTrial
