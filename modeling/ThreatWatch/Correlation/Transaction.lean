import ThreatWatch.Store.Basic

/-! Transactions: sequences of calls to the store that take effect together or
not at all. A call can meet an obstacle, which ends the transaction. -/

namespace ThreatWatch

inductive StoreCall where
  | fetch
  | find
  | save
  | tag
  | commit
  deriving DecidableEq, Repr

/-- What a transaction meets: the time at which it writes, and, for the calls
made so far with the latest one first, the fault that the latest one ends in. -/
structure Surroundings where
  now : Calendar.Moment
  obstacle : List StoreCall → Option Fault := fun _ => none

/-- A transaction under way: the store as it sees it and the calls it has made,
the latest one first. -/
structure Transaction where
  store : Store
  calls : List StoreCall := []

abbrev Work := ReaderT Surroundings (StateT Transaction (Except Fault))

namespace Work

/-- Makes a call; nothing comes of it where it meets an obstacle. -/
def perform (call : StoreCall) : Work Unit := do
  let calls := call :: (← get).calls
  match (← read).obstacle calls with
  | some fault => throw fault
  | none => modify fun transaction => { transaction with calls := calls }

def ofExcept {α : Type} (outcome : Except Fault α) : Work α :=
  match outcome with
  | .ok value => pure value
  | .error fault => throw fault

def replaceStore (store : Except Fault Store) : Work Unit := do
  let store ← ofExcept store
  modify fun transaction => { transaction with store := store }

def unclustered (since : Calendar.Moment) : Work (List Threat) := do
  perform .fetch
  ofExcept ((← get).store.unclustered since)

def campaign? (id : String) : Work (Option Campaign) := do
  perform .find
  return (← get).store.campaign? id

def save (campaign : Campaign) : Work Unit := do
  perform .save
  replaceStore ((← get).store.save (← read).now campaign)

def tag (campaign : String) (ids : List Int) : Work Unit := do
  perform .tag
  replaceStore ((← get).store.tag campaign ids)

/-- Does the work in one transaction on a store. Only the store of work that
reaches its end is kept. -/
def run {α : Type} (work : Work α) (surroundings : Surroundings) (store : Store) :
    Except Fault (α × Store) := do
  let whole : Work α := do
    let value ← work
    perform .commit
    return value
  let (value, transaction) ← (whole surroundings).run ⟨store, []⟩
  return (value, transaction.store)

end Work

end ThreatWatch
