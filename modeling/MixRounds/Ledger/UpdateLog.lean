import MixRounds.Ledger.Signed

/-!
# The update log

Broadcasts of round states are appended with ids from one upward; a reader asks for everything after
the last id it has seen.  Failure records are kept beside them.  The id of a broadcast is its place in
the log, and it is stamped before the payload is signed.
-/

namespace MixRounds

/-- Everything published so far. -/
structure UpdateLog where
  updates : List (Signed RoundInfo)
  errors : List (Signed RoundError)

namespace UpdateLog

def empty : UpdateLog := ⟨[], []⟩

/-- The id of the newest broadcast, zero before the first. -/
def latest (log : UpdateLog) : UInt64 := UInt64.ofNat log.updates.length

/-- Stamp a round state with the next id, sign it and append it. -/
def push (log : UpdateLog) (key : SigningKey) (info : RoundInfo) : UpdateLog :=
  let stamped := { info with updateId := UInt64.ofNat (log.updates.length + 1) }
  { log with updates := log.updates ++ [.sign key stamped] }

/-- Append a signed failure record. -/
def pushError (log : UpdateLog) (record : Signed RoundError) : UpdateLog :=
  { log with errors := log.errors ++ [record] }

/-- The broadcasts with an id greater than the given one. -/
def since (log : UpdateLog) (id : UInt64) : List (Signed RoundInfo) :=
  log.updates.drop id.toNat

/-- The newest broadcast of one round. -/
def latestFor (log : UpdateLog) (round : RoundId) : Option RoundInfo :=
  (log.updates.reverse.find? fun u => u.payload.id = round).map Signed.payload

/-- The failure records of one round. -/
def errorsFor (log : UpdateLog) (round : RoundId) : List RoundError :=
  (log.errors.map Signed.payload).filter fun e => e.round = round

@[simp] theorem length_updates_push (log : UpdateLog) (key : SigningKey) (info : RoundInfo) :
    (log.push key info).updates.length = log.updates.length + 1 := by simp [push]

@[simp] theorem errors_push (log : UpdateLog) (key : SigningKey) (info : RoundInfo) :
    (log.push key info).errors = log.errors := rfl

@[simp] theorem updates_pushError (log : UpdateLog) (record : Signed RoundError) :
    (log.pushError record).updates = log.updates := rfl

end UpdateLog

end MixRounds
