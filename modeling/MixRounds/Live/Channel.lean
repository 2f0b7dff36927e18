/-!
# Bounded queues

Messages reach the loop through queues with limited room.  Who finds a queue full waits in line, and
the line moves in order of arrival: a newcomer never overtakes one who waits.  A queue whose reader is
gone is closed; it takes nothing more, and everyone in line is turned away.

Reading from the other side, `Channel.messages` is everything that will be received, in order: what is
queued, then what waits.
-/

namespace MixRounds.Live

/-- A queue of at most `capacity` messages of type `α`, with senders of type `σ` in line. -/
structure Channel (σ α : Type) where
  capacity : Nat
  queue : List α
  waiting : List (σ × α)
  closed : Bool

/-- What became of a message. -/
inductive Sent where
  | accepted
  | waiting
  | refused
  deriving DecidableEq, Repr

namespace Channel

variable {σ α : Type}

/-- An open queue with nothing in it. -/
def withCapacity (n : Nat) : Channel σ α := ⟨n, [], [], false⟩

/-- Everything that will be received, in order. -/
def messages (ch : Channel σ α) : List α := ch.queue ++ ch.waiting.map Prod.snd

/-- Whether a message can be queued at once. -/
def hasRoom (ch : Channel σ α) : Bool := ch.waiting.isEmpty && ch.queue.length < ch.capacity

/-- Send a message: into the queue, into the line, or nowhere. -/
def send (ch : Channel σ α) (sender : σ) (m : α) : Sent × Channel σ α :=
  if ch.closed then (.refused, ch)
  else if ch.hasRoom then (.accepted, { ch with queue := ch.queue ++ [m] })
  else (.waiting, { ch with waiting := ch.waiting ++ [(sender, m)] })

/-- Take the oldest queued message. -/
def receive? (ch : Channel σ α) : Option (α × Channel σ α) :=
  match ch.queue with
  | [] => none
  | m :: rest => some (m, { ch with queue := rest })

/-- Let the first in line queue its message, if there is room. -/
def admit? (ch : Channel σ α) : Option (σ × Channel σ α) :=
  match ch.waiting with
  | [] => none
  | (sender, m) :: rest =>
      if ch.queue.length < ch.capacity then
        some (sender, { ch with queue := ch.queue ++ [m], waiting := rest })
      else none

/-- The reader is gone: nothing is left in the queue or in line. -/
def close (ch : Channel σ α) : Channel σ α := { ch with queue := [], waiting := [], closed := true }

theorem messages_send (ch : Channel σ α) (sender : σ) (m : α) :
    (ch.send sender m).2.messages = if ch.closed then ch.messages else ch.messages ++ [m] := by
  unfold send
  split
  · rfl
  · split
    · rename_i h
      have : ch.waiting = [] := by
        simp only [hasRoom, Bool.and_eq_true, List.isEmpty_iff] at h
        exact h.1
      simp [messages, this]
    · simp [messages]

/-- Only a closed queue refuses. -/
theorem send_fst_eq_refused_iff (ch : Channel σ α) (sender : σ) (m : α) :
    (ch.send sender m).1 = .refused ↔ ch.closed = true := by
  unfold send
  split
  · simp [*]
  · split <;> simp [*]

@[simp] theorem closed_send (ch : Channel σ α) (sender : σ) (m : α) :
    (ch.send sender m).2.closed = ch.closed := by
  unfold send
  split
  · rfl
  · split <;> rfl

theorem closed_admit? {ch ch' : Channel σ α} {sender : σ} (h : ch.admit? = some (sender, ch')) :
    ch'.closed = ch.closed := by
  unfold admit? at h
  split at h
  · cases h
  · split at h <;> cases h
    rfl

theorem closed_receive? {ch ch' : Channel σ α} {m : α} (h : ch.receive? = some (m, ch')) :
    ch'.closed = ch.closed := by
  unfold receive? at h
  split at h <;> cases h
  rfl

theorem messages_admit? {ch ch' : Channel σ α} {sender : σ} (h : ch.admit? = some (sender, ch')) :
    ch'.messages = ch.messages := by
  unfold admit? at h
  split at h
  · cases h
  · split at h
    · injection h with h
      injection h with _ h
      subst h
      simp [messages, *]
    · cases h

theorem messages_receive? {ch ch' : Channel σ α} {m : α} (h : ch.receive? = some (m, ch')) :
    ch.messages = m :: ch'.messages := by
  unfold receive? at h
  split at h
  · cases h
  · injection h with h
    injection h with h₁ h₂
    subst h₁ h₂
    simp [messages, *]

end Channel

end MixRounds.Live
