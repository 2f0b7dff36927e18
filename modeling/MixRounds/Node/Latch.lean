import MixRounds.Node.Handoff

/-!
# Waiting for a node

A caller that must have a node waits until it is free.  This module takes the wait apart into steps
between which others may act; a scheduler (`World.ban`) sees it as one.

A caller first signs up for the next call, then tries the node, and lies down only if the try was in
vain; a call that was made in the meantime keeps it awake.  A release is two steps as well: first the node
is free, then everyone who signed up before is called.  Signing up before the try is what keeps a release
between the two from being missed.
-/

namespace MixRounds

/-- Where a caller stands. -/
inductive Stance where
  /-- It does not wait. -/
  | away
  /-- It has signed up when that many calls had been made, and is about to try. -/
  | signed (calls : Nat)
  /-- It has tried in vain, and is about to lie down. -/
  | rebuffed (calls : Nat)
  /-- It sleeps until there are more calls than that. -/
  | asleep (calls : Nat)
  /-- It was called, and must sign up again. -/
  | called
  deriving DecidableEq, Repr

/-- A node's hand-off with those who wait for it. -/
structure Latch where
  handoff : Handoff
  /-- How often those who wait have been called. -/
  calls : Nat
  /-- Releases that have called no one yet. -/
  unannounced : Nat
  /-- Where each caller stands. -/
  stance : Nat → Stance

namespace Latch

/-- A free node that nobody waits for. -/
def fresh : Latch := ⟨.released, 0, 0, fun _ => .away⟩

/-- Put a caller in a stance. -/
def place (l : Latch) (caller : Nat) (s : Stance) : Latch :=
  { l with stance := fun c => if c = caller then s else l.stance c }

/-- Whether the caller sleeps and no call has reached it yet. -/
def sleeps (l : Latch) (caller : Nat) : Bool :=
  match l.stance caller with
  | .asleep calls => calls == l.calls
  | _ => false

/-- One step of someone. -/
inductive Turn where
  /-- A caller that begins to wait, or was called, signs up for the next call. -/
  | signUp (caller : Nat)
  /-- A caller that has signed up tries the node. -/
  | enter (caller : Nat)
  /-- A caller that has tried in vain goes to sleep, unless it was called since it signed up. -/
  | lieDown (caller : Nat)
  /-- A sleeping caller that was called wakes up. -/
  | wake (caller : Nat)
  /-- Someone who does not wait tries the node. -/
  | grab
  /-- The loop takes the node over. -/
  | takeOver
  /-- The node becomes free. -/
  | free
  /-- Everyone who has signed up by now is called. -/
  | announce
  deriving DecidableEq, Repr

/-- What a step does; one that is not possible does nothing. -/
def step (l : Latch) : Turn → Latch
  | .signUp caller =>
      match l.stance caller with
      | .away | .called => l.place caller (.signed l.calls)
      | _ => l
  | .enter caller =>
      match l.stance caller with
      | .signed calls =>
          match l.handoff.tryAcquire with
          | (true, taken) => { l with handoff := taken }.place caller .away
          | (false, _) => l.place caller (.rebuffed calls)
      | _ => l
  | .lieDown caller =>
      match l.stance caller with
      | .rebuffed calls => l.place caller (if calls = l.calls then .asleep calls else .called)
      | _ => l
  | .wake caller =>
      match l.stance caller with
      | .asleep calls => if calls = l.calls then l else l.place caller .called
      | _ => l
  | .grab => { l with handoff := l.handoff.tryAcquire.2 }
  | .takeOver => { l with handoff := l.handoff.takeOwnership.2 }
  | .free => { l with handoff := .released, unannounced := l.unannounced + 1 }
  | .announce =>
      if l.unannounced = 0 then l
      else { l with calls := l.calls + 1, unannounced := l.unannounced - 1 }

/-- Whether a step takes the node for a caller. -/
def takes (l : Latch) : Turn → Bool
  | .enter caller =>
      match l.stance caller with
      | .signed _ => l.handoff.tryAcquire.1
      | _ => false
  | .grab => l.handoff.tryAcquire.1
  | _ => false

/-- The latch after a history. -/
def run (l : Latch) (turns : List Turn) : Latch := turns.foldl step l

@[simp] theorem run_nil (l : Latch) : l.run [] = l := rfl

theorem run_append (l : Latch) (before after : List Turn) :
    l.run (before ++ after) = (l.run before).run after := by simp [run]

@[simp] theorem handoff_place (l : Latch) (caller : Nat) (s : Stance) :
    (l.place caller s).handoff = l.handoff := rfl

@[simp] theorem stance_place_self (l : Latch) (caller : Nat) (s : Stance) :
    (l.place caller s).stance caller = s := by simp [place]

theorem stance_place_of_ne (l : Latch) {caller other : Nat} (s : Stance) (h : other ≠ caller) :
    (l.place caller s).stance other = l.stance other := by simp [place, h]

end Latch

end MixRounds
