import MixRounds.Proofs.Live.Teams

/-!
# What is left alone

Most of what is proved about a scheduler is about a few of its parts, and most moves do not touch them.
Here it is said once for the kinds of move that many such parts have in common.

* A caller — whoever polls, bans, asks, or moves up in line — touches the nodes, the pool and the two
  queues that callers send to.  The rest is `World.interior`, and no caller touches it
  (**`World.interior_of_isCall`**).
* A worker — the starter, a watcher, the sweep — reaches the loop through its queue of events only.  What
  callers and the loop have between them is `World.exterior`, and no worker touches it
  (**`World.exterior_of_isWork`**).
* Time, and whoever moves a message or a team from one place to the next, has nothing to do with what is
  shared (`World.shared_of_isPrivate`).
* Forming teams moves names and numbers about.  `World.remainder` — tracker, timers and queues, and
  whether the loop is drained — stays as it is (`World.remainder_assembleFrom`).
* The end of a turn forms teams, acknowledges, and closes the queues.  What each of the three leaves alone,
  it leaves alone (**`World.read_settleTurn`**), and what each keeps true, it keeps true
  (`World.settleTurn_induction`).

Dealing with a message, the loop touches what is shared and its own bookkeeping (`World.process_eq`).  And
a loop that has come to its end does not come back (`World.handsOut_of_run`).
-/

namespace MixRounds.Live

/-- The part of a scheduler that at most the loop and its workers write to. -/
structure Interior where
  settings : Settings
  isDisabled : NodeId → Bool
  rounds : Table RoundId Round
  tracker : Tracker
  watchers : List Watcher
  loop : Loop
  events : Channel Worker Event
  starter : Starter
  protos : List ProtoRound

/-- The part of a scheduler that at most callers and the loop write to. -/
structure Exterior where
  settings : Settings
  isDisabled : NodeId → Bool
  loop : Loop
  updates : Channel Notifier Notification
  requests : Channel Request Request
  parked : List (CallId × NodeId)
  answers : List (CallId × Outcome)

/-- The part of a scheduler that is not needed to form teams, or only to be looked at. -/
structure Remainder where
  settings : Settings
  isDisabled : NodeId → Bool
  tracker : Tracker
  watchers : List Watcher
  runState : RunState
  events : Channel Worker Event
  requests : Channel Request Request

/-- A move that a caller makes. -/
def Move.isCall : Move → Bool
  | .poll .. | .ban .. | .request _ | .resumeBan _ | .admitUpdate | .admitRequest => true
  | _ => false

/-- A move that a worker makes, or that time makes. -/
def Move.isWork : Move → Bool
  | .admitEvent | .takeProto | .attempt | .leave _ | .expire _ | .sweep | .pass _ | .wallPass _ => true
  | _ => false

/-- A move that has nothing to do with what is shared. -/
def Move.isPrivate : Move → Bool
  | .request _ | .admitUpdate | .admitEvent | .admitRequest | .takeProto | .conclude | .launch | .pass _
  | .wallPass _ => true
  | _ => false

/-- Apart from callers and workers there are the turns of the loop, and where the loop stands. -/
lemma Move.call_or_work (m : Move) : m.isCall = true ∨ m.isWork = true ∨ m = .launch ∨
    m = .conclude ∨ m = .drop ∨ ∃ source chance, m = .iterate source chance := by
  cases m <;> simp [isCall, isWork]

namespace World

/-- What no caller touches. -/
def interior (w : World) : Interior :=
  ⟨w.settings, w.isDisabled, w.shared.net.rounds, w.shared.tracker, w.shared.watchers, w.loop, w.events,
    w.starter, w.protos⟩

/-- What no worker touches. -/
def exterior (w : World) : Exterior :=
  ⟨w.settings, w.isDisabled, w.loop, w.updates, w.requests, w.parked, w.answers⟩

/-- What forming teams leaves alone. -/
def remainder (w : World) : Remainder :=
  ⟨w.settings, w.isDisabled, w.shared.tracker, w.shared.watchers, w.loop.runState, w.events, w.requests⟩

variable {w : World}

/-! ## Callers -/

@[simp] lemma interior_mapNode (w : World) (v : NodeId) (f : Node → Node) :
    (w.mapNode v f).interior = w.interior := rfl

@[simp] lemma interior_answer (w : World) (call : CallId) (o : Outcome) :
    (w.answer call o).interior = w.interior := rfl

@[simp] lemma interior_bringOnline (w : World) (v : NodeId) :
    (w.bringOnline v).interior = w.interior := by
  rw [bringOnline_eq]
  rfl

@[simp] lemma interior_enqueue (w : World) (who : Notifier) (n : Notification) (sent : Outcome) :
    (w.enqueue who n sent).interior = w.interior := by
  rw [enqueue]
  split <;> rfl

lemma interior_poll (w : World) (call : CallId) (v : NodeId) (a : Activity) :
    (w.poll call v a).interior = w.interior := by
  rw [poll]
  split
  · rfl
  · split
    · rfl
    · split <;> simp

lemma interior_banFree (w : World) (call : CallId) (v : NodeId) (node : Node) :
    (w.banFree call v node).interior = w.interior := by simp [banFree]

lemma interior_ban (w : World) (call : CallId) (v : NodeId) :
    (w.ban call v).interior = w.interior := by
  rw [ban]
  split
  · rfl
  · split
    · exact interior_banFree w call v _
    · rfl

lemma interior_resumeBan (w : World) (call : CallId) :
    (w.resumeBan call).interior = w.interior := by
  rw [resumeBan]
  split
  · rfl
  · split
    · rfl
    · split
      · exact interior_banFree _ call _ _
      · rfl

/-- **No caller touches the interior.** -/
theorem interior_of_isCall {m : Move} (h : m.isCall = true) : (w.step m).interior = w.interior := by
  cases m with
  | poll call v a => exact interior_poll w call v a
  | ban call v => exact interior_ban w call v
  | resumeBan call => exact interior_resumeBan w call
  | request r =>
      dsimp only [step, request]
      split <;> rfl
  | admitUpdate =>
      dsimp only [step, admitUpdate]
      split <;> rfl
  | admitRequest =>
      dsimp only [step, admitRequest]
      split <;> rfl
  | _ => cases h

/-! ## Workers -/

lemma exterior_report (w : World) (e : Event) : (w.report e).exterior = w.exterior := by
  rw [report]
  split <;> rfl

/-- **No worker touches the exterior.** -/
theorem exterior_of_isWork {m : Move} (h : m.isWork = true) : (w.step m).exterior = w.exterior := by
  cases m with
  | attempt =>
      dsimp only [step, attempt]
      split
      · split
        · rfl
        · split <;> exact exterior_report _ _
      · rfl
  | admitEvent =>
      dsimp only [step, admitEvent]
      split <;> rfl
  | takeProto =>
      dsimp only [step, takeProto]
      split
      · rfl
      · split <;> rfl
      · rfl
  | leave x =>
      dsimp only [step, leave]
      split
      · split <;> rfl
      · rfl
  | expire x =>
      dsimp only [step, expire]
      split <;> rfl
  | sweep =>
      dsimp only [step, sweep]
      split
      · rfl
      · split <;> rfl
  | pass ms =>
      dsimp only [step, pass]
      split <;> rfl
  | wallPass nanos => rfl
  | _ => cases h

/-! ## Private moves -/

lemma shared_of_isPrivate {m : Move} (h : m.isPrivate = true) : (w.step m).shared = w.shared := by
  cases m with
  | request r =>
      dsimp only [step, request]
      split <;> rfl
  | admitUpdate =>
      dsimp only [step, admitUpdate]
      split <;> rfl
  | admitEvent =>
      dsimp only [step, admitEvent]
      split <;> rfl
  | admitRequest =>
      dsimp only [step, admitRequest]
      split <;> rfl
  | takeProto =>
      dsimp only [step, takeProto]
      split
      · rfl
      · split <;> rfl
      · rfl
  | conclude =>
      dsimp only [step, conclude]
      split <;> rfl
  | launch =>
      dsimp only [step, launch]
      split <;> rfl
  | pass ms =>
      dsimp only [step, pass]
      split <;> rfl
  | wallPass nanos => rfl
  | _ => cases h

/-! ## Forming teams -/

/-- An attempt at a team moves names between the pool, the teams on their way and the loop, and says so; it
leaves everything else alone. -/
lemma assembleOne_eq (w : World) (chance : Shuffle) : (w.assembleOne chance).1 =
    let after := (w.assembleOne chance).1
    { w with
      shared := { w.shared with
        net := after.shared.net
        pool := after.shared.pool
        notices := after.shared.notices }
      loop := { w.loop with
        inFlight := after.loop.inFlight
        reserved := after.loop.reserved
        failures := after.loop.failures
        counters := after.loop.counters }
      protos := after.protos } := by
  rw [assembleOne]
  split
  · split <;> rfl
  · dsimp only
    split
    · rw [assemblyFailed]
      dsimp only
      split
      · rfl
      · split <;> rfl
    · rfl
    · rfl

lemma remainder_assembleOne (w : World) (chance : Shuffle) :
    (w.assembleOne chance).1.remainder = w.remainder := by
  rw [assembleOne_eq]
  rfl

/-- What one team leaves alone, all teams leave alone. -/
lemma read_assembleFrom {β : Type} (read : World → β)
    (h : ∀ w chance, read (assembleOne w chance).1 = read w) (fuel : Nat) (chance : Nat → Shuffle)
    (w : World) : read (assembleFrom fuel chance w).1 = read w := by
  induction fuel generalizing chance w with
  | zero => rfl
  | succ fuel ih =>
      have hone := h w (chance 0)
      rw [assembleFrom]
      split <;> rename_i heq <;> rw [heq] at hone
      · exact (ih _ _).trans hone
      · exact hone
      · exact hone

/-- **Forming teams leaves the remainder alone.** -/
lemma remainder_assembleFrom (fuel : Nat) (chance : Nat → Shuffle) (w : World) :
    (assembleFrom fuel chance w).1.remainder = w.remainder :=
  read_assembleFrom remainder remainder_assembleOne fuel chance w

/-! ## The end of a turn -/

section Read

variable {β : Type} (read : World → β)

/-- What is the same after one caller was turned away, or had a refusal, is the same after all were. -/
lemma read_closeQueues (hturned : ∀ w who, read (turnAway w who) = read w)
    (hrefused : ∀ w call, read (answer w call (.refused .channelClosed)) = read w)
    (hclosed : ∀ w : World, read { w with
      updates := w.updates.close
      events := w.events.close
      requests := w.requests.close
      loop := { w.loop with acks := [] }
      starter := if w.starter = .reporting then .absent else w.starter } = read w) (w : World) :
    read w.closeQueues = read w :=
  (hclosed _).trans ((foldl_frame read hrefused _ _).trans (foldl_frame read hturned _ _))

lemma read_acknowledge (hanswered : ∀ w call, read (answer w call .done) = read w)
    (hstopped : ∀ w : World,
      read { w with loop := { w.loop with acks := [], runState := .stopped } } = read w) (w : World) :
    read w.acknowledge = read w :=
  (hstopped _).trans (foldl_frame read hanswered _ _)

/-- **What the end of a turn leaves alone**: neither the forming of teams touches it, nor the end of the
loop. -/
lemma read_settleTurn {chance : Nat → Shuffle} {w : World}
    (hassembled : read (w.assemble chance).1 = read w) (hacknowledged : ∀ w, read (acknowledge w) = read w)
    (hfinished : ∀ w result, read (finish w result) = read w) : read (w.settleTurn chance) = read w := by
  rcases w.settleTurn_cases chance with ⟨w', hw', heq⟩ | ⟨setback, heq⟩
  · have hsame : read w' = read w := by
      rcases hw' with rfl | ⟨rfl, -⟩
      · rfl
      · exact hassembled
    rcases heq with heq | heq <;> rw [heq]
    · exact hsame
    · rw [hfinished, hacknowledged, hsame]
  · rw [heq, hfinished, hassembled]

end Read

section Induction

variable {P : World → Prop}

/-- What one attempt at a team keeps true, all attempts keep true. -/
lemma assembleFrom_induction (hone : ∀ w chance, P w → P (assembleOne w chance).1) (fuel : Nat)
    (chance : Nat → Shuffle) (h : P w) : P (assembleFrom fuel chance w).1 := by
  induction fuel generalizing chance w with
  | zero => exact h
  | succ fuel ih =>
      have hafter := hone w (chance 0) h
      rw [assembleFrom]
      split <;> rename_i heq <;> rw [heq] at hafter
      · exact ih _ hafter
      · exact hafter
      · exact hafter

/-- **What the end of a turn keeps true**: every attempt at a team does, and so does the end of the
loop. -/
lemma settleTurn_induction (hone : ∀ w chance, P w → P (assembleOne w chance).1)
    (hacknowledged : ∀ w, P w → P (acknowledge w)) (hfinished : ∀ w result, P w → P (finish w result))
    (h : P w) (chance : Nat → Shuffle) : P (w.settleTurn chance) := by
  have hassembled : P (w.assemble chance).1 := assembleFrom_induction hone _ chance h
  rcases w.settleTurn_cases chance with ⟨w', hw', heq⟩ | ⟨setback, heq⟩
  · have hready : P w' := by
      rcases hw' with rfl | ⟨rfl, -⟩
      · exact h
      · exact hassembled
    rcases heq with heq | heq <;> rw [heq]
    · exact hready
    · exact hfinished _ _ (hacknowledged _ hready)
  · rw [heq]
    exact hfinished _ _ hassembled

end Induction

/-! ## Dealing with a message -/

/-- Taking a message changes a queue. -/
lemma take?_eq {source : Source} {m : Message} {w' : World} (h : w.take? source = some (m, w')) :
    w' = { w with updates := w'.updates, events := w'.events, requests := w'.requests } := by
  cases source <;> simp only [take?, Option.map_eq_some_iff] at h <;> obtain ⟨_, _, heq⟩ := h <;>
    cases heq <;> rfl

/-- A turn deals with its message, and then forms teams or ends. -/
lemma step_of_take? {source : Source} (chance : Nat → Shuffle) {message : Message} {w' : World}
    (hrunning : w.isRunning = true) (htake : w.take? source = some (message, w')) :
    w.step (.iterate source chance) = (w'.process message).settleTurn chance := by
  simp [step, iterate, hrunning, htake]

/-- A message is taken from its queue. -/
inductive Taken (w : World) : Message → World → Prop
  | update {n : Notification} {ch : Channel Notifier Notification}
      (hreceive : w.updates.receive? = some (n, ch)) : Taken w (.update n) { w with updates := ch }
  | event {e : Event} {ch : Channel Worker Event} (hreceive : w.events.receive? = some (e, ch)) :
      Taken w (.event e) { w with events := ch }
  | request {r : Request} {ch : Channel Request Request} (hreceive : w.requests.receive? = some (r, ch)) :
      Taken w (.request r) { w with requests := ch }

lemma taken_of_take? {source : Source} {m : Message} {w' : World} (h : w.take? source = some (m, w')) :
    w.Taken m w' := by
  cases source <;> simp only [take?, Option.map_eq_some_iff] at h <;>
    obtain ⟨⟨content, ch⟩, hreceive, heq⟩ := h <;> cases heq
  · exact .update hreceive
  · exact .event hreceive
  · exact .request hreceive

/-- **A turn of the loop**: a message is taken and dealt with, and what follows every message follows.
Without one, nothing happens. -/
lemma iterate_cases (w : World) (source : Source) (chance : Nat → Shuffle) :
    w.iterate source chance = w ∨ ∃ m w', w.Taken m w' ∧
      w.iterate source chance = (w'.process m).settleTurn chance := by
  rw [iterate]
  split
  · split
    · exact Or.inl rfl
    · rename_i m w' htake
      exact Or.inr ⟨m, w', taken_of_take? htake, rfl⟩
  · exact Or.inl rfl

/-- **Dealing with a message** leaves everything alone but what is shared and what the loop keeps for
itself; and it may answer a call. -/
lemma process_eq (w : World) (m : Message) : w.process m = { w with
    shared := (w.process m).shared
    loop := (w.process m).loop
    answers := (w.process m).answers } := by
  cases m with
  | update n =>
      dsimp only [process, processUpdate]
      split <;> rfl
  | event e =>
      cases e with
      | timedOut id phase =>
          obtain ⟨s, f, heq, -⟩ := processTimeout_cases w id phase
          dsimp only [process, processEvent]
          rw [heq]
          rfl
      | started id | startFailed p fault =>
          dsimp only [process, processEvent, unreserve]
          split <;> rfl
      | finished id => rfl
  | request r => cases r <;> rfl

/-! ## The loop does not come back -/

lemma handsOut_of_step {m : Move} (h : (w.step m).handsOut = true) : w.handsOut = true := by
  have hsame : ∀ w' : World, w'.loop = w.loop → w'.handsOut = true → w.handsOut = true :=
    fun w' heq h => by rwa [handsOut, ← heq]
  rcases m.call_or_work with hcall | hwork | rfl | rfl | rfl | ⟨source, chance, rfl⟩
  · exact hsame _ (congrArg Interior.loop (interior_of_isCall hcall)) h
  · exact hsame _ (congrArg Exterior.loop (exterior_of_isWork hwork)) h
  · dsimp only [step, launch] at h
    split at h
    · rename_i hstage
      simp [handsOut, hstage]
    · exact h
  · dsimp only [step, conclude] at h
    split at h
    · cases h
    · exact h
  · cases h
  · dsimp only [step, iterate] at h
    split at h
    · exact handsOut_of_isRunning ‹_›
    · exact h

/-- A turn after which the loop goes on has at most formed teams, once its message was dealt with. -/
lemma settleTurn_of_handsOut {chance : Nat → Shuffle}
    (hgoes : (w.settleTurn chance).handsOut = true) :
    w.settleTurn chance = w ∨ w.settleTurn chance = (w.assemble chance).1 := by
  rcases w.settleTurn_cases chance with ⟨w', hw', heq⟩ | ⟨setback, heq⟩
  · rcases heq with heq | heq
    · rw [heq]
      exact hw'.imp_right And.left
    · simp [heq, handsOut_finish] at hgoes
  · simp [heq, handsOut_finish] at hgoes

lemma remainder_settleTurn {chance : Nat → Shuffle} (hgoes : (w.settleTurn chance).handsOut = true) :
    (w.settleTurn chance).remainder = w.remainder := by
  rcases settleTurn_of_handsOut hgoes with heq | heq <;> rw [heq]
  exact remainder_assembleFrom _ chance w

/-- A loop that has come to its end does not come back. -/
lemma handsOut_of_run {moves : List Move} (h : (w.run moves).handsOut = true) : w.handsOut = true := by
  induction moves generalizing w with
  | nil => exact h
  | cons m rest ih => exact handsOut_of_step (ih h)

end World

end MixRounds.Live
