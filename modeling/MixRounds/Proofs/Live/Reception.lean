import MixRounds.Proofs.Live.Winding

/-!
# What callers are told

A caller is answered at once, or waits: for room in a queue, for its node to be free, or for the loop to get
round to it.  `Reception` is where callers wait and what they were told.

A call is told that it is done if it is a ban or a request for a shutdown.  **`World.Candid.run`** says that
until the loop acknowledges the shutdown it is told so for bans alone.
-/

namespace MixRounds.Live

namespace Channel

variable {σ α : Type} {ch ch' : Channel σ α} {sender : σ} {m : α}

/-- **What is sent** is refused, or it is queued, or its sender joins the line. -/
lemma send_cases (ch : Channel σ α) (sender : σ) (m : α) :
    ch.send sender m = (.refused, ch) ∨
      ch.send sender m = (.accepted, { ch with queue := ch.queue ++ [m] }) ∨
      ch.send sender m = (.waiting, { ch with waiting := ch.waiting ++ [(sender, m)] }) := by
  rw [send]
  split
  · exact Or.inl rfl
  · split
    · exact Or.inr (Or.inl rfl)
    · exact Or.inr (Or.inr rfl)

/-- Only the sender joins the line. -/
lemma mem_waiting_send {e : σ × α} (h : e ∈ (ch.send sender m).2.waiting) :
    e ∈ ch.waiting ∨ e = (sender, m) := by
  rcases ch.send_cases sender m with heq | heq | heq <;> rw [heq] at h
  · exact Or.inl h
  · exact Or.inl h
  · simpa using h

/-- Only the first in line leaves it. -/
lemma waiting_admit? (h : ch.admit? = some (sender, ch')) :
    ∃ m, ch.waiting = (sender, m) :: ch'.waiting := by
  rw [admit?] at h
  split at h
  · cases h
  · rename_i m rest hwaiting
    split at h
    · cases h
      exact ⟨m, hwaiting⟩
    · cases h

lemma waiting_receive? (h : ch.receive? = some (m, ch')) : ch'.waiting = ch.waiting := by
  rw [receive?] at h
  split at h <;> cases h
  rfl

end Channel

namespace World

variable {w : World}

/-- Where callers wait, and what they are told. -/
structure Reception where
  waiting : List (Notifier × Notification)
  parked : List (CallId × NodeId)
  answers : List (CallId × Outcome)
  acks : List CallId
  runState : RunState

def reception (w : World) : Reception :=
  ⟨w.updates.waiting, w.parked, w.answers, w.loop.acks, w.loop.runState⟩

lemma reception_bringOnline (w : World) (v : NodeId) : (w.bringOnline v).reception = w.reception := by
  rw [bringOnline_eq]
  rfl

lemma reception_assembleOne (w : World) (chance : Shuffle) :
    (w.assembleOne chance).1.reception = w.reception := by
  rw [assembleOne_eq]
  rfl

lemma reception_assemble (w : World) (chance : Nat → Shuffle) :
    (w.assemble chance).1.reception = w.reception :=
  read_assembleFrom reception reception_assembleOne _ chance w

/-- The workers leave the reception alone. -/
lemma reception_of_isWork {m : Move} (h : m.isWork = true) : (w.step m).reception = w.reception := by
  have hexterior := exterior_of_isWork (w := w) h
  have hloop : (w.step m).loop = w.loop := congrArg Exterior.loop hexterior
  have hupdates : (w.step m).updates = w.updates := congrArg Exterior.updates hexterior
  have hparked : (w.step m).parked = w.parked := congrArg Exterior.parked hexterior
  have hanswers : (w.step m).answers = w.answers := congrArg Exterior.answers hexterior
  simp only [reception, hloop, hupdates, hparked, hanswers]

lemma parked_closeQueues (w : World) : w.closeQueues.parked = w.parked :=
  read_closeQueues parked (fun _ _ => rfl) (fun _ _ => rfl) (fun _ => rfl) w

lemma parked_acknowledge (w : World) : w.acknowledge.parked = w.parked :=
  read_acknowledge parked (fun _ _ => rfl) (fun _ => rfl) w

lemma updates_acknowledge (w : World) : w.acknowledge.updates = w.updates :=
  read_acknowledge updates (fun _ _ => rfl) (fun _ => rfl) w

lemma answers_answerAll (calls : List CallId) (o : Outcome) (w : World) :
    (calls.foldl (fun w call => w.answer call o) w).answers
      = w.answers ++ calls.map fun call => (call, o) := by
  induction calls generalizing w with
  | nil => simp
  | cons call rest ih => rw [List.foldl_cons, ih, answer, List.map_cons, List.append_assoc]; rfl

lemma answers_acknowledge (w : World) :
    w.acknowledge.answers = w.answers ++ w.loop.acks.map fun call => (call, .done) :=
  answers_answerAll w.loop.acks .done w

/-- **The end of the loop** is a refusal to everybody who still waits for it. -/
lemma answers_closeQueues (w : World) : ∃ refusals, w.closeQueues.answers = w.answers ++ refusals ∧
    ∀ a ∈ refusals, a.2 = .refused .channelClosed := by
  have hturned : ∀ (callers : List Notifier) (w : World), (callers.foldl turnAway w).answers
      = w.answers ++ callers.map fun who => (who.call, .refused .channelClosed) := by
    intro callers
    induction callers with
    | nil => simp
    | cons who rest ih =>
        intro w
        rw [List.foldl_cons, ih, List.map_cons]
        exact (List.append_cons _ _ _).symm
  refine ⟨_, (answers_answerAll _ _ _).trans (by rw [hturned, List.append_assoc]), fun a ha => ?_⟩
  simp only [List.mem_append, List.mem_map] at ha
  rcases ha with ⟨_, _, rfl⟩ | ⟨_, _, rfl⟩ <;> rfl

/-- Dealing with a message answers at most a question about the metrics. -/
lemma answers_process (w : World) (message : Message) : ∃ replies,
    (w.process message).answers = w.answers ++ replies ∧
      ∀ a ∈ replies, ∃ metrics, a.2 = .metrics metrics := by
  have hnothing : ∀ w' : World, w'.answers = w.answers → ∃ replies, w'.answers = w.answers ++ replies ∧
      ∀ a ∈ replies, ∃ metrics, a.2 = .metrics metrics := fun w' h => ⟨[], by simp [h], by simp⟩
  cases message with
  | update n =>
      refine hnothing _ ?_
      dsimp only [process, processUpdate]
      split <;> rfl
  | event e =>
      refine hnothing _ ?_
      cases e with
      | timedOut id p =>
          dsimp only [process, processEvent]
          obtain ⟨s, f, heq, -⟩ := processTimeout_cases w id p
          rw [heq]
          rfl
      | started id | startFailed p fault =>
          dsimp only [process, processEvent, unreserve]
          split <;> rfl
      | finished id => rfl
  | request r =>
      cases r with
      | metrics call => exact ⟨[(call, .metrics w.metrics)], rfl, by simp⟩
      | shutdown call => exact hnothing _ rfl

/-! ## Who is told that it is done -/

/-- The calls that ask for a ban. -/
def bans (moves : List Move) : List CallId :=
  moves.filterMap fun
    | .ban call _ => some call
    | _ => none

lemma mem_bans {moves : List Move} {call : CallId} : call ∈ bans moves ↔ ∃ v, .ban call v ∈ moves := by
  rw [bans, List.mem_filterMap]
  constructor
  · rintro ⟨m, hm, hcall⟩
    cases m with
    | ban call' v =>
        cases hcall
        exact ⟨v, hm⟩
    | _ => cases hcall
  · rintro ⟨v, hv⟩
    exact ⟨_, hv, rfl⟩

/-- As long as nothing was acknowledged, whoever has been told that it is done, or will be, is one of the
calls. -/
structure Candid (w : World) (calls : List CallId) : Prop where
  parked : ∀ p ∈ w.parked, p.1 ∈ calls
  waiting : ∀ e ∈ w.updates.waiting, Notifier.sent e.1 = .done → e.1.call ∈ calls
  told : w.loop.runState ≠ .stopped → ∀ call, (call, .done) ∈ w.answers → call ∈ calls

namespace Candid

variable {calls : List CallId}

lemma mono (h : w.Candid calls) {more : List CallId} (hsub : ∀ call ∈ calls, call ∈ more) :
    w.Candid more where
  parked p hp := hsub _ (h.parked p hp)
  waiting e he hsent := hsub _ (h.waiting e he hsent)
  told hstate call hcall := hsub _ (h.told hstate call hcall)

lemma congr (h : w.Candid calls) {w' : World} (heq : w'.reception = w.reception) : w'.Candid calls where
  parked := by rw [show w'.parked = w.parked from congrArg Reception.parked heq]; exact h.parked
  waiting := by
    rw [show w'.updates.waiting = w.updates.waiting from congrArg Reception.waiting heq]
    exact h.waiting
  told := by
    rw [show w'.loop.runState = w.loop.runState from congrArg Reception.runState heq,
      show w'.answers = w.answers from congrArg Reception.answers heq]
    exact h.told

lemma answer (h : w.Candid calls) (call : CallId) {o : Outcome} (ho : o = .done → call ∈ calls) :
    (w.answer call o).Candid calls where
  parked := h.parked
  waiting := h.waiting
  told hstate call' hcall := by
    rcases List.mem_append.1 hcall with hcall | hcall
    · exact h.told hstate call' hcall
    · cases List.mem_singleton.1 hcall
      exact ho rfl

/-- Whoever sends is told what it sent, or waits to be told. -/
lemma enqueue (h : w.Candid calls) (who : Notifier) (n : Notification)
    (hwho : Notifier.sent who = .done → who.call ∈ calls) :
    (w.enqueue who n (Notifier.sent who)).Candid calls := by
  have hsent : ∀ sent ch, w.updates.send who n = (sent, ch) →
      ({ w with updates := ch } : World).Candid calls := by
    intro sent ch hsend
    refine ⟨h.parked, fun e he => ?_, h.told⟩
    have hch : (w.updates.send who n).2 = ch := by rw [hsend]
    rcases Channel.mem_waiting_send (hch ▸ he) with he | rfl
    · exact h.waiting e he
    · exact hwho
  rw [World.enqueue]
  split <;> rename_i ch hsend
  · exact (hsent _ ch hsend).answer who.call hwho
  · exact hsent _ ch hsend
  · have hreleased : (({ w with updates := ch } : World).mapNode who.node Node.release).Candid calls :=
      (hsent _ ch hsend).congr rfl
    exact hreleased.answer who.call fun hdone => by cases hdone

/-- **A poll** is told of no ban. -/
lemma poll (h : w.Candid calls) (call : CallId) (v : NodeId) (a : Activity) :
    (w.poll call v a).Candid calls := by
  rw [World.poll]
  split
  · exact h.answer call fun hdone => by cases hdone
  · split
    · exact h.answer call fun hdone => by cases hdone
    · split
      · rename_i seen fault hpoll
        have hseen : (w.mapNode v fun _ => seen.release).Candid calls := h.congr rfl
        exact hseen.answer call fun hdone => by cases hdone
      · rename_i seen hpoll
        have hback : (((w.mapNode v fun _ => seen).bringOnline v).mapNode v Node.release).Candid calls :=
          h.congr (reception_bringOnline (w.mapNode v fun _ => seen) v)
        exact hback.answer call fun hdone => by cases hdone
      · rename_i seen n hpoll
        have hback : ((w.mapNode v fun _ => seen).bringOnline v).Candid calls :=
          h.congr (reception_bringOnline (w.mapNode v fun _ => seen) v)
        exact hback.enqueue (.poll call v) n fun hdone => by cases hdone

lemma banFree (h : w.Candid calls) {call : CallId} (hcall : call ∈ calls) (v : NodeId) (node : Node) :
    (w.banFree call v node).Candid calls := by
  have hbanned : ∀ f : Node → Node, (w.mapNode v f).Candid calls := fun f => h.congr rfl
  exact (hbanned _).enqueue (.ban call v) _ fun _ => hcall

/-- **A ban** is one of the calls. -/
lemma ban (h : w.Candid calls) {call : CallId} (hcall : call ∈ calls) (v : NodeId) :
    (w.ban call v).Candid calls := by
  rw [World.ban]
  split
  · exact h.answer call fun hdone => by cases hdone
  · split
    · exact h.banFree hcall v _
    · refine ⟨fun p hp => ?_, h.waiting, h.told⟩
      rcases List.mem_append.1 hp with hp | hp
      · exact h.parked p hp
      · rw [List.mem_singleton.1 hp]
        exact hcall

lemma resumeBan (h : w.Candid calls) (call : CallId) : (w.resumeBan call).Candid calls := by
  rw [World.resumeBan]
  split
  · exact h
  · rename_i call' v hfind
    split
    · exact h
    · split
      · have hcall' : call' = call := by simpa using List.find?_some hfind
        have hcall : call ∈ calls := hcall' ▸ h.parked _ (List.mem_of_find?_eq_some hfind)
        have hleft : ({ w with parked := w.parked.filter fun p => p.1 ≠ call } : World).Candid calls :=
          ⟨fun p hp => h.parked p (List.mem_filter.1 hp).1, h.waiting, h.told⟩
        exact hleft.banFree hcall v _
      · exact h

lemma admitUpdate (h : w.Candid calls) : w.admitUpdate.Candid calls := by
  rw [World.admitUpdate]
  split
  · exact h
  · rename_i who ch hadmit
    obtain ⟨n, hwaiting⟩ := Channel.waiting_admit? hadmit
    have hleft : ({ w with updates := ch } : World).Candid calls :=
      ⟨h.parked, fun e he => h.waiting e (hwaiting ▸ List.mem_cons_of_mem _ he), h.told⟩
    exact hleft.answer who.call (h.waiting (who, n) (hwaiting ▸ List.mem_cons_self))

lemma closeQueues (h : w.Candid calls) : w.closeQueues.Candid calls := by
  obtain ⟨refusals, hanswers, hrefused⟩ := answers_closeQueues w
  refine ⟨by rw [parked_closeQueues]; exact h.parked, (fun e he => by cases he), ?_⟩
  intro hstate call hcall
  rw [loop_closeQueues] at hstate
  rw [hanswers] at hcall
  rcases List.mem_append.1 hcall with hcall | hcall
  · exact h.told hstate call hcall
  · cases hrefused _ hcall

lemma process (h : w.Candid calls) (message : Message) : (w.process message).Candid calls := by
  obtain ⟨replies, hanswers, hmetrics⟩ := answers_process w message
  have hparked : (w.process message).parked = w.parked := by rw [process_eq]
  have hupdates : (w.process message).updates = w.updates := by rw [process_eq]
  refine ⟨hparked ▸ h.parked, by rw [hupdates]; exact h.waiting, fun hstate call hcall => ?_⟩
  rw [hanswers] at hcall
  rcases List.mem_append.1 hcall with hcall | hcall
  · refine h.told (fun hstopped => hstate ?_) call hcall
    rw [(processed w message).runState, if_neg (by simp [hstopped])]
    exact hstopped
  · obtain ⟨metrics, hreply⟩ := hmetrics _ hcall
    cases hreply

lemma settleTurn (h : w.Candid calls) (chance : Nat → Shuffle) : (w.settleTurn chance).Candid calls := by
  have hfinished : ∀ (w : World) (result : Except Setback Unit), w.Candid calls →
      (w.finish result).Candid calls := fun w result h =>
    ⟨h.closeQueues.parked, h.closeQueues.waiting, h.closeQueues.told⟩
  have hassembled : (w.assemble chance).1.Candid calls := h.congr (reception_assemble w chance)
  rcases w.settleTurn_cases chance with ⟨w', hw', heq⟩ | ⟨setback, heq⟩
  · have h' : w'.Candid calls := by
      rcases hw' with rfl | ⟨rfl, -⟩
      · exact h
      · exact hassembled
    rcases heq with heq | heq <;> rw [heq]
    · exact h'
    · -- from here on nothing is promised about the requests
      have hacknowledged : w'.acknowledge.Candid calls := by
        refine ⟨?_, ?_, fun hstate => absurd ?_ hstate⟩
        · rw [parked_acknowledge]
          exact h'.parked
        · rw [updates_acknowledge]
          exact h'.waiting
        · rw [loop_acknowledge]
      exact hfinished _ _ hacknowledged
  · rw [heq]
    exact hfinished _ _ hassembled

lemma iterate (h : w.Candid calls) (source : Source) (chance : Nat → Shuffle) :
    (w.iterate source chance).Candid calls := by
  rw [World.iterate]
  split
  · split
    · exact h
    · rename_i message w' htake
      refine (process ?_ message).settleTurn chance
      cases source <;> simp only [take?, Option.map_eq_some_iff] at htake <;>
        obtain ⟨⟨received, ch⟩, hreceive, heq⟩ := htake <;> cases heq
      · exact ⟨h.parked, by dsimp only; rw [Channel.waiting_receive? hreceive]; exact h.waiting, h.told⟩
      · exact h.congr rfl
      · exact h.congr rfl
  · exact h

/-- **Every move** keeps the loop candid. -/
lemma step (h : w.Candid calls) (m : Move) : (w.step m).Candid (calls ++ bans [m]) := by
  have hmore : w.Candid (calls ++ bans [m]) := h.mono fun _ => List.mem_append_left _
  cases m with
  | poll call v a => exact hmore.poll call v a
  | ban call v => exact hmore.ban (List.mem_append_right _ (mem_bans.2 ⟨v, List.mem_singleton_self _⟩)) v
  | resumeBan call => exact hmore.resumeBan call
  | admitUpdate => exact hmore.admitUpdate
  | iterate source chance => exact hmore.iterate source chance
  | request r =>
      dsimp only [World.step, request]
      split
      · exact hmore.congr rfl
      · exact hmore.congr rfl
      · rename_i ch hsend
        have hrefused : ({ w with requests := ch } : World).Candid _ := hmore.congr rfl
        exact hrefused.answer r.call fun hdone => by cases hdone
  | admitRequest =>
      dsimp only [World.step, admitRequest]
      split <;> exact hmore.congr rfl
  | launch =>
      dsimp only [World.step, launch]
      split <;> exact hmore.congr rfl
  | conclude =>
      dsimp only [World.step, conclude]
      split <;> exact hmore.congr rfl
  | drop =>
      have hclosed := hmore.closeQueues
      dsimp only [World.step, drop]
      split
      · exact ⟨hclosed.parked, hclosed.waiting, hclosed.told⟩
      · exact ⟨hclosed.parked, hclosed.waiting, hclosed.told⟩
      · exact hmore.congr rfl
  | _ => exact hmore.congr (reception_of_isWork rfl)

lemma run (h : w.Candid calls) (moves : List Move) : (w.run moves).Candid (calls ++ bans moves) := by
  induction moves generalizing w calls with
  | nil => simpa [bans] using h
  | cons m rest ih =>
      have hbans : bans (m :: rest) = bans [m] ++ bans rest := List.filterMap_append (l := [m])
      rw [hbans, ← List.append_assoc]
      exact ih (h.step m)

end Candid

lemma create_candid (settings : Settings) (latency : Latency) (isDisabled : NodeId → Bool) (net : Network)
    (wall : Instant) : (create settings latency isDisabled net wall).Candid [] where
  parked p hp := by cases hp
  waiting e he := by cases he
  told _ call hcall := by cases hcall

end World

end MixRounds.Live
