import MixRounds.Proofs.Live.Frame

/-!
# The settings and the two clocks

Nothing changes the settings of a scheduler, and only time moves its clocks.  Neither goes back: the one of
the timers stops at what is due, the one on the wall does not.  `World.conditions` are these three together,
and **`World.conditions_of_step`** says that all other moves are made under one set of conditions.
-/

namespace MixRounds.Live

/-- Under what conditions a move is made. -/
structure Conditions where
  settings : Settings
  clock : Nat
  wall : Instant

/-- A move that lets time pass. -/
def Move.isTime : Move → Bool
  | .pass _ | .wallPass _ => true
  | _ => false

namespace World

/-- The settings, and what the clocks show. -/
def conditions (w : World) : Conditions := ⟨w.settings, w.clock, w.wall⟩

variable {w : World}

@[simp] lemma conditions_bringOnline (w : World) (v : NodeId) :
    (w.bringOnline v).conditions = w.conditions := by
  rw [bringOnline_eq]
  rfl

@[simp] lemma conditions_enqueue (w : World) (who : Notifier) (n : Notification) (sent : Outcome) :
    (w.enqueue who n sent).conditions = w.conditions := by
  rw [enqueue]
  split <;> rfl

lemma conditions_poll (w : World) (call : CallId) (v : NodeId) (a : Activity) :
    (w.poll call v a).conditions = w.conditions := by
  rw [poll]
  split
  · rfl
  · split
    · rfl
    · split
      · rfl
      · exact conditions_bringOnline _ v
      · exact (conditions_enqueue ..).trans (conditions_bringOnline _ v)

lemma conditions_ban (w : World) (call : CallId) (v : NodeId) :
    (w.ban call v).conditions = w.conditions := by
  rw [ban]
  split
  · rfl
  · split
    · exact conditions_enqueue ..
    · rfl

lemma conditions_resumeBan (w : World) (call : CallId) :
    (w.resumeBan call).conditions = w.conditions := by
  rw [resumeBan]
  split
  · rfl
  · split
    · rfl
    · split
      · exact conditions_enqueue ..
      · rfl

lemma conditions_assembleOne (w : World) (chance : Shuffle) :
    (w.assembleOne chance).1.conditions = w.conditions := by
  rw [assembleOne_eq]
  rfl

lemma conditions_closeQueues (w : World) : w.closeQueues.conditions = w.conditions :=
  read_closeQueues conditions (fun _ _ => rfl) (fun _ _ => rfl) (fun _ => rfl) w

lemma conditions_settleTurn (w : World) (chance : Nat → Shuffle) :
    (w.settleTurn chance).conditions = w.conditions :=
  read_settleTurn conditions (read_assembleFrom conditions conditions_assembleOne _ chance w)
    (read_acknowledge conditions (fun _ _ => rfl) fun _ => rfl) fun w _ => conditions_closeQueues w

lemma conditions_iterate (w : World) (source : Source) (chance : Nat → Shuffle) :
    (w.iterate source chance).conditions = w.conditions := by
  rw [iterate]
  split
  · split
    · rfl
    · rename_i m w' htake
      rw [conditions_settleTurn, process_eq, take?_eq htake]
      rfl
  · rfl

lemma conditions_report (w : World) (e : Event) : (w.report e).conditions = w.conditions := by
  rw [report]
  split <;> rfl

/-- **Only time moves the clocks**, and nothing changes the settings. -/
theorem conditions_of_step {m : Move} (h : m.isTime = false) : (w.step m).conditions = w.conditions := by
  cases m with
  | poll call v a => exact conditions_poll w call v a
  | ban call v => exact conditions_ban w call v
  | resumeBan call => exact conditions_resumeBan w call
  | iterate source chance => exact conditions_iterate w source chance
  | request r =>
      dsimp only [step, request]
      split <;> rfl
  | admitUpdate =>
      dsimp only [step, admitUpdate]
      split <;> rfl
  | admitEvent =>
      dsimp only [step, admitEvent]
      split <;> rfl
  | admitRequest =>
      dsimp only [step, admitRequest]
      split <;> rfl
  | takeProto =>
      dsimp only [step, takeProto]
      split
      · rfl
      · split <;> rfl
      · rfl
  | attempt =>
      dsimp only [step, attempt]
      split
      · split
        · rfl
        · split <;> exact conditions_report _ _
      · rfl
  | conclude =>
      dsimp only [step, conclude]
      split <;> rfl
  | leave x =>
      dsimp only [step, leave]
      split
      · split <;> rfl
      · rfl
  | expire x =>
      dsimp only [step, expire]
      split <;> rfl
  | sweep =>
      dsimp only [step, sweep]
      split
      · rfl
      · split <;> rfl
  | launch =>
      dsimp only [step, launch]
      split <;> rfl
  | drop =>
      dsimp only [step, drop]
      split
      · exact conditions_closeQueues w
      · exact conditions_closeQueues w
      · rfl
  | pass ms | wallPass nanos => cases h

lemma settings_of_step (w : World) (m : Move) : (w.step m).settings = w.settings := by
  cases htime : m.isTime with
  | false => exact congrArg Conditions.settings (conditions_of_step htime)
  | true =>
      cases m with
      | pass ms =>
          dsimp only [step, pass]
          split <;> rfl
      | wallPass nanos => rfl
      | _ => cases htime

/-- **Time does not go back.** -/
lemma clocks_of_step (w : World) (m : Move) :
    w.clock ≤ (w.step m).clock ∧ w.wall.total ≤ (w.step m).wall.total := by
  cases htime : m.isTime with
  | false =>
      have hsame := conditions_of_step (w := w) htime
      exact ⟨Nat.le_of_eq (congrArg Conditions.clock hsame).symm,
        Int.le_of_eq (congrArg (fun c => c.wall.total) hsame).symm⟩
  | true =>
      cases m with
      | pass ms =>
          dsimp only [step, pass]
          split
          · exact ⟨Nat.le_add_right _ _, Int.le_refl _⟩
          · exact ⟨Nat.le_refl _, Int.le_refl _⟩
      | wallPass nanos =>
          refine ⟨Nat.le_refl _, ?_⟩
          simp only [step, Instant.total_ofNanos]
          omega
      | _ => cases htime

lemma settings_run (w : World) (moves : List Move) : (w.run moves).settings = w.settings := by
  induction moves generalizing w with
  | nil => rfl
  | cons m rest ih => exact (ih _).trans (settings_of_step w m)

lemma clocks_run (w : World) (moves : List Move) :
    w.clock ≤ (w.run moves).clock ∧ w.wall.total ≤ (w.run moves).wall.total := by
  induction moves generalizing w with
  | nil => exact ⟨Nat.le_refl _, Int.le_refl _⟩
  | cons m rest ih =>
      obtain ⟨hclock, hwall⟩ := clocks_of_step w m
      obtain ⟨hclock', hwall'⟩ := ih (w.step m)
      exact ⟨Nat.le_trans hclock hclock', Int.le_trans hwall hwall'⟩

end World

end MixRounds.Live
