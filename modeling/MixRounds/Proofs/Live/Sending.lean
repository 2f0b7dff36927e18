import Mathlib.Data.List.Induction
import MixRounds.Proofs.Live.Profile
import MixRounds.Proofs.Live.Standing

/-!
# Who is told of, and until when

Two facts about the queue of notifications, for whoever needs to know what is *not* in it.

* A notification of a node is sent in a poll of that node, which is registered, or in a ban of it
  (`World.Reports`); in no other move the node gets on its way (**`World.unsent_of_step`**).
* A loop that has come to its end is deaf: its queue is closed and stays empty
  (**`World.deaf_of_run`**).
-/

namespace MixRounds.Live

/-- The loop is gone, and nobody can tell it anything. -/
structure Mail.Deaf (σ : Mail) : Prop where
  ended : ¬ σ.running
  closed : σ.closed
  empty : σ.messages = []

namespace World

variable {w : World} {v : NodeId}

/-- The node polls, and is registered; or it is banned. -/
def Reports (w : World) (m : Move) (v : NodeId) : Prop :=
  (∃ call a, m = .poll call v a ∧ w.status v ≠ some .unregistered) ∨ w.banning? m = some v

/-! ## Sending -/

lemma updates_enqueue (w : World) (who : Notifier) (n : Notification) (sent : Outcome) :
    (w.enqueue who n sent).updates = (w.updates.send who n).2 := by
  rw [enqueue]
  split <;> rename_i heq <;> rw [heq] <;> rfl

/-- A poll sends at most one notification, and that is of its node, which is registered. -/
lemma updates_poll (w : World) (call : CallId) (u : NodeId) (a : Activity) :
    (w.poll call u a).updates = w.updates ∨ ∃ who n, n.node = u ∧ w.status u ≠ some .unregistered ∧
      (w.poll call u a).updates = (w.updates.send who n).2 := by
  rw [poll]
  split
  · exact Or.inl rfl
  · rename_i node hnode
    split
    · exact Or.inl rfl
    · rename_i taken hacquire
      have htaken : taken.status = node.status := by
        have hsnd : node.tryAcquire.2 = taken := congrArg Prod.snd hacquire
        rw [← hsnd]
        rfl
      split
      · exact Or.inl rfl
      · rename_i seen hpoll
        exact Or.inl (updates_bringOnline _ u)
      · rename_i seen n hpoll
        have hnamed : n.node = u := by
          have hcases := taken.poll_cases u a w.wall
          rw [hpoll] at hcases
          rcases hcases with ⟨-, hnone⟩ | ⟨n', hn', hu, -⟩
          · exact absurd rfl (hnone n)
          · cases hn'
            exact hu
        have hstatus : w.status u = some taken.status := by rw [status, hnode, htaken, Option.map_some]
        refine Or.inr ⟨.poll call u, n, hnamed, ?_, ?_⟩
        · rcases (Node.poll_accepted hpoll).1 with hactive | hinactive
          · simp [hstatus, hactive]
          · simp [hstatus, hinactive]
        · rw [updates_enqueue, updates_bringOnline]
          rfl

/-- A ban sends a notification of its node, and of no other. -/
lemma updates_of_banning? {m : Move} (h : w.banning? m = some v) : ∃ who n, n.node = v ∧
    (w.step m).updates = (w.updates.send who n).2 := by
  obtain ⟨call, node, parked, -, -, hstep⟩ := step_of_banning? h
  refine ⟨.ban call v, (node.tryAcquire.2.ban v w.wall).2, rfl, ?_⟩
  rw [hstep, banFree, updates_enqueue]
  rfl

/-- **Who gets on its way**, as long as the loop neither takes a notification nor is destroyed. -/
lemma updates_of_isPostal {m : Move} (h : m.isPostal = true) :
    (w.step m).updates = w.updates ∨
      (∃ who n, w.Reports m n.node ∧ (w.step m).updates = (w.updates.send who n).2) ∨
      m = .drop ∨ ∃ source chance, m = .iterate source chance := by
  cases m with
  | poll call u a =>
      rcases w.updates_poll call u a with hsame | ⟨who, n, rfl, hstatus, hsent⟩
      · exact Or.inl hsame
      · exact Or.inr (Or.inl ⟨who, n, Or.inl ⟨call, a, rfl, hstatus⟩, hsent⟩)
  | ban call u =>
      cases hban : w.banning? (.ban call u) with
      | none => exact Or.inl (nodes_of_banning?_eq_none hban (Or.inl ⟨_, _, rfl⟩)).2
      | some u' =>
          obtain ⟨who, n, rfl, hsent⟩ := updates_of_banning? hban
          exact Or.inr (Or.inl ⟨who, n, Or.inr hban, hsent⟩)
  | resumeBan call =>
      cases hban : w.banning? (.resumeBan call) with
      | none => exact Or.inl (nodes_of_banning?_eq_none hban (Or.inr ⟨_, rfl⟩)).2
      | some u' =>
          obtain ⟨who, n, rfl, hsent⟩ := updates_of_banning? hban
          exact Or.inr (Or.inl ⟨who, n, Or.inr hban, hsent⟩)
  | drop => exact Or.inr (Or.inr (Or.inl rfl))
  | iterate source chance => exact Or.inr (Or.inr (Or.inr ⟨source, chance, rfl⟩))
  | _ => cases h

/-- **Only its own reports and bans** put a node on its way to the loop. -/
theorem unsent_of_step (hr : w.roster.Sound) (h : w.Unsent v) {m : Move} (hnot : ¬ w.Reports m v) :
    (w.step m).Unsent v := by
  cases hpostal : m.isPostal with
  | false =>
      have hmessages : (w.step m).updates.messages = w.updates.messages :=
        congrArg Mail.messages (mail_of_step hr hpostal)
      exact fun n hn => h n (hmessages ▸ hn)
  | true =>
      rcases updates_of_isPostal (w := w) hpostal with hsame | ⟨who, n, hreports, hsent⟩ | rfl |
        ⟨source, chance, rfl⟩
      · exact fun n hn => h n (hsame ▸ hn)
      · intro n' hn'
        rw [hsent, Channel.messages_send] at hn'
        split at hn'
        · exact h n' hn'
        · rcases List.mem_append.1 hn' with hn' | hn'
          · exact h n' hn'
          · rw [List.mem_singleton.1 hn']
            exact fun heq => hnot (heq ▸ hreports)
      · dsimp only [step, drop]
        split
        · exact fun n hn => by cases hn
        · exact fun n hn => by cases hn
        · exact h
      · exact unsent_iterate h source chance

/-! ## The end of the loop -/

lemma deaf_finish (w : World) (result : Except Setback Unit) : (w.finish result).mail.Deaf :=
  ⟨by simp [mail, handsOut_finish], rfl, rfl⟩

/-- A deaf loop stays deaf. -/
lemma deaf_of_deaf (hr : w.roster.Sound) (h : w.mail.Deaf) (m : Move) : (w.step m).mail.Deaf := by
  have hended : ¬ w.handsOut = true := h.ended
  cases hpostal : m.isPostal with
  | false => exact mail_of_step hr hpostal ▸ h
  | true =>
      have hafter : ¬ (w.step m).handsOut = true := fun hgoes => hended (handsOut_of_step hgoes)
      have hsame : (w.step m).updates = w.updates → (w.step m).mail.Deaf := fun heq =>
        ⟨hafter, by rw [mail, heq]; exact h.closed, by rw [mail, heq]; exact h.empty⟩
      rcases updates_of_isPostal (w := w) hpostal with heq | ⟨who, n, -, hsent⟩ | rfl |
        ⟨source, chance, rfl⟩
      · exact hsame heq
      · -- a closed queue takes nothing
        refine hsame (hsent.trans ?_)
        have hclosed : w.updates.closed = true := h.closed
        simp [Channel.send, hclosed]
      · dsimp only [step, drop] at hsame ⊢
        split
        · exact ⟨by simp [mail, handsOut], rfl, rfl⟩
        · exact ⟨by simp [mail, handsOut], rfl, rfl⟩
        · exact ⟨by simp [mail, handsOut], h.closed, h.empty⟩
      · have hstopped : w.isRunning = false := by
          rw [Bool.eq_false_iff]
          exact fun hrunning => hended (handsOut_of_isRunning hrunning)
        refine hsame ?_
        simp [step, iterate, hstopped]

/-- **How a turn ends**: the nodes, the queue of notifications and the stage of the loop are as they were, or
the loop is finished with nodes and queue as they were. -/
lemma settleTurn_stays_or_finishes (w : World) (chance : Nat → Shuffle) :
    ((w.settleTurn chance).shared.net.nodes = w.shared.net.nodes ∧
      (w.settleTurn chance).updates = w.updates ∧
      (w.settleTurn chance).loop.stage = w.loop.stage) ∨
    ∃ w' result, w.settleTurn chance = finish w' result ∧
      w'.shared.net.nodes = w.shared.net.nodes ∧ w'.updates = w.updates := by
  obtain ⟨hnodes, -, hupdates, hstage⟩ :=
    assembleFrom_frame (w.shared.pool.online.length + 1) chance w
  rcases w.settleTurn_cases chance with ⟨w', hw', heq⟩ | ⟨setback, heq⟩
  · have hframe : w'.shared.net.nodes = w.shared.net.nodes ∧ w'.updates = w.updates ∧
        w'.loop.stage = w.loop.stage := by
      rcases hw' with rfl | ⟨rfl, -⟩
      · exact ⟨rfl, rfl, rfl⟩
      · exact ⟨hnodes, hupdates, hstage⟩
    rcases heq with heq | heq
    · exact Or.inl (heq ▸ hframe)
    · have hacknowledged : w'.acknowledge.updates = w'.updates :=
        read_acknowledge updates (fun _ _ => rfl) (fun _ => rfl) w'
      exact Or.inr ⟨w'.acknowledge, _, heq, by rw [shared_acknowledge, hframe.1],
        hacknowledged.trans hframe.2.1⟩
  · exact Or.inr ⟨_, _, heq, hnodes, hupdates⟩

/-- A turn that ends the loop finishes it. -/
lemma finishes_of_end (hgoes : w.handsOut = true) {chance : Nat → Shuffle}
    (hends : (w.settleTurn chance).handsOut = false) :
    ∃ w' result, w.settleTurn chance = finish w' result ∧
      w'.shared.net.nodes = w.shared.net.nodes ∧ w'.updates = w.updates := by
  refine (w.settleTurn_stays_or_finishes chance).resolve_left fun ⟨_, _, hstage⟩ => ?_
  rw [handsOut, hstage, ← handsOut, hgoes] at hends
  cases hends

lemma deaf_settleTurn (hgoes : w.handsOut = true) {chance : Nat → Shuffle}
    (hends : (w.settleTurn chance).handsOut = false) : (w.settleTurn chance).mail.Deaf := by
  obtain ⟨w', result, heq, -, -⟩ := finishes_of_end hgoes hends
  exact heq ▸ deaf_finish w' result

/-- **A loop that ends is deaf.** -/
lemma deaf_of_end {m : Move} (hgoes : w.handsOut = true) (hends : (w.step m).handsOut = false) :
    (w.step m).mail.Deaf := by
  have hsame : (w.step m).loop = w.loop → (w.step m).mail.Deaf := by
    intro heq
    rw [handsOut, heq, ← handsOut, hgoes] at hends
    cases hends
  rcases m.call_or_work with hcall | hwork | rfl | rfl | rfl | ⟨source, chance, rfl⟩
  · exact hsame (congrArg Interior.loop (interior_of_isCall hcall))
  · exact hsame (congrArg Exterior.loop (exterior_of_isWork hwork))
  · dsimp only [step, launch] at hends
    split at hends
    · cases hends
    · rw [hgoes] at hends
      cases hends
  · dsimp only [step, conclude] at hends
    split at hends
    · rename_i hstage _
      simp [handsOut, hstage] at hgoes
    · rw [hgoes] at hends
      cases hends
  · dsimp only [step, drop]
    split
    · exact ⟨by simp [mail, handsOut], rfl, rfl⟩
    · exact ⟨by simp [mail, handsOut], rfl, rfl⟩
    · simp [handsOut] at hgoes
  · dsimp only [step] at hends hsame ⊢
    rcases w.iterate_cases source chance with heq | ⟨message, w', htaken, heq⟩
    · exact hsame (by rw [heq])
    · rw [heq] at hends ⊢
      refine deaf_settleTurn ?_ hends
      rw [handsOut, stage_process]
      cases htaken <;> exact hgoes

/-- **A loop that has come to its end is deaf**, in every run. -/
theorem deaf_of_run (hr : w.roster.Sound) (hgoes : w.handsOut = true) {moves : List Move}
    (hends : (w.run moves).handsOut = false) : (w.run moves).mail.Deaf := by
  induction moves using List.reverseRecOn with
  | nil =>
      rw [run_nil, hgoes] at hends
      cases hends
  | append_singleton moves m ih =>
      rw [run_snoc] at hends ⊢
      cases hbefore : (w.run moves).handsOut with
      | true => exact deaf_of_end hbefore hends
      | false => exact deaf_of_deaf (run_sound hr moves) (ih hbefore) m

end World

end MixRounds.Live
