import Mathlib.Data.List.Induction
import MixRounds.Node.Latch

/-!
# No caller sleeps through a release

A caller that tries a node in vain goes to sleep, and only a call wakes it.  A release frees the node
first and calls afterwards, and in between everyone else may act: the node may be taken again, and others
may sign up, try, and lie down.  So a sleeper may be called for nothing, and has to try once more; what
must not happen is that the node is free and nobody is going to call it.

The reason why it does not is the order of the steps (`Latch.Sound`).  Who has tried in vain has found the
node taken *after* it had signed up; so if the node has become free since, then the call of that release
is still to come, or it came after the caller had signed up, and then it counts for it.

* `Latch.acquisitions_le_one` — as long as nobody frees the node, it is taken at most once.
* `Latch.run_sound` — the order of the steps is kept by everyone.
* **`Latch.attentive_of_run`** — in every state that any steps of any callers lead to: no one sleeps
  beside a free node without a call on its way; a caller that waits goes on waiting until it has the node;
  and if the node is free, then the calls that are still to be made and its own steps are enough for that.
-/

namespace MixRounds

namespace Stance

/-- How many calls had been made when the caller signed up; none if it has to sign up first. -/
def ticket? : Stance → Option Nat
  | .signed calls | .rebuffed calls | .asleep calls => some calls
  | .away | .called => none

/-- How many calls had been made when a caller signed up that has tried in vain since. -/
def inVain? : Stance → Option Nat
  | .rebuffed calls | .asleep calls => some calls
  | .away | .signed _ | .called => none

end Stance

namespace Latch

variable {l : Latch} {t : Turn} {caller : Nat}

/-! ## The node is taken once -/

/-- Only a free node is taken, and then it is not free. -/
lemma handoff_of_takes (h : l.takes t = true) :
    l.handoff = .released ∧ (l.step t).handoff = .locked := by
  cases t with
  | enter caller =>
      rw [takes] at h
      split at h
      · rename_i calls hstance
        have hfree := (Handoff.tryAcquire_fst_iff _).1 h
        exact ⟨hfree, by simp [step, hstance, hfree, Handoff.tryAcquire, place]⟩
      · cases h
  | grab =>
      have hfree := (Handoff.tryAcquire_fst_iff _).1 h
      exact ⟨hfree, by simp [step, hfree, Handoff.tryAcquire]⟩
  | _ => cases h

/-- Only a release makes a node free. -/
lemma handoff_step_ne_released (htaken : l.handoff ≠ .released) (ht : t ≠ .free) :
    (l.step t).handoff ≠ .released := by
  cases t with
  | free => exact absurd rfl ht
  | enter caller =>
      cases hhands : l.handoff with
      | released => exact absurd hhands htaken
      | locked => simp only [step, hhands, Handoff.tryAcquire, place]; split <;> simp [hhands]
      | owned => simp only [step, hhands, Handoff.tryAcquire, place]; split <;> simp [hhands]
  | grab | takeOver =>
      revert htaken
      cases hhands : l.handoff <;> simp [step, hhands, Handoff.tryAcquire, Handoff.takeOwnership]
  | signUp caller | lieDown caller =>
      rw [step]
      split <;> exact htaken
  | wake caller =>
      rw [step]
      split
      · split <;> exact htaken
      · exact htaken
  | announce =>
      rw [step]
      split <;> exact htaken

/-- How often the node is taken in a history. -/
def acquisitions (l : Latch) : List Turn → Nat
  | [] => 0
  | t :: rest => (if l.takes t then 1 else 0) + (l.step t).acquisitions rest

lemma acquisitions_eq_zero {turns : List Turn} (htaken : l.handoff ≠ .released)
    (hkept : Turn.free ∉ turns) : l.acquisitions turns = 0 := by
  induction turns generalizing l with
  | nil => rfl
  | cons t rest ih =>
      rw [List.mem_cons, not_or] at hkept
      have hnot : ¬ l.takes t = true := fun h => htaken (handoff_of_takes h).1
      rw [acquisitions, if_neg hnot, ih (handoff_step_ne_released htaken (Ne.symm hkept.1)) hkept.2]

/-- **Between two releases the node is taken at most once.** -/
theorem acquisitions_le_one {turns : List Turn} (hkept : Turn.free ∉ turns) :
    l.acquisitions turns ≤ 1 := by
  induction turns generalizing l with
  | nil => exact Nat.zero_le 1
  | cons t rest ih =>
      rw [List.mem_cons, not_or] at hkept
      rw [acquisitions]
      split
      · rename_i htakes
        have hlocked : (l.step t).handoff ≠ .released := by simp [(handoff_of_takes htakes).2]
        have hnone := acquisitions_eq_zero hlocked hkept.2
        omega
      · rw [Nat.zero_add]
        exact ih hkept.2

/-! ## The order of the steps -/

/-- What the order of the steps keeps. -/
structure Sound (l : Latch) : Prop where
  ticket_le : ∀ c calls, (l.stance c).ticket? = some calls → calls ≤ l.calls
  /-- If someone has tried in vain, was not called since it signed up, and finds the node free, then the
  release has not called yet. -/
  unannounced_pos : ∀ c, (l.stance c).inVain? = some l.calls → l.handoff = .released →
    0 < l.unannounced

namespace Sound

lemma fresh_sound : fresh.Sound where
  ticket_le c calls h := by cases h
  unannounced_pos c h := by cases h

/-- A caller may change its stance. -/
lemma place (h : l.Sound) {s : Stance} (hticket : ∀ calls, s.ticket? = some calls → calls ≤ l.calls)
    (hvain : s.inVain? = some l.calls → l.handoff = .released → 0 < l.unannounced) :
    (l.place caller s).Sound where
  ticket_le c calls hc := by
    by_cases heq : c = caller
    · rw [heq, stance_place_self] at hc
      exact hticket calls hc
    · rw [stance_place_of_ne l s heq] at hc
      exact h.ticket_le c calls hc
  unannounced_pos c hc := by
    by_cases heq : c = caller
    · rw [heq, stance_place_self] at hc
      exact hvain hc
    · rw [stance_place_of_ne l s heq] at hc
      exact h.unannounced_pos c hc

/-- The node may be taken. -/
lemma take (h : l.Sound) {hands : Handoff} (htaken : hands = .released → l.handoff = .released) :
    { l with handoff := hands }.Sound where
  ticket_le := h.ticket_le
  unannounced_pos c hc hfree := h.unannounced_pos c hc (htaken hfree)

lemma signUp (h : l.Sound) : (l.step (.signUp caller)).Sound := by
  rw [step]
  split
  · exact h.place (fun calls hcalls => by cases hcalls; exact Nat.le_refl _) nofun
  · exact h.place (fun calls hcalls => by cases hcalls; exact Nat.le_refl _) nofun
  · exact h

/-- Who tries in vain has found the node taken. -/
lemma enter (h : l.Sound) : (l.step (.enter caller)).Sound := by
  rw [step]
  split
  · rename_i calls hstance
    cases hhands : l.handoff with
    | released =>
        have htaken : { l with handoff := Handoff.locked }.Sound := h.take nofun
        exact htaken.place nofun nofun
    | locked | owned =>
        refine h.place (fun calls' hcalls => ?_) fun _ hfree => ?_
        · cases hcalls
          exact h.ticket_le caller calls (by rw [hstance]; rfl)
        · rw [hhands] at hfree
          cases hfree
  · exact h

lemma lieDown (h : l.Sound) : (l.step (.lieDown caller)).Sound := by
  rw [step]
  split
  · rename_i calls hstance
    split
    · refine h.place (fun calls' hcalls => ?_) fun hvain hfree => ?_
      · cases hcalls
        exact h.ticket_le caller calls (by rw [hstance]; rfl)
      · exact h.unannounced_pos caller (by rw [hstance]; exact hvain) hfree
    · exact h.place nofun nofun
  · exact h

lemma wake (h : l.Sound) : (l.step (.wake caller)).Sound := by
  rw [step]
  split
  · split
    · exact h
    · exact h.place nofun nofun
  · exact h

/-- A call counts for everyone who has signed up. -/
lemma announce (h : l.Sound) : (l.step .announce).Sound := by
  rw [step]
  split
  · exact h
  · refine ⟨fun c calls hc => Nat.le_succ_of_le (h.ticket_le c calls hc), fun c hc => ?_⟩
    have hticket : (l.stance c).ticket? = some (l.calls + 1) := by
      cases hstance : l.stance c <;> simp_all [Stance.ticket?, Stance.inVain?]
    have hle := h.ticket_le c _ hticket
    omega

end Sound

/-- **Every step keeps the order.** -/
theorem step_sound (h : l.Sound) (t : Turn) : (l.step t).Sound := by
  cases t with
  | signUp caller => exact h.signUp
  | enter caller => exact h.enter
  | lieDown caller => exact h.lieDown
  | wake caller => exact h.wake
  | grab => exact h.take (by cases l.handoff <;> simp [Handoff.tryAcquire])
  | takeOver => exact h.take (by cases l.handoff <;> simp [Handoff.takeOwnership])
  | free => exact ⟨h.ticket_le, fun _ _ _ => Nat.succ_pos _⟩
  | announce => exact h.announce

theorem run_sound (turns : List Turn) : (fresh.run turns).Sound := by
  induction turns using List.reverseRecOn with
  | nil => exact Sound.fresh_sound
  | append_singleton turns t ih =>
      rw [run_append]
      exact step_sound ih t

/-! ## Nobody is forgotten -/

/-- The caller whose step it is. -/
def Turn.caller? : Turn → Option Nat
  | .signUp caller | .enter caller | .lieDown caller | .wake caller => some caller
  | _ => none

/-- A step of the caller, or a call that is still to be made. -/
def Turn.IsOwn (caller : Nat) (t : Turn) : Prop := t = .announce ∨ t.caller? = some caller

@[simp] lemma Turn.isOwn_announce : Turn.announce.IsOwn caller := Or.inl rfl

@[simp] lemma Turn.isOwn_signUp : (Turn.signUp caller).IsOwn caller := Or.inr rfl

/-- **Who sleeps beside a free node** will be called. -/
lemma Sound.not_forgotten (h : l.Sound) (hsleeps : l.sleeps caller = true)
    (hfree : l.handoff = .released) : 0 < l.unannounced := by
  rw [sleeps] at hsleeps
  split at hsleeps
  · rename_i calls hstance
    obtain rfl := beq_iff_eq.1 hsleeps
    exact h.unannounced_pos caller (by rw [hstance]; rfl) hfree
  · cases hsleeps

/-- A caller that waits goes on waiting until it has the node. -/
lemma stance_step_ne_away (hwaits : l.stance caller ≠ .away) (t : Turn) :
    (l.step t).stance caller ≠ .away ∨ t = .enter caller ∧ l.takes t = true := by
  have hplace : ∀ (l' : Latch) (c : Nat) (s : Stance), l'.stance = l.stance → s ≠ .away →
      (l'.place c s).stance caller ≠ .away := by
    intro l' c s hsame hs
    by_cases heq : caller = c
    · rwa [heq, stance_place_self]
    · rwa [stance_place_of_ne l' s heq, hsame]
  cases t with
  | enter c =>
      by_cases hc : caller = c
      · subst hc
        cases hstance : l.stance caller with
        | signed calls =>
            cases hhands : l.handoff with
            | released => exact Or.inr ⟨rfl, by simp [takes, hstance, hhands, Handoff.tryAcquire]⟩
            | locked | owned =>
                refine Or.inl ?_
                simp only [step, hstance, hhands, Handoff.tryAcquire]
                exact hplace l caller _ rfl (by simp)
        | away => exact absurd hstance hwaits
        | rebuffed calls | asleep calls | called => exact Or.inl (by simp [step, hstance])
      · refine Or.inl ?_
        rw [step]
        split
        · split <;> rwa [stance_place_of_ne _ _ hc]
        · exact hwaits
  | signUp c =>
      refine Or.inl ?_
      rw [step]
      split
      · exact hplace l c _ rfl (by simp)
      · exact hplace l c _ rfl (by simp)
      · exact hwaits
  | lieDown c =>
      refine Or.inl ?_
      rw [step]
      split
      · exact hplace l c _ rfl (by split <;> simp)
      · exact hwaits
  | wake c =>
      refine Or.inl ?_
      rw [step]
      split
      · split
        · exact hwaits
        · exact hplace l c _ rfl (by simp)
      · exact hwaits
  | announce =>
      refine Or.inl ?_
      rw [step]
      split <;> exact hwaits
  | grab | takeOver | free => exact Or.inl hwaits

/-- Who has signed up takes a free node. -/
lemma takes_enter {calls : Nat} (hstance : l.stance caller = .signed calls)
    (hfree : l.handoff = .released) : l.takes (.enter caller) = true := by
  simp [takes, hstance, hfree, Handoff.tryAcquire]

/-- Who was called signs up, and then it takes a free node. -/
lemma takes_signUp (hstance : l.stance caller = .called) (hfree : l.handoff = .released) :
    (l.step (.signUp caller)).takes (.enter caller) = true := by
  have hsigned : (l.step (.signUp caller)).stance caller = .signed l.calls := by simp [step, hstance]
  exact takes_enter hsigned (by simpa [step, hstance] using hfree)

/-- A caller that has tried in vain, before or after it lies down, makes one step when it is called. -/
lemma step_of_inVain {calls : Nat} (hvain : (l.stance caller).inVain? = some calls) :
    ∃ t : Turn, t.IsOwn caller ∧ ∀ l' : Latch, l'.stance caller = l.stance caller →
      calls ≠ l'.calls → (l'.step t).stance caller = .called ∧ (l'.step t).handoff = l'.handoff := by
  cases hstance : l.stance caller with
  | rebuffed calls' =>
      obtain rfl : calls' = calls := by simpa [hstance, Stance.inVain?] using hvain
      exact ⟨.lieDown caller, Or.inr rfl, fun l' hl' hne => by simp [step, hl', hne]⟩
  | asleep calls' =>
      obtain rfl : calls' = calls := by simpa [hstance, Stance.inVain?] using hvain
      exact ⟨.wake caller, Or.inr rfl, fun l' hl' hne => by simp [step, hl', hne]⟩
  | _ => simp [hstance, Stance.inVain?] at hvain

/-- **A free node is to be had** by anyone who waits for it. -/
lemma Sound.exists_takes (h : l.Sound) (hfree : l.handoff = .released)
    (hwaits : l.stance caller ≠ .away) :
    ∃ turns : List Turn, (∀ t ∈ turns, t.IsOwn caller) ∧
      (l.run turns).takes (.enter caller) = true := by
  have hinVain : ∀ calls, (l.stance caller).inVain? = some calls → ∃ turns : List Turn,
      (∀ t ∈ turns, t.IsOwn caller) ∧ (l.run turns).takes (.enter caller) = true := by
    intro calls hvain
    obtain ⟨t, hown, hstep⟩ := step_of_inVain hvain
    by_cases hcalls : calls = l.calls
    · -- the call is still to be made
      have hpos := h.unannounced_pos caller (hcalls ▸ hvain) hfree
      have hannounced : l.step .announce = { l with
          calls := l.calls + 1, unannounced := l.unannounced - 1 } := if_neg (Nat.ne_of_gt hpos)
      obtain ⟨hcalled, hhands⟩ := hstep (l.step .announce) (by rw [hannounced])
        (by rw [hannounced, hcalls]; exact Nat.ne_of_lt (Nat.lt_succ_self _))
      refine ⟨[.announce, t, .signUp caller], ?_, takes_signUp hcalled ?_⟩
      · simp [hown]
      · rwa [hhands, hannounced]
    · obtain ⟨hcalled, hhands⟩ := hstep l rfl hcalls
      refine ⟨[t, .signUp caller], ?_, takes_signUp hcalled (hhands.trans hfree)⟩
      simp [hown]
  cases hstance : l.stance caller with
  | away => exact absurd hstance hwaits
  | signed calls => exact ⟨[], nofun, takes_enter hstance hfree⟩
  | called => exact ⟨[.signUp caller], by simp, takes_signUp hstance hfree⟩
  | rebuffed calls | asleep calls => exact hinVain calls (by rw [hstance]; rfl)

/-- What callers can rely on after these steps. -/
structure Attentive (turns : List Turn) : Prop where
  /-- Between two releases, before the first and after the last, the node was taken at most once. -/
  taken_once : ∀ before between after, turns = before ++ between ++ after → Turn.free ∉ between →
    (fresh.run before).acquisitions between ≤ 1
  /-- It is not the case that the node is free, a caller sleeps that no call has reached, and no release
  has yet to call. -/
  none_forgotten : ¬ ((fresh.run turns).handoff = .released ∧ (fresh.run turns).unannounced = 0 ∧
    ∃ caller, (fresh.run turns).sleeps caller = true)
  /-- Whatever is done next, a caller that waits goes on waiting, unless it has just taken the node. -/
  waits_on : ∀ caller t, (fresh.run turns).stance caller ≠ .away →
    (fresh.run (turns ++ [t])).stance caller ≠ .away ∨
      t = .enter caller ∧ (fresh.run turns).takes t = true
  /-- If the node is free, a caller that waits takes it after some of its own steps and the calls that are
  still to be made. -/
  served : ∀ caller, (fresh.run turns).handoff = .released → (fresh.run turns).stance caller ≠ .away →
    ∃ own : List Turn, (∀ t ∈ own, t.IsOwn caller) ∧
      (fresh.run (turns ++ own)).takes (.enter caller) = true

/-- **No caller sleeps through a release**, whatever steps are made by whomever and in whatever order. -/
theorem attentive_of_run (turns : List Turn) : Attentive turns where
  taken_once _ _ _ _ hkept := acquisitions_le_one hkept
  none_forgotten := by
    rintro ⟨hfree, hquiet, caller, hsleeps⟩
    have hpos := (run_sound turns).not_forgotten hsleeps hfree
    omega
  waits_on caller t hwaits := by
    rw [run_append]
    exact stance_step_ne_away hwaits t
  served caller hfree hwaits := by
    obtain ⟨own, hown, htakes⟩ := (run_sound turns).exists_takes hfree hwaits
    exact ⟨own, hown, by rwa [run_append]⟩

/-- The node is freed after the caller has tried it and before it lies down: it does sleep beside a free
node, until it is called. -/
example :
    let l := fresh.run [.grab, .signUp 1, .enter 1, .free]
    (l.step (.lieDown 1)).sleeps 1 = true ∧ (l.step (.lieDown 1)).handoff = .released ∧
      (l.step (.lieDown 1)).unannounced = 1 ∧
      ((l.step .announce).step (.lieDown 1)).stance 1 = .called := by
  decide

end Latch

end MixRounds
