import MixRounds.Proofs.Live.Reception

/-!
# What one call is told

A caller makes its call under a number that is not in use, and what is told to that number from then on is
told to this call: at once, when the caller moves up in line, or when the loop is gone and whoever stands in
line is turned away.

`World.Owed` bounds what a call was told and what may still come, and **`World.Owed.run`** says that the
bound stays as long as nobody else makes a call under the same number.
-/

namespace MixRounds.Live

/-- The number of the call that a move makes. -/
def Move.call? : Move → Option CallId
  | .poll call .. | .ban call _ => some call
  | .request r => some r.call
  | _ => none

namespace World

variable {w : World} {call c : CallId} {P Q : Outcome → Prop}

/-- Whatever the call was told satisfies `P`, and so does whatever it may still be told: it stands in line
with its notification, or nowhere. -/
structure Owed (w : World) (call : CallId) (P : Outcome → Prop) : Prop where
  told : ∀ o, (call, o) ∈ w.answers → P o
  /-- Whoever stands in line moves up, or is turned away. -/
  waiting : ∀ e ∈ w.updates.waiting, e.1.call = call → P (Notifier.sent e.1) ∧ P (.refused .channelClosed)
  parked : ∀ p ∈ w.parked, p.1 ≠ call
  asked : ∀ r ∈ w.requests.messages, r.call ≠ call
  acks : ∀ c ∈ w.loop.acks, c ≠ call

/-- Nobody has made a call under this number. -/
def IsUnused (w : World) (call : CallId) : Prop := w.Owed call fun _ => False

lemma requests_bringOnline (w : World) (v : NodeId) : (w.bringOnline v).requests = w.requests := by
  rw [bringOnline_eq]
  rfl

lemma requests_acknowledge (w : World) : w.acknowledge.requests = w.requests :=
  read_acknowledge requests (fun _ _ => rfl) (fun _ => rfl) w

namespace Owed

lemma mono (h : w.Owed call P) (hsub : ∀ o, P o → Q o) : w.Owed call Q where
  told o ho := hsub o (h.told o ho)
  waiting e he hcall := (h.waiting e he hcall).imp (hsub _) (hsub _)
  parked := h.parked
  asked := h.asked
  acks := h.acks

lemma congr (h : w.Owed call P) {w' : World} (hreception : w'.reception = w.reception)
    (hrequests : w'.requests = w.requests) : w'.Owed call P where
  told := by
    rw [show w'.answers = w.answers from congrArg Reception.answers hreception]
    exact h.told
  waiting := by
    rw [show w'.updates.waiting = w.updates.waiting from congrArg Reception.waiting hreception]
    exact h.waiting
  parked := by rw [show w'.parked = w.parked from congrArg Reception.parked hreception]; exact h.parked
  asked := hrequests ▸ h.asked
  acks := by
    rw [show w'.loop.acks = w.loop.acks from congrArg Reception.acks hreception]
    exact h.acks

lemma answer (h : w.Owed call P) {o : Outcome} (ho : c = call → P o) : (w.answer c o).Owed call P where
  told o' ho' := by
    rcases List.mem_append.1 ho' with ho' | ho'
    · exact h.told o' ho'
    · cases List.mem_singleton.1 ho'
      exact ho rfl
  waiting := h.waiting
  parked := h.parked
  asked := h.asked
  acks := h.acks

/-! ## Callers -/

/-- Whoever sends is told what it sent, or stands in line. -/
lemma enqueue (h : w.Owed call P) (who : Notifier) (n : Notification)
    (hwho : who.call = call → P (Notifier.sent who) ∧ P (.refused .channelClosed)) :
    (w.enqueue who n (Notifier.sent who)).Owed call P := by
  have hsent : ∀ sent ch, w.updates.send who n = (sent, ch) →
      ({ w with updates := ch } : World).Owed call P := by
    intro sent ch hsend
    refine ⟨h.told, fun e he => ?_, h.parked, h.asked, h.acks⟩
    have hch : (w.updates.send who n).2 = ch := by rw [hsend]
    rcases Channel.mem_waiting_send (hch ▸ he) with he | rfl
    · exact h.waiting e he
    · exact hwho
  rw [World.enqueue]
  split <;> rename_i ch hsend
  · exact (hsent _ ch hsend).answer fun hcall => (hwho hcall).1
  · exact hsent _ ch hsend
  · have hreleased : (({ w with updates := ch } : World).mapNode who.node Node.release).Owed call P :=
      (hsent _ ch hsend).congr rfl rfl
    exact hreleased.answer fun hcall => (hwho hcall).2

lemma poll (h : w.Owed call P) (hc : c ≠ call) (v : NodeId) (a : Activity) :
    (w.poll c v a).Owed call P := by
  have hback : ∀ seen : Node, ((w.mapNode v fun _ => seen).bringOnline v).Owed call P := fun seen =>
    h.congr (reception_bringOnline (w.mapNode v fun _ => seen) v)
      (requests_bringOnline (w.mapNode v fun _ => seen) v)
  rw [World.poll]
  split
  · exact h.answer fun heq => absurd heq hc
  · split
    · exact h.answer fun heq => absurd heq hc
    · split
      · rename_i seen fault hpoll
        have hseen : (w.mapNode v fun _ => seen.release).Owed call P := h.congr rfl rfl
        exact hseen.answer fun heq => absurd heq hc
      · rename_i seen hpoll
        have hreleased : (((w.mapNode v fun _ => seen).bringOnline v).mapNode v Node.release).Owed call P :=
          (hback seen).congr rfl rfl
        exact hreleased.answer fun heq => absurd heq hc
      · exact (hback _).enqueue (.poll c v) _ fun heq => absurd heq hc

lemma banFree (h : w.Owed call P) (hc : c ≠ call) (v : NodeId) (node : Node) :
    (w.banFree c v node).Owed call P := by
  have hbanned : ∀ f : Node → Node, (w.mapNode v f).Owed call P := fun f => h.congr rfl rfl
  exact (hbanned _).enqueue (.ban c v) _ fun heq => absurd heq hc

lemma ban (h : w.Owed call P) (hc : c ≠ call) (v : NodeId) : (w.ban c v).Owed call P := by
  rw [World.ban]
  split
  · exact h.answer fun heq => absurd heq hc
  · split
    · exact h.banFree hc v _
    · refine ⟨h.told, h.waiting, fun p hp => ?_, h.asked, h.acks⟩
      rcases List.mem_append.1 hp with hp | hp
      · exact h.parked p hp
      · rw [List.mem_singleton.1 hp]
        exact hc

/-- A ban that goes on is one that was parked. -/
lemma resumeBan (h : w.Owed call P) (c : CallId) : (w.resumeBan c).Owed call P := by
  rw [World.resumeBan]
  split
  · exact h
  · rename_i c' v hfind
    split
    · exact h
    · split
      · have hc' : c' = c := by simpa using List.find?_some hfind
        have hc : c ≠ call := hc' ▸ h.parked _ (List.mem_of_find?_eq_some hfind)
        have hleft : ({ w with parked := w.parked.filter fun p => p.1 ≠ c } : World).Owed call P :=
          ⟨h.told, h.waiting, fun p hp => h.parked p (List.mem_filter.1 hp).1, h.asked, h.acks⟩
        exact hleft.banFree hc v _
      · exact h

lemma admitUpdate (h : w.Owed call P) : w.admitUpdate.Owed call P := by
  rw [World.admitUpdate]
  split
  · exact h
  · rename_i who ch hadmit
    obtain ⟨n, hwaiting⟩ := Channel.waiting_admit? hadmit
    have hleft : ({ w with updates := ch } : World).Owed call P :=
      ⟨h.told, fun e he => h.waiting e (hwaiting ▸ List.mem_cons_of_mem _ he), h.parked, h.asked, h.acks⟩
    exact hleft.answer fun hcall => (h.waiting (who, n) (hwaiting ▸ List.mem_cons_self) hcall).1

lemma request (h : w.Owed call P) {r : Request} (hr : r.call ≠ call) : (w.request r).Owed call P := by
  have hsent : ∀ sent ch, w.requests.send r r = (sent, ch) →
      ({ w with requests := ch } : World).Owed call P := by
    intro sent ch hsend
    refine ⟨h.told, h.waiting, h.parked, fun r' hr' => ?_, h.acks⟩
    have hch : ch.messages = _ := hsend ▸ w.requests.messages_send r r
    rw [hch] at hr'
    split at hr'
    · exact h.asked r' hr'
    · rcases List.mem_append.1 hr' with hr' | hr'
      · exact h.asked r' hr'
      · rw [List.mem_singleton.1 hr']
        exact hr
  rw [World.request]
  split <;> rename_i ch hsend
  · exact hsent _ ch hsend
  · exact hsent _ ch hsend
  · exact (hsent _ ch hsend).answer fun heq => absurd heq hr

lemma admitRequest (h : w.Owed call P) : w.admitRequest.Owed call P := by
  rw [World.admitRequest]
  split
  · exact h
  · rename_i r ch hadmit
    exact ⟨h.told, h.waiting, h.parked, by rw [Channel.messages_admit? hadmit]; exact h.asked, h.acks⟩

/-! ## The loop -/

/-- Whoever stands in line when the loop ends is turned away. -/
lemma closeQueues (h : w.Owed call P) : w.closeQueues.Owed call P := by
  have hturned : ∀ (callers : List Notifier) (w : World), w.Owed call P →
      (∀ who ∈ callers, who.call = call → P (.refused .channelClosed)) →
      (callers.foldl turnAway w).Owed call P := by
    intro callers
    induction callers with
    | nil => exact fun _ h _ => h
    | cons who rest ih =>
        intro w h hcallers
        have hreleased : (w.mapNode who.node Node.release).Owed call P := h.congr rfl rfl
        exact ih _ (hreleased.answer (hcallers who List.mem_cons_self))
          fun who' hwho' => hcallers who' (List.mem_cons_of_mem who hwho')
  have hrefused : ∀ (calls : List CallId) (w : World), w.Owed call P → (∀ c ∈ calls, c ≠ call) →
      (calls.foldl (fun w c => w.answer c (.refused .channelClosed)) w).Owed call P := by
    intro calls
    induction calls with
    | nil => exact fun _ h _ => h
    | cons c rest ih =>
        intro w h hcalls
        exact ih _ (h.answer fun heq => absurd heq (hcalls c List.mem_cons_self))
          fun c' hc' => hcalls c' (List.mem_cons_of_mem c hc')
  have hline := hturned (w.updates.waiting.map Prod.fst) w h fun who hwho hcall => by
    obtain ⟨e, he, rfl⟩ := List.mem_map.1 hwho
    exact (h.waiting e he hcall).2
  have hall := hrefused _ _ hline fun c hc => by
    rcases List.mem_append.1 hc with hc | hc
    · obtain ⟨r, hr, rfl⟩ := List.mem_map.1 hc
      exact hline.asked r hr
    · exact hline.acks c hc
  rw [World.closeQueues]
  exact ⟨hall.told, (fun e he => by cases he), hall.parked, (fun r hr => by cases hr),
    fun c hc => by cases hc⟩

lemma finish (h : w.Owed call P) (result : Except Setback Unit) : (w.finish result).Owed call P := by
  have hclosed := h.closeQueues
  exact ⟨hclosed.told, hclosed.waiting, hclosed.parked, hclosed.asked, hclosed.acks⟩

lemma acknowledge (h : w.Owed call P) : w.acknowledge.Owed call P where
  told o ho := by
    rw [answers_acknowledge] at ho
    rcases List.mem_append.1 ho with ho | ho
    · exact h.told o ho
    · obtain ⟨c, hc, heq⟩ := List.mem_map.1 ho
      cases heq
      exact absurd rfl (h.acks call hc)
  waiting := by rw [updates_acknowledge]; exact h.waiting
  parked := by rw [parked_acknowledge]; exact h.parked
  asked := by rw [requests_acknowledge]; exact h.asked
  acks c hc := by cases hc

lemma settleTurn (h : w.Owed call P) (chance : Nat → Shuffle) : (w.settleTurn chance).Owed call P :=
  settleTurn_induction (P := fun w => w.Owed call P)
    (fun w chance h => h.congr (reception_assembleOne w chance)
      (congrArg Remainder.requests (remainder_assembleOne w chance)))
    (fun _ h => h.acknowledge) (fun _ result h => h.finish result) h chance

/-- The loop answers a question about the metrics, and keeps in mind whom it owes an acknowledgement. -/
lemma process (h : w.Owed call P) {message : Message} (hr : ∀ r, message = .request r → r.call ≠ call) :
    (w.process message).Owed call P := by
  cases message with
  | update n =>
      dsimp only [World.process, processUpdate]
      split <;> exact h.congr rfl rfl
  | event e =>
      cases e with
      | timedOut id p =>
          dsimp only [World.process, processEvent]
          obtain ⟨s, f, heq, -⟩ := processTimeout_cases w id p
          rw [heq]
          exact h.congr rfl rfl
      | started id | startFailed p fault =>
          dsimp only [World.process, processEvent, unreserve]
          split <;> exact h.congr rfl rfl
      | finished id => exact h
  | request r =>
      have hne := hr r rfl
      cases r with
      | metrics c => exact h.answer fun heq => absurd heq hne
      | shutdown c =>
          refine ⟨h.told, h.waiting, h.parked, h.asked, fun c' hc' => ?_⟩
          rcases List.mem_append.1 hc' with hc' | hc'
          · exact h.acks c' hc'
          · rw [List.mem_singleton.1 hc']
            exact hne

lemma iterate (h : w.Owed call P) (source : Source) (chance : Nat → Shuffle) :
    (w.iterate source chance).Owed call P := by
  rcases w.iterate_cases source chance with heq | ⟨message, w', htaken, heq⟩ <;> rw [heq]
  · exact h
  · refine (process ?_ ?_).settleTurn chance
    · cases htaken with
      | update hreceive =>
          exact ⟨h.told, by dsimp only; rw [Channel.waiting_receive? hreceive]; exact h.waiting, h.parked,
            h.asked, h.acks⟩
      | event hreceive => exact h.congr rfl rfl
      | request hreceive =>
          refine ⟨h.told, h.waiting, h.parked, fun r hr => h.asked r ?_, h.acks⟩
          rw [Channel.messages_receive? hreceive]
          exact List.mem_cons_of_mem _ hr
    · rintro r rfl
      cases htaken with
      | request hreceive =>
          refine h.asked r ?_
          rw [Channel.messages_receive? hreceive]
          exact List.mem_cons_self

/-! ## Every move -/

/-- **Every move** but a call under the same number keeps the bound. -/
lemma step (h : w.Owed call P) {m : Move} (hm : m.call? ≠ some call) : (w.step m).Owed call P := by
  have hne : ∀ {c}, m.call? = some c → c ≠ call := fun hc heq => hm (heq ▸ hc)
  have hwork : m.isWork = true → (w.step m).Owed call P := fun hwork =>
    h.congr (reception_of_isWork hwork) (congrArg Exterior.requests (exterior_of_isWork hwork))
  cases m with
  | poll c v a => exact h.poll (hne rfl) v a
  | ban c v => exact h.ban (hne rfl) v
  | request r => exact h.request (hne rfl)
  | resumeBan c => exact h.resumeBan c
  | admitUpdate => exact h.admitUpdate
  | admitRequest => exact h.admitRequest
  | iterate source chance => exact h.iterate source chance
  | launch =>
      dsimp only [World.step, launch]
      split <;> exact h.congr rfl rfl
  | conclude =>
      dsimp only [World.step, conclude]
      split <;> exact h.congr rfl rfl
  | drop =>
      have hclosed := h.closeQueues
      dsimp only [World.step, drop]
      split
      · exact ⟨hclosed.told, hclosed.waiting, hclosed.parked, hclosed.asked, hclosed.acks⟩
      · exact ⟨hclosed.told, hclosed.waiting, hclosed.parked, hclosed.asked, hclosed.acks⟩
      · exact h.congr rfl rfl
  | _ => exact hwork rfl

/-- **Nobody else's call** changes what a call may be told. -/
lemma run (h : w.Owed call P) {moves : List Move} (hmoves : ∀ m ∈ moves, m.call? ≠ some call) :
    (w.run moves).Owed call P := by
  induction moves generalizing w with
  | nil => exact h
  | cons m rest ih =>
      exact ih (h.step (hmoves m List.mem_cons_self)) fun m' hm' =>
        hmoves m' (List.mem_cons_of_mem m hm')

end Owed

end World

end MixRounds.Live
