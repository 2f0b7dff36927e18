import Mathlib.Data.List.Basic
import Mathlib.Data.List.Induction
import MixRounds.Ledger.UpdateLog

/-!
# Readers of the update log

The log is written by the scheduler and read by any number of pollers, and nobody waits for anybody.  A
reader keeps one number, the id of the last broadcast that it has seen; it asks for everything after it, and
goes on from the last broadcast of the answer.  Ids are places in the log, counted from one, and the reader
learns them from the signed payloads only.

`Hall` is the log with its readers, and a `Visit` is one call of a writer or a reader; calls do not overlap,
so any order of them is a list of visits.  Two facts are kept by every visit.  The log is `UpdateLog.Sealed`: an entry
carries its place as its id, and its signature is the key's over exactly the payload that is stored.  And a
reader is `Reader.Abreast`: what it was told is the log from its start to the last id it has seen.

**`Hall.faithful_of_run`** is what readers can rely on, in any order of calls: nothing is skipped, nothing
comes twice, and every entry verifies, as long as the key accepts its own signatures over these bytes.
-/

namespace MixRounds

/-- The key accepts its own signatures over the messages. -/
def SigningKey.AcceptsOwn (key : SigningKey) (messages : List (List UInt8)) : Prop :=
  ∀ m ∈ messages, key.pub.verifies m (key.sign m) = true

/-- A signature of the key verifies if the key accepts its own signatures. -/
lemma Signed.isVerified_sign {α : Type} [Payload α] {key : SigningKey} {payload : α}
    {messages : List (List UInt8)} (haccepts : key.AcceptsOwn messages)
    (hmem : Payload.bytes payload ∈ messages) : (Signed.sign key payload).isVerified key.pub = true := by
  simp only [isVerified, sign]
  exact haccepts _ hmem

/-! ## The log -/

namespace UpdateLog

/-- Everything in the log that is signed, as bytes. -/
def texts (log : UpdateLog) : List (List UInt8) :=
  log.updates.map (fun u => Payload.bytes u.payload) ++ log.errors.map fun e => Payload.bytes e.payload

/-- Entries carry their places as ids, and signatures are the key's over what is stored. -/
structure Sealed (key : SigningKey) (log : UpdateLog) : Prop where
  numbered : ∀ k u, log.updates[k]? = some u → u.payload.updateId.toNat = k + 1
  updates : ∀ u ∈ log.updates, u = .sign key u.payload
  errors : ∀ e ∈ log.errors, e = .sign key e.payload

variable {key : SigningKey} {log : UpdateLog}

lemma sealed_empty (key : SigningKey) : empty.Sealed key := by
  refine ⟨?_, ?_, ?_⟩ <;> simp [empty]

/-- The id of a new entry is stamped before it is signed, and it is the next place. -/
lemma Sealed.push (h : log.Sealed key) (hroom : log.updates.length + 1 < UInt64.size) (info : RoundInfo) :
    (log.push key info).Sealed key := by
  refine ⟨?_, ?_, h.errors⟩
  · intro k u hu
    simp only [UpdateLog.push, List.getElem?_append] at hu
    split at hu
    · exact h.numbered k u hu
    · rename_i hplace
      have hk : k = log.updates.length := by
        have hlast : k - log.updates.length < 1 := by
          by_contra hbeyond
          rw [List.getElem?_eq_none (by simp; omega)] at hu
          cases hu
        omega
      subst hk
      simp only [Nat.sub_self, List.getElem?_cons_zero, Option.some.injEq] at hu
      subst hu
      exact UInt64.toNat_ofNat_of_lt hroom
  · intro u hu
    simp only [UpdateLog.push, List.mem_append, List.mem_singleton] at hu
    rcases hu with hu | rfl
    · exact h.updates u hu
    · rfl

lemma Sealed.pushError (h : log.Sealed key) (e : RoundError) :
    (log.pushError (.sign key e)).Sealed key := by
  refine ⟨h.numbered, h.updates, ?_⟩
  intro record hrecord
  simp only [UpdateLog.pushError, List.mem_append, List.mem_singleton] at hrecord
  rcases hrecord with hrecord | rfl
  · exact h.errors record hrecord
  · rfl

lemma Sealed.isVerified_update (h : log.Sealed key) (haccepts : key.AcceptsOwn log.texts)
    {u : Signed RoundInfo} (hu : u ∈ log.updates) : u.isVerified key.pub = true := by
  rw [h.updates u hu]
  apply Signed.isVerified_sign haccepts
  simp only [texts, List.mem_append, List.mem_map]
  exact Or.inl ⟨u, hu, rfl⟩

lemma Sealed.isVerified_error (h : log.Sealed key) (haccepts : key.AcceptsOwn log.texts)
    {e : Signed RoundError} (he : e ∈ log.errors) : e.isVerified key.pub = true := by
  rw [h.errors e he]
  apply Signed.isVerified_sign haccepts
  simp only [texts, List.mem_append, List.mem_map]
  exact Or.inr ⟨e, he, rfl⟩

lemma toNat_latest (hroom : log.updates.length < UInt64.size) :
    log.latest.toNat = log.updates.length := UInt64.toNat_ofNat_of_lt hroom

/-- Behind the newest entry there is nothing. -/
lemma since_eq_nil (hroom : log.updates.length < UInt64.size) {id : UInt64} (hid : log.latest ≤ id) :
    log.since id = [] := by
  rw [UInt64.le_iff_toNat_le, toNat_latest hroom] at hid
  rw [since, List.drop_eq_nil_iff]
  exact hid

end UpdateLog

/-! ## A reader -/

/-- A reader of the log. -/
structure Reader where
  /-- The id it began after. -/
  start : UInt64
  /-- The last id it has seen. -/
  seen : UInt64
  /-- What it was told, in order. -/
  told : List (Signed RoundInfo)

namespace Reader

/-- A reader that begins after an id. -/
def after (id : UInt64) : Reader := ⟨id, id, []⟩

/-- Take note of a broadcast. -/
def note (r : Reader) (u : Signed RoundInfo) : Reader :=
  { r with seen := u.payload.updateId, told := r.told ++ [u] }

/-- Ask for what is new. -/
def poll (r : Reader) (log : UpdateLog) : Reader := (log.since r.seen).foldl note r

/-- What the reader was told is the log from its start to the last id it has seen. -/
structure Abreast (log : UpdateLog) (r : Reader) : Prop where
  start_le : r.start.toNat ≤ r.seen.toNat
  seen_le : r.seen.toNat ≤ log.updates.length
  told : r.told = (log.updates.take r.seen.toNat).drop r.start.toNat

variable {key : SigningKey} {log : UpdateLog} {r : Reader}

@[simp] lemma start_foldl_note (us : List (Signed RoundInfo)) (r : Reader) :
    (us.foldl note r).start = r.start := by
  induction us generalizing r with
  | nil => rfl
  | cons u us ih => simp [ih, note]

@[simp] lemma told_foldl_note (us : List (Signed RoundInfo)) (r : Reader) :
    (us.foldl note r).told = r.told ++ us := by
  induction us generalizing r with
  | nil => simp
  | cons u us ih => simp [ih, note]

lemma seen_foldl_note (us : List (Signed RoundInfo)) (r : Reader) :
    (us.foldl note r).seen = (us.getLast?.map fun u => u.payload.updateId).getD r.seen := by
  induction us using List.reverseRecOn with
  | nil => rfl
  | append_singleton us u ih => simp [note]

lemma abreast_after {id : UInt64} (hid : id ≤ log.latest) (hroom : log.updates.length < UInt64.size) :
    (after id).Abreast log := by
  rw [UInt64.le_iff_toNat_le, UpdateLog.toNat_latest hroom] at hid
  refine ⟨Nat.le_refl _, hid, ?_⟩
  rw [after, List.drop_eq_nil_of_le (List.length_take_le _ _)]

/-- A new entry is not part of what the reader has been told. -/
lemma Abreast.push (h : r.Abreast log) (key : SigningKey) (info : RoundInfo) :
    r.Abreast (log.push key info) := by
  refine ⟨h.start_le, ?_, ?_⟩
  · have hseen := h.seen_le
    rw [UpdateLog.length_updates_push]
    omega
  · rw [h.told, UpdateLog.push, List.take_append_of_le_length h.seen_le]

/-- What a reader was told, and what it would be told next, is the log after its start. -/
lemma Abreast.told_append_since (h : r.Abreast log) :
    r.told ++ log.since r.seen = log.updates.drop r.start.toNat := by
  have hsplit := List.take_append_drop r.seen.toNat log.updates
  have hlong : r.start.toNat ≤ (log.updates.take r.seen.toNat).length := by
    rw [List.length_take]
    have hstart := h.start_le
    have hseen := h.seen_le
    omega
  rw [h.told, UpdateLog.since, ← List.drop_append_of_le_length hlong, hsplit]

/-- A poll brings the reader to the newest entry. -/
lemma Abreast.seen_poll (h : r.Abreast log) (hsealed : log.Sealed key) :
    (r.poll log).seen.toNat = log.updates.length := by
  rw [poll, seen_foldl_note, UpdateLog.since, List.getLast?_drop]
  split
  · have hseen := h.seen_le
    simp only [Option.map_none, Option.getD_none]
    omega
  · rename_i hnew
    -- the last entry carries the length of the log as its id
    cases hlast : log.updates.getLast? with
    | none =>
        rw [List.getLast?_eq_none_iff] at hlast
        simp [hlast] at hnew
    | some u =>
        rw [List.getLast?_eq_getElem?] at hlast
        have hid := hsealed.numbered _ u hlast
        simp only [Option.map_some, Option.getD_some]
        omega

lemma Abreast.poll (h : r.Abreast log) (hsealed : log.Sealed key) : (r.poll log).Abreast log := by
  have hseen := h.seen_poll hsealed
  have hstart : (r.poll log).start = r.start := start_foldl_note _ r
  have htold : (r.poll log).told = r.told ++ log.since r.seen := told_foldl_note _ r
  refine ⟨?_, ?_, ?_⟩
  · have hle := h.start_le
    have hle' := h.seen_le
    rw [hseen, hstart]
    omega
  · omega
  · rw [hseen, hstart, htold, h.told_append_since, List.take_length]

end Reader

/-! ## Writers and readers in any order -/

/-- The log with its readers. -/
structure Hall where
  log : UpdateLog
  readers : List Reader

/-- One call of a writer or of a reader. -/
inductive Visit where
  | push (info : RoundInfo)
  | pushError (e : RoundError)
  /-- A new reader begins after an id, which must not be one that is still to come. -/
  | join (id : UInt64)
  /-- One of the readers asks for what is new. -/
  | poll (reader : Nat)

namespace Hall

/-- Nothing was written, and nobody reads. -/
def empty : Hall := ⟨.empty, []⟩

/-- What one call does. -/
def visit (key : SigningKey) (hall : Hall) : Visit → Hall
  | .push info => { hall with log := hall.log.push key info }
  | .pushError e => { hall with log := hall.log.pushError (.sign key e) }
  | .join id =>
      if id ≤ hall.log.latest then { hall with readers := hall.readers ++ [.after id] } else hall
  | .poll reader => { hall with readers := hall.readers.modify reader fun r => r.poll hall.log }

/-- What a number of calls in a row do, beginning with an empty log. -/
def run (key : SigningKey) (visits : List Visit) : Hall := visits.foldl (visit key) empty

/-- The log is sealed, and every reader has been told what it should. -/
structure Sound (key : SigningKey) (hall : Hall) : Prop where
  sealed : hall.log.Sealed key
  abreast : ∀ r ∈ hall.readers, r.Abreast hall.log

variable {key : SigningKey} {hall : Hall}

lemma length_updates_le_visit (key : SigningKey) (hall : Hall) (v : Visit) :
    hall.log.updates.length ≤ (hall.visit key v).log.updates.length := by
  cases v with
  | push info => simp [visit]
  | pushError e => simp [visit]
  | join id =>
      simp only [visit]
      split <;> simp
  | poll reader => simp [visit]

/-- **Every call keeps log and readers in order**, as long as the log has a place left. -/
lemma Sound.visit (h : hall.Sound key) (v : Visit)
    (hroom : (hall.visit key v).log.updates.length < UInt64.size) : (hall.visit key v).Sound key := by
  cases v with
  | push info =>
      have hnext : hall.log.updates.length + 1 < UInt64.size := by simpa [Hall.visit] using hroom
      refine ⟨h.sealed.push hnext info, ?_⟩
      intro r hr
      exact (h.abreast r hr).push key info
  | pushError e =>
      refine ⟨h.sealed.pushError e, ?_⟩
      intro r hr
      obtain ⟨hstart, hseen, htold⟩ := h.abreast r hr
      exact ⟨hstart, hseen, htold⟩
  | join id =>
      simp only [Hall.visit] at hroom ⊢
      split
      · rename_i hid
        rw [if_pos hid] at hroom
        refine ⟨h.sealed, ?_⟩
        intro r hr
        simp only [List.mem_append, List.mem_singleton] at hr
        rcases hr with hr | rfl
        · exact h.abreast r hr
        · exact Reader.abreast_after hid hroom
      · exact h
  | poll reader =>
      refine ⟨h.sealed, ?_⟩
      intro r hr
      obtain ⟨i, hi, rfl⟩ := List.getElem_of_mem hr
      simp only [Hall.visit, List.getElem_modify]
      have habreast := h.abreast _ (List.getElem_mem (by simpa [Hall.visit] using hi))
      split
      · exact habreast.poll h.sealed
      · exact habreast

lemma sound_run (key : SigningKey) (visits : List Visit)
    (hroom : (run key visits).log.updates.length < UInt64.size) : (run key visits).Sound key := by
  induction visits using List.reverseRecOn with
  | nil => exact ⟨UpdateLog.sealed_empty key, by simp [run, empty]⟩
  | append_singleton visits v ih =>
      simp only [run, List.foldl_append, List.foldl_cons, List.foldl_nil] at hroom ih ⊢
      have hbefore := length_updates_le_visit key (visits.foldl (Hall.visit key) empty) v
      exact (ih (by omega)).visit v hroom

/-- **What readers can rely on.** -/
structure Faithful (key : SigningKey) (hall : Hall) : Prop where
  /-- What a reader was told, followed by what is new to it, is the log after its start. -/
  contiguous : ∀ r ∈ hall.readers,
    r.told ++ hall.log.since r.seen = hall.log.updates.drop r.start.toNat
  /-- After one more poll it has been told all of it. -/
  caughtUp : ∀ r ∈ hall.readers, (r.poll hall.log).told = hall.log.updates.drop r.start.toNat
  numbered : ∀ k u, hall.log.updates[k]? = some u → u.payload.updateId.toNat = k + 1
  nothingBeyond : ∀ id, hall.log.latest ≤ id → hall.log.since id = []
  updatesVerify : ∀ u ∈ hall.log.updates, u.isVerified key.pub = true
  errorsVerify : ∀ e ∈ hall.log.errors, e.isVerified key.pub = true

/-- **No reader misses a broadcast or gets one twice**, whatever the order of the calls, and everything in the
log verifies. -/
theorem faithful_of_run (key : SigningKey) (visits : List Visit)
    (hroom : (run key visits).log.updates.length < UInt64.size)
    (haccepts : key.AcceptsOwn (run key visits).log.texts) : (run key visits).Faithful key := by
  have hsound := sound_run key visits hroom
  constructor
  case contiguous =>
    intro r hr
    exact (hsound.abreast r hr).told_append_since
  case caughtUp =>
    intro r hr
    rw [← (hsound.abreast r hr).told_append_since]
    exact Reader.told_foldl_note _ r
  case numbered => exact hsound.sealed.numbered
  case nothingBeyond =>
    intro id hid
    exact UpdateLog.since_eq_nil hroom hid
  case updatesVerify =>
    intro u hu
    exact hsound.sealed.isVerified_update haccepts hu
  case errorsVerify =>
    intro e he
    exact hsound.sealed.isVerified_error haccepts he

/-- The key of a seed. -/
def seeded : SigningKey := .ofSeed (List.replicate 32 1)

/-- The state of a round, as it is broadcast first. -/
def firstInfo : RoundInfo := ⟨.ofNat 1, .precomputing, ["a"], 1, [], 1⟩

/-- The record of its failure. -/
def firstError : RoundError := ⟨.ofNat 1, none, .nodeError, ⟨0, 0⟩⟩

lemma seeded_accepts_firstInfo :
    seeded.pub.verifies (Payload.bytes firstInfo) (seeded.sign (Payload.bytes firstInfo)) = true := by
  decide +kernel

lemma seeded_accepts_firstError :
    seeded.pub.verifies (Payload.bytes firstError) (seeded.sign (Payload.bytes firstError)) = true := by
  decide +kernel

/-- A broadcast and a failure record under the key of a seed, and a reader who polls. -/
theorem faithful_of_poll :
    let visits : List Visit := [.push firstInfo, .join 0, .pushError firstError, .poll 0]
    (run seeded visits).log.updates.length < UInt64.size ∧
      seeded.AcceptsOwn (run seeded visits).log.texts ∧ (run seeded visits).Faithful seeded := by
  intro visits
  have hroom : (run seeded visits).log.updates.length < UInt64.size := by decide +kernel
  have htexts : (run seeded visits).log.texts = [Payload.bytes firstInfo, Payload.bytes firstError] := rfl
  have haccepts : seeded.AcceptsOwn (run seeded visits).log.texts := by
    rw [htexts]
    intro m hm
    simp only [List.mem_cons, List.not_mem_nil, or_false] at hm
    rcases hm with rfl | rfl
    · exact seeded_accepts_firstInfo
    · exact seeded_accepts_firstError
  exact ⟨hroom, haccepts, faithful_of_run seeded visits hroom haccepts⟩

end Hall

end MixRounds
