import MixRounds.Ledger.Signed
import MixRounds.Proofs.Instant.Text
import MixRounds.Proofs.Json.Reading

/-!
# Payloads read back, and their bytes tell them apart

A broadcast, a failure record or a notification is written as JSON in three layers, and each layer is
undone by its reader: words and times (`Instant.ofText?_text`, and the words by cases), the fields of
the payload (`ofJson?_toJson`, one for each payload) and the text (`Json.parse?_compact`, which wants
to know that the payload is `Json.Legible`).

**`Dispatch.reads_back`** puts the layers together for all payloads whose times are ordinary and whose
stamps stand in the order of the life cycle, as those of a round do; the bytes that are signed then
determine the payload, also across the three kinds.
-/

namespace MixRounds

/-! ## Words and numbers -/

namespace Activity

lemma ofJson?_toJson (a : Activity) : ofJson? a.toJson = some a := ofWord?_word a

end Activity

namespace Status

lemma ofJson?_toJson (s : Status) : ofJson? s.toJson = some s := ofWord?_word s

end Status

namespace Phase

lemma ofJson?_toJson (p : Phase) : ofJson? p.toJson = some p := ofWord?_word p

end Phase

namespace Cause

lemma ofJson?_toJson (c : Cause) : ofJson? c.toJson = some c := by
  cases c with
  | timeout phase => cases phase <;> decide
  | nodeError => decide
  | nodeBanned => decide

lemma legible (depth : Nat) (c : Cause) : Json.Legible (depth + 1) c.toJson := by
  cases c with
  | timeout phase => exact .obj fun m hm => by rw [List.mem_singleton.1 hm]; exact .str _
  | nodeError => exact .str _
  | nodeBanned => exact .str _

end Cause

namespace Json

lemma asUInt64?_toNat (n : UInt64) : asUInt64? (.nat n.toNat) = some n := by
  have hrange : n.toNat < UInt64.size := n.toNat_lt
  simp [asUInt64?, nat, asBelow?, hrange]

/-- What is read back is as determined as what was written. -/
lemma eq_of_read {α : Type} {read : Json → Option α} {i j : Json} {a b : α} (ha : read i = some a)
    (hb : read j = some b) (h : i = j) : a = b :=
  Option.some.inj (by rw [← ha, h, hb])

lemma legible_nat {depth n : Nat} (hn : n < UInt64.size) : Legible depth (.nat n) := by
  refine .int ⟨by omega, ?_⟩
  rw [significandLimit]
  omega

lemma legible_strings (depth : Nat) (xs : List String) : Legible (depth + 1) (.strings xs) := by
  refine .arr fun item hitem => ?_
  obtain ⟨s, -, rfl⟩ := List.mem_map.1 hitem
  exact .str s

end Json

namespace RoundId

lemma ofJson?_toJson (id : RoundId) : ofJson? id.toJson = some id := by
  rw [ofJson?, toJson, toNat, Json.asUInt64?_toNat]
  rfl

lemma legible (depth : Nat) (id : RoundId) : Json.Legible depth id.toJson :=
  Json.legible_nat id.number.toNat_lt

end RoundId

lemma batchOfJson?_toNat (n : UInt32) : batchOfJson? (.nat n.toNat) = some n := by
  have hrange : n.toNat < UInt32.size := n.toNat_lt
  simp [batchOfJson?, Json.nat, Json.asBelow?, hrange]

lemma nodesOfJson?_strings (xs : List NodeId) : nodesOfJson? (.strings xs) = some xs := by
  have hread : ∀ xs : List NodeId, (xs.map Json.str).mapM Json.asString? = some xs := by
    intro xs
    induction xs with
    | nil => rfl
    | cons x xs ih =>
        rw [List.map_cons, List.mapM_cons, ih]
        rfl
  exact hread xs

lemma Instant.ofJson?_toJson {t : Instant} (h : t.Ordinary) : ofJson? t.toJson = some t := by
  rw [ofJson?, toJson, Json.asString?, Option.bind_some, ofText?_text h]

/-! ## Stamps -/

namespace Stamps

/-- One stamp for a phase, in the order of the life cycle, at an ordinary time. -/
structure Ordinary (s : Stamps) : Prop where
  ordered : s.phases.Pairwise fun p q => p.rank < q.rank
  times : ∀ e ∈ s, e.2.Ordinary

/-- Stamps that are read in order are put one behind the other. -/
lemma ofMembers?_map {s : Stamps} (hs : ∀ e ∈ s, e.2.Ordinary) :
    ∀ before : Stamps, (before ++ s : Stamps).phases.Pairwise (fun p q => p.rank < q.rank) →
      ofMembers? (s.map fun e => (e.1.word, e.2.toJson)) before = some (before ++ s) := by
  induction s with
  | nil =>
      intro before _
      rw [List.append_nil]
      rfl
  | cons e s ih =>
      intro before hordered
      obtain ⟨p, t⟩ := e
      have hlast : ∀ q ∈ before.phases, q.rank < p.rank := by
        rw [phases, List.map_append] at hordered
        exact fun q hq => (List.pairwise_append.1 hordered).2.2 q hq p List.mem_cons_self
      have hphase : Phase.ofWord? p.word = some p := Phase.ofWord?_word p
      have htime := Instant.ofJson?_toJson (hs (p, t) List.mem_cons_self)
      have hrest := ih (fun e he => hs e (List.mem_cons_of_mem _ he)) (before ++ [(p, t)])
        (by rwa [List.append_assoc, List.singleton_append])
      rw [List.map_cons, ofMembers?]
      simp only [hphase, htime, Option.bind_eq_bind, Option.bind_some, insert_of_lt hlast, hrest,
        List.append_assoc, List.singleton_append]

lemma ofJson?_toJson {s : Stamps} (h : s.Ordinary) : ofJson? s.toJson = some s :=
  ofMembers?_map h.times [] h.ordered

lemma legible (depth : Nat) (s : Stamps) : Json.Legible (depth + 1) s.toJson := by
  refine .obj fun m hm => ?_
  obtain ⟨e, -, rfl⟩ := List.mem_map.1 hm
  exact .str _

end Stamps

/-! ## The payloads -/

namespace RoundInfo

/-- The stamps are those of a map from phases to ordinary times. -/
def Ordinary (info : RoundInfo) : Prop := info.stamps.Ordinary

lemma ofJson?_toJson {info : RoundInfo} (h : info.Ordinary) : ofJson? info.toJson = some info := by
  simp [ofJson?, toJson, Json.asRecord?, Json.memberOf, RoundId.ofJson?_toJson,
    Phase.ofJson?_toJson, nodesOfJson?_strings, batchOfJson?_toNat, Stamps.ofJson?_toJson h,
    Json.asUInt64?_toNat]

lemma legible (depth : Nat) (info : RoundInfo) : Json.Legible (depth + 2) info.toJson := by
  refine .obj fun m hm => ?_
  simp only [List.mem_cons, List.not_mem_nil, or_false] at hm
  rcases hm with rfl | rfl | rfl | rfl | rfl | rfl
  · exact info.id.legible _
  · exact .str _
  · exact Json.legible_strings _ _
  · exact Json.legible_nat (info.batch.toNat_lt.trans (by decide))
  · exact info.stamps.legible _
  · exact Json.legible_nat info.updateId.toNat_lt

end RoundInfo

namespace RoundError

/-- The time is ordinary. -/
def Ordinary (e : RoundError) : Prop := e.time.Ordinary

lemma ofJson?_toJson {e : RoundError} (h : e.Ordinary) : ofJson? e.toJson = some e := by
  obtain ⟨round, node, cause, time⟩ := e
  cases node <;>
    simp [ofJson?, toJson, Json.asRecord?, Json.memberOf, RoundId.ofJson?_toJson, Json.ofOption,
      Json.optional?, Json.asString?, Cause.ofJson?_toJson, Instant.ofJson?_toJson h]

lemma legible (depth : Nat) (e : RoundError) : Json.Legible (depth + 2) e.toJson := by
  refine .obj fun m hm => ?_
  simp only [List.mem_cons, List.not_mem_nil, or_false] at hm
  rcases hm with rfl | rfl | rfl | rfl
  · exact e.round.legible _
  · cases e.node with
    | none => exact .null
    | some v => exact .str v
  · exact e.cause.legible _
  · exact .str _

end RoundError

namespace Notification

/-- The time is ordinary. -/
def Ordinary (n : Notification) : Prop := n.time.Ordinary

lemma ofJson?_toJson {n : Notification} (h : n.Ordinary) : ofJson? n.toJson = some n := by
  simp [ofJson?, toJson, Json.asRecord?, Json.memberOf, Json.asString?, Activity.ofJson?_toJson,
    Status.ofJson?_toJson, Instant.ofJson?_toJson h]

lemma legible (depth : Nat) (n : Notification) : Json.Legible (depth + 1) n.toJson := by
  refine .obj fun m hm => ?_
  simp only [List.mem_cons, List.not_mem_nil, or_false] at hm
  rcases hm with rfl | rfl | rfl | rfl | rfl | rfl <;> exact .str _

end Notification

/-! ## All of them -/

/-- What the program tells about its rounds and nodes. -/
inductive Dispatch where
  | state (info : RoundInfo)
  | failure (e : RoundError)
  | change (n : Notification)
  deriving DecidableEq

namespace Dispatch

def toJson : Dispatch → Json
  | state info => info.toJson
  | failure e => e.toJson
  | change n => n.toJson

instance : Payload Dispatch := ⟨toJson⟩

def Ordinary : Dispatch → Prop
  | state info => info.Ordinary
  | failure e => e.Ordinary
  | change n => n.Ordinary

lemma legible (d : Dispatch) : Json.Legible Json.depthLimit d.toJson := by
  cases d with
  | state info => exact info.legible _
  | failure e => exact e.legible _
  | change n => exact n.legible _

/-- Payloads of different kinds have different fields, and one of a kind is read back. -/
lemma toJson_injective {a b : Dispatch} (ha : a.Ordinary) (hb : b.Ordinary)
    (h : a.toJson = b.toJson) : a = b := by
  cases a with
  | state i =>
      cases b with
      | state j =>
          have hsame := Json.eq_of_read (RoundInfo.ofJson?_toJson ha) (RoundInfo.ofJson?_toJson hb) h
          exact congrArg state hsame
      | failure e => simp [toJson, RoundInfo.toJson, RoundError.toJson] at h
      | change n => simp [toJson, RoundInfo.toJson, Notification.toJson] at h
  | failure e =>
      cases b with
      | state j => simp [toJson, RoundInfo.toJson, RoundError.toJson] at h
      | failure f =>
          have hsame := Json.eq_of_read (RoundError.ofJson?_toJson ha) (RoundError.ofJson?_toJson hb) h
          exact congrArg failure hsame
      | change n => simp [toJson, RoundError.toJson, Notification.toJson] at h
  | change n =>
      cases b with
      | state j => simp [toJson, RoundInfo.toJson, Notification.toJson] at h
      | failure f => simp [toJson, RoundError.toJson, Notification.toJson] at h
      | change m =>
          have hsame := Json.eq_of_read (Notification.ofJson?_toJson ha) (Notification.ofJson?_toJson hb) h
          exact congrArg change hsame

/-- **Every payload reads back from its text, and no two have the same bytes.** -/
theorem reads_back :
    (∀ info : RoundInfo, info.Ordinary →
      (Json.parse? info.toJson.compact).bind RoundInfo.ofJson? = some info) ∧
    (∀ e : RoundError, e.Ordinary →
      (Json.parse? e.toJson.compact).bind RoundError.ofJson? = some e) ∧
    (∀ n : Notification, n.Ordinary →
      (Json.parse? n.toJson.compact).bind Notification.ofJson? = some n) ∧
    ∀ a b : Dispatch, a.Ordinary → b.Ordinary → Payload.bytes a = Payload.bytes b → a = b := by
  refine ⟨fun info h => ?_, fun e h => ?_, fun n h => ?_, fun a b ha hb h => ?_⟩
  · have htext : Json.parse? info.toJson.compact = some info.toJson :=
      Json.parse?_compact (legible (.state info))
    rw [htext, Option.bind_some, RoundInfo.ofJson?_toJson h]
  · have htext : Json.parse? e.toJson.compact = some e.toJson :=
      Json.parse?_compact (legible (.failure e))
    rw [htext, Option.bind_some, RoundError.ofJson?_toJson h]
  · have htext : Json.parse? n.toJson.compact = some n.toJson :=
      Json.parse?_compact (legible (.change n))
    rw [htext, Option.bind_some, Notification.ofJson?_toJson h]
  · exact toJson_injective ha hb (Json.toUTF8_compact_injective a.legible b.legible h)

/-- A broadcast with awkward names and two stamps, a failure and a notification; and two failures that
differ in a nanosecond. -/
theorem reads_back_of_awkward :
    let noon : Instant := ⟨1714996800, 0⟩
    let later : Instant := ⟨1714996800, 1⟩
    let info : RoundInfo := ⟨⟨18446744073709551615⟩, .precomputing, ["a\"\\b", "\n\x1fé😀", ""], 4294967295,
      [(.pending, noon), (.precomputing, later)], 7⟩
    let failure : RoundError := ⟨⟨0⟩, some "quo\"te", .timeout .realtime, noon⟩
    let change : Notification := ⟨"\t", .waiting, .error, .active, .banned, later⟩
    (info.Ordinary ∧ (Json.parse? info.toJson.compact).bind RoundInfo.ofJson? = some info) ∧
      (failure.Ordinary ∧
        (Json.parse? failure.toJson.compact).bind RoundError.ofJson? = some failure) ∧
      (change.Ordinary ∧
        (Json.parse? change.toJson.compact).bind Notification.ofJson? = some change) ∧
      Payload.bytes (Dispatch.failure failure) ≠
        Payload.bytes (Dispatch.failure { failure with time := later }) := by
  intro noon later info failure change
  have hnoon : noon.Ordinary := ⟨by decide, by decide, by decide⟩
  have hlater : later.Ordinary := ⟨by decide, by decide, by decide⟩
  have hinfo : info.Ordinary := by
    refine ⟨by decide, fun e he => ?_⟩
    simp only [info, List.mem_cons, List.not_mem_nil, or_false] at he
    rcases he with rfl | rfl
    · exact hnoon
    · exact hlater
  refine ⟨⟨hinfo, reads_back.1 info hinfo⟩, ⟨hnoon, reads_back.2.1 failure hnoon⟩,
    ⟨hlater, reads_back.2.2.1 change hlater⟩, fun h => ?_⟩
  have hsame := reads_back.2.2.2 (.failure failure) (.failure { failure with time := later }) hnoon
    hlater h
  exact absurd hsame (by decide)

end Dispatch

end MixRounds
