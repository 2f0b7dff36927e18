import MixRounds.Decimal.Layout
import MixRounds.Json.Value
import MixRounds.Team.Proto

/-!
# Settings of a scheduler

Twelve numbers say how rounds are formed, timed and paced.  Reading takes what fits the width of each
field; `Settings.validate` then refuses what a scheduler cannot run with, with the first complaint in
the order of the fields.  Buffers have a bound of their own, `Settings.maxBuffer`: a queue cannot be
created with more room than that.
-/

namespace MixRounds

/-- How rounds are formed, timed and paced. -/
structure Settings where
  /-- Nodes per round. -/
  teamSize : UInt64
  /-- Messages per round. -/
  batch : UInt32
  precomputationTimeoutMs : UInt64
  realtimeTimeoutMs : UInt64
  /-- Pause before each start of a round. -/
  minDelayMs : UInt64
  /-- From the last standby report to the start of realtime. -/
  realtimeDelayMs : UInt64
  /-- Fraction of the active nodes that must be waiting before a team is picked. -/
  poolThreshold : Float
  cleanupIntervalSecs : UInt64
  /-- Age of the last poll after which a waiting node is moved offline. -/
  offlineTimeoutSecs : UInt64
  /-- Consecutive failures of assembly after which the loop gives up. -/
  maxAssemblyFailures : UInt32
  updateBuffer : UInt64
  eventBuffer : UInt64

namespace Settings

/-- The settings in use when nobody gives others. -/
def builtIn : Settings where
  teamSize := 5
  batch := 32
  precomputationTimeoutMs := 60000
  realtimeTimeoutMs := 15000
  minDelayMs := 500
  realtimeDelayMs := 3000
  poolThreshold := 0.75
  cleanupIntervalSecs := 60
  offlineTimeoutSecs := 180
  maxAssemblyFailures := 5
  updateBuffer := 1000
  eventBuffer := 100

instance : Inhabited Settings := ⟨builtIn⟩

/-- The least number of waiting nodes for that many active ones: the product, cut to a whole number
and kept within 64 bits. -/
def thresholdFor (s : Settings) (active : UInt64) : Nat :=
  (s.poolThreshold * active.toFloat).toUInt64.toNat

/-- The delay of realtime in milliseconds, read as a number with a sign. -/
def realtimeDelay (s : Settings) : Int := Int.bmod s.realtimeDelayMs.toNat UInt64.size

/-- The greatest buffer a queue can be created with. -/
def maxBuffer : Nat := UInt64.size / 8 - 1

/-- Whether the queues of a scheduler can be created. -/
def buffersFit (s : Settings) : Bool :=
  s.updateBuffer.toNat ≤ maxBuffer && s.eventBuffer.toNat ≤ maxBuffer

/-- The first reason why a scheduler cannot run with these settings. -/
def complaint? (s : Settings) : Option String :=
  if s.teamSize = 0 ∨ Team.maxSize < s.teamSize.toNat then
    some ("team-size must be between 1 and " ++ toString Team.maxSize ++ ", got " ++
      toString s.teamSize.toNat)
  else if s.batch = 0 then some "batch-size must be positive"
  else if s.precomputationTimeoutMs = 0 ∨ s.realtimeTimeoutMs = 0 then
    some "phase timeouts must be positive"
  else if ¬ (0.0 ≤ s.poolThreshold ∧ s.poolThreshold ≤ 1.0) then
    some ("pool-threshold must be within [0, 1], got " ++ FloatLayout.message.text s.poolThreshold)
  else if s.cleanupIntervalSecs = 0 then some "node-cleanup-interval-secs must be positive"
  else if s.maxAssemblyFailures = 0 then some "max-assembly-failures must be at least 1"
  else if s.updateBuffer = 0 ∨ s.eventBuffer = 0 then some "channel buffers must be positive"
  else none

/-- Refuse settings that a scheduler cannot run with. -/
def validate (s : Settings) : Except Fault Unit :=
  match s.complaint? with
  | some reason => .error (.invalidSettings reason)
  | none => .ok ()

theorem validate_eq_ok_iff {s : Settings} : s.validate = .ok () ↔ s.complaint? = none := by
  rw [validate]
  cases s.complaint? <;> simp

/-! ## Names and kinds of the fields -/

/-- A value of one of the three kinds a field can have. -/
inductive Value where
  | word64 (n : UInt64)
  | word32 (n : UInt32)
  | fraction (x : Float)

/-- Which of the three kinds a field has. -/
inductive Kind where
  | word64
  | word32
  | fraction
  deriving DecidableEq, Repr

/-- The fields in their order: name, kind, and current value. -/
def entries (s : Settings) : List (String × Value) :=
  [("team-size", .word64 s.teamSize),
   ("batch-size", .word32 s.batch),
   ("precomputation-timeout-ms", .word64 s.precomputationTimeoutMs),
   ("realtime-timeout-ms", .word64 s.realtimeTimeoutMs),
   ("min-delay-between-rounds-ms", .word64 s.minDelayMs),
   ("realtime-delay-ms", .word64 s.realtimeDelayMs),
   ("pool-threshold", .fraction s.poolThreshold),
   ("node-cleanup-interval-secs", .word64 s.cleanupIntervalSecs),
   ("node-offline-timeout-secs", .word64 s.offlineTimeoutSecs),
   ("max-assembly-failures", .word32 s.maxAssemblyFailures),
   ("update-channel-buffer", .word64 s.updateBuffer),
   ("event-channel-buffer", .word64 s.eventBuffer)]

def Value.kind : Value → Kind
  | word64 _ => .word64
  | word32 _ => .word32
  | fraction _ => .fraction

/-- The fields in their order with their kinds. -/
def fields : List (String × Kind) := builtIn.entries.map fun e => (e.1, e.2.kind)

/-- The settings with one field changed; a name that is no field, or a value of the wrong kind,
changes nothing. -/
def set (s : Settings) (name : String) (v : Value) : Settings :=
  match name, v with
  | "team-size", .word64 n => { s with teamSize := n }
  | "batch-size", .word32 n => { s with batch := n }
  | "precomputation-timeout-ms", .word64 n => { s with precomputationTimeoutMs := n }
  | "realtime-timeout-ms", .word64 n => { s with realtimeTimeoutMs := n }
  | "min-delay-between-rounds-ms", .word64 n => { s with minDelayMs := n }
  | "realtime-delay-ms", .word64 n => { s with realtimeDelayMs := n }
  | "pool-threshold", .fraction x => { s with poolThreshold := x }
  | "node-cleanup-interval-secs", .word64 n => { s with cleanupIntervalSecs := n }
  | "node-offline-timeout-secs", .word64 n => { s with offlineTimeoutSecs := n }
  | "max-assembly-failures", .word32 n => { s with maxAssemblyFailures := n }
  | "update-channel-buffer", .word64 n => { s with updateBuffer := n }
  | "event-channel-buffer", .word64 n => { s with eventBuffer := n }
  | _, _ => s

/-! ## JSON -/

def Value.toJson : Value → Json
  | word64 n => .nat n.toNat
  | word32 n => .nat n.toNat
  | fraction x => .float x

/-- A JSON value of the kind. -/
def Kind.ofJson? (k : Kind) (j : Json) : Option Value :=
  match k with
  | .word64 => j.asUInt64?.map .word64
  | .word32 => (j.asBelow? UInt32.size).map fun n => .word32 (UInt32.ofNat n)
  | .fraction => j.asFloat?.map .fraction

def toJson (s : Settings) : Json := .obj (s.entries.map fun e => (e.1, e.2.toJson))

/-- The settings changed field by field; a field that is not given keeps its value. -/
def update? (field : String → Option Json) : List (String × Kind) → Settings → Option Settings
  | [], s => some s
  | (name, kind) :: rest, s =>
      match field name with
      | none => update? field rest s
      | some j =>
          match kind.ofJson? j with
          | none => none
          | some v => update? field rest (s.set name v)

/-- Settings from JSON; what is missing has its built-in value. -/
def ofJson? (j : Json) : Option Settings := do
  let field ← j.asRecord? (fields.map Prod.fst)
  update? field fields builtIn

end Settings

end MixRounds
