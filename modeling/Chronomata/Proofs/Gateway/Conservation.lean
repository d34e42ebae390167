import Mathlib.Data.List.Induction
import Chronomata.Proofs.Gateway.Messages

-- Runs of a gateway: any calls on any keys, in any order. Nothing that arrives is lost and nothing is there
-- twice.
namespace Chronomata.Gateway

inductive Operation where
  | register (key : InstanceKey) (channels : List String)
  | push (key : InstanceKey) (name : String) (value : Value)
  | setStatus (device : String) (connection : Connection)
  | deliver (sender : InstanceKey) (outputs : Values) (now : Instant)
  | fetch (key : InstanceKey)
  | drain

inductive Answer where
  | done (outcome : Except GatewayError Unit)
  | fetched (outcome : Except GatewayError (List (String × Value)))
  | drained (outcome : Except GatewayError (List Communication))

-- What is refused leaves the gateway as it was.
def settle {α : Type} (g : Gateway) (answer : Except GatewayError α → Answer) :
    Except GatewayError (Gateway × α) → Gateway × Answer
  | .ok (after, told) => (after, answer (.ok told))
  | .error cause => (g, answer (.error cause))

def perform (g : Gateway) : Operation → Gateway × Answer
  | .register key channels => g.settle .done ((g.register key channels).map (·, ()))
  | .push key name value => (g.push key name value, .done (.ok ()))
  | .setStatus device connection => (g.setStatus device connection, .done (.ok ()))
  | .deliver sender outputs now => g.settle .done ((g.deliver sender outputs now).map (·, ()))
  | .fetch key => g.settle .fetched (g.fetch key)
  | .drain => g.settle .drained g.drain

-- One call of a run, and what it answered.
structure Entry where
  operation : Operation
  answer : Answer

def extend (before : Gateway × List Entry) (operation : Operation) : Gateway × List Entry :=
  let (after, answer) := before.1.perform operation
  (after, before.2 ++ [⟨operation, answer⟩])

def run (operations : List Operation) : Gateway × List Entry :=
  operations.foldl extend (.empty, [])

-- All that was fetched for an instance.
def fetched (key : InstanceKey) (log : List Entry) : List (String × Value) :=
  log.flatMap fun
    | ⟨.fetch other, .fetched (.ok inputs)⟩ => if other = key then inputs else []
    | _ => []

def drained (log : List Entry) : List Communication :=
  log.flatMap fun
    | ⟨.drain, .drained (.ok messages)⟩ => messages
    | _ => []

def Operation.listener? (channel : String) : Operation → Option InstanceKey
  | .register key channels => if channel ∈ channels then some key else none
  | _ => none

-- Those that have been registered with a channel, each once, in the order of their keys.
def subscribers (past : List Operation) (channel : String) : List InstanceKey :=
  (SortedSet.ofList (past.filterMap (·.listener? channel))).toList

def Operation.mark (device : String) (before : Connection) : Operation → Connection
  | .setStatus other connection => if other = device then connection else before
  | _ => before

-- What a device was last marked as. It is connected until it is marked.
def marked (past : List Operation) (device : String) : Connection :=
  past.foldl (Operation.mark device) .connected

-- The messages of one call: one for each subscriber of each channel but the sender, unless its device
-- is marked as disconnected at that moment.
def sent (past : List Operation) : Operation → List Communication
  | .deliver sender outputs now =>
    (outputs.entries.flatMap fun (channel, value) =>
      ((subscribers past channel).filter (· != sender)).map fun receiver =>
        ⟨now, sender, receiver, channel, value⟩).filter fun m =>
          marked past m.receiver.device ≠ .disconnected
  | _ => []

-- What one call gives an instance.
def given (key : InstanceKey) (past : List Operation) : Operation → List (String × Value)
  | .push other name value => if other = key then [(name, value)] else []
  | operation => inbox (sent past operation) key

-- All messages that a run has accepted, and all inputs that it has given an instance.
def forwarded (operations : List Operation) : List Communication := telling sent [] operations

def arrived (key : InstanceKey) (operations : List Operation) : List (String × Value) :=
  telling (given key) [] operations

def Operation.introduces (key : InstanceKey) : Operation → Prop
  | .register other _ => other = key
  | .push other _ _ => other = key
  | _ => False

theorem Operation.listener?_introduces {operation : Operation} {channel : String}
    {key : InstanceKey} (subscribed : operation.listener? channel = some key) :
    operation.introduces key := by
  cases operation with
  | register other channels =>
    rw [Operation.listener?, Option.ite_none_right_eq_some] at subscribed
    exact Option.some.inj subscribed.2
  | _ => cases subscribed

-- Whether an instance was ever registered or pushed to.
def Introduced (key : InstanceKey) (operations : List Operation) : Prop :=
  ∃ operation ∈ operations, operation.introduces key

structure Sound (operations : List Operation) (log : List Entry) (g : Gateway) : Prop where
  serves : g.outages = []
  listening : ∀ channel key, key ∈ (g.listening channel).toList ↔
    ∃ operation ∈ operations, operation.listener? channel = some key
  connection : ∀ device, g.connection device = marked operations device
  known : ∀ key, g.waiting.contains key = true ↔ Introduced key operations
  inputs : ∀ key, fetched key log ++ g.queue key = arrived key operations
  observed : drained log ++ g.observed = forwarded operations

variable {operations : List Operation} {log : List Entry} {g : Gateway}

theorem empty_sound : Sound [] [] .empty := by
  refine ⟨rfl, ?_, fun _ => rfl, ?_, fun _ => rfl, rfl⟩
  · intro channel key
    refine iff_of_false List.not_mem_nil ?_
    rintro ⟨operation, member, _⟩
    exact List.not_mem_nil member
  · intro key
    refine iff_of_false Bool.false_ne_true ?_
    rintro ⟨operation, member, _⟩
    exact List.not_mem_nil member

-- What one call changes is what it says.
theorem Sound.next (sound : Sound operations log g) {operation : Operation} {answer : Answer}
    {after : Gateway} (serves : after.outages = [])
    (listening : ∀ channel key, key ∈ (after.listening channel).toList ↔
      key ∈ (g.listening channel).toList ∨ operation.listener? channel = some key)
    (connection : ∀ device, after.connection device = operation.mark device (g.connection device))
    (known : ∀ key, after.waiting.contains key = true ↔
      g.waiting.contains key = true ∨ operation.introduces key)
    (inputs : ∀ key, fetched key [⟨operation, answer⟩] ++ after.queue key =
      g.queue key ++ given key operations operation)
    (observed : drained [⟨operation, answer⟩] ++ after.observed =
      g.observed ++ sent operations operation) :
    Sound (operations ++ [operation]) (log ++ [⟨operation, answer⟩]) after := by
  refine ⟨serves, ?_, ?_, ?_, ?_, ?_⟩
  · intro channel key
    rw [listening, sound.listening]
    simp [or_and_right, exists_or]
  · intro device
    rw [connection, sound.connection, marked, marked, List.foldl_append]
    rfl
  · intro key
    rw [known, sound.known]
    simp [Introduced, or_and_right, exists_or]
  · intro key
    rw [fetched, List.flatMap_append, List.append_assoc, ← fetched, ← fetched, inputs,
      ← List.append_assoc, sound.inputs, arrived, arrived, telling_concat, List.nil_append]
  · rw [drained, List.flatMap_append, List.append_assoc, ← drained, ← drained, observed,
      ← List.append_assoc, sound.observed, forwarded, forwarded, telling_concat, List.nil_append]

theorem Sound.subscribers (sound : Sound operations log g) (channel : String) :
    (g.listening channel).toList = subscribers operations channel := by
  have increasing : ∀ s : SortedSet InstanceKey,
      s.toList.Pairwise fun key other => compare key other = .lt :=
    fun s => List.pairwise_map.mpr s.increasing
  refine eq_of_increasing id (increasing _) (increasing _) ?_
  intro key
  rw [sound.listening, Gateway.subscribers, SortedSet.mem_ofList, List.mem_filterMap]

-- The gateway accepts what the calls before it say.
theorem Sound.sent (sound : Sound operations log g) (sender : InstanceKey) (outputs : Values)
    (now : Instant) : g.accepted (g.addressed sender outputs now) =
      sent operations (.deliver sender outputs now) := by
  unfold accepted addressed Gateway.sent receivers
  simp only [sound.connection]
  refine congrArg _ (List.flatMap_congr ?_)
  rintro ⟨channel, value⟩ _
  rw [← sound.subscribers]
  rfl

-- Only those that were registered get messages.
theorem Sound.receiver_known (sound : Sound operations log g) {sender : InstanceKey}
    {outputs : Values} {now : Instant} {m : Communication}
    (member : m ∈ g.accepted (g.addressed sender outputs now)) :
    g.waiting.contains m.receiver = true := by
  obtain ⟨⟨channel, value⟩, _, told⟩ := List.mem_flatMap.mp (List.mem_filter.mp member).1
  obtain ⟨receiver, receives, rfl⟩ := List.mem_map.mp told
  have listens : receiver ∈ (g.listening channel).toList := (List.mem_filter.mp receives).1
  obtain ⟨operation, past, subscribed⟩ := (sound.listening channel receiver).mp listens
  exact (sound.known receiver).mpr ⟨operation, past, Operation.listener?_introduces subscribed⟩

theorem register_sound (sound : Sound operations log g) (key : InstanceKey)
    (channels : List String) :
    Sound (operations ++ [.register key channels])
      (log ++ [⟨.register key channels, (g.perform (.register key channels)).2⟩])
      (g.perform (.register key channels)).1 := by
  rw [perform, register_ok sound.serves]
  refine sound.next sound.serves ?_ (fun _ => rfl) ?_ ?_ ?_
  · intro channel other
    refine (mem_listening_registered key channels channel other).trans ?_
    simp [Operation.listener?, eq_comm]
  · intro other
    refine (contains_insertNew g.waiting key other []).trans ?_
    rw [Operation.introduces, eq_comm (a := other)]
  · intro other
    exact (queue_registered key channels other).trans (List.append_nil _).symm
  · exact (List.append_nil _).symm

theorem push_sound (sound : Sound operations log g) (key : InstanceKey) (name : String)
    (value : Value) :
    Sound (operations ++ [.push key name value])
      (log ++ [⟨.push key name value, (g.perform (.push key name value)).2⟩])
      (g.perform (.push key name value)).1 := by
  refine sound.next sound.serves ?_ (fun _ => rfl) ?_ ?_ (List.append_nil _).symm
  · intro channel other
    simp [perform, push, listening, Operation.listener?]
  · intro other
    refine (contains_insert g.waiting key other _).trans ?_
    rw [Operation.introduces, eq_comm (a := other)]
  · intro other
    refine (queue_push g key other name value).trans ?_
    simp only [given, eq_comm (a := other)]

theorem setStatus_sound (sound : Sound operations log g) (device : String)
    (connection : Connection) :
    Sound (operations ++ [.setStatus device connection])
      (log ++ [⟨.setStatus device connection, (g.perform (.setStatus device connection)).2⟩])
      (g.perform (.setStatus device connection)).1 := by
  refine sound.next sound.serves ?_ ?_ ?_ (fun _ => (List.append_nil _).symm)
    (List.append_nil _).symm
  · intro channel other
    simp [perform, setStatus, listening, Operation.listener?]
  · intro other
    show ((g.connections.insert device connection).get? other).getD .connected = _
    rw [SortedMap.get?_insert, Operation.mark]
    simp only [eq_comm (a := other)]
    split <;> rfl
  · intro other
    simp [perform, setStatus, Operation.introduces]

theorem deliver_sound (sound : Sound operations log g) (sender : InstanceKey) (outputs : Values)
    (now : Instant) :
    Sound (operations ++ [.deliver sender outputs now])
      (log ++ [⟨.deliver sender outputs now, (g.perform (.deliver sender outputs now)).2⟩])
      (g.perform (.deliver sender outputs now)).1 := by
  obtain ⟨after, delivered, handed⟩ := deliver_handed sound.serves sender outputs now
  have accepted := sound.sent sender outputs now
  rw [perform, delivered]
  refine sound.next (handed.outages.trans sound.serves) ?_ handed.connection ?_ ?_ ?_
  · intro channel other
    show other ∈ (after.listening channel).toList ↔ _
    rw [listening, handed.listeners, ← listening]
    simp [Operation.listener?]
  · intro other
    -- Whoever gets a message has been registered.
    refine (handed.known other).trans ?_
    simp only [Operation.introduces, or_false, or_iff_left_iff_imp]
    rintro ⟨m, member, rfl⟩
    exact sound.receiver_known member
  · intro other
    refine (handed.queue other).trans ?_
    rw [accepted]
    rfl
  · refine handed.observed.trans ?_
    rw [accepted]

theorem fetch_sound (sound : Sound operations log g) (key : InstanceKey) :
    Sound (operations ++ [.fetch key]) (log ++ [⟨.fetch key, (g.perform (.fetch key)).2⟩])
      (g.perform (.fetch key)).1 := by
  by_cases known : g.waiting.contains key = true
  · rw [perform, fetch_known sound.serves known]
    refine sound.next sound.serves ?_ (fun _ => rfl) ?_ ?_ (List.append_nil _).symm
    · intro channel other
      simp [settle, listening, Operation.listener?]
    · intro other
      refine (contains_insert g.waiting key other []).trans ?_
      simp only [Operation.introduces, or_false, or_iff_left_iff_imp]
      rintro rfl
      exact known
    · intro other
      simp only [settle, fetched, queue, given, sent, inbox, SortedMap.get?_insert,
        List.flatMap_singleton]
      by_cases same : other = key
      · simp [same]
      · simp [same, Ne.symm same]
  · rw [perform, fetch_unknown sound.serves known]
    refine sound.next sound.serves ?_ (fun _ => rfl) ?_ ?_ (List.append_nil _).symm
    · intro channel other
      simp [settle, Operation.listener?]
    · intro other
      simp [settle, Operation.introduces]
    · intro other
      exact (List.append_nil _).symm

theorem drain_sound (sound : Sound operations log g) :
    Sound (operations ++ [.drain]) (log ++ [⟨.drain, (g.perform .drain).2⟩])
      (g.perform .drain).1 := by
  rw [perform, drain_ok sound.serves]
  refine sound.next sound.serves ?_ (fun _ => rfl) ?_ (fun _ => (List.append_nil _).symm) ?_
  · intro channel other
    simp [settle, listening, Operation.listener?]
  · intro other
    simp [settle, Operation.introduces]
  · simp [settle, drained, sent]

theorem perform_sound (sound : Sound operations log g) (operation : Operation) :
    Sound (operations ++ [operation]) (log ++ [⟨operation, (g.perform operation).2⟩])
      (g.perform operation).1 := by
  cases operation with
  | register key channels => exact register_sound sound key channels
  | push key name value => exact push_sound sound key name value
  | setStatus device connection => exact setStatus_sound sound device connection
  | deliver sender outputs now => exact deliver_sound sound sender outputs now
  | fetch key => exact fetch_sound sound key
  | drain => exact drain_sound sound

theorem run_sound (operations : List Operation) :
    Sound operations (run operations).2 (run operations).1 := by
  induction operations using List.reverseRecOn with
  | nil => exact empty_sound
  | append_singleton earlier operation ih =>
    rw [run, List.foldl_append]
    exact perform_sound ih operation

theorem conserved_exact (operations : List Operation) :
    let g := (run operations).1
    let log := (run operations).2
    (∀ key, fetched key log ++ g.queue key = arrived key operations) ∧
      drained log ++ g.observed = forwarded operations ∧
      (∀ key, Introduced key operations → ∃ after,
        g.perform (.fetch key) = (after, .fetched (.ok (g.queue key)))) ∧
      ∀ key, ¬ Introduced key operations →
        g.perform (.fetch key) = (g, .fetched (.error (.unknownInstance key))) := by
  intro g log
  have sound : Sound operations log g := run_sound operations
  refine ⟨sound.inputs, sound.observed, ?_, ?_⟩
  · intro key introduced
    rw [perform, fetch_known sound.serves ((sound.known key).mpr introduced)]
    exact ⟨_, rfl⟩
  · intro key absent
    rw [perform, fetch_unknown sound.serves (mt (sound.known key).mp absent)]
    rfl

end Chronomata.Gateway
