import Chronomata.Gateway
import Chronomata.Proofs.Sequence
import Chronomata.Proofs.Sorted.Map

-- Messages in a gateway. Whatever is delivered is told by the list of messages that it makes: each is
-- accepted when its receiver can be reached, and then it waits for the receiver and is observed once.
namespace Chronomata.Gateway

-- The inputs that wait for an instance. For one that is not known there are none.
def queue (g : Gateway) (key : InstanceKey) : List (String × Value) := (g.waiting.get? key).getD []

def listening (g : Gateway) (channel : String) : SortedSet InstanceKey :=
  (g.listeners.get? channel).getD SortedMap.empty

-- One message to each listener of each channel, but none to the sender.
def addressed (g : Gateway) (sender : InstanceKey) (outputs : Values) (now : Instant) :
    List Communication :=
  outputs.entries.flatMap fun (channel, value) =>
    (g.receivers sender channel).map fun receiver => ⟨now, sender, receiver, channel, value⟩

-- The messages whose receivers are not known to be disconnected.
def accepted (g : Gateway) (messages : List Communication) : List Communication :=
  messages.filter fun m => g.connection m.receiver.device ≠ .disconnected

-- What messages are inputs of one instance.
def inbox (messages : List Communication) (key : InstanceKey) : List (String × Value) :=
  (messages.filter (·.receiver == key)).map fun m => (m.channel, m.value)

-- A gateway after some messages.
structure Handed (g : Gateway) (messages : List Communication) (after : Gateway) : Prop where
  listeners : after.listeners = g.listeners
  connections : after.connections = g.connections
  outages : after.outages = g.outages
  queue : ∀ key, after.queue key = g.queue key ++ inbox (g.accepted messages) key
  known : ∀ key, after.waiting.contains key = true ↔
    g.waiting.contains key = true ∨ ∃ m ∈ g.accepted messages, m.receiver = key
  observed : after.observed = g.observed ++ g.accepted messages

variable {g after : Gateway} {key : InstanceKey} {messages : List Communication}

theorem inbox_append (messages later : List Communication) (key : InstanceKey) :
    inbox (messages ++ later) key = inbox messages key ++ inbox later key := by
  simp [inbox]

theorem accepted_append (g : Gateway) (messages later : List Communication) :
    g.accepted (messages ++ later) = g.accepted messages ++ g.accepted later :=
  List.filter_append ..

theorem queue_push (g : Gateway) (key other : InstanceKey) (name : String) (value : Value) :
    (g.push key name value).queue other =
      g.queue other ++ if other = key then [(name, value)] else [] := by
  unfold queue push
  rw [SortedMap.get?_insert]
  split
  · rename_i same
    rw [same]
    rfl
  · rw [List.append_nil]

theorem contains_insert {α : Type} (m : SortedMap InstanceKey α) (key other : InstanceKey)
    (value : α) : (m.insert key value).contains other = true ↔
      m.contains other = true ∨ other = key := by
  unfold SortedMap.contains
  rw [SortedMap.get?_insert]
  split <;> simp_all

theorem contains_insertNew {α : Type} (m : SortedMap InstanceKey α) (key other : InstanceKey)
    (value : α) : (m.insertNew key value).contains other = true ↔
      m.contains other = true ∨ other = key := by
  unfold SortedMap.contains
  rw [SortedMap.get?_insertNew]
  split <;> simp_all

-- A registration adds one listener to each of its channels.
theorem mem_listening_foldl (channels : List String)
    (listeners : SortedMap String (SortedSet InstanceKey)) (key other : InstanceKey)
    (channel : String) :
    other ∈ (((channels.foldl (fun listeners channel => listeners.insert channel
        (((listeners.get? channel).getD SortedMap.empty).add key)) listeners).get? channel).getD
          SortedMap.empty).toList ↔
      other ∈ ((listeners.get? channel).getD SortedMap.empty).toList ∨
        channel ∈ channels ∧ other = key := by
  induction channels generalizing listeners with
  | nil => simp
  | cons head rest ih =>
    rw [List.foldl_cons, ih, SortedMap.get?_insert, List.mem_cons]
    by_cases same : channel = head
    · simp only [same, if_true, Option.getD_some, true_or, true_and]
      rw [show other ∈ (SortedSet.add _ key).toList ↔ _ from SortedMap.mem_keys_insert]
      tauto
    · simp only [same, if_false, false_or]

def registered (g : Gateway) (key : InstanceKey) (channels : List String) : Gateway :=
  { g with
    listeners := channels.foldl (fun listeners channel => listeners.insert channel
      (((listeners.get? channel).getD SortedMap.empty).add key)) g.listeners
    waiting := g.waiting.insertNew key [] }

theorem mem_listening_registered (key : InstanceKey) (channels : List String) (channel : String)
    (other : InstanceKey) : other ∈ ((g.registered key channels).listening channel).toList ↔
      other ∈ (g.listening channel).toList ∨ channel ∈ channels ∧ other = key :=
  mem_listening_foldl channels g.listeners key other channel

-- One that becomes known has no inputs yet, and one that is known keeps its inputs.
theorem queue_registered (key : InstanceKey) (channels : List String) (other : InstanceKey) :
    (g.registered key channels).queue other = g.queue other := by
  unfold queue registered
  rw [SortedMap.get?_insertNew]
  split <;> rfl

theorem require_ok (serves : g.outages = []) (service : Service) : g.require service = .ok () := by
  simp [require, serves]

theorem register_ok (serves : g.outages = []) (key : InstanceKey) (channels : List String) :
    g.register key channels = .ok (g.registered key channels) := by
  unfold register
  rw [require_ok serves]
  rfl

theorem drain_ok (serves : g.outages = []) : g.drain = .ok ({ g with observed := [] }, g.observed) := by
  unfold drain
  rw [require_ok serves]
  rfl

theorem fetch_known (serves : g.outages = []) (known : g.waiting.contains key = true) :
    g.fetch key = .ok ({ g with waiting := g.waiting.insert key [] }, g.queue key) := by
  obtain ⟨inputs, there⟩ := Option.isSome_iff_exists.mp known
  unfold fetch queue
  rw [require_ok serves, there]
  rfl

theorem fetch_unknown (serves : g.outages = []) (unknown : ¬ g.waiting.contains key = true) :
    g.fetch key = .error (.unknownInstance key) := by
  unfold fetch
  rw [require_ok serves, Option.not_isSome_iff_eq_none.mp unknown]
  rfl

theorem Handed.nil (g : Gateway) : Handed g [] g := by
  refine ⟨rfl, rfl, rfl, fun key => (List.append_nil _).symm, ?_, (List.append_nil _).symm⟩
  intro key
  simp [accepted]

theorem Handed.connection (handed : Handed g messages after) (device : String) :
    after.connection device = g.connection device := by
  unfold Gateway.connection
  rw [handed.connections]

theorem Handed.send (handed : Handed g messages after) (m : Communication) :
    Handed g (messages ++ [m])
      (send m.timestamp m.sender m.channel m.value after m.receiver) := by
  unfold Gateway.send
  rw [handed.connection]
  split
  · rename_i lost
    have none : g.accepted [m] = [] := by simp [accepted, lost]
    refine ⟨handed.listeners, handed.connections, handed.outages, ?_, ?_, ?_⟩
    · intro key
      rw [accepted_append, none, List.append_nil]
      exact handed.queue key
    · intro key
      rw [accepted_append, none, List.append_nil]
      exact handed.known key
    · rw [accepted_append, none, List.append_nil]
      exact handed.observed
  · rename_i reached
    have one : g.accepted [m] = [m] := by simp [accepted, reached]
    refine ⟨handed.listeners, handed.connections, handed.outages, ?_, ?_, ?_⟩
    · intro key
      show (after.push m.receiver m.channel m.value).queue key = _
      rw [queue_push, handed.queue, accepted_append, one, inbox_append, List.append_assoc]
      congr 1
      by_cases same : key = m.receiver
      · simp [inbox, same]
      · simp [inbox, same, Ne.symm same]
    · intro key
      show (after.waiting.insert m.receiver _).contains key = true ↔ _
      rw [contains_insert, handed.known, accepted_append, one, or_assoc]
      simp only [List.mem_append, List.mem_singleton, or_and_right, exists_or, exists_eq_left,
        eq_comm (a := key)]
    · show after.observed ++ [m] = _
      rw [handed.observed, accepted_append, one, List.append_assoc]

-- Messages change no one's channels, so they can be told before any is delivered.
theorem Handed.receivers (handed : Handed g messages after) (sender : InstanceKey)
    (channel : String) : after.receivers sender channel = g.receivers sender channel := by
  unfold Gateway.receivers
  rw [handed.listeners]

theorem handed_foldl (g : Gateway) (sender : InstanceKey) (outputs : Values) (now : Instant) :
    Handed g (g.addressed sender outputs now)
      (outputs.entries.foldl (fun g (channel, value) =>
        (g.receivers sender channel).foldl (send now sender channel value) g) g) := by
  refine foldl_tells (Handed g) outputs.entries ?_ (Handed.nil g)
  rintro before b ⟨channel, value⟩ _ handed
  dsimp only
  rw [handed.receivers, List.map_eq_flatMap]
  refine foldl_tells (Handed g) _ ?_ handed
  intro before b receiver _ handed
  exact handed.send ⟨now, sender, receiver, channel, value⟩

-- A gateway takes everything that it is given to deliver.
theorem deliver_handed (serves : g.outages = []) (sender : InstanceKey) (outputs : Values)
    (now : Instant) : ∃ after, g.deliver sender outputs now = .ok after ∧
      Handed g (g.addressed sender outputs now) after := by
  refine ⟨_, ?_, handed_foldl g sender outputs now⟩
  unfold deliver
  rw [require_ok serves]
  rfl

end Chronomata.Gateway
