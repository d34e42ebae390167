import Chronomata.Proofs.Fleet.Layout
import Chronomata.Proofs.Sequence

-- The second half of a tick: messages reach their receivers one by one. What a fleet becomes is told by
-- the list of all messages, whatever the order in which receivers were looked up on the way.
namespace Chronomata.Fleet

-- A value on its way from one instance to another.
structure Message where
  sender : InstanceKey
  channel : String
  receiver : InstanceKey
  value : Value

namespace Message

def communication (m : Message) (now : Instant) : Communication :=
  ⟨now, m.sender, m.receiver, m.channel, m.value⟩

def dropped (m : Message) (now : Instant) : Event :=
  .messageDropped m.sender m.receiver m.channel now

-- By sender, then by channel, then by receiver.
def Before (m n : Message) : Prop :=
  compare m.sender n.sender = .lt ∨ m.sender = n.sender ∧
    (compare m.channel n.channel = .lt ∨ m.channel = n.channel ∧
      compare m.receiver n.receiver = .lt)

end Message

def post (now : Instant) (f : Fleet) (m : Message) : Fleet :=
  deliver now m.sender m.channel m.value f m.receiver

-- The messages whose receivers can be reached.
def arriving (f : Fleet) (messages : List Message) : List Message :=
  messages.filter fun m => f.online m.receiver.device

def lost (f : Fleet) (messages : List Message) : List Message :=
  messages.filter fun m => !f.online m.receiver.device

-- What of some messages an instance gets.
def inbox (f : Fleet) (messages : List Message) (key : InstanceKey) : List (String × Value) :=
  ((f.arriving messages).filter fun m => m.receiver == key).map fun m => (m.channel, m.value)

variable {f g : Fleet} {now : Instant} {m : Message} {messages : List Message} {key : InstanceKey}
  {i : Instance}

theorem post_online (found : f.instance? m.receiver = some i)
    (online : f.online m.receiver.device = true) :
    post now f m = { f.replaceInstance m.receiver (i.setInput m.channel m.value) with
      communications := f.communications ++ [m.communication now] } := by
  obtain ⟨d, there, _⟩ := instance?_eq_some.mp found
  unfold post deliver
  rw [Fleet.online, there] at online
  have connected : d.connection = .connected := by simpa using online
  simp only [there, connected, reduceCtorEq, if_false, setInput, changeInstance, found]
  rfl

theorem post_offline (found : f.instance? m.receiver = some i)
    (offline : f.online m.receiver.device = false) : post now f m = f.note (m.dropped now) := by
  obtain ⟨d, there, _⟩ := instance?_eq_some.mp found
  unfold post deliver
  rw [Fleet.online, there] at offline
  have disconnected : d.connection = .disconnected := by
    cases connection : d.connection with
    | connected => simp [connection] at offline
    | disconnected => rfl
  simp only [there, disconnected, if_true]
  rfl

-- A fleet after some messages, by what can be asked of it.
structure Delivered (now : Instant) (f : Fleet) (messages : List Message) (g : Fleet) : Prop where
  online : ∀ device, g.online device = f.online device
  instances : ∀ key, g.instance? key =
    (f.instance? key).map fun i => i.setInputs (f.inbox messages key)
  communications : g.communications =
    f.communications ++ (f.arriving messages).map (·.communication now)
  events : g.events = f.events ++ (f.lost messages).map (·.dropped now)

theorem Delivered.nil (now : Instant) (f : Fleet) : Delivered now f [] f := by
  refine ⟨fun _ => rfl, ?_, (List.append_nil _).symm, (List.append_nil _).symm⟩
  intro key
  simp [inbox, arriving, Instance.setInputs]

theorem inbox_append (f : Fleet) (before later : List Message) (key : InstanceKey) :
    f.inbox (before ++ later) key = f.inbox before key ++ f.inbox later key := by
  simp only [inbox, arriving, List.filter_append, List.map_append]

theorem Delivered.post (delivered : Delivered now f messages g)
    (known : ∃ i, f.instance? m.receiver = some i) :
    Delivered now f (messages ++ [m]) (post now g m) := by
  obtain ⟨r, there⟩ := known
  have found := delivered.instances m.receiver
  rw [there, Option.map_some] at found
  cases reach : f.online m.receiver.device with
  | true =>
    rw [post_online found ((delivered.online _).trans reach)]
    refine ⟨?_, ?_, ?_, ?_⟩
    · intro device
      exact (online_replaceInstance _ _ device).trans (delivered.online device)
    · intro key
      refine (instance?_replaceInstance found _ key).trans ?_
      rw [inbox_append]
      split_ifs with same
      · subst same
        simp [there, inbox, arriving, reach, Instance.setInputs]
      · rw [delivered.instances]
        simp [inbox, arriving, reach, Ne.symm same]
    · simp [delivered.communications, arriving, reach]
    · show g.events = _
      simp [delivered.events, lost, reach]
  | false =>
    rw [post_offline found ((delivered.online _).trans reach)]
    refine ⟨delivered.online, ?_, ?_, ?_⟩
    · intro key
      refine (delivered.instances key).trans ?_
      simp [inbox, arriving, reach]
    · refine delivered.communications.trans ?_
      simp [arriving, reach]
    · simp [note, delivered.events, lost, reach]

theorem Placed.setInputs (placed : Placed key i) (values : List (String × Value)) :
    Placed key (i.setInputs values) := by
  induction values generalizing i with
  | nil => exact placed
  | cons head rest ih => exact ih (placed.setInput head.1 head.2)

theorem setInputs_automaton (i : Instance) (values : List (String × Value)) :
    (i.setInputs values).automaton = i.automaton := by
  induction values generalizing i with
  | nil => rfl
  | cons head rest ih => exact ih (i.setInput head.1 head.2)

theorem setInputs_inputs (i : Instance) (values : List (String × Value)) :
    (i.setInputs values).inputs = i.inputs.insertAll values := by
  induction values generalizing i with
  | nil => rfl
  | cons head rest ih => exact ih (i.setInput head.1 head.2)

theorem Delivered.laid (delivered : Delivered now f messages g) (laid : Laid f) : Laid g := by
  intro key i there
  rw [delivered.instances] at there
  obtain ⟨before, found, rfl⟩ := Option.map_eq_some_iff.mp there
  exact (laid _ _ found).setInputs _

theorem Laid.mem_receivers (laid : Laid f) {sender : InstanceKey} {channel : String} :
    key ∈ f.receivers sender channel ↔
      key ≠ sender ∧ ∃ i, f.instance? key = some i ∧ i.automaton.inputs.contains channel := by
  unfold receivers
  simp only [List.mem_map, List.mem_filter, laid.mem_instances, Bool.and_eq_true, bne_iff_ne]
  constructor
  · rintro ⟨i, ⟨found, other, listens⟩, rfl⟩
    exact ⟨other, i, found, listens⟩
  · rintro ⟨other, i, found, listens⟩
    have same := (laid _ _ found).key_eq
    subst same
    exact ⟨i, ⟨found, other, listens⟩, rfl⟩

theorem Laid.receivers_inKeyOrder (laid : Laid f) (sender : InstanceKey) (channel : String) :
    InKeyOrder (f.receivers sender channel) :=
  laid.instances_inKeyOrder.sublist (List.Sublist.map _ List.filter_sublist)

-- Messages change no one's channels, so they can be told before any is delivered.
theorem Delivered.receivers (delivered : Delivered now f messages g) (laid : Laid f)
    (sender : InstanceKey) (channel : String) :
    g.receivers sender channel = f.receivers sender channel := by
  have after := delivered.laid laid
  refine eq_of_increasing id (after.receivers_inKeyOrder _ _) (laid.receivers_inKeyOrder _ _) ?_
  intro key
  rw [after.mem_receivers, laid.mem_receivers, delivered.instances]
  simp [setInputs_automaton]

def messagesOf (f : Fleet) (sender : InstanceKey) (sent : String × Value) : List Message :=
  (f.receivers sender sent.1).map fun receiver => ⟨sender, sent.1, receiver, sent.2⟩

def posted (f : Fleet) (o : Outcome) : List Message := o.sent.entries.flatMap (f.messagesOf o.key)

theorem Laid.mem_posted (laid : Laid f) {o : Outcome} :
    m ∈ f.posted o ↔ m.sender = o.key ∧ o.sent.get? m.channel = some m.value ∧
      m.receiver ≠ m.sender ∧
        ∃ i, f.instance? m.receiver = some i ∧ i.automaton.inputs.contains m.channel := by
  simp only [posted, messagesOf, List.mem_flatMap, List.mem_map, Prod.exists,
    SortedMap.mem_entries, laid.mem_receivers]
  constructor
  · rintro ⟨channel, value, sent, receiver, ⟨other, listens⟩, rfl⟩
    exact ⟨rfl, sent, other, listens⟩
  · obtain ⟨sender, channel, receiver, value⟩ := m
    rintro ⟨rfl, sent, other, listens⟩
    exact ⟨channel, value, sent, receiver, ⟨other, listens⟩, rfl⟩

-- One step for each item, and the messages of all items.
theorem Delivered.foldl {α : Type} {step : Fleet → α → Fleet} {sent : α → List Message}
    (items : List α)
    (each : ∀ {messages g}, ∀ item ∈ items, Delivered now f messages g →
      Delivered now f (messages ++ sent item) (step g item))
    (delivered : Delivered now f messages g) :
    Delivered now f (messages ++ items.flatMap sent) (items.foldl step g) :=
  foldl_tells (Delivered now f) items each delivered

theorem Delivered.routeValue (delivered : Delivered now f messages g) (laid : Laid f)
    (sender : InstanceKey) (sent : String × Value) :
    Delivered now f (messages ++ f.messagesOf sender sent) (routeValue now sender g sent) := by
  unfold Fleet.routeValue messagesOf
  rw [delivered.receivers laid, List.map_eq_flatMap]
  refine delivered.foldl _ ?_
  intro messages g receiver member delivered
  obtain ⟨_, i, found, _⟩ := laid.mem_receivers.mp member
  exact delivered.post (m := ⟨sender, sent.1, receiver, sent.2⟩) ⟨i, found⟩

theorem Delivered.route (delivered : Delivered now f messages g) (laid : Laid f) (o : Outcome) :
    Delivered now f (messages ++ f.posted o) (route now g o) :=
  delivered.foldl _ fun sent _ delivered => delivered.routeValue laid o.key sent

theorem delivered_route (laid : Laid f) (now : Instant) (outcomes : List Outcome) :
    Delivered now f (outcomes.flatMap f.posted) (outcomes.foldl (route now) f) :=
  (Delivered.nil now f).foldl outcomes fun o _ delivered => delivered.route laid o

theorem Laid.posted_increase (laid : Laid f) (o : Outcome) :
    (f.posted o).Pairwise Message.Before := by
  refine List.pairwise_flatMap.mpr ⟨?_, ?_⟩
  · intro sent _
    refine List.pairwise_map.mpr ((laid.receivers_inKeyOrder o.key sent.1).imp ?_)
    intro receiver receiver' before
    exact .inr ⟨rfl, .inr ⟨rfl, before⟩⟩
  · refine o.sent.increasing.imp ?_
    intro sent sent' before m member m' member'
    obtain ⟨_, _, rfl⟩ := List.mem_map.mp member
    obtain ⟨_, _, rfl⟩ := List.mem_map.mp member'
    exact .inr ⟨rfl, .inl before⟩

theorem Laid.messages_increase (laid : Laid f) {outcomes : List Outcome}
    (increase : InKeyOrder (outcomes.map (·.key))) :
    (outcomes.flatMap f.posted).Pairwise Message.Before := by
  refine List.pairwise_flatMap.mpr ⟨fun o _ => laid.posted_increase o, ?_⟩
  refine (List.pairwise_map.mp increase).imp ?_
  intro o o' before m member m' member'
  refine .inl ?_
  rw [(laid.mem_posted.mp member).1, (laid.mem_posted.mp member').1]
  exact before

theorem mem_inbox_names {name : String} :
    name ∈ (f.inbox messages key).map (·.1) ↔
      f.online key.device ∧ ∃ m ∈ messages, m.receiver = key ∧ m.channel = name := by
  simp only [inbox, arriving, List.map_map, List.mem_map, List.mem_filter, beq_iff_eq,
    Function.comp_apply]
  constructor
  · rintro ⟨m, ⟨⟨member, online⟩, rfl⟩, rfl⟩
    exact ⟨online, m, member, rfl, rfl⟩
  · rintro ⟨online, m, member, rfl, rfl⟩
    exact ⟨m, ⟨⟨member, online⟩, rfl⟩, rfl⟩

-- Of several messages on one channel the one from the greatest sender is the last to arrive.
theorem inputs_greatest (increase : messages.Pairwise Message.Before) (member : m ∈ messages)
    (online : f.online m.receiver.device)
    (greatest : ∀ n ∈ messages, n.receiver = m.receiver → n.channel = m.channel →
      compare m.sender n.sender ≠ .lt) (i : Instance) :
    (i.setInputs (f.inbox messages m.receiver)).inputs.get? m.channel = some m.value := by
  obtain ⟨earlier, later, rfl⟩ := List.append_of_mem member
  have absent : m.channel ∉ (f.inbox later m.receiver).map (·.1) := by
    intro again
    obtain ⟨_, n, after, receiver, channel⟩ := mem_inbox_names.mp again
    have before : m.Before n :=
      (List.pairwise_cons.mp (List.pairwise_append.mp increase).2.1).1 n after
    have there : n ∈ earlier ++ m :: later :=
      List.mem_append_right _ (List.mem_cons_of_mem _ after)
    rcases before with sender | ⟨_, before | ⟨_, before⟩⟩
    · exact greatest n there receiver channel sender
    · exact ne_of_compare_lt before channel.symm
    · exact ne_of_compare_lt before receiver.symm
  have arrives : f.inbox (m :: later) m.receiver =
      (m.channel, m.value) :: f.inbox later m.receiver := by
    simp [inbox, arriving, online]
  rw [setInputs_inputs, inbox_append, arrives, SortedMap.insertAll, List.foldl_append,
    List.foldl_cons]
  exact (SortedMap.get?_insertAll_of_absent absent).trans (SortedMap.get?_insert_self _ _ _)

end Chronomata.Fleet
