import Chronomata.Proofs.Fleet.Runs
import Chronomata.Proofs.Gateway.Messages

-- A fleet gives messages to its instances at once, a gateway keeps them until they are fetched. With the same
-- listeners and connections, both make the same messages in the same order.
namespace Chronomata.Gateway

open Fleet

-- A gateway that listens for the instances of a fleet, and reaches the devices that the fleet reaches.
structure Mirrors (g : Gateway) (f : Fleet) : Prop where
  listening : ∀ channel key, key ∈ (g.listening channel).toList ↔
    ∃ i, f.instance? key = some i ∧ i.automaton.inputs.contains channel
  connections : ∀ device connection, f.connection? device = some connection →
    g.connection device = connection

variable {f : Fleet} {g after : Gateway} {now : Instant} {key : InstanceKey}

theorem receivers_inKeyOrder (g : Gateway) (sender : InstanceKey) (channel : String) :
    InKeyOrder (g.receivers sender channel) :=
  (List.pairwise_map.mpr (g.listening channel).increasing).filter _

theorem Mirrors.receivers (mirrors : g.Mirrors f) (laid : Laid f) (sender : InstanceKey)
    (channel : String) : g.receivers sender channel = f.receivers sender channel := by
  refine eq_of_increasing id (g.receivers_inKeyOrder sender channel)
    (laid.receivers_inKeyOrder sender channel) ?_
  intro key
  rw [laid.mem_receivers, ← mirrors.listening]
  show key ∈ List.filter (· != sender) (g.listening channel).toList ↔ _
  rw [List.mem_filter, bne_iff_ne, and_comm]

theorem Mirrors.addressed (mirrors : g.Mirrors f) (laid : Laid f) (o : Outcome) (now : Instant) :
    g.addressed o.key o.sent now = (f.posted o).map (·.communication now) := by
  unfold Gateway.addressed posted
  rw [List.map_flatMap]
  refine List.flatMap_congr ?_
  rintro ⟨channel, value⟩ _
  dsimp only
  rw [mirrors.receivers laid, messagesOf, List.map_map]
  rfl

theorem Mirrors.online (mirrors : g.Mirrors f) {i : Instance} (found : f.instance? key = some i) :
    f.online key.device = true ↔ g.connection key.device ≠ .disconnected := by
  obtain ⟨d, there, _⟩ := instance?_eq_some.mp found
  have known : f.connection? key.device = some d.connection := by
    rw [connection?, there, Option.map_some]
  rw [online_eq, known, mirrors.connections _ _ known]
  cases d.connection <;> decide

-- What of an outcome arrives, in the order in which it is sent.
def carried (f : Fleet) (o : Outcome) (now : Instant) : List Communication :=
  (f.arriving (f.posted o)).map (·.communication now)

theorem Mirrors.accepted (mirrors : g.Mirrors f) (laid : Laid f) (o : Outcome) (now : Instant) :
    g.accepted (g.addressed o.key o.sent now) = carried f o now := by
  unfold Gateway.accepted carried arriving
  rw [mirrors.addressed laid, List.filter_map]
  congr 1
  refine List.filter_congr ?_
  intro m member
  obtain ⟨_, _, _, i, found, _⟩ := laid.mem_posted.mp member
  exact Bool.eq_iff_iff.mpr (decide_eq_true_iff.trans (mirrors.online found).symm)

theorem inbox_carried (o : Outcome) (key : InstanceKey) :
    inbox (carried f o now) key = f.inbox (f.posted o) key := by
  unfold Gateway.inbox carried Fleet.inbox
  rw [List.filter_map, List.map_map]
  rfl

theorem instance?_route (laid : Laid f) (o : Outcome) (key : InstanceKey) :
    (route now f o).instance? key =
      (f.instance? key).map fun i => i.setInputs (inbox (carried f o now) key) := by
  rw [inbox_carried]
  exact ((Delivered.nil now f).route laid o).instances key

-- Messages tell neither side of new listeners or other connections.
theorem Mirrors.route (mirrors : g.Mirrors f) (laid : Laid f) {messages : List Communication}
    (handed : Handed g messages after) (o : Outcome) (now : Instant) :
    after.Mirrors (route now f o) := by
  constructor
  · intro channel key
    have same : after.listening channel = g.listening channel := by
      unfold Gateway.listening
      rw [handed.listeners]
    rw [same, mirrors.listening, instance?_route laid]
    simp only [Option.map_eq_some_iff, exists_exists_and_eq_and, setInputs_automaton]
  · intro device connection known
    rw [handed.connection]
    refine mirrors.connections device connection (Eq.trans ?_ known)
    refine (connection?_foldl (fun f sent => ?_) _).symm
    exact connection?_foldl (fun f receiver => connection?_deliver _ _ _ receiver device) _

-- What a caller of the gateway takes to be the inputs of an instance.
theorem fetch_queue (serves : g.outages = []) (key : InstanceKey) :
    ((g.fetch key).toOption.getD (g, [])).2 = g.queue key := by
  by_cases known : g.waiting.contains key = true
  · rw [fetch_known serves known]
    rfl
  · rw [fetch_unknown serves known, queue, Option.not_isSome_iff_eq_none.mp known]
    rfl

-- A fleet and a gateway that mirrors it carry what one instance sends to the same receivers in the
-- same order. An instance that lags behind the one in the fleet by what waits for it still does so
-- afterwards; once it has taken what can be fetched, both are the same.
theorem routed_exact (reached : Reached f) (serves : g.outages = []) (mirrors : g.Mirrors f)
    (o : Outcome) (now : Instant) :
    ∃ after, g.deliver o.key o.sent now = .ok after ∧ after.Mirrors (route now f o) ∧
      (route now f o).communications = f.communications ++ carried f o now ∧
      after.observed = g.observed ++ carried f o now ∧
      (∀ key (i : Instance), f.instance? key = some i →
        (route now f o).instance? key = some (i.setInputs (inbox (carried f o now) key))) ∧
      (∀ key, after.queue key = g.queue key ++ inbox (carried f o now) key) ∧
      ∀ key (i : Instance), f.instance? key = some (i.setInputs (g.queue key)) →
        (route now f o).instance? key =
          some (i.setInputs ((after.fetch key).toOption.getD (after, [])).2) := by
  have laid := reached_laid reached
  obtain ⟨after, delivered, handed⟩ := deliver_handed serves o.key o.sent now
  have observed := handed.observed
  have queue := handed.queue
  rw [mirrors.accepted laid] at observed
  simp only [mirrors.accepted laid] at queue
  refine ⟨after, delivered, mirrors.route laid handed o now, ?_, observed, ?_, queue, ?_⟩
  · exact ((Delivered.nil now f).route laid o).communications
  · intro key i found
    rw [instance?_route laid, found, Option.map_some]
  · intro key i found
    rw [instance?_route laid, found, Option.map_some, fetch_queue (handed.outages.trans serves),
      queue]
    exact congrArg some (List.foldl_append ..).symm

-- What is deployed is registered with the channels of its automaton.
theorem Mirrors.deploy (mirrors : g.Mirrors f) (device : String) (a : Automaton) (now : Instant)
    (free : Deployable f ⟨device, a.id⟩) :
    (g.registered ⟨device, a.id⟩ a.inputs.toList).Mirrors
      (f.settle ((f.deploy device a now).map (·.1))) := by
  obtain ⟨deployed, made, connections⟩ := @deploy_of_deployable f now device a free
  rw [show f.settle ((f.deploy device a now).map (·.1)) = deployed by rw [made]; rfl]
  constructor
  · intro channel key
    rw [mem_listening_registered, mirrors.listening, deploy_ok made]
    split
    · rename_i same
      rw [same, free.2]
      simp [SortedSet.toList, SortedMap.mem_keys, SortedMap.contains, Option.isSome_iff_exists,
        Instance.new]
    · rename_i other
      simp [other]
  · intro other connection known
    exact mirrors.connections other connection ((connections other).symm.trans known)

-- A device is marked as the fleet has it.
theorem Mirrors.setConnection (mirrors : g.Mirrors f) (device : String) (connection : Connection) :
    (g.setStatus device connection).Mirrors
      (f.settle (f.setConnection device connection now)) := by
  constructor
  · intro channel key
    rw [instance?_settle_setConnection]
    exact mirrors.listening channel key
  · intro other found known
    rw [connection?_setConnection] at known
    show ((g.connections.insert device connection).get? other).getD .connected = found
    rw [SortedMap.get?_insert]
    split
    · rename_i same
      rw [if_pos same] at known
      obtain ⟨_, _, rfl⟩ := Option.map_eq_some_iff.mp known
      rfl
    · rename_i different
      rw [if_neg different] at known
      exact mirrors.connections other found known

-- A bell and two doors, one of which cannot be reached.
namespace Ringing

open Fleet.Ringing

def hall : Fleet :=
  cut (deployed (deployed (deployed Fleet.Ringing.devices "a" bell) "c" door) "d" door) "d"

def exchange : Gateway :=
  (((Gateway.empty.registered ⟨"a", "bell"⟩ bell.inputs.toList).registered ⟨"c", "door"⟩
    door.inputs.toList).registered ⟨"d", "door"⟩ door.inputs.toList).setStatus "d" .disconnected

def ring : Outcome where
  key := ⟨"a", "bell"⟩
  sent := .ofEntries [("sound", .str "low")]
  report := ⟨(Instance.new "a" bell .epoch).latest, none, SortedMap.empty, [], []⟩

def heard : Communication := ⟨.epoch, ⟨"a", "bell"⟩, ⟨"c", "door"⟩, "sound", .str "low"⟩

theorem hall_reached : Reached hall := by
  have bells : bell.Ready := .loaded (d := definition "bell" "ring" [] ["sound"]) (by decide +kernel)
  have doors : door.Ready := .loaded (d := definition "door" "" ["sound"] []) (by decide +kernel)
  have bare : Reached Fleet.Ringing.devices :=
    (((Reached.empty.addDevice "a").addDevice "b").addDevice "c").addDevice "d"
  exact reached_cut (reached_deployed (reached_deployed (reached_deployed bare bells "a") doors "c")
    doors "d") "d"

theorem deployed_eq (f : Fleet) (device : String) (a : Automaton) :
    f.settle ((f.deploy device a .epoch).map (·.1)) = deployed f device a := by
  unfold deployed
  cases f.deploy device a .epoch <;> rfl

theorem empty_mirrors : Gateway.empty.Mirrors Fleet.Ringing.devices := by
  constructor
  · intro channel key
    have none : Fleet.Ringing.devices.instances = [] := by decide +kernel
    refine iff_of_false List.not_mem_nil ?_
    rintro ⟨i, found, _⟩
    have member : i ∈ Fleet.Ringing.devices.instances := Fleet.mem_instances.mpr ⟨key, found⟩
    rw [none] at member
    exact List.not_mem_nil member
  · intro device connection known
    obtain ⟨d, found, rfl⟩ := Option.map_eq_some_iff.mp known
    have all : ∀ d ∈ Fleet.Ringing.devices.devices.values, .connected = d.connection := by
      decide +kernel
    exact all d (SortedMap.mem_values.mpr ⟨device, found⟩)

theorem exchange_mirrors : exchange.Mirrors hall := by
  have first := empty_mirrors.deploy "a" bell .epoch
    ⟨by decide +kernel, by decide +kernel⟩
  rw [deployed_eq] at first
  have second := first.deploy "c" door .epoch
    ⟨by decide +kernel, by decide +kernel⟩
  rw [deployed_eq] at second
  have third := second.deploy "d" door .epoch
    ⟨by decide +kernel, by decide +kernel⟩
  rw [deployed_eq] at third
  exact third.setConnection "d" .disconnected

end Ringing

open Ringing in
theorem routed_exact_ringing :
    Reached hall ∧ exchange.outages = [] ∧ exchange.Mirrors hall ∧
      (route .epoch hall ring).communications = [heard] ∧
      ∃ after, exchange.deliver ring.key ring.sent .epoch = .ok after ∧ after.observed = [heard] ∧
        after.queue ⟨"c", "door"⟩ = [("sound", .str "low")] ∧ after.queue ⟨"d", "door"⟩ = [] := by
  have carries : carried hall ring .epoch = [heard] := by decide +kernel
  obtain ⟨after, delivered, _, communications, observed, _, queue, _⟩ :=
    routed_exact hall_reached rfl exchange_mirrors ring .epoch
  rw [carries] at communications observed
  simp only [carries] at queue
  exact ⟨hall_reached, rfl, exchange_mirrors, communications, after, delivered, observed, queue _,
    queue _⟩

end Chronomata.Gateway
