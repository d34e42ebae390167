import Chronomata.Proofs.Fleet.Runs

-- Isolation: two fleets that are equal but for one instance, which has no channel to send on. The same
-- operations on both leave every other instance the same, whatever that one is and does.
namespace Chronomata.Fleet

-- An instance is there, and has no channel to send on.
def SilentAt (f : Fleet) (x : InstanceKey) : Prop :=
  ∃ i, f.instance? x = some i ∧ i.automaton.outputs.toList = []

-- Equal but for one instance, of which only the key is the same. What is noted and not yet taken may
-- differ, too.
structure Apart (x : InstanceKey) (f g : Fleet) : Prop where
  connections : ∀ device, f.connection? device = g.connection? device
  others : ∀ key, key ≠ x → f.instance? key = g.instance? key
  left : f.SilentAt x
  right : g.SilentAt x

variable {x : InstanceKey} {f g f' g' : Fleet} {now : Instant} {host : Host}

theorem Apart.online (apart : Apart x f g) (device : String) : f.online device = g.online device := by
  rw [online_eq, online_eq, apart.connections]

theorem SilentAt.changed (silent : f.SilentAt x) {change : Instance → Instance}
    (keeps : ∀ i, (change i).automaton = i.automaton)
    (told : f'.instance? x = (f.instance? x).map change) : f'.SilentAt x := by
  obtain ⟨i, found, none⟩ := silent
  refine ⟨change i, ?_, ?_⟩
  · rw [told, found, Option.map_some]
  · rw [keeps]
    exact none

-- What is done to the other instances must be the same in both fleets; no one gets another automaton.
theorem Apart.changed (apart : Apart x f g) {change change' : InstanceKey → Instance → Instance}
    (left : ∀ key, f'.instance? key = (f.instance? key).map (change key))
    (right : ∀ key, g'.instance? key = (g.instance? key).map (change' key))
    (same : ∀ key, key ≠ x → change key = change' key)
    (keeps : ∀ i, (change x i).automaton = i.automaton)
    (keeps' : ∀ i, (change' x i).automaton = i.automaton)
    (connections : ∀ device, f'.connection? device = f.connection? device)
    (connections' : ∀ device, g'.connection? device = g.connection? device) : Apart x f' g' := by
  refine ⟨?_, ?_, apart.left.changed keeps (left x), apart.right.changed keeps' (right x)⟩
  · intro device
    rw [connections, connections', apart.connections]
  · intro key other
    rw [left, right, same key other, apart.others key other]

theorem Apart.changeInstance (apart : Apart x f g) (key : InstanceKey)
    {change : Instance → Except EngineError Instance}
    (keeps : ∀ i, (Fleet.changed change i).automaton = i.automaton)
    (left : ∀ other, f'.instance? other =
      if other = key then (f.instance? key).map (Fleet.changed change) else f.instance? other)
    (right : ∀ other, g'.instance? other =
      if other = key then (g.instance? key).map (Fleet.changed change) else g.instance? other)
    (connections : ∀ device, f'.connection? device = f.connection? device)
    (connections' : ∀ device, g'.connection? device = g.connection? device) : Apart x f' g' := by
  let change' : InstanceKey → Instance → Instance := fun other i =>
    if other = key then Fleet.changed change i else i
  have told : ∀ {h h' : Fleet}, (∀ other, h'.instance? other =
      if other = key then (h.instance? key).map (Fleet.changed change) else h.instance? other) →
      ∀ other, h'.instance? other = (h.instance? other).map (change' other) := by
    intro h h' each other
    rw [each]
    by_cases same : other = key
    · simp [change', same]
    · simp [change', same]
  have kept : ∀ i, (change' x i).automaton = i.automaton := by
    intro i
    by_cases same : x = key
    · simp [change', same, keeps]
    · simp [change', same]
  exact apart.changed (told left) (told right) (fun _ _ => rfl) kept kept connections connections'

theorem Apart.changeRunState (apart : Apart x f g) (key : InstanceKey) (verb : String) (now : Instant)
    (sources : List RunState) (target : RunState) (action : String) :
    Apart x
      (f.settle (f.changeRunState key verb now (·.changeRunState now sources target action)))
      (g.settle (g.changeRunState key verb now (·.changeRunState now sources target action))) :=
  apart.changeInstance key (changed_changeRunState_automaton now sources target action)
    (instance?_changeRunState verb _) (instance?_changeRunState verb _)
    (connection?_changeRunState verb _) (connection?_changeRunState verb _)

theorem Apart.setInput (apart : Apart x f g) (key : InstanceKey) (name : String) (value : Value) :
    Apart x (f.settle (f.setInput key name value)) (g.settle (g.setInput key name value)) :=
  apart.changeInstance key (fun _ => rfl) (instance?_changeInstance _) (instance?_changeInstance _)
    (connection?_changeInstance _) (connection?_changeInstance _)

theorem Apart.startAll (apart : Apart x f g) (laid : Laid f) (laid' : Laid g) (now : Instant) :
    Apart x (f.startAll now) (g.startAll now) :=
  apart.changed (laid.instance?_startAll now) (laid'.instance?_startAll now) (fun _ _ => rfl)
    (changed_changeRunState_automaton now _ _ _) (changed_changeRunState_automaton now _ _ _)
    (connection?_startAll f now) (connection?_startAll g now)

theorem Apart.addDevice (apart : Apart x f g) (device : String) :
    Apart x (f.addDevice device) (g.addDevice device) := by
  refine ⟨?_, ?_, ?_, ?_⟩
  · intro other
    rw [connection?_addDevice, connection?_addDevice, apart.connections, apart.connections]
  · intro key other
    rw [instance?_addDevice, instance?_addDevice, apart.others key other]
  · obtain ⟨i, found, none⟩ := apart.left
    exact ⟨i, (instance?_addDevice device x).trans found, none⟩
  · obtain ⟨i, found, none⟩ := apart.right
    exact ⟨i, (instance?_addDevice device x).trans found, none⟩

theorem Apart.setConnection (apart : Apart x f g) (device : String) (connection : Connection)
    (now : Instant) : Apart x (f.settle (f.setConnection device connection now))
      (g.settle (g.setConnection device connection now)) := by
  refine ⟨?_, ?_, ?_, ?_⟩
  · intro other
    rw [connection?_setConnection, connection?_setConnection, apart.connections, apart.connections]
  · intro key other
    rw [instance?_settle_setConnection, instance?_settle_setConnection, apart.others key other]
  · obtain ⟨i, found, none⟩ := apart.left
    exact ⟨i, (instance?_settle_setConnection device connection x).trans found, none⟩
  · obtain ⟨i, found, none⟩ := apart.right
    exact ⟨i, (instance?_settle_setConnection device connection x).trans found, none⟩

theorem Apart.deployable_iff (apart : Apart x f g) (key : InstanceKey) :
    f.Deployable key ↔ g.Deployable key := by
  unfold Deployable
  rw [apart.connections]
  by_cases same : key = x
  · obtain ⟨i, found, _⟩ := apart.left
    obtain ⟨j, found', _⟩ := apart.right
    rw [same, found, found']
    simp
  · rw [apart.others key same]

theorem SilentAt.deploy (silent : f.SilentAt x) {device : String} {a : Automaton}
    {key : InstanceKey} (free : f.Deployable ⟨device, a.id⟩)
    (deployed : f.deploy device a now = .ok (f', key)) : f'.SilentAt x := by
  obtain ⟨i, found, none⟩ := silent
  refine ⟨i, ?_, none⟩
  rw [deploy_ok deployed, if_neg, found]
  intro same
  rw [same, free.2] at found
  cases found

theorem Apart.deploy (apart : Apart x f g) (device : String) (a : Automaton) (now : Instant) :
    Apart x (f.settle ((f.deploy device a now).map (·.1)))
      (g.settle ((g.deploy device a now).map (·.1))) := by
  by_cases free : f.Deployable ⟨device, a.id⟩
  · have free' := (apart.deployable_iff _).mp free
    obtain ⟨after, deployed, connections⟩ := @deploy_of_deployable f now device a free
    obtain ⟨after', deployed', connections'⟩ := @deploy_of_deployable g now device a free'
    rw [deployed, deployed']
    show Apart x after after'
    refine ⟨?_, ?_, apart.left.deploy free deployed, apart.right.deploy free' deployed'⟩
    · intro other
      rw [connections, connections', apart.connections]
    · intro key other
      rw [deploy_ok deployed, deploy_ok deployed', apart.others key other]
  · obtain ⟨cause, refused⟩ := @deploy_of_not_deployable f now device a free
    obtain ⟨cause', refused'⟩ :=
      @deploy_of_not_deployable g now device a (mt (apart.deployable_iff _).mpr free)
    rw [refused, refused']
    exact apart

theorem Message.Before.irreflexive (m : Message) : ¬ m.Before m := by
  rintro (before | ⟨_, before | ⟨_, before⟩⟩)
  · exact ne_of_compare_lt before rfl
  · exact ne_of_compare_lt before rfl
  · exact ne_of_compare_lt before rfl

theorem Message.Before.asymmetric {m n : Message} (before : m.Before n) : ¬ n.Before m := by
  have once : ∀ {κ : Type} [Ord κ] [Std.TransOrd κ] {a b : κ}, compare a b = .lt →
      compare b a ≠ .lt := by
    intro κ _ _ a b first second
    exact ne_of_compare_lt (Std.TransCmp.lt_trans first second) rfl
  intro after
  rcases before with first | ⟨sender, first | ⟨channel, first⟩⟩
  · rcases after with second | ⟨same, _⟩
    · exact once first second
    · exact ne_of_compare_lt first same.symm
  · rcases after with second | ⟨_, second | ⟨same, _⟩⟩
    · exact ne_of_compare_lt second sender.symm
    · exact once first second
    · exact ne_of_compare_lt first same.symm
  · rcases after with second | ⟨_, second | ⟨_, second⟩⟩
    · exact ne_of_compare_lt second sender.symm
    · exact ne_of_compare_lt second channel.symm
    · exact once first second

-- Messages in order are told by which there are.
theorem eq_of_inOrder {messages messages' : List Message}
    (inOrder : messages.Pairwise Message.Before) (inOrder' : messages'.Pairwise Message.Before)
    (same : ∀ m, m ∈ messages ↔ m ∈ messages') : messages = messages' := by
  have irreflexive : Std.Irrefl Message.Before := ⟨Message.Before.irreflexive⟩
  have antisymmetric : Std.Antisymm Message.Before :=
    ⟨fun m n before after => absurd after before.asymmetric⟩
  exact List.Pairwise.eq_of_mem_iff inOrder inOrder' same

-- The one instance sends nothing in either fleet, and all that others send is the same.
theorem Apart.sent_iff (apart : Apart x f g) {m : Message} (other : m.receiver ≠ x) :
    f.Sent host now m ↔ g.Sent host now m := by
  have mute : ∀ {h : Fleet}, h.SilentAt x → m.sender = x → ¬ h.Sent host now m := by
    rintro h ⟨i, found, none⟩ same ⟨i', _, _, ⟨_, found', _⟩, _, _, declared, _⟩
    rw [same, found] at found'
    cases found'
    obtain ⟨_, there⟩ := Option.isSome_iff_exists.mp declared
    have listed : m.channel ∈ i.automaton.outputs.toList := SortedMap.mem_keys.mpr ⟨_, there⟩
    rw [none] at listed
    cases listed
  by_cases same : m.sender = x
  · exact iff_of_false (mute apart.left same) (mute apart.right same)
  · unfold Sent Ticks
    rw [apart.online, apart.others _ same, apart.others _ other]

theorem Apart.inbox (apart : Apart x f g) (laid : Laid f) (laid' : Laid g) {key : InstanceKey}
    (other : key ≠ x) :
    f.inbox ((f.outcomes host now).flatMap (f.stepped host now).posted) key =
      g.inbox ((g.outcomes host now).flatMap (g.stepped host now).posted) key := by
  have ordered := (laid.stepped host now).messages_increase (laid.outcomes_inKeyOrder host now)
  have ordered' := (laid'.stepped host now).messages_increase (laid'.outcomes_inKeyOrder host now)
  have known : ∀ m, m ∈ (f.outcomes host now).flatMap (f.stepped host now).posted ↔ _ :=
    fun m => laid.mem_messages
  have known' : ∀ m, m ∈ (g.outcomes host now).flatMap (g.stepped host now).posted ↔ _ :=
    fun m => laid'.mem_messages
  generalize (f.outcomes host now).flatMap (f.stepped host now).posted = messages at *
  generalize (g.outcomes host now).flatMap (g.stepped host now).posted = messages' at *
  have same : (f.arriving messages).filter (·.receiver == key) =
      (g.arriving messages').filter (·.receiver == key) := by
    refine eq_of_inOrder ?_ ?_ ?_
    · exact (ordered.filter _).filter _
    · exact (ordered'.filter _).filter _
    · intro m
      simp only [arriving, List.mem_filter, known, known', apart.online, beq_iff_eq]
      constructor
      · rintro ⟨⟨sent, online⟩, receiver⟩
        exact ⟨⟨(apart.sent_iff (receiver ▸ other)).mp sent, online⟩, receiver⟩
      · rintro ⟨⟨sent, online⟩, receiver⟩
        exact ⟨⟨(apart.sent_iff (receiver ▸ other)).mpr sent, online⟩, receiver⟩
  unfold Fleet.inbox
  rw [same]

theorem Apart.tick (apart : Apart x f g) (laid : Laid f) (laid' : Laid g) (host : Host)
    (now : Instant) : Apart x (f.tick host now).1 (g.tick host now).1 := by
  let ticked : Fleet → InstanceKey → Instance → Instance := fun h key i =>
    (if h.online key.device then (tickInstance host now i).after else i).setInputs
      (h.inbox ((h.outcomes host now).flatMap (h.stepped host now).posted) key)
  have told : ∀ {h : Fleet}, Laid h → ∀ key,
      (h.tick host now).1.instance? key = (h.instance? key).map (ticked h key) := by
    intro h laid key
    rw [laid.after, instance?_stepped, Option.map_map]
    rfl
  have kept : ∀ h i, (ticked h x i).automaton = i.automaton := by
    intro h i
    rw [setInputs_automaton]
    split
    · exact tickInstance_automaton host now i
    · rfl
  have same : ∀ key, key ≠ x → ticked f key = ticked g key := by
    intro key other
    funext i
    simp only [ticked, apart.online, apart.inbox laid laid' other]
  exact apart.changed (told laid) (told laid') same (kept f) (kept g) (connection?_tick f host now)
    (connection?_tick g host now)

theorem Apart.perform (apart : Apart x f g) (laid : Laid f) (laid' : Laid g) (operation : Operation)
    (now : Instant) : Apart x (f.perform now operation) (g.perform now operation) := by
  cases operation with
  | addDevice device => exact apart.addDevice device
  | deploy device a ready => exact apart.deploy device a now
  | start key => exact apart.changeRunState key "started" now _ _ _
  | pause key => exact apart.changeRunState key "paused" now _ _ _
  | resume key => exact apart.changeRunState key "resumed" now _ _ _
  | stop key => exact apart.changeRunState key "stopped" now _ _ _
  | startAll => exact apart.startAll laid laid' now
  | setInput key name value => exact apart.setInput key name value
  | setConnection device connection => exact apart.setConnection device connection now
  | tick host => exact apart.tick laid laid' host now
  | takeFrame => exact ⟨apart.connections, apart.others, apart.left, apart.right⟩

theorem Apart.run (apart : Apart x f g) (reached : Reached f) (reached' : Reached g)
    (entries : List Entry) : Apart x (f.run entries) (g.run entries) := by
  induction entries generalizing f g with
  | nil => exact apart
  | cons e rest ih =>
    have next := apart.perform (reached_laid reached) (reached_laid reached') e.operation e.now
    exact ih next (perform_reached reached e.operation e.now)
      (perform_reached reached' e.operation e.now)

-- However far a run has got, no other instance shows which of the two fleets it is in: not by its
-- state, its values or its cycle, nor by what it published last.
theorem isolated (apart : Apart x f g) (reached : Reached f) (reached' : Reached g)
    (entries : List Entry) (done : Nat) (key : InstanceKey) (other : key ≠ x) :
    (f.run (entries.take done)).instance? key = (g.run (entries.take done)).instance? key :=
  (apart.run reached reached' (entries.take done)).others key other

-- An alarm stands on the same device in two fleets. In one of them its script fails. A bell and a door
-- are deployed later, and the bell rings the door.
namespace Alarming

open Ringing

def alarm (code : String) : Automaton := automaton "alarm" code [] []

def place : InstanceKey := ⟨"a", "alarm"⟩

def alarmed (code : String) : Fleet := deployed Ringing.devices "a" (alarm code)

def alarmer : Host where
  evaluate := ringer.evaluate
  execute := fun body context =>
    if body = "fail" then .error ⟨body, "broken"⟩ else ringer.execute body context

theorem alarm_ready : (alarm "fail").Ready ∧ (alarm "").Ready :=
  ⟨.loaded (d := definition "alarm" "fail" [] []) (by decide +kernel),
    .loaded (d := definition "alarm" "" [] []) (by decide +kernel)⟩

theorem reached_alarmed {code : String} (ready : (alarm code).Ready) : Reached (alarmed code) :=
  reached_deployed ((((Reached.empty.addDevice "a").addDevice "b").addDevice "c").addDevice "d")
    ready "a"

theorem alarmed_eq (code : String) : ∃ after,
    Ringing.devices.deploy "a" (alarm code) .epoch = .ok (after, place) ∧ alarmed code = after ∧
      ∀ device, after.connection? device = Ringing.devices.connection? device := by
  have free : Ringing.devices.Deployable place := ⟨by decide +kernel, by decide +kernel⟩
  obtain ⟨after, done, connections⟩ := @deploy_of_deployable Ringing.devices .epoch "a" (alarm code) free
  refine ⟨after, done, ?_, connections⟩
  rw [alarmed, deployed, done]
  rfl

theorem apart_alarmed : Apart place (alarmed "fail") (alarmed "") := by
  obtain ⟨after, done, same, connections⟩ := alarmed_eq "fail"
  obtain ⟨after', done', same', connections'⟩ := alarmed_eq ""
  rw [same, same']
  refine ⟨?_, ?_, ⟨_, (deploy_ok done place).trans (if_pos rfl), rfl⟩,
    ⟨_, (deploy_ok done' place).trans (if_pos rfl), rfl⟩⟩
  · intro device
    rw [connections, connections']
  · intro key other
    exact ((deploy_ok done key).trans (if_neg other)).trans
      ((deploy_ok done' key).trans (if_neg other)).symm

theorem bell_ready : bell.Ready :=
  .loaded (d := definition "bell" "ring" [] ["sound"]) (by decide +kernel)

theorem door_ready : door.Ready :=
  .loaded (d := definition "door" "" ["sound"] []) (by decide +kernel)

def entries : List Entry :=
  [.deploy "b" bell bell_ready, .deploy "c" door door_ready, .startAll, .tick alarmer,
    .pause place, .tick alarmer].map (⟨·, .epoch⟩)

end Alarming

open Alarming in
theorem isolated_alarming :
    Apart place (alarmed "fail") (alarmed "") ∧
      ((alarmed "fail").run (entries.take 4)).instance? place ≠
        ((alarmed "").run (entries.take 4)).instance? place ∧
      (((alarmed "").run (entries.take 4)).instance? ⟨"c", "door"⟩).bind (·.inputs.get? "sound") =
        some .void ∧
      ((alarmed "fail").run (entries.take 4)).instance? ⟨"c", "door"⟩ =
        ((alarmed "").run (entries.take 4)).instance? ⟨"c", "door"⟩ :=
  ⟨apart_alarmed, by decide +kernel, by decide +kernel,
    isolated apart_alarmed (reached_alarmed alarm_ready.1) (reached_alarmed alarm_ready.2) entries 4
      ⟨"c", "door"⟩ (by decide)⟩

end Chronomata.Fleet
