import Chronomata.Proofs.Fleet.Routing
import Chronomata.Proofs.Fleet.Stepping

-- A tick of a fleet is one step of all its instances at once: each makes the tick that it makes alone, and
-- every message comes after all of these.
namespace Chronomata.Fleet

-- The fleets that a program can come to hold. What is refused changes nothing.
inductive Reached : Fleet → Prop where
  | empty : Reached .empty
  | addDevice {f : Fleet} (before : Reached f) (device : String) : Reached (f.addDevice device)
  | deploy {f after : Fleet} {a : Automaton} {device : String} {key : InstanceKey} {now : Instant}
      (before : Reached f) (ready : a.Ready)
      (deployed : f.deploy device a now = .ok (after, key)) : Reached after
  | start {f after : Fleet} {key : InstanceKey} {now : Instant} (before : Reached f)
      (started : f.start key now = .ok after) : Reached after
  | pause {f after : Fleet} {key : InstanceKey} {now : Instant} (before : Reached f)
      (paused : f.pause key now = .ok after) : Reached after
  | resume {f after : Fleet} {key : InstanceKey} {now : Instant} (before : Reached f)
      (resumed : f.resume key now = .ok after) : Reached after
  | stop {f after : Fleet} {key : InstanceKey} {now : Instant} (before : Reached f)
      (stopped : f.stop key now = .ok after) : Reached after
  | startAll {f : Fleet} (before : Reached f) (now : Instant) : Reached (f.startAll now)
  | setInput {f after : Fleet} {key : InstanceKey} {name : String} {value : Value}
      (before : Reached f) (set : f.setInput key name value = .ok after) : Reached after
  | setConnection {f after : Fleet} {device : String} {connection : Connection} {now : Instant}
      (before : Reached f) (set : f.setConnection device connection now = .ok after) :
      Reached after
  | tick {f : Fleet} (before : Reached f) (host : Host) (now : Instant) :
      Reached (f.tick host now).1
  | takeFrame {f : Fleet} (before : Reached f) : Reached f.takeFrame.1

variable {f : Fleet}

theorem Laid.delivered (laid : Laid f) (host : Host) (now : Instant) :
    Delivered now (f.stepped host now)
      ((f.outcomes host now).flatMap (f.stepped host now).posted) (f.tick host now).1 := by
  rw [tick_fleet]
  exact delivered_route (laid.stepped host now) now _

theorem reached_laid (reached : Reached f) : Laid f := by
  induction reached with
  | empty =>
    intro key i found
    cases found
  | addDevice _ device ih =>
    intro key i found
    rw [instance?_addDevice] at found
    exact ih _ _ found
  | deploy _ ready deployed ih =>
    intro key i found
    rw [deploy_ok deployed] at found
    split_ifs at found with same
    · cases found
      exact same ▸ new_placed ready.wellFormed _ _
    · exact ih _ _ found
  | start _ started ih => exact ih.changeRunState started
  | pause _ paused ih => exact ih.changeRunState paused
  | resume _ resumed ih => exact ih.changeRunState resumed
  | stop _ stopped ih => exact ih.changeRunState stopped
  | startAll _ now ih => exact ih.startAll now
  | setInput _ set ih => exact ih.setInput set
  | setConnection _ set ih =>
    intro key i found
    rw [instance?_setConnection set] at found
    exact ih _ _ found
  | tick _ host now ih => exact (ih.delivered host now).laid (ih.stepped host now)
  | takeFrame _ ih => exact ih

-- What an instance reports of the tick that it makes alone. Its scripts see the inputs from before.
def Reports (f : Fleet) (host : Host) (now : Instant) (key : InstanceKey)
    (own : Instance.TickReport) : Prop :=
  ∃ i after, f.Ticks key i ∧ i.tick host now = .ok (after, own) ∧
    ∀ c ∈ own.calls, c.context.inputs = i.inputs

-- A value goes from an instance that emits it on one of its output channels to every other instance
-- that has the channel as input.
def Sent (f : Fleet) (host : Host) (now : Instant) (m : Message) : Prop :=
  ∃ i after own, f.Ticks m.sender i ∧ i.tick host now = .ok (after, own) ∧
    own.emitted.get? m.channel = some m.value ∧ i.automaton.outputs.contains m.channel ∧
    m.receiver ≠ m.sender ∧
      ∃ r, f.instance? m.receiver = some r ∧ r.automaton.inputs.contains m.channel

-- What a fleet becomes and reports, told by the fleet before alone.
structure Simultaneous (f : Fleet) (host : Host) (now : Instant)
    (owns : List Instance.TickReport) (messages : List Message) (after : Fleet)
    (report : TickReport) : Prop where
  inKeyOrder : InKeyOrder report.ticked
  mem_ticked : ∀ key, key ∈ report.ticked ↔ ∃ i, f.Ticks key i
  reported : List.Forall₂ (f.Reports host now) report.ticked owns
  calls : report.calls = owns.flatMap (·.calls)
  inOrder : messages.Pairwise Message.Before
  mem_messages : ∀ m, m ∈ messages ↔ f.Sent host now m
  online : ∀ device, after.online device = f.online device
  absent : ∀ key, f.instance? key = none → after.instance? key = none
  -- Inputs come on top of the tick that the instance makes alone, and are all that others change.
  moved : ∀ key i, f.Ticks key i → ∃ i' own, i.tick host now = .ok (i', own) ∧
    after.instance? key = some (i'.setInputs (f.inbox messages key))
  rested : ∀ key i, f.instance? key = some i → ¬ f.Ticks key i →
    after.instance? key = some (i.setInputs (f.inbox messages key))
  communications : after.communications =
    f.communications ++ (f.arriving messages).map (·.communication now)
  events : after.events =
    f.events ++ owns.flatMap (·.events) ++ (f.lost messages).map (·.dropped now)
  -- Of several senders on one channel the greatest is the one that is heard.
  greatest : ∀ m ∈ messages, f.online m.receiver.device →
    (∀ n ∈ messages, n.receiver = m.receiver → n.channel = m.channel →
      compare m.sender n.sender ≠ .lt) →
    ∃ i, after.instance? m.receiver = some i ∧ i.inputs.get? m.channel = some m.value
  -- An input that no message names stays what it was.
  unheard : ∀ key i name, f.instance? key = some i →
    (∀ m ∈ messages, m.receiver = key → m.channel ≠ name) →
    ∃ i', after.instance? key = some i' ∧ i'.inputs.get? name = i.inputs.get? name

variable {host : Host} {now : Instant} {key : InstanceKey} {i : Instance} {m : Message}
  {messages : List Message}

theorem get?_channelValues {a : Automaton} {emitted : Values} {channel : String} {value : Value} :
    (channelValues a emitted).get? channel = some value ↔
      emitted.get? channel = some value ∧ a.outputs.contains channel :=
  SortedMap.get?_filter

theorem arriving_stepped (host : Host) (now : Instant) :
    (f.stepped host now).arriving = f.arriving := by
  funext messages
  simp only [arriving, online_stepped]

theorem lost_stepped (host : Host) (now : Instant) : (f.stepped host now).lost = f.lost := by
  funext messages
  simp only [lost, online_stepped]

theorem inbox_stepped (host : Host) (now : Instant) : (f.stepped host now).inbox = f.inbox := by
  funext messages key
  simp only [inbox, arriving_stepped]

theorem stepped_listens {channel : String} :
    (∃ r, (f.stepped host now).instance? key = some r ∧ r.automaton.inputs.contains channel) ↔
      ∃ r, f.instance? key = some r ∧ r.automaton.inputs.contains channel := by
  have same : ∀ r, (if f.online key.device then (tickInstance host now r).after else r).automaton =
      r.automaton := by
    intro r
    split
    · exact tickInstance_automaton host now r
    · rfl
  simp only [instance?_stepped, Option.map_eq_some_iff]
  constructor
  · rintro ⟨_, ⟨r, found, rfl⟩, listens⟩
    exact ⟨r, found, same r ▸ listens⟩
  · rintro ⟨r, found, listens⟩
    exact ⟨_, ⟨r, found, rfl⟩, (same r).symm ▸ listens⟩

theorem Laid.mem_messages (laid : Laid f) :
    m ∈ (f.outcomes host now).flatMap (f.stepped host now).posted ↔ f.Sent host now m := by
  simp only [List.mem_flatMap, (laid.stepped host now).mem_posted, stepped_listens, laid.mem_outcomes]
  constructor
  · rintro ⟨o, ⟨i, after, ticks, ticked, sends⟩, sender, sent, other, listens⟩
    rw [sends, get?_channelValues] at sent
    exact ⟨i, after, o.report, sender ▸ ticks, ticked, sent.1, sent.2, other, listens⟩
  · rintro ⟨i, after, own, ticks, ticked, emitted, declared, other, listens⟩
    exact ⟨⟨m.sender, _, own⟩, ⟨i, after, ticks, ticked, rfl⟩, rfl,
      get?_channelValues.mpr ⟨emitted, declared⟩, other, listens⟩

theorem Laid.reported (laid : Laid f) (host : Host) (now : Instant) :
    List.Forall₂ (f.Reports host now) (f.tick host now).2.ticked
      ((f.outcomes host now).map (·.report)) := by
  rw [tick_ticked, List.forall₂_map_left_iff, List.forall₂_map_right_iff, List.forall₂_same]
  intro o member
  obtain ⟨i, after, ticks, ticked, _⟩ := laid.mem_outcomes.mp member
  exact ⟨i, after, ticks, ticked, Instance.tick_shows ticked⟩

theorem Laid.after (laid : Laid f) (host : Host) (now : Instant) (key : InstanceKey) :
    (f.tick host now).1.instance? key = ((f.stepped host now).instance? key).map fun i =>
      i.setInputs (f.inbox ((f.outcomes host now).flatMap (f.stepped host now).posted) key) := by
  rw [(laid.delivered host now).instances, inbox_stepped]

theorem instance?_stepped_of_tick {i' : Instance} {own : Instance.TickReport}
    (ticks : f.Ticks key i) (ticked : i.tick host now = .ok (i', own)) :
    (f.stepped host now).instance? key = some i' := by
  rw [instance?_stepped, ticks.2.1, Option.map_some, if_pos ticks.1, tickInstance_of_tick ticked]

theorem instance?_stepped_of_resting (found : f.instance? key = some i) (rests : ¬ f.Ticks key i) :
    (f.stepped host now).instance? key = some i := by
  rw [instance?_stepped, found, Option.map_some]
  split
  · rename_i online
    rw [tickInstance_of_resting fun running => rests ⟨online, found, running⟩]
  · rfl

-- A tick of its own gives an instance no input.
theorem Laid.stepped_inputs (laid : Laid f) (found : f.instance? key = some i) (host : Host)
    (now : Instant) :
    ∃ between, (f.stepped host now).instance? key = some between ∧ between.inputs = i.inputs := by
  by_cases ticks : f.Ticks key i
  · obtain ⟨i', own, ticked⟩ := laid.ticks ticks host now
    exact ⟨i', instance?_stepped_of_tick ticks ticked, (Instance.tick_kept ticked).2.2⟩
  · exact ⟨i, instance?_stepped_of_resting found ticks, rfl⟩

-- One tick is the step of all instances at once, whatever was done to the fleet before.
theorem tick_exact (reached : Reached f) (host : Host) (now : Instant) :
    ∃ owns messages,
      Simultaneous f host now owns messages (f.tick host now).1 (f.tick host now).2 := by
  have laid := reached_laid reached
  have delivered := laid.delivered host now
  have increase : ((f.outcomes host now).flatMap (f.stepped host now).posted).Pairwise
      Message.Before := (laid.stepped host now).messages_increase (laid.outcomes_inKeyOrder host now)
  refine ⟨_, _, ?_, fun key => laid.mem_ticked, laid.reported host now, ?_, increase,
    fun m => laid.mem_messages, ?_, ?_, ?_, ?_, ?_, ?_, ?_, ?_⟩
  · rw [tick_ticked]
    exact laid.outcomes_inKeyOrder host now
  · rw [tick_calls, List.flatMap_map]
  · intro device
    rw [delivered.online, online_stepped]
  · intro key absent
    rw [laid.after, instance?_stepped, absent]
    rfl
  · intro key i ticks
    obtain ⟨i', own, ticked⟩ := laid.ticks ticks host now
    refine ⟨i', own, ticked, ?_⟩
    rw [laid.after, instance?_stepped_of_tick ticks ticked, Option.map_some]
  · intro key i found rests
    rw [laid.after, instance?_stepped_of_resting found rests, Option.map_some]
  · rw [delivered.communications, arriving_stepped]
    rfl
  · rw [delivered.events, lost_stepped, laid.stepped_events, List.flatMap_map]
  · intro m member online greatest
    obtain ⟨_, _, _, _, _, _, _, _, r, found, _⟩ := laid.mem_messages.mp member
    obtain ⟨between, there, _⟩ := laid.stepped_inputs found host now
    refine ⟨_, by rw [laid.after, there, Option.map_some], ?_⟩
    exact inputs_greatest increase member online greatest between
  · intro key i name found silent
    obtain ⟨between, there, same⟩ := laid.stepped_inputs found host now
    refine ⟨_, by rw [laid.after, there, Option.map_some], ?_⟩
    rw [setInputs_inputs, ← same]
    refine SortedMap.get?_insertAll_of_absent ?_
    intro heard
    obtain ⟨_, m, member, receiver, channel⟩ := mem_inbox_names.mp heard
    exact silent m member receiver channel

-- Bells on two devices ring the doors on two others, one of which cannot be reached.
namespace Ringing

def places (code : String) : List (String × State) := [("S", { State.plain "S" with code })]

def header (name : String) : Header := ⟨name, .inline, "lua", "", [], none⟩

def definition (name code : String) (inputs outputs : List String) : Definition where
  version := "1"
  header := header name
  initial := "S"
  states := places code
  transitions := []
  inputs := .ofList inputs
  outputs := .ofList outputs

def automaton (name code : String) (inputs outputs : List String) : Automaton where
  version := "1"
  header := header name
  initial := "S"
  states := .ofEntries (places code)
  transitions := SortedMap.empty
  inputs := .ofList inputs
  outputs := .ofList outputs
  isDirty := false

def bell : Automaton := automaton "bell" "ring" [] ["sound"]

def door : Automaton := automaton "door" "" ["sound"] []

def ringer : Host where
  evaluate := fun _ _ => .ok true
  execute := fun _ context =>
    .ok (Effects.none.emit "sound" ((context.inputs.get? "tone").getD .void))

def deployed (f : Fleet) (device : String) (a : Automaton) : Fleet :=
  ((f.deploy device a .epoch).toOption.map (·.1)).getD f

def tuned (f : Fleet) (device tone : String) : Fleet :=
  (f.setInput ⟨device, "bell"⟩ "tone" (.str tone)).toOption.getD f

def cut (f : Fleet) (device : String) : Fleet :=
  (f.setConnection device .disconnected .epoch).toOption.getD f

theorem reached_deployed (before : Reached f) {a : Automaton} (ready : a.Ready) (device : String) :
    Reached (deployed f device a) := by
  unfold deployed
  cases done : f.deploy device a .epoch with
  | error cause => exact before
  | ok result => exact before.deploy ready done

theorem reached_tuned (before : Reached f) (device tone : String) :
    Reached (tuned f device tone) := by
  unfold tuned
  cases done : f.setInput ⟨device, "bell"⟩ "tone" (.str tone) with
  | error cause => exact before
  | ok result => exact before.setInput done

theorem reached_cut (before : Reached f) (device : String) : Reached (cut f device) := by
  unfold cut
  cases done : f.setConnection device .disconnected .epoch with
  | error cause => exact before
  | ok result => exact before.setConnection done

def devices : Fleet := (((empty.addDevice "a").addDevice "b").addDevice "c").addDevice "d"

def silent : Fleet :=
  deployed (deployed (deployed (deployed devices "a" bell) "b" bell) "c" door) "d" door

def fleet : Fleet := cut (tuned (tuned (silent.startAll .epoch) "a" "low") "b" "high") "d"

theorem reached_fleet : Reached fleet := by
  have bells : bell.Ready := .loaded (d := definition "bell" "ring" [] ["sound"]) (by decide +kernel)
  have doors : door.Ready := .loaded (d := definition "door" "" ["sound"] []) (by decide +kernel)
  have bare : Reached devices :=
    (((Reached.empty.addDevice "a").addDevice "b").addDevice "c").addDevice "d"
  have quiet : Reached silent :=
    reached_deployed (reached_deployed (reached_deployed (reached_deployed bare bells "a") bells "b")
      doors "c") doors "d"
  exact reached_cut (reached_tuned (reached_tuned (quiet.startAll .epoch) "a" "low") "b" "high") "d"

end Ringing

open Ringing in
theorem tick_exact_ringing :
    Reached fleet ∧
      (fleet.tick ringer .epoch).2.ticked = [⟨"a", "bell"⟩, ⟨"b", "bell"⟩, ⟨"c", "door"⟩] ∧
      ((fleet.tick ringer .epoch).1.instance? ⟨"c", "door"⟩).bind (·.inputs.get? "sound") =
        some (.str "high") ∧
      ∃ owns messages, Simultaneous fleet ringer .epoch owns messages
        (fleet.tick ringer .epoch).1 (fleet.tick ringer .epoch).2 ∧
        (fleet.arriving messages).length = 2 := by
  obtain ⟨owns, messages, step⟩ := tick_exact reached_fleet ringer .epoch
  have told := congrArg List.length step.communications
  have before : fleet.communications = [] := by decide +kernel
  have after : (fleet.tick ringer .epoch).1.communications.length = 2 := by decide +kernel
  rw [before, after, List.nil_append, List.length_map] at told
  exact ⟨reached_fleet, by decide +kernel, by decide +kernel, owns, messages, step, told.symm⟩

end Chronomata.Fleet
