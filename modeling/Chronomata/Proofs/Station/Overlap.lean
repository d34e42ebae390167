import Chronomata.Proofs.Station.Frames

-- Captures that overlap. The frames of a session are in the order in which they were appended, and that need
-- not be the order in which they were gathered.
namespace Chronomata

-- What a capture has gathered, and for which session.
structure Gathering where
  id : SessionId
  executions : List ExecutionSnapshot
  devices : List DeviceSummary

-- A station with its captures: all that was ever gathered, in order; the places in it of what is not appended
-- yet; and what was appended to which session, in order.
structure Overlap where
  station : Station
  gathered : List Gathering
  pending : List Nat
  appended : List (SessionId × Nat)

namespace Overlap

-- What a task does with nothing in between. A capture is a gathering, a collection and an append, in this order;
-- nothing depends on whose collection it is.
inductive Turn where
  | ask (operation : Station.Operation)
  | tick (key : InstanceKey)
  | gather (id : SessionId)
  | collect
  | append (place : Nat)

def append (o : Overlap) (now : Instant) (place : Nat) (g : Gathering) : Overlap :=
  let (answer, logbook) := o.station.logbook.append g.id g.executions g.devices now
  { o with
    station := { o.station with logbook }
    pending := o.pending.erase place
    appended := match answer with
      | .ok _ => o.appended ++ [(g.id, place)]
      | .error _ => o.appended }

def perform (o : Overlap) (now : Instant) : Turn → Overlap
  | .ask operation => { o with station := o.station.perform now operation }
  | .tick key => { o with station := o.station.drive key now }
  | .gather id =>
    let (s, executions, devices) := o.station.gather now
    ⟨s, o.gathered ++ [⟨id, executions, devices⟩], o.pending ++ [o.gathered.length], o.appended⟩
  | .collect => { o with station := o.station.collect }
  | .append place => match o.gathered[place]? with
    | some g => if place ∈ o.pending then o.append now place g else o
    | none => o

-- With nothing in between, these are the steps of a capture of the station.
theorem perform_capture (o : Overlap) (id : SessionId) (now : Instant) :
    (((o.perform now (.gather id)).perform now .collect).perform now
      (.append o.gathered.length)).station = (o.station.capture id now).2 := by
  have there : (o.gathered ++ [(⟨id, (o.station.gather now).2.1, (o.station.gather now).2.2⟩ :
      Gathering)])[o.gathered.length]? = some ⟨id, (o.station.gather now).2.1, (o.station.gather now).2.2⟩ :=
    List.getElem?_concat_length
  have waits : o.gathered.length ∈ o.pending ++ [o.gathered.length] := by simp
  simp only [perform, there, waits, if_true]
  rfl

-- The session is not operated on directly, and ids of new sessions name no session that is there.
def Turn.Allowed (id : SessionId) (s : Station) : Turn → Prop
  | .ask operation =>
    operation.isPrompt = true ∧ operation.Fresh s.travel ∧ operation.touches id = false
  | _ => True

-- Turns of all the tasks in any order, and how many there were.
inductive Runs (id : SessionId) : Overlap → Nat → Prop where
  | new (host : Host) (gateway : Gateway) (tickInterval : Span) :
      Runs id ⟨.new host gateway tickInterval, [], [], []⟩ 0
  | next {o : Overlap} {turns : Nat} (before : Runs id o turns) (turn : Turn) (now : Instant)
      (allowed : turn.Allowed id o.station) : Runs id (o.perform now turn) (turns + 1)

-- The places of what was appended to a session, in order.
def places (o : Overlap) (id : SessionId) : List Nat := (o.appended.filter (·.1 == id)).map (·.2)

-- What was seen at a place, of the instances and of the devices.
def seen (o : Overlap) (place : Nat) : List ExecutionSnapshot × List DeviceSummary :=
  ((o.gathered[place]?).map fun g => (g.executions, g.devices)).getD ([], [])

-- What was seen later shows no instance in an earlier cycle.
def Ordered (gathered : List Gathering) : Prop :=
  ∀ (place place' : Nat) (g g' : Gathering), place ≤ place' → gathered[place]? = some g →
    gathered[place']? = some g' → Precedes g.executions g'.executions

structure Sound (id : SessionId) (o : Overlap) (turns : Nat) : Prop where
  logged : ∃ lines, Logbook.Runs o.station.logbook lines
  counted : o.station.Counted turns
  behind : ∀ g ∈ o.gathered, o.station.Behind g.executions
  ordered : Ordered o.gathered
  placed : ∀ place ∈ o.places id, place < o.gathered.length
  frames : ∀ session, o.station.travel.session? id = some session →
    session.frames.map (fun f => (f.executions, f.devices)) <:+ (o.places id).map o.seen

variable {o : Overlap} {turns : Nat} {id : SessionId} {now : Instant}

-- What a task does to the logbook is a run of it that goes on.
theorem Sound.goes_on {news : List Event} {after : Logbook} (sound : Sound id o turns)
    (tells : o.station.logbook.Tells news after) : ∃ lines, Logbook.Runs after lines := by
  obtain ⟨lines, logged⟩ := sound.logged
  obtain ⟨more, logged, _⟩ := tells.runs logged
  exact ⟨lines ++ more, logged⟩

-- A turn that gathers and appends nothing.
theorem Sound.quiet {s : Station} {pending : List Nat} (sound : Sound id o turns) (few : turns + 1 < 2 ^ 64)
    (logged : ∃ lines, Logbook.Runs s.logbook lines) (onward : o.station.Onward s)
    (unfilled : Unfilled id o.station.travel s.travel) :
    Sound id { o with station := s, pending } (turns + 1) := by
  refine ⟨logged, sound.counted.next onward, ?_, sound.ordered, sound.placed, ?_⟩
  · intro g member
    exact (sound.behind g member).next sound.counted few onward
  · intro session found
    rcases unfilled session found with empty | ⟨before, known, same⟩
    · rw [empty]
      exact List.nil_suffix
    · rw [same]
      exact sound.frames before known

theorem Sound.collect (sound : Sound id o turns) (few : turns + 1 < 2 ^ 64) :
    Sound id (o.perform now .collect) (turns + 1) := by
  have logged := sound.goes_on (o.station.collect_tells now)
  have unfilled := congrArg (·.session? id) (Station.collect_travel o.station)
  exact sound.quiet few logged (.of_instances (Station.collect_instances _)) (.of_session? unfilled)

theorem Sound.tick (sound : Sound id o turns) (few : turns + 1 < 2 ^ 64) (key : InstanceKey) :
    Sound id (o.perform now (.tick key)) (turns + 1) := by
  have logged := sound.goes_on (o.station.drive_tells key now)
  have unfilled := congrArg (·.session? id) (o.station.drive_travel key now)
  exact sound.quiet few logged (Station.drive_onward sound.counted.filed key now) (.of_session? unfilled)

theorem Sound.ask (sound : Sound id o turns) (few : turns + 1 < 2 ^ 64) {operation : Station.Operation}
    (allowed : (Turn.ask operation).Allowed id o.station) :
    Sound id (o.perform now (.ask operation)) (turns + 1) := by
  obtain ⟨prompt, fresh, own⟩ := allowed
  obtain ⟨lines, logged⟩ := sound.logged
  obtain ⟨more, runs, _⟩ := Station.Passage.runs (p := ⟨o.station, operation, now⟩) logged fresh
  exact sound.quiet few ⟨_, runs⟩ (Station.perform_onward o.station now prompt)
    (Station.perform_unfilled logged now prompt own)

-- What is seen now comes after all that was seen before.
theorem Ordered.concat {gathered : List Gathering} {g : Gathering} (ordered : Ordered gathered)
    (last : ∀ g' ∈ gathered ++ [g], Precedes g'.executions g.executions) : Ordered (gathered ++ [g]) := by
  intro place place' g₁ g₂ order first later
  rcases Nat.lt_or_ge place' gathered.length with inside | outside
  · rw [List.getElem?_append_left inside] at later
    rw [List.getElem?_append_left (Nat.lt_of_le_of_lt order inside)] at first
    exact ordered place place' g₁ g₂ order first later
  · have newest : g₂ = g := by
      rw [List.getElem?_append_right outside] at later
      exact List.mem_singleton.mp (List.mem_of_getElem? later)
    rw [newest]
    exact last g₁ (List.mem_of_getElem? first)

theorem Sound.gather (sound : Sound id o turns) (few : turns + 1 < 2 ^ 64) (other : SessionId) :
    Sound id (o.perform now (.gather other)) (turns + 1) := by
  have instances : (o.station.gather now).1.instances = o.station.instances :=
    Station.summarize_instances now _ _ _
  have travel : (o.station.gather now).1.travel = o.station.travel := Station.summarize_travel now _ _ _
  have logged : ∃ lines, Logbook.Runs (o.station.gather now).1.logbook lines :=
    sound.goes_on (Station.summarize_tells now _ _ o.station)
  have onward : o.station.Onward (o.station.gather now).1 := .of_instances instances
  have same : (o.station.gather now).2.1 = o.station.published := rfl
  generalize made : (⟨other, (o.station.gather now).2.1, (o.station.gather now).2.2⟩ : Gathering) = g
  have shown : g.executions = o.station.published := made ▸ same
  -- What is seen now is behind what there is to see, as is all that was seen before.
  have behind : ∀ g' ∈ o.gathered ++ [g], o.station.Behind g'.executions := by
    refine List.forall_mem_append.mpr ⟨sound.behind, List.forall_mem_singleton.mpr ?_⟩
    rw [shown]
    exact sound.counted.published_behind
  have after : o.perform now (.gather other) =
      ⟨(o.station.gather now).1, o.gathered ++ [g], o.pending ++ [o.gathered.length], o.appended⟩ := by
    rw [← made]
    rfl
  rw [after]
  refine ⟨logged, sound.counted.next onward, ?_, sound.ordered.concat ?_, ?_, ?_⟩
  · intro g' member
    exact (behind g' member).next sound.counted few onward
  · intro g' member
    rw [shown]
    exact (behind g' member).precedes sound.counted
  · intro place member
    exact Nat.lt_of_lt_of_le (sound.placed place member) (by simp)
  · intro session found
    rw [travel] at found
    have view : (o.places id).map (seen ⟨(o.station.gather now).1, o.gathered ++ [g],
        o.pending ++ [o.gathered.length], o.appended⟩) = (o.places id).map o.seen := by
      refine List.map_congr_left ?_
      intro place member
      rw [seen, seen, List.getElem?_append_left (sound.placed place member)]
    exact view ▸ sound.frames session found

-- A frame is appended to the session that it was gathered for, or it is refused and nothing becomes of it.
theorem append_cases (o : Overlap) (now : Instant) (place : Nat) (g : Gathering) :
    ((o.append now place g).appended = o.appended ∧
      (o.append now place g).station.travel = o.station.travel) ∨
    ∃ session content, o.station.travel.session? g.id = some session ∧
      content.executions = g.executions ∧ content.devices = g.devices ∧
      (o.append now place g).appended = o.appended ++ [(g.id, place)] ∧
      (o.append now place g).station.travel =
        ⟨o.station.travel.recorder.store (session.append content now).1, o.station.travel.playheads⟩ := by
  unfold append
  rw [Logbook.append_eq]
  cases captured : o.station.logbook.travel.capture g.id
      (o.station.logbook.content g.id g.executions g.devices) now with
  | error cause => exact .inl ⟨rfl, rfl⟩
  | ok both =>
    obtain ⟨session, found, records⟩ := TimeTravel.recording_of_capture captured
    obtain rfl := Except.ok.inj ((TimeTravel.capture_of_records found records _ now).symm.trans captured)
    exact .inr ⟨session, _, found, rfl, rfl, rfl, rfl⟩

theorem Sound.appends (sound : Sound id o turns) (now : Instant) {place : Nat} {g : Gathering}
    (there : o.gathered[place]? = some g) :
    (∀ place' ∈ (o.append now place g).places id, place' < o.gathered.length) ∧
      ∀ session, (o.append now place g).station.travel.session? id = some session →
        session.frames.map (fun f => (f.executions, f.devices)) <:+
          ((o.append now place g).places id).map o.seen := by
  have inside : place < o.gathered.length := (List.getElem?_eq_some_iff.mp there).1
  rcases append_cases o now place g with ⟨still, travel⟩ | ⟨before, content, known, shown, listed, added, travel⟩
  · rw [travel, places, still]
    exact ⟨sound.placed, sound.frames⟩
  · obtain ⟨lines, logged⟩ := sound.logged
    have filed : (before.append content now).1.id = g.id :=
      ((TimeTravel.runs_sound logged.travels).filed known).1
    rw [travel, places, added, List.filter_append, List.map_append]
    by_cases same : g.id = id
    · subst same
      have new : ([(g.id, place)].filter (·.1 == g.id)).map (·.2) = [place] := by simp
      rw [new]
      refine ⟨List.forall_mem_append.mpr ⟨sound.placed, List.forall_mem_singleton.mpr inside⟩, ?_⟩
      intro session found
      rw [TimeTravel.session?_store, if_pos filed.symm] at found
      obtain rfl := Option.some.inj found
      -- The newest frame shows what was seen at the place, and the others are as before.
      have newest : o.seen place = (content.executions, content.devices) := by
        rw [seen, there, shown, listed]
        rfl
      obtain ⟨dropped, whole⟩ := sound.frames before known
      refine ((before.append_frames content now).map _).trans ⟨dropped, ?_⟩
      rw [List.map_append, List.map_append, ← List.append_assoc, whole, List.map_singleton,
        List.map_singleton, newest]
      rfl
    · have none : ([(g.id, place)].filter (·.1 == id)).map (·.2) = [] := by simp [same]
      rw [none, List.append_nil]
      refine ⟨sound.placed, ?_⟩
      intro session found
      rw [TimeTravel.session?_store, if_neg (filed ▸ Ne.symm same)] at found
      exact sound.frames session found

theorem Sound.append (sound : Sound id o turns) (few : turns + 1 < 2 ^ 64) (place : Nat) :
    Sound id (o.perform now (.append place)) (turns + 1) := by
  have rest : Sound id o (turns + 1) :=
    sound.quiet few sound.logged (.of_instances rfl) (.of_session? rfl)
  simp only [perform]
  split
  · rename_i g there
    split
    · obtain ⟨placed, frames⟩ := sound.appends now there
      have logged := sound.goes_on (o.station.logbook.tells_append g.id g.executions g.devices now)
      have onward : o.station.Onward (o.append now place g).station := .of_instances rfl
      refine ⟨logged, sound.counted.next onward, ?_, sound.ordered, placed, frames⟩
      exact fun g' member => (sound.behind g' member).next sound.counted few onward
    · exact rest
  · exact rest

theorem Runs.sound (runs : Runs id o turns) (few : turns < 2 ^ 64) : Sound id o turns := by
  induction runs with
  | new host gateway tickInterval =>
    refine ⟨⟨[], .start⟩, ?_, List.forall_mem_nil _, ?_, List.forall_mem_nil _, ?_⟩
    · intro key i there
      cases there
    · intro place place' g g' _ there
      cases there
    · intro session found
      cases found
  | @next o turns before turn now allowed ih =>
    have sound := ih (Nat.lt_of_succ_lt few)
    cases turn with
    | ask operation => exact sound.ask few allowed
    | tick key => exact sound.tick few key
    | gather other => exact sound.gather few other
    | collect => exact sound.collect few
    | append place => exact sound.append few place

-- A frame shows what was gathered at a place.
def Shows (o : Overlap) (place : Nat) (f : Frame) : Prop :=
  ∃ g, o.gathered[place]? = some g ∧ f.executions = g.executions ∧ f.devices = g.devices

theorem Sound.shows (sound : Sound id o turns) {session : Session}
    (found : o.station.travel.session? id = some session) :
    ∃ places, places <:+ o.places id ∧ List.Forall₂ o.Shows places session.frames := by
  obtain ⟨dropped, whole⟩ := sound.frames session found
  obtain ⟨before, places, all, _, shown⟩ := List.map_eq_append_iff.mp whole.symm
  have inside : ∀ place ∈ places, place < o.gathered.length := fun place member =>
    sound.placed place (all ▸ List.mem_append_right before member)
  have same : List.Forall₂ Eq (places.map o.seen)
      (session.frames.map fun f => (f.executions, f.devices)) := shown ▸ List.forall₂_refl _
  rw [List.forall₂_map_left_iff, List.forall₂_map_right_iff] at same
  refine ⟨places, ⟨before, all.symm⟩, ?_⟩
  refine ((List.forall₂_and_left _ _).mpr ⟨inside, same⟩).imp ?_
  rintro place f ⟨inside, seen⟩
  rw [Overlap.seen, List.getElem?_eq_getElem inside] at seen
  obtain ⟨executions, devices⟩ := Prod.mk.inj seen
  exact ⟨o.gathered[place], List.getElem?_eq_getElem inside, executions.symm, devices.symm⟩

-- No instance goes back to an earlier cycle from a frame to a later one.
def NeverBack (frames : List Frame) : Prop :=
  frames.Pairwise fun f f' => Precedes f.executions f'.executions

instance : DecidablePred NeverBack := fun frames =>
  inferInstanceAs (Decidable (frames.Pairwise fun f f' => Precedes f.executions f'.executions))

-- Whatever the tasks do in whatever order: a frame shows what was gathered at some place, and no instance is
-- in an earlier cycle in it than in a frame that was gathered before. When frames are appended in the order
-- in which they were gathered, no instance ever goes back.
theorem overlapped_exact (runs : Runs id o turns) (few : turns < 2 ^ 64) {session : Session}
    (found : o.station.travel.session? id = some session) :
    ∃ places, places <:+ o.places id ∧ List.Forall₂ o.Shows places session.frames ∧
      (∀ a ∈ places.zip session.frames, ∀ b ∈ places.zip session.frames, a.1 ≤ b.1 →
        Precedes a.2.executions b.2.executions) ∧
      ((o.places id).Pairwise (· ≤ ·) → NeverBack session.frames) := by
  have sound := runs.sound few
  obtain ⟨places, suffix, shows⟩ := sound.shows found
  have ordered : ∀ a ∈ places.zip session.frames, ∀ b ∈ places.zip session.frames, a.1 ≤ b.1 →
      Precedes a.2.executions b.2.executions := by
    intro a first b later order
    obtain ⟨g, there, executions, _⟩ := List.forall₂_zip shows first
    obtain ⟨g', there', executions', _⟩ := List.forall₂_zip shows later
    rw [executions, executions']
    exact sound.ordered a.1 b.1 g g' order there there'
  refine ⟨places, suffix, shows, ordered, ?_⟩
  intro increasing
  have increasing : ((places.zip session.frames).map (·.1)).Pairwise (· ≤ ·) := by
    rw [List.map_fst_zip (le_of_eq shows.length_eq)]
    exact increasing.sublist suffix.sublist
  rw [NeverBack, ← List.map_snd_zip (le_of_eq shows.length_eq.symm), List.pairwise_map]
  exact (List.pairwise_map.mp increasing).imp_of_mem fun first later order => ordered _ first _ later order

-- Every turn of a list is allowed when it comes.
def AllAllowed (id : SessionId) : Overlap → List Turn → Prop
  | _, [] => True
  | o, turn :: rest => turn.Allowed id o.station ∧ AllAllowed id (o.perform .epoch turn) rest

theorem foldl_runs (list : List Turn) {o : Overlap} {turns : Nat} (runs : Runs id o turns)
    (allowed : AllAllowed id o list) : Runs id (list.foldl (·.perform .epoch) o) (turns + list.length) := by
  induction list generalizing o turns with
  | nil => exact runs
  | cons turn rest ih =>
    have whole := ih (runs.next turn .epoch allowed.1) allowed.2
    rwa [Nat.add_assoc, Nat.add_comm 1] at whole

-- The second capture gathers after the first one, and overtakes it; the third comes after both.
namespace Overtaking

open Instance.Alarming

def start : Overlap := ⟨.new host .empty (.ofMilliseconds 100), [], [], []⟩

def story : List Turn :=
  [.ask (.startRecording ⟨7⟩ .default), .ask (.spawn "d" siren), .gather ⟨7⟩, .tick ⟨"d", "siren"⟩,
    .gather ⟨7⟩, .collect, .append 1, .collect, .append 0, .gather ⟨7⟩, .collect, .append 2]

def told : Overlap := story.foldl (·.perform .epoch) start

theorem runs : Runs ⟨7⟩ told 12 :=
  foldl_runs story (.new _ _ _) ⟨⟨rfl, rfl, rfl⟩, ⟨rfl, trivial, rfl⟩, trivial, trivial, trivial, trivial,
    trivial, trivial, trivial, trivial, trivial, trivial, trivial⟩

end Overtaking

open Overtaking in
theorem overlapped_exact_overtaking :
    told.places ⟨7⟩ = [1, 0, 2] ∧ ∃ session f g h, told.station.travel.session? ⟨7⟩ = some session ∧
      session.frames = [f, g, h] ∧ [f, g, h].map (·.executions.map (·.cycle)) = [[1], [0], [1]] ∧
      Precedes g.executions f.executions ∧ Precedes f.executions h.executions := by
  have placed : told.places ⟨7⟩ = [1, 0, 2] := by decide +kernel
  have frames : (told.station.travel.session? ⟨7⟩).map
      (fun s => s.frames.map (·.executions.map (·.cycle))) = some [[1], [0], [1]] := by
    decide +kernel
  obtain ⟨session, found, cycles⟩ := Option.map_eq_some_iff.mp frames
  obtain ⟨places, suffix, shows, ordered, _⟩ := overlapped_exact runs (by decide) found
  obtain ⟨f, g, h, three⟩ : ∃ f g h, session.frames = [f, g, h] :=
    List.length_eq_three.mp (by rw [← List.length_map, cycles]; rfl)
  rw [placed] at suffix
  have same : places = [1, 0, 2] := suffix.eq_of_length (by rw [shows.length_eq, three]; rfl)
  rw [same, three] at ordered
  refine ⟨placed, session, f, g, h, found, three, three ▸ cycles, ?_, ?_⟩
  · exact ordered (0, g) (by simp) (1, f) (by simp) (Nat.zero_le 1)
  · exact ordered (1, f) (by simp) (2, h) (by simp) (Nat.le_succ 1)

open Overtaking in
-- Captures that overtake one another make the frames go back.
theorem not_always_neverBack :
    ¬ ∀ (id : SessionId) (o : Overlap) (turns : Nat), Runs id o turns → turns < 2 ^ 64 →
      ∀ session, o.station.travel.session? id = some session → NeverBack session.frames := by
  intro always
  have back : (told.station.travel.session? ⟨7⟩).map (fun s => decide (NeverBack s.frames)) = some false := by
    decide +kernel
  obtain ⟨session, found, back⟩ := Option.map_eq_some_iff.mp back
  exact of_decide_eq_false back (always ⟨7⟩ told 12 runs (by decide) session found)

end Overlap

end Chronomata
