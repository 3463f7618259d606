import Mathlib.Data.List.Induction
import Mhost.App.AttendsHost

/-!
# What the watchers are shown

ChassisHost.cc:687-721 and 799-830. The timers show what the last frame of a type left behind.
For four of the five readings a frame that its parser rejects takes the reading away; the fifth,
the status, is shown from the start on.
-/
namespace Mhost.App.ChassisHost
open Library (Text utf8)
open Proto Link Serial Ota

/-- The five kinds of lines that watchers get. -/
inductive Reading where
  | odom | enc | imu | telem | status
  deriving DecidableEq, Repr

namespace Reading

/-- The frames a reading comes from. -/
def type : Reading → UInt8
  | .odom => ptOdomData
  | .enc => ptEncData
  | .imu => ptImuData
  | .telem => ptTelemetry
  | .status => ptStatus

def timer : Reading → Event
  | .odom => .odomTimer
  | _ => .slowTimer

/-- How every line of the kind begins. -/
def head : Reading → Text
  | .odom => utf8 "\x7b\"t\":\"odom\""
  | .enc => utf8 "\x7b\"t\":\"enc\""
  | .imu => utf8 "\x7b\"t\":\"imu\""
  | .telem => utf8 "\x7b\"t\":\"telem\""
  | .status => utf8 "\x7b\"t\":\"status\""

/-- The line with the fields of a frame, if the parser accepts it. -/
def line (w : World) : Reading → Frame → Option Text
  | .odom, f => (parseOdom f).map (odomLine w)
  | .enc, f => (parseEnc f).map (encLine w)
  | .imu, f => (parseImu f).map (imuLine w)
  | .telem, f => (parseTelemetry f).map (telemLine w)
  | .status, f => (parseStatus f).map statusLine

/-- The line with the fields of the frame accepted last. -/
def latest (w : World) (k : Reading) (frames : List Frame) : Option Text :=
  ((frames.filter (·.type = k.type)).filterMap (k.line w)).getLast?

/-- The line the timer makes of the readings. -/
def shown (w : World) (t : Telemetry) : Reading → Option Text
  | .odom => if t.haveOdom then some (odomLine w t.odom) else none
  | .enc => if t.haveEnc then some (encLine w t.enc) else none
  | .imu => if t.haveImu then some (imuLine w t.imu) else none
  | .telem => if t.haveTelem then some (telemLine w t.telem) else none
  | .status => some (statusLine t.status)

end Reading

variable {w : World} {h : ChassisHost}

/-! ### From frames to readings -/

/-- What is left of the readings after some frames. -/
def readingsOf (frames : List Frame) (t : Telemetry) : Telemetry :=
  frames.foldl (fun t f => readings f t) t

/-- What the parser says of a frame of its kind is what is shown next. -/
theorem shown_own {k : Reading} (other : k ≠ .status) {f : Frame} (own : f.type = k.type)
    (t : Telemetry) : k.shown w (readings f t) = k.line w f := by
  unfold readings onReading
  rw [own]
  cases k with
  | status => exact absurd rfl other
  | odom =>
    simp only [Reading.line]
    cases parseOdom f <;> rfl
  | enc =>
    simp only [Reading.line]
    cases parseEnc f <;> rfl
  | imu =>
    simp only [Reading.line]
    cases parseImu f <;> rfl
  | telem =>
    simp only [Reading.line]
    cases parseTelemetry f <;> rfl

/-- A status frame that is rejected leaves the status as it is. -/
theorem shown_own_status {f : Frame} (own : f.type = Reading.status.type) (t : Telemetry) :
    Reading.status.shown w (readings f t) =
      (Reading.status.line w f).or (Reading.status.shown w t) := by
  unfold readings
  rw [if_pos (show f.type = ptStatus from own)]
  simp only [Reading.line]
  cases parseStatus f <;> rfl

/-- Frames of other kinds change nothing. -/
theorem shown_other {k : Reading} {f : Frame} (other : f.type ≠ k.type) (t : Telemetry) :
    k.shown w (readings f t) = k.shown w t := by
  unfold readings onReading
  split
  next status =>
    have visible : k ≠ .status := fun same => other (status.trans (same ▸ rfl))
    cases parseStatus f with
    | none => rfl
    | some _ =>
      cases k with
      | status => exact absurd rfl visible
      | _ => rfl
  next =>
    cases k with
    | odom =>
      rw [if_neg (show f.type ≠ ptOdomData from other)]
      repeat' split
      all_goals rfl
    | enc =>
      rw [if_neg (show f.type ≠ ptEncData from other)]
      repeat' split
      all_goals rfl
    | imu =>
      rw [if_neg (show f.type ≠ ptImuData from other)]
      repeat' split
      all_goals rfl
    | telem =>
      rw [if_neg (show f.type ≠ ptTelemetry from other)]
      repeat' split
      all_goals rfl
    | status =>
      repeat' split
      all_goals rfl

theorem readingsOf_snoc (frames : List Frame) (f : Frame) (t : Telemetry) :
    readingsOf (frames ++ [f]) t = readings f (readingsOf frames t) := by
  simp [readingsOf]

theorem latest_snoc (w : World) (k : Reading) (frames : List Frame) (f : Frame) :
    k.latest w (frames ++ [f]) =
      if f.type = k.type then (k.line w f).or (k.latest w frames) else k.latest w frames := by
  by_cases own : f.type = k.type
  · cases accepted : k.line w f <;> simp [Reading.latest, own, accepted]
  · simp [Reading.latest, own]

/-- Four readings are those of the last frame of their type, accepted or not. -/
theorem shown_frames {k : Reading} (other : k ≠ .status) (frames : List Frame) :
    k.shown w (readingsOf frames {}) =
      (frames.filter (·.type = k.type)).getLast?.bind (k.line w) := by
  induction frames using List.reverseRecOn with
  | nil =>
    cases k with
    | status => exact absurd rfl other
    | _ => rfl
  | append_singleton frames f ih =>
    rw [readingsOf_snoc]
    by_cases own : f.type = k.type
    · simp [shown_own other own, own]
    · simp [shown_other own, own, ih]

/-- The status is the one accepted last, or all zeros. -/
theorem shown_status (frames : List Frame) :
    Reading.status.shown w (readingsOf frames {}) =
      some ((Reading.status.latest w frames).getD (statusLine ({} : Telemetry).status)) := by
  induction frames using List.reverseRecOn with
  | nil => rfl
  | append_singleton frames f ih =>
    rw [readingsOf_snoc, latest_snoc]
    by_cases own : f.type = Reading.status.type
    · rw [shown_own_status own, if_pos own, ih]
      cases Reading.status.line w f <;> rfl
    · rw [shown_other own, if_neg own, ih]

/-! ### What is shown and what should be -/

/-- The last frame of the kind was accepted, if any ever was; of the status one was. -/
def Reading.Fresh (w : World) (k : Reading) (frames : List Frame) : Prop :=
  if k = .status then k.latest w frames ≠ none
  else ∀ f, (frames.filter (·.type = k.type)).getLast? = some f →
    k.latest w frames ≠ none → k.line w f ≠ none

theorem shown_eq_latest_iff (k : Reading) (frames : List Frame) :
    k.shown w (readingsOf frames {}) = k.latest w frames ↔ k.Fresh w frames := by
  unfold Reading.Fresh
  split
  next status =>
    subst status
    rw [shown_status]
    cases Reading.status.latest w frames <;> simp
  next other =>
    rw [shown_frames other]
    rcases List.eq_nil_or_concat (frames.filter (·.type = k.type)) with none | ⟨before, f, split⟩
    · simp [Reading.latest, none]
    · have last : k.latest w frames = (k.line w f).or ((before.filterMap (k.line w)).getLast?) := by
        cases accepted : k.line w f <;> simp [Reading.latest, split, accepted]
      cases accepted : k.line w f with
      | none => simp [split, last, accepted, eq_comm]
      | some line => simp [split, last, accepted]

/-! ### Lines for the watchers -/

/-- What a line for the watchers adds to the journal. -/
def told (b : Base) (line : Text) : List Entry :=
  (b.watchers.filter (· ∉ b.halfClosed)).map fun c => .reply c (line ++ utf8 "\n")

theorem sendAll_told (conns : List Conn) (b : Base) (line : Text) :
    b.sendAll conns line = { b with
      journal := b.journal ++ (conns.filter (· ∉ b.halfClosed)).map fun c =>
        .reply c (line ++ utf8 "\n") } := by
  induction conns generalizing b with
  | nil => simp [Base.sendAll]
  | cons c rest ih =>
    have step : b.sendAll (c :: rest) line = (b.sendTo c (line ++ utf8 "\n")).sendAll rest line := rfl
    rw [step, ih]
    by_cases closed : c ∈ b.halfClosed
    · simp [Base.sendTo, closed]
    · simp [Base.sendTo, Base.note, closed]

/-- Several lines for the watchers. -/
theorem sendToWatchers_told (lines : List Text) (b : Base) :
    (lines.foldl Base.sendToWatchers b).journal = b.journal ++ lines.flatMap (told b) := by
  induction lines generalizing b with
  | nil => simp
  | cons line rest ih =>
    have sent : b.sendToWatchers line = { b with journal := b.journal ++ told b line } :=
      sendAll_told b.watchers b line
    rw [List.foldl_cons, ih, sent, List.flatMap_cons, List.append_assoc]
    rfl

/-- The kinds a timer shows, in the order in which it does. -/
def shownBy : Event → List Reading
  | .odomTimer => [.odom]
  | .slowTimer => [.enc, .imu, .telem, .status]
  | _ => []

theorem onSlowTimer_lines (watched : h.base.watchers ≠ []) :
    onSlowTimer w h = h.onBase fun b =>
      ((shownBy .slowTimer).filterMap (Reading.shown w b.telemetry)).foldl Base.sendToWatchers b := by
  unfold onSlowTimer
  rw [if_neg (by simpa using watched)]
  cases enc : h.base.telemetry.haveEnc <;> cases imu : h.base.telemetry.haveImu <;>
    cases telem : h.base.telemetry.haveTelem <;> simp [onBase, shownBy, Reading.shown, enc, imu, telem]

theorem onOdomTimer_lines (watched : h.base.watchers ≠ []) :
    onOdomTimer w h = h.onBase fun b =>
      ((shownBy .odomTimer).filterMap (Reading.shown w b.telemetry)).foldl Base.sendToWatchers b := by
  unfold onOdomTimer
  cases fresh : h.base.telemetry.haveOdom <;> simp [onBase, shownBy, Reading.shown, fresh, watched]

/-! ### Lines of one kind -/

/-- A line of the kind, for whichever client. -/
def Reading.isLine (k : Reading) : Entry → Bool
  | .reply _ text => k.head.isPrefixOf text
  | _ => false

/-- A text that begins with a literal of the kind. -/
theorem head_begins {k : Reading} {literal : Text} (begins : k.head <+: literal) (rest : Text) :
    k.head <+: literal ++ rest := begins.trans (List.prefix_append literal rest)

theorem shown_head {k : Reading} {t : Telemetry} {line : Text} (shown : k.shown w t = some line) :
    k.head <+: line := by
  cases k with
  | odom =>
    simp only [Reading.shown, Option.ite_none_right_eq_some, Option.some.injEq] at shown
    rw [← shown.2]
    simp only [odomLine, appendf, List.append_assoc]
    exact List.prefix_append _ _
  | enc =>
    simp only [Reading.shown, Option.ite_none_right_eq_some, Option.some.injEq] at shown
    rw [← shown.2]
    simp only [encLine, List.append_assoc]
    exact head_begins (by decide) _
  | imu =>
    simp only [Reading.shown, Option.ite_none_right_eq_some, Option.some.injEq] at shown
    rw [← shown.2]
    simp only [imuLine, List.append_assoc]
    exact head_begins (by decide) _
  | telem =>
    simp only [Reading.shown, Option.ite_none_right_eq_some, Option.some.injEq] at shown
    rw [← shown.2]
    simp only [telemLine, List.append_assoc]
    exact head_begins (by decide) _
  | status =>
    simp only [Reading.shown, Option.some.injEq] at shown
    rw [← shown]
    simp only [statusLine, List.append_assoc]
    exact List.prefix_take_iff.mpr ⟨head_begins (by decide) _, by decide⟩

/-- The kinds are told apart by how their lines begin. -/
theorem head_apart {k k' : Reading} {line : Text} (begins : k.head <+: line) :
    k'.head.isPrefixOf line = decide (k' = k) := by
  have apart : ∀ k k' : Reading, k' ≠ k → ¬ k'.head <+: k.head := by
    intro k k'
    cases k <;> cases k' <;> decide
  by_cases same : k' = k
  · subst same
    simpa using begins
  · have other : ¬ k'.head <+: line := fun begins' =>
      (List.prefix_or_prefix_of_prefix begins' begins).elim (apart k k' same)
        (apart k' k (Ne.symm same))
    rw [decide_eq_false same, Bool.eq_false_iff]
    exact fun holds => other (List.isPrefixOf_iff_prefix.mp holds)

theorem told_isLine {k k' : Reading} {t : Telemetry} {line : Text} (shown : k.shown w t = some line)
    (b : Base) : (told b line).filter k'.isLine = if k' = k then told b line else [] := by
  have kind : ∀ e ∈ told b line, k'.isLine e = decide (k' = k) := by
    intro e member
    obtain ⟨c, _, rfl⟩ := List.mem_map.mp member
    exact head_apart ((shown_head shown).trans (List.prefix_append line _))
  by_cases same : k' = k
  · rw [if_pos same, List.filter_eq_self]
    intro e member
    rw [kind e member, decide_eq_true same]
  · rw [if_neg same, List.filter_eq_nil_iff]
    intro e member
    rw [kind e member, decide_eq_false same]
    exact Bool.false_ne_true

/-- Of the lines for several kinds, those of one. -/
theorem lines_of_kind (k' : Reading) (t : Telemetry) (b : Base) (kinds : List Reading)
    (once : kinds.Nodup) :
    ((kinds.filterMap (Reading.shown w t)).flatMap (told b)).filter k'.isLine =
      if k' ∈ kinds then (k'.shown w t).toList.flatMap (told b) else [] := by
  induction kinds with
  | nil => rfl
  | cons k rest ih =>
    obtain ⟨fresh, others⟩ := List.nodup_cons.mp once
    by_cases same : k' = k
    · subst same
      have later := ih others
      rw [if_neg fresh] at later
      cases shown : k'.shown w t with
      | none => simp [shown, later]
      | some line => simp [shown, later, told_isLine shown]
    · have member : k' ∈ k :: rest ↔ k' ∈ rest := by simp [same]
      cases shown : k.shown w t with
      | none => simp only [List.filterMap_cons, shown, ih others, member]
      | some line =>
        simp only [List.filterMap_cons, shown, List.flatMap_cons, List.filter_append,
          told_isLine shown, if_neg same, List.nil_append, ih others, member]

/-! ### Firings -/

/-- The lines of one kind that an event brings. -/
def pushed (w : World) (k : Reading) (h : ChassisHost) (e : Event) : List Entry :=
  ((handle w h e).base.journal.drop h.base.journal.length).filter k.isLine

theorem pushed_eq (k : Reading) (watched : h.base.watchers ≠ []) :
    pushed w k h k.timer = (k.shown w h.base.telemetry).toList.flatMap (told h.base) := by
  have sends : (handle w h k.timer).base.journal = h.base.journal ++
      ((shownBy k.timer).filterMap (Reading.shown w h.base.telemetry)).flatMap (told h.base) := by
    rw [← sendToWatchers_told]
    cases k with
    | odom => exact congrArg (fun h => h.base.journal) (onOdomTimer_lines watched)
    | _ => exact congrArg (fun h => h.base.journal) (onSlowTimer_lines watched)
  have once : (shownBy k.timer).Nodup ∧ k ∈ shownBy k.timer := by cases k <;> decide
  rw [pushed, sends, List.drop_left, lines_of_kind k _ _ _ once.1, if_pos once.2]

/-- At a firing of its timer with watchers, a line of the kind is pushed with the fields of the
frame accepted last, or none if there is no such frame. -/
def ShowsLatest (w : World) (k : Reading) (frames : List Frame) (h : ChassisHost) (e : Event) :
    Prop :=
  e = k.timer → h.base.watchers ≠ [] →
    pushed w k h e = (k.latest w frames).toList.flatMap (told h.base)

/-- At a firing of its timer somebody is told, and the frame that counts was accepted. -/
def FreshAt (w : World) (k : Reading) (frames : List Frame) (h : ChassisHost) (e : Event) : Prop :=
  e = k.timer → (∃ c ∈ h.base.watchers, c ∉ h.base.halfClosed) → k.Fresh w frames

/-- Different lines make different entries, if anybody is told. -/
theorem told_injective {b : Base} (hears : ∃ c ∈ b.watchers, c ∉ b.halfClosed)
    {shown latest : Option Text} :
    shown.toList.flatMap (told b) = latest.toList.flatMap (told b) ↔ shown = latest := by
  obtain ⟨c, watching, opened⟩ := hears
  have receiver : b.watchers.filter (· ∉ b.halfClosed) ≠ [] :=
    List.ne_nil_of_mem (List.mem_filter.mpr ⟨watching, by simpa using opened⟩)
  unfold told
  cases receivers : b.watchers.filter (· ∉ b.halfClosed) with
  | nil => exact absurd receivers receiver
  | cons first rest =>
    cases shown with
    | none => cases latest <;> simp
    | some line => cases latest <;> simp +contextual

theorem showsLatest_iff (k : Reading) {frames : List Frame}
    (readings : h.base.telemetry = readingsOf frames {}) (e : Event) :
    ShowsLatest w k frames h e ↔ FreshAt w k frames h e := by
  constructor
  · rintro shows rfl hears
    have watched : h.base.watchers ≠ [] := by
      obtain ⟨c, watching, _⟩ := hears
      exact List.ne_nil_of_mem watching
    have same := shows rfl watched
    rw [pushed_eq k watched, told_injective hears, readings] at same
    exact (shown_eq_latest_iff k frames).mp same
  · rintro fresh rfl watched
    rw [pushed_eq k watched]
    by_cases hears : ∃ c ∈ h.base.watchers, c ∉ h.base.halfClosed
    · rw [told_injective hears, readings]
      exact (shown_eq_latest_iff k frames).mpr (fresh rfl hears)
    · -- everyone who watches has hung up: nothing reaches anybody
      have silent : told h.base = fun _ => [] := by
        funext line
        simpa [told] using hears
      rw [silent]
      cases k.shown w h.base.telemetry <;> cases k.latest w frames <;> rfl

/-! ### Runs -/

/-- The frame an act hands to `onFrame`. -/
def Act.frame? : Act → Option Frame
  | .frame f => some f
  | _ => none

/-- All that a run has handed to `onFrame`. -/
def framesOf (w : World) (past : List Event) : List Frame :=
  (actsIn w (start w) past).filterMap Act.frame?

theorem acts_readings (h : ChassisHost) (taken : List Act) :
    (acts w h taken).base.telemetry =
      readingsOf (taken.filterMap Act.frame?) h.base.telemetry := by
  induction taken generalizing h with
  | nil => rfl
  | cons a rest ih =>
    rw [acts_cons, ih, act_news]
    cases a <;> rfl

theorem run_readings (w : World) (past : List Event) :
    (run w past).base.telemetry = readingsOf (framesOf w past) {} := by
  rw [run_acts, acts_readings, (start_attends w).telemetry]
  rfl

/-- Every firing of every run shows what it should, for a kind, exactly in the runs in which the
frame that counts was accepted whenever somebody is told. -/
theorem watchers_see_latest_iff (w : World) (k : Reading) (events : List Event) :
    (∀ past e future, events = past ++ e :: future →
        ShowsLatest w k (framesOf w past) (run w past) e) ↔
      ∀ past e future, events = past ++ e :: future →
        FreshAt w k (framesOf w past) (run w past) e := by
  have firing past e := showsLatest_iff (w := w) k (run_readings w past) e
  constructor
  · intro shows past e future split
    exact (firing past e).mp (shows past e future split)
  · intro fresh past e future split
    exact (firing past e).mpr (fresh past e future split)

/-- A client watches; the board reports a position, then one that is cut short, and no status. -/
def shortReport : List Event :=
  [.connUp console, .message console (utf8 "watch on\n"),
    .serialReadable [.data (packFrame ptOdomData (List.replicate 24 0) (some 0)).1],
    .serialReadable [.data (packFrame ptOdomData [0] (some 1)).1]]

/-- The position is hidden, and a status that was never received is shown. -/
theorem watchers_miss_latest :
    (¬ ∀ past e future, shortReport ++ [.odomTimer, .slowTimer] = past ++ e :: future →
      ShowsLatest bench .odom (framesOf bench past) (run bench past) e) ∧
    ¬ ∀ past e future, shortReport ++ [.odomTimer, .slowTimer] = past ++ e :: future →
      ShowsLatest bench .status (framesOf bench past) (run bench past) e := by
  have hidden : ¬ ShowsLatest bench .odom (framesOf bench shortReport) (run bench shortReport)
      .odomTimer := by
    unfold ShowsLatest
    decide +kernel
  have unasked : ¬ ShowsLatest bench .status (framesOf bench (shortReport ++ [.odomTimer]))
      (run bench (shortReport ++ [.odomTimer])) .slowTimer := by
    unfold ShowsLatest
    decide +kernel
  constructor
  · intro shows
    exact hidden (shows _ _ [.slowTimer] rfl)
  · intro shows
    exact unasked (shows _ _ [] rfl)

end Mhost.App.ChassisHost
