import Mhost.App.UpgradeChild

/-!
# The upgrade and its child in step

While an upgrade flashes, and only then, a child runs. The phase of the host and the life of
the child change in different callbacks (ChassisHost.cc:531-668, OtaFlasher.cc:201-239);
every act leaves them in step.
-/
namespace Mhost.App.ChassisHost
open Library (Text utf8)
open Proto Link Serial Ota OtaFlasher

/-- A child runs exactly while the upgrade flashes. -/
def Lockstep (h : ChassisHost) : Prop :=
  ∃ owner, Phase h.child owner ∧ (owner.isSome = true ↔ h.base.ota.otaState = .flashing)

variable {w : World} {h h' : ChassisHost}

theorem Lockstep.running_iff (lock : Lockstep h) :
    h.childRunning = true ↔ h.base.ota.otaState = .flashing := by
  obtain ⟨owner, phase, together⟩ := lock
  rw [childRunning_eq, phase.running_iff, together]

/-! ### Beside the upgrade -/

theorem Lockstep.aside (lock : Lockstep h) (aside : Aside h h') : Lockstep h' := by
  obtain ⟨owner, phase, together⟩ := lock
  exact ⟨owner, aside.child ▸ phase, together.trans aside.base.flashing_iff.symm⟩

/-- Away from flashing the flasher is idle. -/
theorem Lockstep.idle (lock : Lockstep h) (other : h.base.ota.otaState ≠ .flashing) :
    Phase h.child none := by
  obtain ⟨owner, phase, together⟩ := lock
  cases owner with
  | none => exact phase
  | some => exact absurd (together.mp rfl) other

theorem Lockstep.of_idle (phase : Phase h.child none) (other : h.base.ota.otaState ≠ .flashing) :
    Lockstep h :=
  ⟨none, phase, by simpa using other⟩

theorem Lockstep.busy (lock : Lockstep h) (flashing : h.base.ota.otaState = .flashing) :
    Phase h.child (some ()) := by
  obtain ⟨owner, phase, together⟩ := lock
  cases owner with
  | none => exact absurd (together.mpr flashing) (by simp)
  | some => exact phase

theorem Lockstep.of_busy (phase : Phase h.child (some ()))
    (flashing : h.base.ota.otaState = .flashing) : Lockstep h :=
  ⟨some (), phase, by simpa using flashing⟩

/-! ### Acts -/

theorem forced_base (phase : Phase h.child (some ())) :
    (h.onFlasher (OtaFlasher.killGroup (flasherEnv w))).base =
      h.base.answered.note (.signal .term h.child.pid) := by
  obtain ⟨conSm, serial, flasher, base⟩ := h
  cases flasher with
  | none => nomatch phase.alive.pid
  | some flasher =>
    have pid : 0 < flasher.pid := phase.alive.pid
    have exited : flasher.exited = false := phase.alive.exited
    have live : ¬ (!flasher.running || flasher.exited) = true := by simp [running, pid, exited]
    simp only [onFlasher, OtaFlasher.killGroup]
    rw [if_neg live]
    split <;> rfl

theorem forced_child (phase : Phase h.child (some ())) :
    Phase (h.onFlasher (OtaFlasher.killGroup (flasherEnv w))).child (some ()) := by
  obtain ⟨conSm, serial, flasher, base⟩ := h
  cases flasher with
  | none => nomatch phase.alive.pid
  | some flasher =>
    have good : Good (fun owner _ _ => owner = some ())
        (OtaFlasher.killGroup (flasherEnv w) (flasher, base)) :=
      killGroup_good (fun _ _ => rfl) phase rfl
    obtain ⟨owner, after, same⟩ := good
    exact same ▸ after

/-- A host that waits for the motors waited before, for the same upgrade. -/
def StillWaits (b b' : Base) : Prop :=
  b'.ota.otaState = .quiescing → b.ota.otaState = .quiescing ∧ b'.ota.otaFile = b.ota.otaFile ∧
    b'.ota.otaPhaseStartMs = b.ota.otaPhaseStartMs

theorem stillWaits_aside {b b' : Base} (aside : Base.Aside b b') : StillWaits b b' :=
  fun quiescing => ⟨(aside.was (by simp [quiescing])).trans quiescing, aside.otaFile,
    aside.phaseStart⟩

theorem stillWaits_closed {b b' b'' : Base} (closed : b'.ota.otaState = .none)
    (later : Base.Aside b' b'') : StillWaits b b'' :=
  fun quiescing => absurd ((later.was (by simp [quiescing])).trans quiescing) (by simp [closed])

/-- One act in the life of an upgrade. -/
inductive Lived (w : World) (h : ChassisHost) (a : Act) (h' : ChassisHost) : Prop where
  | onward (owner : Option Unit) (before : Phase h.child owner) (after : Phase h'.child owner)
      (flashing : h'.base.ota.otaState = .flashing ↔ h.base.ota.otaState = .flashing)
      (waits : StillWaits h.base h'.base) (orders : h'.base.orders = h.base.orders)
      (silent : exitOf w h a = none)
  | accepted (c : Conn) (text name : Text) (line : a = .line c text)
      (tokens : tokensOf text = [utf8 "flash", name]) (loopback : isLoopbackConn c = true)
      (free : h.base.ota.otaState = .none) (safe : isSafeFirmwareName name = true)
      (after : Phase h'.child none) (quiescing : h'.base.ota.otaState = .quiescing)
      (file : h'.base.ota.otaFile = name) (since : h'.base.ota.otaPhaseStartMs = acceptedAt w h)
      (orders : h'.base.orders = h.base.orders ++ [.flash c name]) (silent : exitOf w h a = none)
  | started (quiescing : h.base.ota.otaState = .quiescing) (confirmed : Confirmed w h a)
      (after : Phase h'.child (some ())) (flashing : h'.base.ota.otaState = .flashing)
      (orders : h'.base.orders = h.base.orders ++ [.child (flashArgv w h.base.ota.otaFile)])
      (silent : exitOf w h a = none)
  | forced (c : Conn) (text : Text) (line : a = .line c text)
      (tokens : tokensOf text = [utf8 "flash_abort", utf8 "force"])
      (loopback : isLoopbackConn c = true) (was : h.base.ota.otaState = .flashing)
      (before : Phase h.child (some ())) (after : Phase h'.child (some ()))
      (flashing : h'.base.ota.otaState = .flashing)
      (orders : h'.base.orders = h.base.orders ++ [.signal .term h.child.pid])
      (silent : exitOf w h a = none)
  | exited (exitStatus : Int32) (exit : exitOf w h a = some exitStatus)
      (was : h.base.ota.otaState = .flashing) (before : Phase h.child (some ()))
      (after : Phase h'.child none)
      (verdict : h'.base.ota.otaState = if succeeds exitStatus then .recovering else .none)
      (orders : h'.base.orders = h.base.orders)
      (heard : ∃ b, b.ota.otaState = .flashing ∧
        h'.base = otaOnChildExit w (succeeds exitStatus) exitStatus b)

theorem exitOf_host {a : Act} (kind : a.ofChild = false) : exitOf w h a = none := by
  cases a with
  | childReadable | childHup | childDetach | childReap | childEscalate => simp [Act.ofChild] at kind
  | _ => rfl

/-- What comes of a move of the host. -/
theorem Lockstep.moved {g g' : ChassisHost} {a : Act} (lock : Lockstep h) (before : Aside h g)
    (move : Move w h a g g') (later : Aside g' h') (kind : a.ofChild = false) :
    Lived w h a h' := by
  have same : h.child = g.child := before.child.symm
  have was (busy : g.base.ota.otaState ≠ .none) := before.base.was busy
  cases move with
  | accepted c text name line tokens loopback free safe =>
    have idle := lock.idle (by simp [free])
    refine .accepted c text name line tokens loopback free safe ?_ ?_ later.base.otaFile
      later.base.phaseStart ?_ (exitOf_host kind)
    · rw [later.child]
      exact same ▸ idle
    · exact later.base.stays (by simp [onBase, accept, Base.note])
    · rw [later.base.orders, ← before.base.orders]
      simp [onBase, accept, Base.orders, Base.note, Entry.ofUpgrade]
  | began quiescing confirmed =>
    have was := (was (by simp [quiescing])).trans quiescing
    have idle := lock.idle (by simp [was])
    cases otaBeginFlasher_begun (w := w) (same ▸ idle) with
    | failed phase closed orders =>
      refine .onward none idle (later.child ▸ phase) ?_ (stillWaits_closed closed later.base) ?_
        (exitOf_host kind)
      · rw [later.base.flashing_iff, closed, was]
        simp
      · rw [later.base.orders, orders, before.base.orders]
    | started phase flashing orders =>
      refine .started was confirmed (later.child ▸ phase)
        (later.base.flashing_iff.mpr flashing) ?_ (exitOf_host kind)
      rw [later.base.orders, orders, before.base.orders, before.base.otaFile]
  | ended line phase =>
    have other : g.base.ota.otaState ≠ .flashing := by rcases phase with phase | phase <;> simp [phase]
    have other' : h.base.ota.otaState ≠ .flashing := before.base.flashing_iff.not.mp other
    have idle := lock.idle other'
    refine .onward none idle ?_ ?_ (stillWaits_closed rfl later.base) ?_ (exitOf_host kind)
    · rw [later.child]
      exact same ▸ idle
    · have none : (g.onBase (otaFinish line)).base.ota.otaState ≠ .flashing := by
        simp [onBase, otaFinish]
      exact iff_of_false (later.base.flashing_iff.not.mpr none) other'
    · rw [later.base.orders, ← before.base.orders]
      exact otaFinish_orders line g.base
  | forced c text line tokens loopback flashing =>
    have was := before.base.flashing_iff.mp flashing
    have busy := lock.busy was
    have phase : Phase g.child (some ()) := same ▸ busy
    refine .forced c text line tokens loopback was busy (later.child ▸ forced_child phase) ?_ ?_
      (exitOf_host kind)
    · rw [later.base.flashing_iff, forced_base phase]
      exact flashing
    · rw [later.base.orders, forced_base phase, same, ← before.base.orders]
      simp [Base.orders, Base.note, Base.answered, Entry.ofUpgrade]
  | child kind' => simp [kind] at kind'

theorem act_lived (lock : Lockstep h) (a : Act) : Lived w h a (act w h a) := by
  cases kind : a.ofChild with
  | false =>
    cases act_turn w h a with
    | aside only =>
      obtain ⟨owner, phase, _⟩ := lock
      exact .onward owner phase (only.child ▸ phase) only.base.flashing_iff
        (stillWaits_aside only.base) only.base.orders (exitOf_host kind)
    | moved g g' before move later => exact lock.moved before move later kind
  | true =>
    obtain ⟨owner, phase, together⟩ := lock
    have reported := child_reported (w := w) phase kind
    cases exit : exitOf w h a with
    | none =>
      obtain ⟨phase', _, aside⟩ := reported.silent exit
      exact .onward owner phase phase' aside.flashing_iff (stillWaits_aside aside) aside.orders exit
    | some exitStatus =>
      obtain ⟨rfl, phase', b, aside, heard⟩ := reported.reports exitStatus exit
      have was : h.base.ota.otaState = .flashing := together.mp rfl
      have flashing := aside.flashing_iff.mpr was
      obtain ⟨verdict, orders⟩ := otaOnChildExit_flashing (w := w) flashing (succeeds exitStatus)
        exitStatus
      refine .exited exitStatus exit was phase phase' ?_ ?_ ⟨b, flashing, heard⟩
      · rw [← verdict]
        exact congrArg (fun b => b.ota.otaState) heard
      · exact (congrArg Base.orders heard).trans (orders.trans aside.orders)

/-! ### Runs -/

theorem Lived.lockstep {a : Act} (lived : Lived w h a h') (lock : Lockstep h) : Lockstep h' := by
  cases lived with
  | onward owner before after flashing =>
    refine ⟨owner, after, ?_⟩
    rw [flashing, ← lock.running_iff, childRunning_eq, before.running_iff]
  | accepted _ _ _ _ _ _ _ _ after quiescing => exact .of_idle after (by simp [quiescing])
  | started _ _ after flashing => exact .of_busy after flashing
  | forced _ _ _ _ _ _ _ after flashing => exact .of_busy after flashing
  | exited exitStatus _ _ _ after verdict =>
    refine .of_idle after ?_
    rw [verdict]
    split <;> simp

/-- Only the child's own acts report it, and then the upgrade has its verdict. -/
theorem Lockstep.exit (lock : Lockstep h) {a : Act} {exitStatus : Int32}
    (exit : exitOf w h a = some exitStatus) : a.ofChild = true ∧
      (act w h a).base.ota.otaState = if succeeds exitStatus then .recovering else .none := by
  constructor
  · cases kind : a.ofChild with
    | true => rfl
    | false => simp [exitOf_host kind] at exit
  · cases act_lived (w := w) lock a with
    | exited _ exit' _ _ _ verdict => exact Option.some.inj (exit'.symm.trans exit) ▸ verdict
    | onward _ _ _ _ _ _ silent | accepted _ _ _ _ _ _ _ _ _ _ _ _ _ silent
    | started _ _ _ _ _ silent | forced _ _ _ _ _ _ _ _ _ _ silent => simp [silent] at exit

theorem start_aside (w : World) : Base.Aside {} (start w).base :=
  SerialPort.openDevice_keeps (s := (({} : SerialPort), ({} : Base))) (serialEnv_aside w {})
    w.opts.serialBaud (.refl _)

theorem start_lockstep (w : World) : Lockstep (start w) :=
  .of_idle Phase.fresh ((start_aside w).flashing_iff.not.mpr nofun)

theorem acts_lockstep (w : World) (taken : List Act) : Lockstep (acts w (start w) taken) :=
  @acts_keep w (start w) Lockstep (fun _ a lock => (act_lived lock a).lockstep lock)
    (start_lockstep w) taken

/-- The statuses of the children that are reported. -/
def exits (w : World) (h : ChassisHost) : List Act → List Int32
  | [] => []
  | a :: rest => (exitOf w h a).toList ++ exits w (act w h a) rest

/-- The children started so far. -/
def children (h : ChassisHost) : Nat := h.base.orders.countP fun e => e matches .child _

/-- A child is added when one starts to run; a report is the end of one. -/
theorem Lived.balance {a : Act} (lived : Lived w h a h') (lock : Lockstep h) :
    h'.children + h.childRunning.toNat =
      h.children + (exitOf w h a).toList.length + h'.childRunning.toNat := by
  have idle (other : h.base.ota.otaState ≠ .flashing) : h.childRunning = false := by
    simpa using lock.running_iff.not.mpr other
  cases lived with
  | onward owner before after _ _ orders silent =>
    simp [children, orders, silent, runs before, runs after]
  | accepted c text name line _ _ free _ after _ _ _ orders silent =>
    simp [children, orders, silent, runs after, idle, free]
  | started quiescing _ after _ orders silent =>
    simp [children, orders, silent, runs after, idle, quiescing]
  | forced c text line _ _ _ before after _ orders silent =>
    simp [children, orders, silent, runs before, runs after]
  | exited exitStatus exit _ before after _ orders =>
    simp [children, orders, exit, runs before, runs after]

theorem acts_balance (lock : Lockstep h) (taken : List Act) :
    (acts w h taken).children + h.childRunning.toNat =
      h.children + (exits w h taken).length + (acts w h taken).childRunning.toNat := by
  induction taken generalizing h with
  | nil => simp [exits]
  | cons a rest ih =>
    have first := (act_lived (w := w) lock a).balance lock
    have later := ih ((act_lived (w := w) lock a).lockstep lock)
    simp only [acts_cons, exits, List.length_append]
    omega

/-! ### `flash_abort force` -/

theorem line_forces {c : Conn} {text : Text}
    (tokens : tokensOf text = [utf8 "flash_abort", utf8 "force"])
    (loopback : isLoopbackConn c = true) (flashing : h.base.ota.otaState = .flashing) :
    ∃ g, Aside h g ∧
      handleLine w c text h = g.onFlasher (OtaFlasher.killGroup (flasherEnv w)) := by
  have noted : Aside h (h.onBase (·.note (.command c [utf8 "flash_abort", utf8 "force"]))) :=
    (Aside.refl h).onBase (.note _ rfl)
  have same : (h.onBase (·.note (.command c [utf8 "flash_abort", utf8 "force"]))).base.ota.otaState =
    .flashing := flashing
  rw [handleLine_eq, tokens, handleCommand_flashAbort]
  unfold cmdFlashAbort
  rw [if_neg (by simp [loopback]), if_neg (by decide), same]
  exact ⟨_, noted.reply c _, if_pos rfl⟩

/-- What follows from the lock step in an act that begins in `h`. -/
structure InStep (w : World) (h : ChassisHost) (a : Act) : Prop where
  together : h.base.ota.otaState = .flashing ↔ h.childRunning = true
  /-- `start` is called from `quiescing`, and answers what the system does -/
  begins : ∀ g, Aside h g → g.base.ota.otaState = .quiescing →
    ((startChild w (prepared w g)).1 = true ↔
      ∃ pid positive, w.os.spawn (prepared w g).base.asked = .started pid positive)
  /-- the exit callback finds the upgrade flashing -/
  heard : ∀ exitStatus, exitOf w h a = some exitStatus → ∃ b, b.ota.otaState = .flashing ∧
    (act w h a).base = otaOnChildExit w (succeeds exitStatus) exitStatus b
  reported : h.childRunning = true → (act w h a).childRunning = false → (exitOf w h a).isSome = true
  /-- no child outlives its upgrade -/
  finished : (act w h a).base.ota.otaState = .none → (act w h a).childRunning = false
  /-- `flash_abort force` has a child to signal -/
  forced : ∀ c text, a = .line c text → tokensOf text = [utf8 "flash_abort", utf8 "force"] →
    isLoopbackConn c = true → h.base.ota.otaState = .flashing → h.childRunning = true ∧
      (act w h a).base.orders = h.base.orders ++ [.signal .term h.child.pid]

theorem startChild_idle {g : ChassisHost} (lock : Lockstep h) (before : Aside h g)
    (quiescing : g.base.ota.otaState = .quiescing) :
    (startChild w (prepared w g)).1 = true ↔
      ∃ pid positive, w.os.spawn (prepared w g).base.asked = .started pid positive := by
  have idle : Phase g.child none := (lock.aside before).idle (by simp [quiescing])
  obtain ⟨_, sameChild, _⟩ := prepared_flashing w g
  have idle' : Phase (prepared w g).child none := sameChild ▸ idle
  exact start_idle idle' (by simp [flashArgv]) _

theorem Lockstep.inStep (lock : Lockstep h) (a : Act) : InStep w h a := by
  have lived := act_lived (w := w) lock a
  have lock' := lived.lockstep lock
  refine ⟨lock.running_iff.symm, fun g before quiescing => startChild_idle lock before quiescing,
    ?_, ?_, ?_, ?_⟩
  · intro exitStatus exit
    cases lived with
    | exited _ exit' _ _ _ _ _ heard => exact Option.some.inj (exit'.symm.trans exit) ▸ heard
    | onward _ _ _ _ _ _ silent | accepted _ _ _ _ _ _ _ _ _ _ _ _ _ silent
    | started _ _ _ _ _ silent | forced _ _ _ _ _ _ _ _ _ _ silent => simp [silent] at exit
  · intro up down
    cases lived with
    | exited _ exit => simp [exit]
    | onward _ before after =>
      have still := (runs after).trans ((runs before).symm.trans up)
      simp [down] at still
    | accepted _ _ _ _ _ _ free =>
      have flashing := lock.running_iff.mp up
      simp [free] at flashing
    | started _ _ after => simp [runs after] at down
    | forced _ _ _ _ _ _ _ after => simp [runs after] at down
  · intro closed
    simpa [closed] using lock'.running_iff
  · rintro c text rfl tokens loopback flashing
    have busy := lock.busy flashing
    obtain ⟨g, before, same⟩ := line_forces (w := w) tokens loopback flashing
    refine ⟨lock.running_iff.mpr flashing, ?_⟩
    have base : (act w h (.line c text)).base = g.base.answered.note (.signal .term g.child.pid) :=
      (congrArg ChassisHost.base same).trans (forced_base (before.child.symm ▸ busy))
    rw [base, before.child, ← before.base.orders]
    simp [Base.orders, Base.note, Base.answered, Entry.ofUpgrade]

/-- A child runs exactly while the upgrade flashes, whatever happens in whatever order; of the
children started all but the one that runs were reported, and every act keeps to that. -/
theorem upgrade_in_step (w : World) (events : List Event) :
    ((run w events).base.ota.otaState = .flashing ↔ (run w events).childRunning = true) ∧
    (run w events).children =
      (exits w (start w) (actsIn w (start w) events)).length + (run w events).childRunning.toNat ∧
    ∀ past a future, actsIn w (start w) events = past ++ a :: future →
      InStep w (acts w (start w) past) a := by
  have lock : Lockstep (run w events) := run_acts (w := w) events ▸ acts_lockstep w _
  refine ⟨lock.running_iff.symm, ?_, fun past a _ _ => (acts_lockstep w past).inStep a⟩
  have none : (start w).children = 0 := congrArg (List.countP _) (start_aside w).orders
  have idle : (start w).childRunning = false := rfl
  have balance := acts_balance (w := w) (start_lockstep w) (actsIn w (start w) events)
  rw [← run_acts, none, idle] at balance
  simpa using balance

end Mhost.App.ChassisHost
