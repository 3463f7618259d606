import Mhost.Log.LogFile

/-!
# Why a log file rolls

LogFile.h:33-43 and LogFile.cc:11-25, 47-79. `file_` is declared before `lastRoll_`, so what its
initialiser writes through the out parameter is overwritten: a new `LogFile` says that its file was
opened at time 0. The first roll sets that right for good.
-/
namespace Mhost.Log.LogFile

/-- `now / 86400`. -/
def day (now : Int) : Int := now.tdiv kRollPerSeconds

/-- The members say when the current file was opened, and on which day. -/
structure Recorded (s : LogFile) : Prop where
  lastRoll : s.lastRoll = s.openedAt
  startOfPeriod : s.startOfPeriod = startOf s.lastRoll

/-- An append that opens a file has exceeded `rollSize` or come to another day. -/
def Reasoned (env : Surroundings) (s : LogFile) (a : Append) (next : LogFile) : Prop :=
  next.files ≠ s.files →
    ∃ file, s.file.append a.logline a.results = .ok file ∧
      (s.config.rollSize.toNat < file.written ∨ day (env.clock s.readings) ≠ day s.openedAt)

/-- Both, at every moment of a run. -/
def Kept (env : Surroundings) (config : LogFileConfig) (unset : Int) (appends : List Append) : Prop :=
  ∀ past future s, appends = past ++ future →
    (machine env).run (construct env config unset) past = .ok s →
    Recorded s ∧
      ∀ a rest next, future = a :: rest → (machine env).step s a = .ok next → Reasoned env s a next

/-! ### One append -/

/-- What an append does about the file. -/
inductive Appended (env : Surroundings) (s : LogFile) (a : Append) (next : LogFile) : Prop where
  | stays (files : next.files = s.files) (openedAt : next.openedAt = s.openedAt)
      (lastRoll : next.lastRoll = s.lastRoll) (startOfPeriod : next.startOfPeriod = s.startOfPeriod)
  | rolls (file : AppendFile) (wrote : s.file.append a.logline a.results = .ok file)
      (reason : file.written > toOffT s.config.rollSize ∨
        startOf (env.clock s.readings) ≠ s.startOfPeriod)
      (files : next.files = s.files + 1) (recorded : Recorded next)

theorem rollFile_cases (env : Surroundings) (s : LogFile) :
    (rollFile env s).config = s.config ∧
      ((rollFile env s).files = s.files + 1 ∧ Recorded (rollFile env s) ∨
        (rollFile env s).files = s.files ∧ (rollFile env s).openedAt = s.openedAt ∧
          (rollFile env s).lastRoll = s.lastRoll ∧
          (rollFile env s).startOfPeriod = s.startOfPeriod) := by
  unfold rollFile
  simp only
  split
  · exact ⟨rfl, .inl ⟨rfl, rfl, rfl⟩⟩
  · exact ⟨rfl, .inr ⟨rfl, rfl, rfl, rfl⟩⟩

/-- `rollFile` on members that differ from those before the append in the file alone. -/
theorem rollFile_appended (env : Surroundings) (s s' : LogFile) (a : Append) (file : AppendFile)
    (wrote : s.file.append a.logline a.results = .ok file)
    (reason : file.written > toOffT s.config.rollSize ∨
      startOf (env.clock s.readings) ≠ s.startOfPeriod)
    (files : s'.files = s.files) (openedAt : s'.openedAt = s.openedAt)
    (lastRoll : s'.lastRoll = s.lastRoll) (startOfPeriod : s'.startOfPeriod = s.startOfPeriod) :
    Appended env s a (rollFile env s') := by
  rcases (rollFile_cases env s').2 with ⟨opened, recorded⟩ | ⟨same, at_, roll, period⟩
  · exact .rolls file wrote reason (opened.trans (by rw [files])) recorded
  · exact .stays (same.trans files) (at_.trans openedAt) (roll.trans lastRoll)
      (period.trans startOfPeriod)

theorem step_appended (env : Surroundings) (s next : LogFile) (a : Append)
    (moved : (machine env).step s a = .ok next) :
    next.config = s.config ∧ Appended env s a next := by
  have moved : append_unlocked env s a = .ok next := moved
  unfold append_unlocked at moved
  cases wrote : s.file.append a.logline a.results with
  | error fault => simp [wrote, bind, Except.bind] at moved
  | ok file =>
    simp only [wrote, bind, Except.bind, pure, Except.pure] at moved
    split at moved
    next full =>
      cases moved
      exact ⟨(rollFile_cases env _).1,
        rollFile_appended env s _ a file wrote (.inl full) rfl rfl rfl rfl⟩
    next =>
      split at moved
      next =>
        split at moved
        next otherDay =>
          cases moved
          exact ⟨(rollFile_cases env _).1,
            rollFile_appended env s _ a file wrote (.inr otherDay) rfl rfl rfl rfl⟩
        next =>
          split at moved <;> cases moved <;> exact ⟨rfl, .stays rfl rfl rfl rfl⟩
      next =>
        cases moved
        exact ⟨rfl, .stays rfl rfl rfl rfl⟩

/-- With the members right, and a `rollSize` that an `off_t` holds, only a reason opens a file. -/
theorem Recorded.reasoned {env : Surroundings} {s next : LogFile} {a : Append}
    (recorded : Recorded s) (fits : s.config.rollSize.toNat < 2 ^ 63)
    (moved : (machine env).step s a = .ok next) : Reasoned env s a next := by
  intro opened
  cases (step_appended env s next a moved).2 with
  | stays files => exact absurd files opened
  | rolls file wrote reason =>
    refine ⟨file, wrote, reason.imp (fun full => ?_) fun otherDay same => otherDay ?_⟩
    · rw [toOffT, if_pos fits] at full
      omega
    · have today : day (env.clock s.readings) = day s.openedAt := same
      rw [recorded.startOfPeriod, recorded.lastRoll]
      exact congrArg (· * kRollPerSeconds) today

/-! ### Runs -/

/-- Until the first file is replaced the members say that it was opened at time 0. -/
structure Dated (env : Surroundings) (config : LogFileConfig) (s : LogFile) : Prop where
  config : s.config = config
  first : s.files = 1 → s.lastRoll = 0 ∧ s.startOfPeriod = 0 ∧ s.openedAt = env.clock 0
  later : s.files ≠ 1 → 1 < s.files ∧ Recorded s

theorem construct_dated (env : Surroundings) (config : LogFileConfig) (unset : Int) :
    Dated env config (construct env config unset) :=
  ⟨rfl, fun _ => ⟨rfl, rfl, rfl⟩, fun other => absurd rfl other⟩

theorem step_dated (env : Surroundings) (config : LogFileConfig) (s : LogFile) (a : Append)
    (next : LogFile) (dated : Dated env config s) (moved : (machine env).step s a = .ok next) :
    Dated env config next := by
  obtain ⟨same, appended⟩ := step_appended env s next a moved
  refine ⟨same.trans dated.config, ?_, ?_⟩
  · intro one
    cases appended with
    | stays files openedAt lastRoll startOfPeriod =>
      rw [openedAt, lastRoll, startOfPeriod]
      exact dated.first (files.symm.trans one)
    | rolls file wrote reason files =>
      have none : s.files = 0 := by omega
      have more := (dated.later (by omega)).1
      omega
  · intro other
    cases appended with
    | stays files openedAt lastRoll startOfPeriod =>
      obtain ⟨more, recorded⟩ := dated.later (files ▸ other)
      exact ⟨files ▸ more, by rw [lastRoll, openedAt, recorded.lastRoll],
        by rw [startOfPeriod, lastRoll, recorded.startOfPeriod]⟩
    | rolls file wrote reason files recorded => exact ⟨by omega, recorded⟩

theorem run_dated (env : Surroundings) (config : LogFileConfig) (s final : LogFile)
    (appends : List Append) (dated : Dated env config s)
    (ran : (machine env).run s appends = .ok final) : Dated env config final :=
  Library.Machine.run_keeps (step_dated env config) dated ran

theorem Dated.recorded_iff {env : Surroundings} {config : LogFileConfig} {s : LogFile}
    (dated : Dated env config s) : Recorded s ↔ env.clock 0 = 0 ∨ 1 < s.files := by
  by_cases first : s.files = 1
  · obtain ⟨lastRoll, startOfPeriod, openedAt⟩ := dated.first first
    constructor
    · intro recorded
      exact .inl (openedAt.symm.trans (recorded.lastRoll.symm.trans lastRoll))
    · intro either
      have epoch := either.resolve_right (by omega)
      exact ⟨by rw [lastRoll, openedAt, epoch], by rw [startOfPeriod, lastRoll]; rfl⟩
  · obtain ⟨more, recorded⟩ := dated.later first
    exact ⟨fun _ => .inr more, fun _ => recorded⟩

/-- With a `rollSize` that an `off_t` holds, the runs that keep the members right and roll for a
reason only are those that start at time 0. In any run the members are right from the first roll
on. -/
theorem rolls_for_a_reason_iff (env : Surroundings) (config : LogFileConfig) (unset : Int)
    (appends : List Append) :
    (config.rollSize.toNat < 2 ^ 63 → (Kept env config unset appends ↔ env.clock 0 = 0)) ∧
      ∀ past future s, appends = past ++ future →
        (machine env).run (construct env config unset) past = .ok s →
        (Recorded s ↔ env.clock 0 = 0 ∨ 1 < s.files) := by
  have dated (past : List Append) (s : LogFile)
      (ran : (machine env).run (construct env config unset) past = .ok s) : Dated env config s :=
    run_dated env config _ s past (construct_dated env config unset) ran
  refine ⟨fun fits => ⟨fun kept => ?_, fun epoch past future s _ ran => ?_⟩,
    fun past future s _ ran => (dated past s ran).recorded_iff⟩
  · have recorded := (kept [] appends _ rfl rfl).1
    exact recorded.lastRoll.symm
  · have recorded := (dated past s ran).recorded_iff.mpr (.inl epoch)
    refine ⟨recorded, fun a rest next _ moved => recorded.reasoned ?_ moved⟩
    rw [(dated past s ran).config]
    exact fits

/-- One moment in 2023, and every file opens. -/
def oneMoment : Surroundings where
  clock _ := 1700000000
  opens _ := true

/-- One record in the second in which the file was opened: the members are wrong before it, and
when the day is checked they have a second file opened. -/
theorem rolls_without_reason :
    let config : LogFileConfig := { rollSize := 1000000, checkEveryN := 1 }
    let fresh := construct oneMoment config 0
    ¬ Recorded fresh ∧
      (∃ next, (machine oneMoment).step fresh ⟨[10], []⟩ = .ok next ∧
        ¬ Reasoned oneMoment fresh ⟨[10], []⟩ next) ∧
      ¬ Kept oneMoment config 0 [⟨[10], []⟩] := by
  intro config fresh
  have wrong : ¬ Recorded fresh := fun recorded => absurd recorded.lastRoll (by decide)
  let file : AppendFile := { opened := true, written := 1, calls := [⟨[10], 1, false⟩] }
  have wrote : fresh.file.append [10] [] = .ok file := by
    simp [fresh, file, construct, oneMoment, AppendFile.append, AppendFile.writeLoop]
  have moved : (machine oneMoment).step fresh ⟨[10], []⟩ =
      .ok (rollFile oneMoment { fresh with file, count := 0, readings := 2 }) := by
    show append_unlocked oneMoment fresh ⟨[10], []⟩ = _
    simp only [append_unlocked, wrote]
    rfl
  refine ⟨wrong, ⟨_, moved, fun reasoned => ?_⟩, fun kept => wrong (kept [] _ fresh rfl rfl).1⟩
  obtain ⟨file', wrote', reason⟩ := reasoned (by decide)
  cases wrote.symm.trans wrote'
  exact absurd reason (by decide)

end Mhost.Log.LogFile
