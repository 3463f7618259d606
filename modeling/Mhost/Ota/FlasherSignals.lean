import Mhost.Library.Machine
import Mhost.Ota.FlasherReports

/-!
# Whom the escalation kills

`killGroup` arms a timer that looks at `pid_` again when it fires (OtaFlasher.cc:127-138);
nothing takes the timer back when the child exits or the next one starts. The signal of
the reap fallback is told apart by the blocking `waitpid` that follows it at once.
-/
namespace Mhost.Ota.OtaFlasher
open Library (Text utf8 Since since_snoc snoc_eq_split)

variable {ω : Type}

/-- `killGroup` was called while the child of this process ran, and no child was started
since. -/
def AskedFor (pid : Nat) (past : List Report) : Prop :=
  Since (fun before e => e = .asked ∧ process before = some pid)
    (fun e => ∀ child started, e ≠ .started child started) past

/-- Every signal but that of the fallback was asked for. -/
def Aimed (reports : List Report) : Prop :=
  ∀ past sig pid future, reports = past ++ .signal sig pid :: future →
    future.head? = some (.blocked pid) ∨ AskedFor pid past

/-- The condition on the escalation: a live child that it finds running is one that
`killGroup` was called for since it was started. -/
def Wanted (calls : Calls ω) (s : OtaFlasher Nat × Client ω) : Happening → Prop
  | .killTimer =>
      s.1.killTimers > 0 → s.1.running = true → s.1.exited = false →
        (calls.groupAlive s.1.pid s.2.os).1 = true → AskedFor s.1.pid s.2.reports
  | _ => True

def machine (calls : Calls ω) (owner : Owner ω) :
    Library.Machine (OtaFlasher Nat × Client ω) Happening Empty :=
  ⟨fun s h => .ok (happen calls owner s h)⟩

/-! ### Entries one at a time -/

theorem aimed_nil : Aimed [] := by
  intro past sig pid future split
  simp at split

theorem aimed_snoc {reports : List Report} {e : Report} (aimed : Aimed reports)
    (meant : ∀ sig pid, e = .signal sig pid → AskedFor pid reports) : Aimed (reports ++ [e]) := by
  intro past sig pid future split
  rcases snoc_eq_split.mp split with ⟨rfl, same, _⟩ | ⟨between, rfl, earlier⟩
  · exact .inr (meant sig pid same.symm)
  · rcases aimed past sig pid between earlier with blocked | asked
    · refine .inl ?_
      cases between with
      | nil => cases blocked
      | cons first rest => exact blocked
    · exact .inr asked

theorem aimed_fallback {reports : List Report} (aimed : Aimed reports) (pid : Nat) :
    Aimed (reports ++ [.signal .kill pid] ++ [.blocked pid]) := by
  intro past sig group future split
  rcases snoc_eq_split.mp split with ⟨_, same, _⟩ | ⟨between, rfl, earlier⟩
  · cases same
  · rcases snoc_eq_split.mp earlier with ⟨rfl, same, rfl⟩ | ⟨between', rfl, first⟩
    · cases same
      exact .inl rfl
    · rcases aimed past sig group between' first with blocked | asked
      · refine .inl ?_
        cases between' with
        | nil => cases blocked
        | cons first rest => exact blocked
      · exact .inr asked

theorem askedFor_asked {reports : List Report} {pid : Nat} (runs : process reports = some pid) :
    AskedFor pid (reports ++ [.asked]) :=
  since_snoc.mpr (.inl ⟨rfl, runs⟩)

/-! ### What the flasher keeps -/

structure Aiming (child : Option Nat) (pid : Nat) (c : Client ω) : Prop extends Told child pid c where
  aimed : Aimed c.reports

theorem Aiming.inert {child child' : Option Nat} {pid pid' : Nat} {c c' : Client ω} {e : Report}
    (aiming : Aiming child pid c) (told : Told child' pid' c') (same : c'.reports = c.reports ++ [e])
    (other : ∀ sig group, e ≠ .signal sig group) : Aiming child' pid' c' :=
  ⟨told, same ▸ aimed_snoc aiming.aimed fun sig group is => absurd is (other sig group)⟩

theorem aiming_records : Records (ω := ω) Aiming where
  system child pid c os aiming := ⟨aiming.toTold.system os, aiming.aimed⟩
  started pid pid' c aiming := aiming.inert (aiming.toTold.started pid') rfl (by simp)
  exited k pid pid' ok exitStatus c aiming :=
    aiming.inert (told_records.exited k pid pid' ok exitStatus c aiming.toTold) rfl (by simp)
  line k pid text c aiming :=
    aiming.inert (told_records.line k pid text c aiming.toTold) rfl (by simp)
  asked child pid c aiming :=
    aiming.inert (told_records.asked child pid c aiming.toTold) rfl (by simp)
  term k pid c aiming := by
    refine ⟨told_records.term k pid c aiming.toTold, ?_⟩
    have first : Aimed (c.reports ++ [.asked]) := aimed_snoc aiming.aimed (by simp)
    refine aimed_snoc first fun sig group same => ?_
    cases same
    exact askedFor_asked aiming.process
  lastResort k pid c aiming :=
    ⟨told_records.lastResort k pid c aiming.toTold, aimed_fallback aiming.aimed pid⟩

variable {calls : Calls ω} {owner : Owner ω} {s : OtaFlasher Nat × Client ω}

theorem happen_aiming (good : Good Aiming s) (h : Happening) (wanted : Wanted calls s h) :
    Good Aiming (happen calls owner s h) := by
  obtain ⟨f, c⟩ := s
  obtain ⟨child, phase, aiming⟩ := good
  refine happen_good aiming_records phase aiming h fun fires armed k same up => ?_
  subst same fires
  have alive := phase.alive
  have asked : AskedFor f.pid c.reports :=
    wanted armed (phase.running_iff.mpr rfl) alive.exited up
  refine ⟨aiming.toTold.passing trivial trivial, aimed_snoc aiming.aimed fun sig group same => ?_⟩
  cases same
  exact asked

/-- An escalation that nobody wanted puts its signal at the end of the history. -/
theorem happen_astray (good : Good Aiming s) (h : Happening) (unwanted : ¬ Wanted calls s h) :
    ¬ Aimed (happen calls owner s h).2.reports := by
  obtain ⟨f, c⟩ := s
  cases h with
  | request | readable | hangup | functor | reapTimer => exact absurd trivial unwanted
  | killTimer =>
    simp only [Wanted, Classical.not_imp] at unwanted
    obtain ⟨armed, up, fresh, alive, unasked⟩ := unwanted
    have sent : (happen calls owner (f, c) .killTimer).2.reports =
        c.reports ++ .signal .kill f.pid :: [] := by
      have live : (f.running && !f.exited) = true := by
        have up : f.running = true := up
        have fresh : f.exited = false := fresh
        rw [up, fresh]
        rfl
      simp only [happen]
      rw [if_pos armed]
      unfold escalate
      dsimp only
      rw [if_pos (show ({ f with killTimers := f.killTimers - 1 } : OtaFlasher Nat).running &&
        !f.exited from live)]
      rw [if_pos (show ((clientEnv calls owner).groupAlive f.pid c).1 = true from alive)]
      rfl
    intro aimed
    rcases aimed c.reports .kill f.pid [] sent with blocked | asked
    · cases blocked
    · exact unasked asked

theorem fresh_aiming (os : ω) : Good Aiming (({} : OtaFlasher Nat), ({ os } : Client ω)) := by
  obtain ⟨child, phase, told⟩ := fresh_good os
  exact ⟨child, phase, told, aimed_nil⟩

/-- In every run, whatever is started, killed and reaped in whatever order: every signal
but the fallback's goes to the child that `killGroup` was called for, if and only if each
escalation that finds a live child finds one that `killGroup` was called for. -/
theorem escalation_aimed_iff (calls : Calls ω) (owner : Owner ω) (os : ω)
    (happenings : List Happening) :
    (machine calls owner).Always (fun s => Aimed s.2.reports) ({}, { os }) happenings ↔
      (machine calls owner).Allowed (Wanted calls) ({}, { os }) happenings := by
  have implies : ∀ s : OtaFlasher Nat × Client ω, Good Aiming s → Aimed s.2.reports := by
    rintro s ⟨child, phase, aiming⟩
    exact aiming.aimed
  have preserved : ∀ s h, Good Aiming s → Wanted calls s h →
      ∃ next, (machine calls owner).step s h = .ok next ∧ Good Aiming next :=
    fun s h good wanted => ⟨happen calls owner s h, rfl, happen_aiming good h wanted⟩
  have broken : ∀ s h next, Good Aiming s → ¬ Wanted calls s h →
      (machine calls owner).step s h = .ok next → ¬ Aimed next.2.reports := by
    intro s h next good unwanted taken
    cases taken
    exact happen_astray good h unwanted
  exact Library.Machine.always_iff_allowed implies preserved broken (fresh_aiming os) happenings

/-- Processes are numbered as they are spawned and are gone when they are waited for. -/
def numbered : Calls Nat where
  spawn _ n := (.started (100 + n) (by omega), n + 1)
  signalGroup _ _ n := (true, n)
  groupAlive _ n := (true, n)
  waitpid _ n := (.reaped 15, n)
  waitpidBlocking _ n := (some 15, n)

def listener : Owner Nat := ⟨fun _ _ n => n, fun _ _ _ n => ([], n)⟩

/-- The first child is killed and exits; the next one starts before the 0.5 s are over. -/
def restartAfterKill : List Happening :=
  [.request (.start [utf8 "flash.py"]), .request .killGroup, .readable [.eof], .functor,
    .request (.start [utf8 "flash.py"]), .killTimer]

/-- The timer of the first child kills the second. -/
theorem fresh_child_killed :
    ¬ (machine numbered listener).Always (fun s => Aimed s.2.reports) ({}, { os := 0 })
      restartAfterKill := by
  intro always
  obtain ⟨final, ran, aimed⟩ := always.ends
  obtain rfl : restartAfterKill.foldl (happen numbered listener) ({}, { os := 0 }) = final :=
    Except.ok.inj ran
  have reports : (restartAfterKill.foldl (happen numbered listener) ({}, { os := 0 })).2.reports =
      [.started 0 100, .asked, .signal .term 100, .exited 0 false 15, .started 1 101] ++
        [.signal .kill 101] := by
    decide
  rcases aimed _ .kill 101 [] reports with blocked | asked
  · cases blocked
  · have split : [.started 0 100, .asked, .signal .term 100, .exited 0 false 15, .started 1 101] =
        [.started 0 100, .asked, .signal .term 100, .exited 0 false 15] ++
          [Report.started 1 101] := rfl
    rw [split, AskedFor, since_snoc] at asked
    simp at asked

end Mhost.Ota.OtaFlasher
