import Mhost.Log.LogFile

/-!
# What an append promises and what it does

FileUtil.h:15-21 promises that part of a line written is followed up, and that a file that could
not be opened takes nothing. FileUtil.cc:33-48 makes a single call of `fwrite` for a line, counts
it when it took everything, and never looks at `fp_`.
-/
namespace Mhost.Log.AppendFile
open Library (Text)
open LogFile (Append)

/-- The bytes `fwrite` accepted in some calls. -/
def accepted (calls : List FwriteCall) : Nat := (calls.map (·.accepted)).sum

/-- The calls for a line as they should be: each hands over what the calls before it left, until
nothing is left or `fwrite` falls short with its error indicator set. -/
inductive FollowedUp : Text → List FwriteCall → Prop where
  | complete : FollowedUp [] []
  | failed (rest : Text) (n : Nat) (short : n < rest.length) : FollowedUp rest [⟨rest, n, true⟩]
  | onward (rest : Text) (n : Nat) (error : Bool) (calls : List FwriteCall) (some : rest ≠ [])
      (within : n ≤ rest.length) (fine : n < rest.length → error = false)
      (later : FollowedUp (rest.drop n) calls) : FollowedUp rest (⟨rest, n, error⟩ :: calls)

/-- One append as promised: every byte accepted is counted and what is left is followed up; a file
that is not open stays as it is. -/
structure Promised (f : AppendFile) (logline : Text) (next : AppendFile) : Prop where
  counted : next.written = accepted next.calls
  followedUp : f.opened = true →
    ∃ calls, next.calls = f.calls ++ calls ∧ FollowedUp logline calls
  inert : f.opened = false → next = f

/-- Every append of a sequence returns and is as promised. -/
def AllPromised (f : AppendFile) : List Append → Prop
  | [] => True
  | a :: rest => ∃ next, f.append a.logline a.results = .ok next ∧ Promised f a.logline next ∧
      AllPromised next rest

/-- `fwrite` takes the line at once, or nothing of it and says so; on a file that is not open there
is no line. -/
def Taken (opened : Bool) (a : Append) : Prop :=
  a.logline = [] ∨
    opened = true ∧ (a.logline.length ≤ (a.results.headD ⟨a.logline.length, false⟩).taken ∨
      a.results.headD ⟨a.logline.length, false⟩ = ⟨0, true⟩)

/-! ### One append -/

variable {f : AppendFile}

/-- The one call of `fwrite` for a line that is not empty. -/
def firstCall (a : Append) : FwriteCall :=
  let result := a.results.headD ⟨a.logline.length, false⟩
  ⟨a.logline, min result.taken a.logline.length, result.error⟩

theorem append_nil (f : AppendFile) (results : List FwriteResult) : f.append [] results = .ok f := by
  simp [append, writeLoop]

theorem append_closed {a : Append} (line : a.logline ≠ []) (closed : f.opened = false) :
    f.append a.logline a.results = .error .nullStream := by
  simp [append, closed, List.length_pos_iff.mpr line]

/-- The loop ends after its first turn: at once, or because nothing is left. -/
theorem writeLoop_once (f : AppendFile) {a : Append} (line : a.logline ≠ []) :
    f.writeLoop a.logline 0 a.results =
      ({ f with calls := f.calls ++ [firstCall a] },
        if (firstCall a).accepted = a.logline.length then a.logline.length else 0) := by
  have more : 0 < a.logline.length := List.length_pos_iff.mpr line
  rw [writeLoop, if_pos more]
  obtain ⟨result, first⟩ : ∃ result, a.results.headD ⟨a.logline.length, false⟩ = result := ⟨_, rfl⟩
  simp only [firstCall, List.drop_zero, Nat.zero_add, first]
  by_cases whole : min result.taken a.logline.length = a.logline.length
  · rw [if_neg (Decidable.not_not.mpr whole), if_pos whole, whole, writeLoop,
      if_neg (Nat.lt_irrefl _)]
  · rw [if_pos whole, if_neg whole]

theorem append_opened {a : Append} (line : a.logline ≠ []) (opened : f.opened = true) :
    f.append a.logline a.results = .ok { f with
      calls := f.calls ++ [firstCall a]
      written := f.written +
        if (firstCall a).accepted = a.logline.length then a.logline.length else 0 } := by
  simp only [append, opened, writeLoop_once f line]
  rfl

/-! ### Promised and done -/

theorem accepted_snoc (calls : List FwriteCall) (c : FwriteCall) :
    accepted (calls ++ [c]) = accepted calls + c.accepted := by
  simp [accepted]

/-- A single call follows a line up if it took everything, or fell short with the indicator set. -/
theorem followedUp_single {line : Text} {n : Nat} {error : Bool} (some : line ≠ [])
    (within : n ≤ line.length) :
    FollowedUp line [⟨line, n, error⟩] ↔ n = line.length ∨ error = true := by
  constructor
  · intro followed
    cases followed with
    | failed => exact .inr rfl
    | onward _ _ _ _ _ _ _ later =>
      -- with no further call nothing is left
      generalize left : line.drop n = rest at later
      cases later with
      | complete => exact .inl (Nat.le_antisymm within (List.drop_eq_nil_iff.mp left))
  · rintro (rfl | rfl)
    · refine .onward line _ error [] some within (fun short => absurd short (Nat.lt_irrefl _)) ?_
      rw [List.drop_length]
      exact .complete
    · by_cases short : n < line.length
      · exact .failed line n short
      · refine .onward line n true [] some within (fun less => absurd less short) ?_
        rw [List.drop_of_length_le (Nat.le_of_not_lt short)]
        exact .complete

/-- On an open file that has counted what was accepted, a line is handled as promised exactly if
the call took all of it, or nothing and set the indicator. -/
theorem promised_opened_iff {a : Append} (line : a.logline ≠ []) (opened : f.opened = true)
    (counted : f.written = accepted f.calls) {next : AppendFile}
    (done : f.append a.logline a.results = .ok next) :
    Promised f a.logline next ↔
      (firstCall a).accepted = a.logline.length ∨
        (firstCall a).accepted = 0 ∧ (firstCall a).error = true := by
  have single : FollowedUp a.logline [firstCall a] ↔
      (firstCall a).accepted = a.logline.length ∨ (firstCall a).error = true :=
    followedUp_single line (Nat.min_le_right _ _)
  cases (append_opened line opened).symm.trans done
  constructor
  · intro promised
    obtain ⟨calls, grown, followed⟩ := promised.followedUp opened
    cases List.append_cancel_left grown
    rcases single.mp followed with whole | error
    · exact .inl whole
    · have count := promised.counted
      dsimp only at count
      rw [accepted_snoc, counted] at count
      have same := Nat.add_left_cancel count
      split at same
      next whole => exact .inl whole
      next => exact .inr ⟨same.symm, error⟩
  · intro taken
    refine ⟨?_, fun _ => ⟨[firstCall a], rfl, single.mpr (taken.imp id And.right)⟩,
      fun closed => absurd (opened.symm.trans closed) (by decide)⟩
    dsimp only
    rw [accepted_snoc, counted]
    rcases taken with whole | ⟨none, _⟩
    · rw [if_pos whole, whole]
    · have missed : (firstCall a).accepted ≠ a.logline.length := by
        rw [none]
        exact fun empty => line (List.length_eq_zero_iff.mp empty.symm)
      rw [if_neg missed, none]

theorem firstCall_taken {a : Append} (line : a.logline ≠ []) :
    ((firstCall a).accepted = a.logline.length ∨
        (firstCall a).accepted = 0 ∧ (firstCall a).error = true) ↔
      a.logline.length ≤ (a.results.headD ⟨a.logline.length, false⟩).taken ∨
        a.results.headD ⟨a.logline.length, false⟩ = ⟨0, true⟩ := by
  have some : 0 < a.logline.length := List.length_pos_iff.mpr line
  obtain ⟨⟨taken, error⟩, first⟩ :
      ∃ result, a.results.headD ⟨a.logline.length, false⟩ = result := ⟨_, rfl⟩
  simp only [firstCall, first, FwriteResult.mk.injEq]
  have none : min taken a.logline.length = 0 ↔ taken = 0 := by omega
  have whole : min taken a.logline.length = a.logline.length ↔ a.logline.length ≤ taken := by omega
  rw [whole, none]

/-- One append of a sequence. -/
theorem append_promised_iff (a : Append) (counted : f.written = accepted f.calls) :
    (∃ next, f.append a.logline a.results = .ok next ∧ Promised f a.logline next) ↔
      Taken f.opened a := by
  by_cases line : a.logline = []
  · have idle : Promised f [] f :=
      ⟨counted, fun _ => ⟨[], (List.append_nil _).symm, .complete⟩, fun _ => rfl⟩
    rw [line]
    exact ⟨fun _ => .inl line, fun _ => ⟨f, append_nil f a.results, idle⟩⟩
  · cases opened : f.opened with
    | false =>
      rw [append_closed line opened]
      simp [Taken, line]
    | true =>
      have done := append_opened line opened
      rw [Taken, ← firstCall_taken line]
      constructor
      · rintro ⟨next, ran, promised⟩
        exact .inr ⟨rfl, (promised_opened_iff line opened counted ran).mp promised⟩
      · rintro (empty | ⟨_, taken⟩)
        · exact absurd empty line
        · exact ⟨_, done, (promised_opened_iff line opened counted done).mpr taken⟩

theorem append_opened_eq {next : AppendFile} {a : Append}
    (done : f.append a.logline a.results = .ok next) : next.opened = f.opened := by
  by_cases line : a.logline = []
  · rw [line, append_nil] at done
    cases done
    rfl
  · cases opened : f.opened with
    | false => simp [append_closed line opened] at done
    | true =>
      cases (append_opened line opened).symm.trans done
      exact opened

/-! ### Sequences -/

theorem allPromised_iff (appends : List Append) (f : AppendFile)
    (counted : f.written = accepted f.calls) :
    AllPromised f appends ↔ ∀ a ∈ appends, Taken f.opened a := by
  induction appends generalizing f with
  | nil => simp [AllPromised]
  | cons a rest ih =>
    rw [List.forall_mem_cons, ← append_promised_iff a counted]
    constructor
    · rintro ⟨next, ran, promised, later⟩
      rw [ih next promised.counted, append_opened_eq ran] at later
      exact ⟨⟨next, ran, promised⟩, later⟩
    · rintro ⟨⟨next, ran, promised⟩, later⟩
      refine ⟨next, ran, promised, (ih next promised.counted).mpr ?_⟩
      rwa [append_opened_eq ran]

/-- From a new file on, every append of a sequence is as promised exactly if `fwrite` takes each
line at once or refuses it whole with its indicator set, and a file that could not be opened is
given no line. -/
theorem appends_promised_iff (opened : Bool) (appends : List Append) :
    AllPromised { opened } appends ↔ ∀ a ∈ appends, Taken opened a :=
  allPromised_iff appends { opened } rfl

/-- Four bytes of ten are taken without an error; the rest is lost and nothing is counted. A file
that is not open is written to. -/
theorem appends_not_promised :
    ¬ AllPromised { opened := true } [⟨List.replicate 10 65, [⟨4, false⟩]⟩] ∧
      ¬ AllPromised { opened := false } [⟨[65], []⟩] := by
  constructor
  · rw [allPromised_iff _ _ rfl, List.forall_mem_singleton]
    simp [Taken]
  · rw [allPromised_iff _ _ rfl, List.forall_mem_singleton]
    simp [Taken]

end Mhost.Log.AppendFile
