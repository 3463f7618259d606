/-!
# Properties of the past

A history is a list that only grows at its end. Three ways to speak of it: every entry
was permitted when it was made, something that began still lasts, and the value last
written. Each has a rule for one more entry and a rule for entries that do not bear on
it, so that a program which keeps a history can maintain such properties step by step.
-/
namespace Mhost.Library
variable {ε ν : Type}

/-- Every entry was permitted by the entries before it. -/
def Throughout (permitted : List ε → ε → Prop) (history : List ε) : Prop :=
  ∀ past e future, history = past ++ e :: future → permitted past e

/-- Some entry started it, and every later entry keeps it. -/
def Since (starts : List ε → ε → Prop) (keeps : ε → Prop) (history : List ε) : Prop :=
  ∃ past e future, history = past ++ e :: future ∧ starts past e ∧ ∀ later ∈ future, keeps later

def lastWritten (writes : ε → Option ν) (first : ν) (history : List ε) : ν :=
  history.foldl (fun value e => (writes e).getD value) first

variable {permitted starts : List ε → ε → Prop} {keeps : ε → Prop} {writes : ε → Option ν}
  {first : ν} {history rest : List ε} {e : ε}

/-- An entry of a longer history is the new one or one of those before. -/
theorem snoc_eq_split {past future : List ε} {x : ε} :
    history ++ [e] = past ++ x :: future ↔
      (past = history ∧ x = e ∧ future = []) ∨
        ∃ between, future = between ++ [e] ∧ history = past ++ x :: between := by
  constructor
  · intro same
    rcases List.eq_nil_or_concat future with rfl | ⟨between, last, rfl⟩
    · obtain ⟨rfl, heads⟩ := List.append_inj' same rfl
      exact .inl ⟨rfl, (List.singleton_inj.mp heads).symm, rfl⟩
    · have shifted : history ++ [e] = (past ++ x :: between) ++ [last] := by simpa using same
      obtain ⟨rfl, heads⟩ := List.append_inj' shifted rfl
      exact .inr ⟨between, by simp [List.singleton_inj.mp heads], rfl⟩
  · rintro (⟨rfl, rfl, rfl⟩ | ⟨between, rfl, rfl⟩)
    · rfl
    · simp

/-- Two histories that only grow by entries of one kind. -/
theorem grown_trans {kind : ε → Prop} {later latest : List ε}
    (first : ∃ more, later = history ++ more ∧ ∀ e ∈ more, kind e)
    (second : ∃ more, latest = later ++ more ∧ ∀ e ∈ more, kind e) :
    ∃ more, latest = history ++ more ∧ ∀ e ∈ more, kind e := by
  obtain ⟨more, rfl, all⟩ := first
  obtain ⟨others, rfl, all'⟩ := second
  refine ⟨more ++ others, List.append_assoc .., fun e member => ?_⟩
  rcases List.mem_append.mp member with before | after
  · exact all e before
  · exact all' e after

/-! ### One more entry -/

theorem throughout_nil : Throughout permitted [] := by
  intro past e future same
  simp at same

theorem throughout_snoc :
    Throughout permitted (history ++ [e]) ↔ Throughout permitted history ∧ permitted history e := by
  constructor
  · intro all
    refine ⟨fun past x future same => ?_, all history e [] rfl⟩
    exact all past x (future ++ [e]) (snoc_eq_split.mpr (.inr ⟨future, rfl, same⟩))
  · rintro ⟨before, now⟩ past x future same
    rcases snoc_eq_split.mp same with ⟨rfl, rfl, _⟩ | ⟨between, _, earlier⟩
    · exact now
    · exact before past x between earlier

theorem not_since_nil : ¬ Since starts keeps [] := by
  rintro ⟨past, e, future, same, _⟩
  simp at same

theorem since_snoc :
    Since starts keeps (history ++ [e]) ↔
      starts history e ∨ keeps e ∧ Since starts keeps history := by
  constructor
  · rintro ⟨past, x, future, same, started, kept⟩
    rcases snoc_eq_split.mp same with ⟨rfl, rfl, _⟩ | ⟨between, rfl, earlier⟩
    · exact .inl started
    · exact .inr ⟨kept e (by simp), past, x, between, earlier, started,
        fun later member => kept later (by simp [member])⟩
  · rintro (started | ⟨kept, past, x, between, rfl, started, keptBefore⟩)
    · exact ⟨history, e, [], rfl, started, by simp⟩
    · refine ⟨past, x, between ++ [e], by simp, started, fun later member => ?_⟩
      rcases List.mem_append.mp member with earlier | last
      · exact keptBefore later earlier
      · rw [List.mem_singleton.mp last]
        exact kept

theorem lastWritten_snoc :
    lastWritten writes first (history ++ [e]) =
      (writes e).getD (lastWritten writes first history) := by
  simp [lastWritten]

/-- The value is the first one, which nothing overwrote, or some entry wrote it last. -/
theorem lastWritten_cases (writes : ε → Option ν) (first : ν) (history : List ε) :
    (lastWritten writes first history = first ∧ ∀ e ∈ history, writes e = none) ∨
      ∃ past e future, history = past ++ e :: future ∧
        writes e = some (lastWritten writes first history) ∧
        ∀ later ∈ future, writes later = none := by
  induction history generalizing first with
  | nil => exact .inl ⟨rfl, by simp⟩
  | cons e rest ih =>
    have next : lastWritten writes first (e :: rest) =
        lastWritten writes ((writes e).getD first) rest := rfl
    rw [next]
    rcases ih ((writes e).getD first) with ⟨value, silent⟩ | ⟨past, x, future, rfl, wrote, silent⟩
    · cases written : writes e with
      | none =>
        rw [written] at value
        exact .inl ⟨value, by simpa [written] using silent⟩
      | some v =>
        rw [written] at value
        exact .inr ⟨[], e, rest, rfl, written.trans (congrArg some value.symm), silent⟩
    · exact .inr ⟨e :: past, x, future, rfl, wrote, silent⟩

/-! ### Parts of a history -/

theorem throughout_first (all : Throughout permitted (history ++ rest)) :
    Throughout permitted history :=
  fun past x future same => all past x (future ++ rest) (by simp [same])

/-- What rules out its own repetition occurs at most once. -/
theorem countP_le_one {kind : ε → Bool}
    (once : ∀ past e future, history = past ++ e :: future → kind e = true →
      ∀ later ∈ future, kind later = false) : history.countP kind ≤ 1 := by
  induction history with
  | nil => simp
  | cons e rest ih =>
    by_cases found : kind e = true
    · have none := once [] e rest rfl found
      have zero : rest.countP kind = 0 := by simpa [List.countP_eq_zero] using none
      simp [found, zero]
    · simp only [List.countP_cons, found]
      exact ih fun past x future same => once (e :: past) x future (by simp [same])

/-! ### Entries that do not bear on the property -/

theorem throughout_append (inert : ∀ e ∈ rest, ∀ past, permitted past e) :
    Throughout permitted (history ++ rest) ↔ Throughout permitted history := by
  induction rest generalizing history with
  | nil => simp
  | cons e more ih =>
    have now : permitted history e := inert e (by simp) history
    rw [List.append_cons, ih (fun x member => inert x (by simp [member])), throughout_snoc]
    exact and_iff_left now

theorem since_append (inert : ∀ e ∈ rest, keeps e ∧ ∀ past, ¬ starts past e) :
    Since starts keeps (history ++ rest) ↔ Since starts keeps history := by
  induction rest generalizing history with
  | nil => simp
  | cons e more ih =>
    obtain ⟨kept, silent⟩ := inert e (by simp)
    rw [List.append_cons, ih (fun x member => inert x (by simp [member])), since_snoc]
    simp [kept, silent history]

theorem lastWritten_append (inert : ∀ e ∈ rest, writes e = none) :
    lastWritten writes first (history ++ rest) = lastWritten writes first history := by
  induction rest generalizing history with
  | nil => simp
  | cons e more ih =>
    rw [List.append_cons, ih (fun x member => inert x (by simp [member])), lastWritten_snoc,
      inert e (by simp)]
    rfl

end Mhost.Library
