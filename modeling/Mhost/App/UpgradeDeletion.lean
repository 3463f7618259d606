import Mhost.App.LineFraming
import Mhost.App.UpgradeAuthority
import Mhost.Library.Purge

/-!
# Upgrade commands from elsewhere

A `flash` or `flash_abort` line of a connection that is not from the loopback is answered and
does nothing else (ChassisHost.cc:475-492, 642-647). A run without these lines goes through
the same states of the upgrade.
-/
namespace Mhost.App.ChassisHost
open Library (Text utf8 Unwinds purge changes Throughout)
open Proto Link Serial Ota OtaFlasher

/-- A `flash` or `flash_abort` line that is not from the loopback. -/
def outsideOrder (c : Conn) (text : Text) : Bool :=
  !isLoopbackConn c && match tokensOf text with
    | [] => false
    | cmd :: _ => cmd = utf8 "flash" ∨ cmd = utf8 "flash_abort"

/-- These lines, and what is left in the input buffers. -/
def Act.hidden : Act → Bool
  | .line c text => outsideOrder c text
  | .buffered _ _ => true
  | _ => false

variable {w : World} {h h' : ChassisHost}

/-! ### Answers only -/

theorem forget_note (h : ChassisHost) (e : Entry) : (h.onBase (·.note e)).forget = h.forget := rfl

theorem forget_reply (h : ChassisHost) (c : Conn) (text : Text) :
    (h.reply c text).forget = h.forget := by
  simp only [reply, onBase, Base.sendTo]
  split <;> rfl

theorem cmdFlash_refused {c : Conn} (outside : isLoopbackConn c = false) (tok : List Text) :
    (cmdFlash w c tok h).forget = h.forget := by
  unfold cmdFlash
  split
  · exact forget_reply h c _
  · rw [if_pos (by simp [outside])]
    exact forget_reply h c _

theorem cmdFlashAbort_refused {c : Conn} (outside : isLoopbackConn c = false) (tok : List Text) :
    (cmdFlashAbort w c tok h).forget = h.forget := by
  unfold cmdFlashAbort
  rw [if_pos (by simp [outside])]
  exact forget_reply h c _

theorem outsideOrder_forget {c : Conn} {text : Text} (outside : outsideOrder c text = true) :
    (handleLine w c text h).forget = h.forget := by
  rw [handleLine_eq]
  unfold outsideOrder at outside
  rw [Bool.and_eq_true, Bool.not_eq_true'] at outside
  obtain ⟨outside, order⟩ := outside
  rcases tokens : tokensOf text with _ | ⟨cmd, rest⟩
  · rfl
  · rw [tokens] at order
    rcases (decide_eq_true_eq.mp order) with rfl | rfl
    · rw [handleCommand_flash]
      dsimp only
      split
      · rw [forget_reply, forget_note]
      · rw [cmdFlash_refused outside, forget_note]
    · rw [handleCommand_flashAbort, cmdFlashAbort_refused outside, forget_note]

/-- Who sees everything but the past and the input buffers does not see the hidden acts. -/
theorem act_unwinds (w : World) : Unwinds (act w) forget Act.hidden where
  respects h h' a same := by rw [forget_act, forget_act w h', same]
  silent h a hidden := by
    cases a with
    | line c text => exact outsideOrder_forget hidden
    | buffered c left => rfl
    | _ => cases hidden

/-! ### Whole lines -/

/-- A line is handled without its LF and if it is not too long. -/
theorem takeLines_whole (fuel : Nat) (buf : Text) :
    ∀ line ∈ (takeLines fuel buf).1, 10 ∉ line ∧ line.length ≤ kMaxLineLen := by
  induction fuel generalizing buf with
  | zero => simp [takeLines]
  | succ fuel ih =>
    unfold takeLines
    split
    · simp
    · split
      · simp
      next len found =>
        have whole : 10 ∉ buf.take len := by
          obtain ⟨_, _, before⟩ := List.findIdx?_eq_some_iff_getElem.mp found
          intro member
          obtain ⟨i, inside, same⟩ := List.mem_take_iff_getElem.mp member
          have other := before i (by omega)
          simp [same] at other
        intro line member
        dsimp only at member
        split at member
        next short =>
          rcases List.mem_cons.mp member with rfl | later
          · exact ⟨whole, by simp; omega⟩
          · exact ih _ line later
        next => exact ih _ line member

/-- Whole lines come out as they were, and leave nothing. -/
theorem takeLines_lines {lines : List Text}
    (whole : ∀ line ∈ lines, 10 ∉ line ∧ line.length ≤ kMaxLineLen) (fuel : Nat)
    (enough : (lines.flatMap (· ++ [10])).length ≤ fuel) :
    takeLines fuel (lines.flatMap (· ++ [10])) = (lines, []) := by
  induction lines generalizing fuel with
  | nil =>
    cases fuel with
    | zero => rfl
    | succ => rfl
  | cons line rest ih =>
    obtain ⟨short, later⟩ := List.forall_mem_cons.mp whole
    obtain ⟨more, rfl⟩ : ∃ more, fuel = more + 1 := ⟨fuel - 1, by simp at enough; omega⟩
    have split : (line :: rest).flatMap (· ++ [10]) = line ++ 10 :: rest.flatMap (· ++ [10]) := by
      simp
    rw [split] at enough ⊢
    rw [takeLines_line short.1, ih later more (by simp at enough ⊢; omega), if_pos short.2]
    rfl

/-! ### The run without the lines -/

/-- The lines of a message that `handleLine` is called with. -/
def handledLines (c : Conn) (bytes : Text) (h : ChassisHost) : List Text :=
  (takeLines (arrived c bytes h).length (arrived c bytes h)).1

/-- A message brings the lines it made complete, but not the orders from elsewhere. -/
def withoutOrders (h : ChassisHost) : Event → Event
  | .message c bytes =>
      .message c (((handledLines c bytes h).filter fun line => !outsideOrder c line).flatMap (· ++ [10]))
  | e => e

/-- The events of a run from `h` on without these lines. -/
def deleteOrders (w : World) (h : ChassisHost) : List Event → List Event
  | [] => []
  | e :: rest => withoutOrders h e :: deleteOrders w (handle w h e) rest

/-- No line is unfinished. -/
def Clear (h : ChassisHost) : Prop := ∀ pair ∈ h.base.inputs, pair.2 = []

theorem Clear.input (clear : Clear h) (c : Conn) : inputOf c h.base = [] := by
  unfold inputOf
  cases found : h.base.inputs.find? (·.1 = c) with
  | none => rfl
  | some pair => exact clear pair (List.mem_of_find?_eq_some found)

theorem Clear.act (clear : Clear h) {a : Act} (whole : ∀ c left, a = .buffered c left → left = []) :
    Clear (act w h a) := by
  unfold Clear
  rw [act_inputs]
  cases a with
  | down c => exact fun pair member => clear pair (List.mem_of_mem_filter member)
  | buffered c left =>
    obtain rfl := whole c left rfl
    intro pair member
    rcases List.mem_cons.mp member with rfl | kept
    · rfl
    · exact clear pair (List.mem_of_mem_filter kept)
  | _ => exact clear

theorem Clear.acts {taken : List Act} (clear : Clear h)
    (whole : ∀ c left, .buffered c left ∈ taken → left = []) : Clear (acts w h taken) := by
  induction taken generalizing h with
  | nil => exact clear
  | cons a rest ih =>
    refine ih (clear.act fun c left same => whole c left (by simp [same])) ?_
    exact fun c left member => whole c left (by simp [member])

/-- What is read from the port depends on neither. -/
theorem readActs_forget (reads : List Serial.ReadResult) (same : h.forget = h'.forget) :
    readActs w reads h = readActs w reads h' := by
  induction reads generalizing h h' with
  | nil => rfl
  | cons result rest ih =>
    have port : h.serial = h'.serial := congrArg (·.serial) same
    have parser : h.base.parser = h'.base.parser := congrArg (·.base.parser) same
    unfold readActs
    rw [port]
    split
    · rfl
    · cases result with
      | data bytes =>
        have now : dataActs bytes h = dataActs bytes h' := by simp only [dataActs, parser]
        have next : (acts w h (dataActs bytes h')).forget = (acts w h' (dataActs bytes h')).forget :=
          (act_unwinds w).view_eq same rfl
        dsimp only
        rw [now, ih next]
      | eof | failed | again => rfl
      | interrupted => exact ih same

theorem purge_lines (c : Conn) (left : Text) (lines : List Text) :
    purge Act.hidden (.buffered c left :: lines.map (.line c)) =
      (lines.filter fun line => !outsideOrder c line).map (.line c) := by
  rw [purge, List.filter_cons_of_neg (by simp [Act.hidden]), List.filter_map]
  rfl

theorem messageActs_kept (clear : Clear h') (c : Conn) (bytes : Text) (h : ChassisHost) :
    messageActs c (((handledLines c bytes h).filter fun line => !outsideOrder c line).flatMap
        (· ++ [10])) h' =
      .buffered c [] ::
        ((handledLines c bytes h).filter fun line => !outsideOrder c line).map (.line c) := by
  have whole : ∀ line ∈ (handledLines c bytes h).filter fun line => !outsideOrder c line,
      10 ∉ line ∧ line.length ≤ kMaxLineLen :=
    fun line member => takeLines_whole _ _ line (List.mem_of_mem_filter member)
  unfold messageActs arrived
  rw [clear.input, List.nil_append, takeLines_lines whole _ (Nat.le_refl _)]

/-- One event with and without the lines. -/
theorem withoutOrders_acts (same : h.forget = h'.forget) (clear : Clear h') (e : Event) :
    purge Act.hidden (actsOf w h e) = purge Act.hidden (actsOf w h' (withoutOrders h e)) ∧
      Clear (acts w h' (actsOf w h' (withoutOrders h e))) ∧
      ∀ c text, .line c text ∈ actsOf w h' (withoutOrders h e) → outsideOrder c text = false := by
  cases e with
  | message c bytes =>
    have kept := messageActs_kept clear c bytes h
    simp only [withoutOrders, actsOf, kept]
    refine ⟨?_, clear.acts ?_, ?_⟩
    · rw [purge_lines]
      exact (purge_lines c _ (handledLines c bytes h)).trans (by simp)
    · simp
    · intro c' text member
      rcases List.mem_cons.mp member with same | line
      · cases same
      · obtain ⟨kept, inside, same⟩ := List.mem_map.mp line
        cases same
        simpa using (List.mem_filter.mp inside).2
  | serialReadable reads =>
    have port (a : Act) (member : a ∈ actsOf w h' (withoutOrders h (.serialReadable reads))) :
        a.ofPort = true := readActs_ofPort reads h' a member
    refine ⟨congrArg _ (readActs_forget reads same), clear.acts ?_, ?_⟩
    · exact fun c left member => absurd (port _ member) (by simp [Act.ofPort])
    · exact fun c text member => absurd (port _ member) (by simp [Act.ofPort])
  | _ => exact ⟨rfl, clear.acts (by simp [withoutOrders, actsOf]), by simp [withoutOrders, actsOf]⟩

/-- A run without the lines does what is left of the run, and nothing of them. -/
theorem deleteOrders_acts (same : h.forget = h'.forget) (clear : Clear h') (events : List Event) :
    purge Act.hidden (actsIn w h events) =
        purge Act.hidden (actsIn w h' (deleteOrders w h events)) ∧
      ∀ c text, .line c text ∈ actsIn w h' (deleteOrders w h events) →
        outsideOrder c text = false := by
  induction events generalizing h h' with
  | nil => exact ⟨rfl, by simp [actsIn, deleteOrders]⟩
  | cons e rest ih =>
    obtain ⟨kept, clear', none⟩ := withoutOrders_acts (w := w) same clear e
    have next : (handle w h e).forget = (handle w h' (withoutOrders h e)).forget := by
      rw [handle_acts, handle_acts]
      exact (act_unwinds w).view_eq same kept
    rw [← handle_acts] at clear'
    obtain ⟨later, none'⟩ := ih next clear'
    constructor
    · simp only [actsIn, deleteOrders, purge, List.filter_append] at kept later ⊢
      rw [kept, later]
    · intro c text member
      rcases List.mem_append.mp member with now | then'
      · exact none c text now
      · exact none' c text then'

theorem deleteOrders_take (w : World) (h : ChassisHost) (events : List Event) (n : Nat) :
    (deleteOrders w h events).take n = deleteOrders w h (events.take n) := by
  induction events generalizing h n with
  | nil => simp [deleteOrders]
  | cons e rest ih =>
    cases n with
    | zero => rfl
    | succ n => simp [deleteOrders, ih]

/-- The states an upgrade goes through. -/
def otaStates (w : World) (taken : List Act) : List OtaState :=
  changes (act w) (fun h => h.base.ota.otaState) (start w) taken

theorem start_clear (w : World) : Clear (start w) := by
  simp [Clear, start_inputs]

theorem run_unwinds {events events' : List Event}
    (equal : purge Act.hidden (actsIn w (start w) events) =
      purge Act.hidden (actsIn w (start w) events')) :
    otaStates w (actsIn w (start w) events) = otaStates w (actsIn w (start w) events') ∧
      (run w events).base.ota.otaState = (run w events').base.ota.otaState := by
  have seen (h h' : ChassisHost) (same : h.forget = h'.forget) :
      h.base.ota.otaState = h'.base.ota.otaState := congrArg (·.base.ota.otaState) same
  refine ⟨(act_unwinds w).changes_eq seen rfl equal, ?_⟩
  rw [run_acts, run_acts]
  exact seen _ _ ((act_unwinds w).view_eq rfl equal)

/-- Each child goes back to a line of its own: a `flash` from the loopback, accepted while
there was no upgrade, which names the file; the motors are off by then. Only a forced abort
from the loopback has a flashing child signalled. Runs that differ in the orders from
elsewhere, and the run without them, go through the same states of the upgrade. -/
theorem flashing_authorised (w : World) (events : List Event) :
    (∀ past a future, actsIn w (start w) events = past ++ a :: future →
      ∀ rest, (act w (acts w (start w) past) a).base.journal =
          (acts w (start w) past).base.journal ++ rest →
        (∀ argv, .child argv ∈ rest → ∃ before c text name,
          AwaitedFrom w past before c text name ∧ argv = flashArgv w name ∧
            argv[5]? = some (w.opts.firmwareDir ++ utf8 "/" ++ name) ∧
            MotorsOff w before past a) ∧
        ∀ pid, .signal .term pid ∈ rest → ∃ c text, a = .line c text ∧
          tokensOf text = [utf8 "flash_abort", utf8 "force"] ∧ isLoopbackConn c = true ∧
          (acts w (start w) past).base.ota.otaState = .flashing) ∧
    Throughout (Matched w) (run w events).base.orders ∧
    (∀ events', purge Act.hidden (actsIn w (start w) events) =
        purge Act.hidden (actsIn w (start w) events') →
      otaStates w (actsIn w (start w) events) = otaStates w (actsIn w (start w) events')) ∧
    purge Act.hidden (actsIn w (start w) events) =
      purge Act.hidden (actsIn w (start w) (deleteOrders w (start w) events)) ∧
    (∀ c text, .line c text ∈ actsIn w (start w) (deleteOrders w (start w) events) →
      outsideOrder c text = false) ∧
    otaStates w (actsIn w (start w) events) =
      otaStates w (actsIn w (start w) (deleteOrders w (start w) events)) ∧
    ∀ n, (run w (events.take n)).base.ota.otaState =
      (run w ((deleteOrders w (start w) events).take n)).base.ota.otaState := by
  have deleted (events : List Event) :=
    deleteOrders_acts (w := w) (h := start w) rfl (start_clear w) events
  refine ⟨fun past a _ _ rest grown => ⟨fun argv member => ?_, fun pid member => ?_⟩, ?_,
    fun events' equal => (run_unwinds equal).1, (deleted events).1, (deleted events).2,
    (run_unwinds (deleted events).1).1, fun n => ?_⟩
  · obtain ⟨before, c, text, name, awaited, rfl, off⟩ := child_authorised w past a grown member
    exact ⟨before, c, text, name, awaited, rfl, rfl, off⟩
  · exact term_forced w past a grown member
  · rw [run_acts]
    exact orders_matched w _
  · rw [deleteOrders_take]
    exact (run_unwinds (deleted (events.take n)).1).2

end Mhost.App.ChassisHost
