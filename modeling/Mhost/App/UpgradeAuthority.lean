import Mathlib.Data.List.Induction
import Mhost.App.UpgradeLife
import Mhost.Library.History

/-!
# Who starts a flashing child, and with which file

The name and the permission are checked when a `flash` line is accepted, the child is started
by a later frame or tick (ChassisHost.cc:24-30, 475-552, 832-840). While the upgrade is
quiescing the last order is its own, so each child goes back to one accepted line.
-/
namespace Mhost.App
open Library (Text utf8 Throughout throughout_snoc)
open Proto Link Serial Ota OtaFlasher

/-! ### Firmware names -/

theorem contains_iff (part text : Text) : contains part text = true ↔ part <:+: text := by
  induction text with
  | nil => simp [contains, List.isEmpty_iff]
  | cons c rest ih => simp [contains, ih, List.infix_cons_iff]

namespace ChassisHost

/-- What may be a file of the firmware directory. -/
structure SafeName (name : Text) : Prop where
  hex : utf8 ".hex" <:+ name
  chars : ∀ c ∈ name, isAlnum c = true ∨ c = 46 ∨ c = 95 ∨ c = 45
  noDots : ¬ utf8 ".." <:+: name
  /-- no `/`: one component of a path -/
  component : 47 ∉ name

theorem isSafeFirmwareName_safe {name : Text} (safe : isSafeFirmwareName name = true) :
    SafeName name := by
  simp only [isSafeFirmwareName, Bool.and_eq_true, Bool.not_eq_true', List.isSuffixOf_iff_suffix,
    List.all_eq_true, Bool.or_eq_true, decide_eq_true_eq, or_assoc] at safe
  obtain ⟨⟨⟨_, hex⟩, chars⟩, noDots⟩ := safe
  refine ⟨hex, chars, fun dots => ?_, fun slash => ?_⟩
  · simp [(contains_iff _ _).mpr dots] at noDots
  · have bad := chars 47 slash
    revert bad
    decide

/-! ### Acts in a run -/

/-- After the acts `before` the line `text` of `c` was accepted: an upgrade to `name`. -/
structure AcceptedFlash (w : World) (before : List Act) (c : Conn) (text name : Text) : Prop where
  tokens : tokensOf text = [utf8 "flash", name]
  loopback : isLoopbackConn c = true
  free : (acts w (start w) before).base.ota.otaState = .none
  safe : SafeName name
  recorded : (acts w (start w) (before ++ [.line c text])).base.orders =
    (acts w (start w) before).base.orders ++ [.flash c name]

/-- The upgrade that waits for the motors was accepted in `past`, and nothing was ordered since. -/
structure AwaitedFrom (w : World) (past before : List Act) (c : Conn) (text name : Text) : Prop where
  earlier : ∃ between, past = before ++ .line c text :: between
  accepted : AcceptedFlash w before c text name
  orders : (acts w (start w) past).base.orders =
    (acts w (start w) before).base.orders ++ [.flash c name]

/-- The board said that the motors are off, or has had its time since the line was accepted. -/
def MotorsOff (w : World) (before past : List Act) (a : Act) : Prop :=
  (∃ f status, a = .frame f ∧ f.type = ptStatus ∧ parseStatus f = some status ∧ status.en = 0) ∨
    a = .watchdogTimer ∧
      elapsed (w.os.steadyMs (acts w (start w) past).base.asked)
        (acceptedAt w (acts w (start w) before)) > w.opts.quiesceTimeoutMs

variable {w : World} {h h' : ChassisHost}

theorem awaited (w : World) (past : List Act)
    (quiescing : (acts w (start w) past).base.ota.otaState = .quiescing) :
    ∃ before c text name, AwaitedFrom w past before c text name ∧
      (acts w (start w) past).base.ota.otaFile = name ∧
      (acts w (start w) past).base.ota.otaPhaseStartMs = acceptedAt w (acts w (start w) before) := by
  induction past using List.reverseRecOn with
  | nil =>
    have idle := (start_aside w).was (by simp [show (start w).base.ota.otaState = .quiescing from
      quiescing])
    exact absurd (idle.trans quiescing) nofun
  | append_singleton past a ih =>
    have lived := act_lived (w := w) (acts_lockstep w past) a
    rw [acts_snoc] at quiescing ⊢
    cases lived with
    | onward _ _ _ _ waits orders =>
      obtain ⟨was, file, since⟩ := waits quiescing
      obtain ⟨before, c, text, name, ⟨⟨between, split⟩, accepted, ordered⟩, named, entered⟩ := ih was
      refine ⟨before, c, text, name, ⟨⟨between ++ [a], by simp [split]⟩, accepted, ?_⟩,
        file.trans named, since.trans entered⟩
      rw [acts_snoc]
      exact orders.trans ordered
    | accepted c text name line tokens loopback free safe _ _ file since orders =>
      subst line
      rw [← acts_snoc] at orders
      exact ⟨past, c, text, name, ⟨⟨[], rfl⟩,
        ⟨tokens, loopback, free, isSafeFirmwareName_safe safe, orders⟩, orders⟩, file, since⟩
    | started _ _ _ flashing => simp [flashing] at quiescing
    | forced _ _ _ _ _ _ _ _ flashing => simp [flashing] at quiescing
    | exited _ _ _ _ _ verdict =>
      rw [verdict] at quiescing
      split at quiescing <;> cases quiescing

/-! ### Orders -/

/-- What an act can order. -/
inductive Ordered (w : World) (h : ChassisHost) (a : Act) : List Entry → Prop where
  | nothing : Ordered w h a []
  | flash (c : Conn) (name : Text) : Ordered w h a [.flash c name]
  | child (quiescing : h.base.ota.otaState = .quiescing) (confirmed : Confirmed w h a) :
      Ordered w h a [.child (flashArgv w h.base.ota.otaFile)]
  | term (c : Conn) (text : Text) (line : a = .line c text)
      (tokens : tokensOf text = [utf8 "flash_abort", utf8 "force"])
      (loopback : isLoopbackConn c = true) (flashing : h.base.ota.otaState = .flashing) :
      Ordered w h a [.signal .term h.child.pid]

theorem Lived.ordered {a : Act} (lived : Lived w h a h') {rest : List Entry}
    (grown : h'.base.journal = h.base.journal ++ rest) :
    Ordered w h a (rest.filter Entry.ofUpgrade) := by
  have added : h'.base.orders = h.base.orders ++ rest.filter Entry.ofUpgrade := by
    simp [Base.orders, grown]
  have new {tail : List Entry} (orders : h'.base.orders = h.base.orders ++ tail) :
      rest.filter Entry.ofUpgrade = tail :=
    List.append_cancel_left (added.symm.trans orders)
  cases lived with
  | onward _ _ _ _ _ orders | exited _ _ _ _ _ _ orders =>
    have none : rest.filter Entry.ofUpgrade = [] := new (by simpa using orders)
    exact none ▸ .nothing
  | accepted c _ name _ _ _ _ _ _ _ _ _ orders => exact new orders ▸ .flash c name
  | started quiescing confirmed _ _ orders => exact new orders ▸ .child quiescing confirmed
  | forced c text line tokens loopback was _ _ _ orders =>
    exact new orders ▸ .term c text line tokens loopback was

/-- Whoever starts a child is entitled to. -/
theorem child_authorised (w : World) (past : List Act) (a : Act) {rest : List Entry}
    (grown : (act w (acts w (start w) past) a).base.journal =
      (acts w (start w) past).base.journal ++ rest) {argv : List Text}
    (member : .child argv ∈ rest) :
    ∃ before c text name, AwaitedFrom w past before c text name ∧ argv = flashArgv w name ∧
      MotorsOff w before past a := by
  have order : .child argv ∈ rest.filter Entry.ofUpgrade := by simpa [Entry.ofUpgrade] using member
  have ordered := (act_lived (w := w) (acts_lockstep w past) a).ordered grown
  generalize rest.filter Entry.ofUpgrade = new at order ordered
  cases ordered with
  | nothing | flash | term => simp at order
  | child quiescing confirmed =>
    obtain ⟨before, c, text, name, from', file, since⟩ := awaited w past quiescing
    refine ⟨before, c, text, name, from', by simpa [file] using order, ?_⟩
    cases a with
    | frame f =>
      obtain ⟨kind, status, parsed, off⟩ := confirmed
      exact .inl ⟨f, status, rfl, kind, parsed, off⟩
    | watchdogTimer => exact .inr ⟨rfl, since ▸ confirmed⟩
    | _ => exact confirmed.elim

/-- Only `flash_abort force`, from the loopback and while a child is flashing, has it signalled. -/
theorem term_forced (w : World) (past : List Act) (a : Act) {rest : List Entry}
    (grown : (act w (acts w (start w) past) a).base.journal =
      (acts w (start w) past).base.journal ++ rest) {pid : Nat}
    (member : .signal .term pid ∈ rest) :
    ∃ c text, a = .line c text ∧ tokensOf text = [utf8 "flash_abort", utf8 "force"] ∧
      isLoopbackConn c = true ∧ (acts w (start w) past).base.ota.otaState = .flashing := by
  have order : .signal .term pid ∈ rest.filter Entry.ofUpgrade := by
    simpa [Entry.ofUpgrade] using member
  have ordered := (act_lived (w := w) (acts_lockstep w past) a).ordered grown
  generalize rest.filter Entry.ofUpgrade = new at order ordered
  cases ordered with
  | nothing | flash | child => simp at order
  | term c text line tokens loopback flashing => exact ⟨c, text, line, tokens, loopback, flashing⟩

/-- Before each child in the orders stands an acceptance, which is its own. -/
def Matched (w : World) (past : List Entry) (e : Entry) : Prop :=
  ∀ argv, e = .child argv → ∃ earlier c name, past = earlier ++ [.flash c name] ∧
    isLoopbackConn c = true ∧ SafeName name ∧ argv = flashArgv w name

theorem orders_matched (w : World) (taken : List Act) :
    Throughout (Matched w) (acts w (start w) taken).base.orders := by
  induction taken using List.reverseRecOn with
  | nil =>
    have none : (start w).base.orders = [] := (start_aside w).orders
    rw [acts_nil, none]
    exact Library.throughout_nil
  | append_singleton past a ih =>
    rw [acts_snoc]
    cases act_lived (w := w) (acts_lockstep w past) a with
    | onward _ _ _ _ _ orders | exited _ _ _ _ _ _ orders => exact orders ▸ ih
    | accepted c text name _ _ _ _ _ _ _ _ _ orders =>
      exact orders ▸ throughout_snoc.mpr ⟨ih, nofun⟩
    | forced _ _ _ _ _ _ _ _ _ orders => exact orders ▸ throughout_snoc.mpr ⟨ih, nofun⟩
    | started quiescing _ _ _ orders =>
      refine orders ▸ throughout_snoc.mpr ⟨ih, ?_⟩
      rintro _ ⟨⟩
      obtain ⟨before, c, text, name, from', file, _⟩ := awaited w past quiescing
      exact ⟨_, c, name, from'.orders, from'.accepted.loopback, from'.accepted.safe, by rw [file]⟩

end ChassisHost
end Mhost.App
