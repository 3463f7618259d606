import Mathlib.Data.List.Induction
import Mhost.Library.History
import Mhost.App.AttendsHost

/-!
# No client is remembered after it is gone

ChassisHost.cc:140-167. The watchers, the client that drives, the one that waits for a `pong`
and the one that began the upgrade are all connected. One up and one down callback a connection,
and no message outside of the two, is what muduo's `TcpServer` delivers.
-/
namespace Mhost.App
open Library (Text utf8 Throughout)
open Proto Link Serial Ota

/-- Every client the host remembers is one of its connections, and what it repeats has a
client. -/
structure Base.Linked (b : Base) : Prop where
  watchers : ∀ c ∈ b.watchers, c ∈ b.conns
  speedConn : ∀ c, b.speed.speedConn = some c → c ∈ b.conns
  pingConn : ∀ c, b.ping.pingConn = some c → c ∈ b.conns
  otaConn : ∀ c, b.ota.otaConn = some c → c ∈ b.conns
  driven : b.speed.cmdMode ≠ .none → b.speed.speedConn ≠ none

/-- Attending to a client that is connected. -/
theorem Base.Linked.attends {b b' : Base} (linked : b.Linked) {who : Option Conn}
    (connected : ∀ c, who = some c → c ∈ b.conns) {shown : Telemetry}
    (after : Base.Attends who shown b b') : b'.Linked where
  watchers c member := after.conns ▸ (after.watchers c member).elim (linked.watchers c) (connected c)
  speedConn c same := after.conns ▸ (after.speedConn c same).elim (linked.speedConn c) (connected c)
  pingConn c same := after.conns ▸ (after.pingConn c same).elim (linked.pingConn c) (connected c)
  otaConn c same := after.conns ▸ (after.otaConn c same).elim (linked.otaConn c) (connected c)
  driven := after.driven linked.driven

namespace ChassisHost

/-! ### Connections -/

/-- The up callback of the connection has run and the down callback has not. -/
def Connected (past : List Event) (c : Conn) : Prop := .connUp c ∈ past ∧ .connDown c ∉ past

/-- What muduo delivers after `past`. -/
def Deliverable (past : List Event) : Event → Prop
  | .connUp c => .connUp c ∉ past
  | .connDown c => Connected past c
  | .message c _ => Connected past c
  | _ => True

/-- No connection ends before it began. -/
theorem up_of_down {past : List Event} (delivered : Throughout Deliverable past) {c : Conn}
    (ended : .connDown c ∈ past) : .connUp c ∈ past := by
  obtain ⟨before, after, rfl⟩ := List.append_of_mem ended
  have connected : Connected before c := delivered before _ after rfl
  exact List.mem_append_left _ connected.1

/-- One more event begins, ends or leaves alone. -/
theorem connected_snoc {past : List Event} {e : Event} {c : Conn} :
    Connected (past ++ [e]) c ↔
      (.connUp c ∈ past ∨ e = .connUp c) ∧ .connDown c ∉ past ∧ e ≠ .connDown c := by
  simp only [Connected, List.mem_append, List.mem_singleton, not_or, eq_comm]

/-! ### Events -/

/-- The client an event is about, connections apart. -/
def Event.client : Event → Option Conn
  | .message c _ => some c
  | _ => none

def Event.stays : Event → Bool
  | .connUp _ | .connDown _ => false
  | _ => true

variable {w : World} {h : ChassisHost}

theorem actsOf_stay (h : ChassisHost) (e : Event) (stays : e.stays = true) :
    ∀ a ∈ actsOf w h e, a.stays = true ∧ (a.client = none ∨ a.client = e.client) := by
  have single {a : Act} (kind : a.stays = true ∧ (a.client = none ∨ a.client = e.client)) :
      ∀ a' ∈ [a], a'.stays = true ∧ (a'.client = none ∨ a'.client = e.client) := by
    intro a' member
    rw [List.mem_singleton.mp member]
    exact kind
  cases e with
  | connUp | connDown => cases stays
  | message c bytes =>
    intro a member
    rcases List.mem_cons.mp member with rfl | line
    · exact ⟨rfl, .inl rfl⟩
    · obtain ⟨text, _, rfl⟩ := List.mem_map.mp line
      exact ⟨rfl, .inr rfl⟩
  | serialReadable reads =>
    intro a member
    have port := readActs_ofPort reads h a member
    cases a with
    | parsed | frame | closed => exact ⟨rfl, .inl rfl⟩
    | _ => cases port
  | _ => exact single ⟨rfl, .inl rfl⟩

/-- Several acts for one client. -/
theorem acts_attend {who : Option Conn} (taken : List Act) (h : ChassisHost)
    (kinds : ∀ a ∈ taken, a.stays = true ∧ (a.client = none ∨ a.client = who)) :
    Attends who (acts w h taken).base.telemetry h (acts w h taken) := by
  induction taken generalizing h with
  | nil => exact .refl h
  | cons a rest ih =>
    have later := ih (act w h a) fun a' member => kinds a' (List.mem_cons_of_mem a member)
    obtain ⟨stays, client⟩ := kinds a List.mem_cons_self
    have first := act_attends (w := w) (h := h) a stays
    rcases client with nobody | own
    · rw [nobody] at first
      exact ((Base.Attends.refl h.base).alone first).trans later
    · rw [own] at first
      exact first.trans later

theorem handle_attends (e : Event) (stays : e.stays = true) :
    Attends e.client (handle w h e).base.telemetry h (handle w h e) := by
  rw [handle_acts]
  exact acts_attend _ h (actsOf_stay h e stays)

/-- Nothing is repeated any more. -/
def idled (b : Base) : Base := { b with speed := { b.speed with cmdMode := .none, speedConn := none } }

/-- Whoever ends is forgotten everywhere. -/
theorem onConnectionDown_forgets (c : Conn) :
    (onConnectionDown w c h).base.speed.speedConn ≠ some c ∧
      (onConnectionDown w c h).base.ping.pingConn ≠ some c ∧
      (onConnectionDown w c h).base.ota.otaConn ≠ some c := by
  rw [onConnectionDown_eq]
  simp only [onBase, resetConn_eq]
  refine ⟨?_, ?_, ?_⟩
  · change (braked w c (h.onBase (left c))).base.speed.speedConn ≠ some c
    unfold braked
    split
    next drives =>
      have idle : Base.Attends none h.base.telemetry (idled (left c h.base)) (idled (left c h.base)) :=
        .refl (idled (left c h.base))
      have sent := sendFrameToBoard_attends w (s := (h.serial, idled (left c h.base))) idle ptCmdStop []
      intro same
      rcases sent.speedConn c same with none | nobody
      · cases none
      · cases nobody
    next other => exact other
  · split
    next => simp
    next other => exact other
  · split
    next => simp
    next other => exact other

/-- One event of a client that is connected, or of nobody. -/
theorem handle_linked (e : Event) (linked : h.base.Linked)
    (connected : ∀ c, e.client = some c → c ∈ h.base.conns) : (handle w h e).base.Linked := by
  cases stays : e.stays with
  | true => exact linked.attends connected (handle_attends e stays)
  | false =>
    cases e with
    | connUp c =>
      -- the greeting goes out once the connection is on the list
      have listed : (joined c h.base).Linked :=
        ⟨fun _ member => List.mem_append_left _ (linked.watchers _ member),
          fun _ same => List.mem_append_left _ (linked.speedConn _ same),
          fun _ same => List.mem_append_left _ (linked.pingConn _ same),
          fun _ same => List.mem_append_left _ (linked.otaConn _ same), linked.driven⟩
      exact listed.attends (fun _ none => (Option.some_ne_none _ none.symm).elim)
        (onConnectionUp_attends c)
    | connDown c =>
      have ended := onConnectionDown_attends (w := w) (h := h) c
      obtain ⟨speed, ping, ota⟩ := onConnectionDown_forgets (w := w) (h := h) c
      have stays {c' : Conn} (before : c' ∈ h.base.conns) (other : c' ≠ c) :
          c' ∈ (onConnectionDown w c h).base.conns := by
        rw [ended.conns]
        exact List.mem_filter.mpr ⟨before, by simpa using other⟩
      have same {c' : Conn} {held : Option Conn} (isHeld : held = some c') (other : held ≠ some c) :
          c' ≠ c := fun equal => other (equal ▸ isHeld)
      refine ⟨fun c' member => ?_, fun c' held => ?_, fun c' held => ?_, fun c' held => ?_,
        ended.driven linked.driven⟩
      · obtain ⟨watching, other⟩ := List.mem_filter.mp ((ended.watchers c' member).resolve_right (by simp))
        exact stays (linked.watchers c' watching) (by simpa using other)
      · exact stays (linked.speedConn c' ((ended.speedConn c' held).resolve_right (by simp))) (same held speed)
      · exact stays (linked.pingConn c' ((ended.pingConn c' held).resolve_right (by simp))) (same held ping)
      · exact stays (linked.otaConn c' ((ended.otaConn c' held).resolve_right (by simp))) (same held ota)
    | _ => cases stays

/-! ### Runs -/

/-- The connections after one event. -/
theorem handle_conns (e : Event) {past : List Event} (delivered : Throughout Deliverable past)
    (now : Deliverable past e) (listed : ∀ c, c ∈ h.base.conns ↔ Connected past c) (c : Conn) :
    c ∈ (handle w h e).base.conns ↔ Connected (past ++ [e]) c := by
  rw [connected_snoc]
  cases e with
  | connUp other =>
    have begins : (handle w h (.connUp other)).base.conns = h.base.conns ++ [other] :=
      (onConnectionUp_attends other).conns
    rw [begins, List.mem_append, listed, List.mem_singleton]
    by_cases same : c = other
    · subst same
      have fresh : .connDown c ∉ past := fun ended => now (up_of_down delivered ended)
      simp [fresh]
    · simp [Connected, same, Ne.symm same]
  | connDown other =>
    have ends : (handle w h (.connDown other)).base.conns = h.base.conns.filter (· ≠ other) :=
      (onConnectionDown_attends other).conns
    rw [ends, List.mem_filter, listed]
    by_cases same : c = other
    · simp [same]
    · simp [Connected, same, Ne.symm same]
  | _ =>
    rw [(handle_attends _ rfl).conns, listed]
    simp [Connected]

/-- By one event after another; the members follow the connections. -/
theorem run_linked (w : World) (past : List Event) (delivered : Throughout Deliverable past) :
    (∀ c, c ∈ (run w past).base.conns ↔ Connected past c) ∧ (run w past).base.Linked := by
  induction past using List.reverseRecOn with
  | nil =>
    have nobody : ({} : Base).Linked :=
      ⟨by simp, by simp, by simp, by simp, fun moving => absurd rfl moving⟩
    have begun := start_attends w
    refine ⟨fun c => ?_, nobody.attends (by simp) begun⟩
    change c ∈ (start w).base.conns ↔ _
    simp [begun.conns, Connected]
  | append_singleton past e ih =>
    obtain ⟨before, now⟩ := Library.throughout_snoc.mp delivered
    obtain ⟨listed, linked⟩ := ih before
    have next : run w (past ++ [e]) = handle w (run w past) e := by simp [run]
    rw [next]
    refine ⟨handle_conns e before now listed, handle_linked e linked fun c client => ?_⟩
    cases e with
    | message other bytes =>
      cases client
      exact (listed c).mpr now
    | _ => cases client

/-- At every event boundary the connections are those that are up, and the watchers and the
three remembered clients are among them. -/
theorem no_dead_client (w : World) (events : List Event)
    (delivered : Throughout Deliverable events) (past future : List Event)
    (boundary : events = past ++ future) :
    (∀ c, c ∈ (run w past).base.conns ↔ Connected past c) ∧
      (∀ c ∈ (run w past).base.watchers, c ∈ (run w past).base.conns) ∧
      (∀ c, (run w past).base.speed.speedConn = some c → c ∈ (run w past).base.conns) ∧
      (∀ c, (run w past).base.ping.pingConn = some c → c ∈ (run w past).base.conns) ∧
      (∀ c, (run w past).base.ota.otaConn = some c → c ∈ (run w past).base.conns) ∧
      ((run w past).base.speed.cmdMode ≠ .none → (run w past).base.speed.speedConn ≠ none) := by
  subst boundary
  obtain ⟨listed, linked⟩ := run_linked w past (Library.throughout_first delivered)
  exact ⟨listed, linked.watchers, linked.speedConn, linked.pingConn, linked.otaConn, linked.driven⟩

/-- A client subscribes and leaves. -/
theorem no_dead_client_watching :
    (run bench [.connUp console, .message console (utf8 "watch on\n")]).base.Linked := by
  have begins : Throughout Deliverable ([] ++ [Event.connUp console]) :=
    Library.throughout_snoc.mpr ⟨Library.throughout_nil, by simp [Deliverable]⟩
  have watches : Throughout Deliverable
      ([.connUp console] ++ [.message console (utf8 "watch on\n")]) :=
    Library.throughout_snoc.mpr ⟨begins, by simp [Deliverable, Connected]⟩
  have leaves : Throughout Deliverable
      ([.connUp console, .message console (utf8 "watch on\n")] ++ [.connDown console]) :=
    Library.throughout_snoc.mpr ⟨watches, by simp [Deliverable, Connected]⟩
  obtain ⟨_, watchers, speedConn, pingConn, otaConn, driven⟩ := no_dead_client bench _ leaves
    [.connUp console, .message console (utf8 "watch on\n")] [.connDown console] rfl
  exact ⟨watchers, speedConn, pingConn, otaConn, driven⟩

end ChassisHost
end Mhost.App
