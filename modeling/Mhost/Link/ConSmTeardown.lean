import Mathlib.Data.List.Forall2
import Mhost.Library.Machine
import Mhost.Link.ConSmDeadPeer
import Mhost.Link.ConSmCallbacks
import Mhost.Tools.MockBoard

/-!
# Graceful teardown: the machine and the board's CON server

`ConSm` and the board joined by two lossless FIFO channels; the board's watchdog does not
expire. A frame is in flight to the board in `Line.toBoard`, to the host in `txBuf_`. The
board treats a PING_REQUEST as a link set up implicitly (mock_board.cc:302-305), and the
machine keeps its keepalive running while it waits for DISABLE_RESPONSE
(ConSm.cc:235-237): what decides is which of the two it sent last.
-/
namespace Mhost.Link
open Proto Tools

/-- The host's end of the channel: what is in flight, everything sent so far, and whether
the next calls of `sendFn_` find the port open. -/
structure Line where
  toBoard : List Frame := []
  sent : List ConMsgType := []
  seq : UInt8 := 0
  accepts : List Bool := []
  deriving DecidableEq, Repr

def Line.put (msgType : ConMsgType) (line : Line) : Line :=
  { line with
    toBoard := line.toBoard ++ [conFrame msgType kConSenderHost line.seq]
    sent := line.sent ++ [msgType]
    seq := line.seq + 1 }

def Line.callbacks : Callbacks Line where
  sendFn msgType line :=
    let rest := { line with accepts := line.accepts.tail }
    if line.accepts.headD true then (true, rest.put msgType) else (false, rest)
  commCb _ line := line

/-- `tornDown`: the host left `DISCONNECTING` because of a DISABLE_RESPONSE and has not
called `connect` since. -/
structure Joined where
  host : ConSm := {}
  line : Line := {}
  board : MockBoard := {}
  tornDown : Bool := false
  deriving DecidableEq, Repr

/-- One step of either side. `accepts` are the results of the sends that it makes. -/
inductive Turn where
  | connect (now : Nat) (accepts : List Bool)
  | disconnect (now : Nat) (accepts : List Bool)
  | reset
  | tick (now : Nat) (accepts : List Bool)
  | hostReceives (now : Nat) (accepts : List Bool)
  | boardReceives (now : Nat)
  deriving DecidableEq, Repr

namespace Joined
open ConSm

/-- `PT_CON` in `ChassisHost::onFrame`: the host drops its own echo. -/
def hostReads (f : Frame) : Option ConMsgType :=
  match unpackCon f with
  | some (sender, msgType) => if sender = kConSenderHost then none else ConMsgType.ofByte msgType
  | none => none

/-- A call of the host's machine. -/
def calling (c : Call) (accepts : List Bool) (s : Joined) : Joined :=
  let after := call Line.callbacks (s.host, { s.line with accepts }) c
  { s with host := after.1, line := after.2 }

/-- The oldest frame reaches the host. -/
def hostReceive (now : Nat) (accepts : List Bool) (s : Joined) : Joined :=
  match s.board.txBuf with
  | [] => s
  | f :: rest =>
      let s := { s with board := { s.board with txBuf := rest } }
      match hostReads f with
      | none => s
      | some msgType =>
          { s.calling (.onFrame msgType now) accepts with
            tornDown := s.tornDown || (s.host.state = .disconnecting && msgType = .disableResponse) }

def boardReceive (now : Nat) (s : Joined) : Joined :=
  match s.line.toBoard with
  | [] => s
  | f :: rest =>
      { s with line := { s.line with toBoard := rest }, board := s.board.handleCon f now }

def turn (s : Joined) : Turn → Joined
  | .connect now accepts => { s.calling (.connect now) accepts with tornDown := false }
  | .disconnect now accepts => s.calling (.disconnect now) accepts
  | .reset => s.calling .reset []
  | .tick now accepts => s.calling (.tick now) accepts
  | .hostReceives now accepts => s.hostReceive now accepts
  | .boardReceives now => s.boardReceive now

def machine : Library.Machine Joined Turn Empty := ⟨fun s t => .ok (s.turn t)⟩

/-! ### What is claimed, and when it holds -/

/-- A completed disconnect leaves both sides disconnected. -/
def Agreed (s : Joined) : Prop :=
  s.tornDown = true → s.line.toBoard = [] → s.board.txBuf = [] → s.board.conReady = false

/-- A DISABLE_RESPONSE that ends the teardown finds the DISABLE_REQUEST to be the last
message the host sent: no keepalive went out after it. -/
def Prompt (s : Joined) : Turn → Prop
  | .hostReceives _ _ =>
      s.host.state = .disconnecting →
        (s.board.txBuf.head?.bind hostReads) = some .disableResponse →
          s.line.sent.getLast? = some .disableRequest
  | _ => True

/-! ### The machine in `DISCONNECTED` -/

def IsAnswer (msgType : ConMsgType) : Prop :=
  msgType = .enableResponse ∨ msgType = .disableResponse ∨ msgType = .pingResponse

theorem ignored_eq {σ : Type} {cb : Callbacks σ} {now : Nat} {m : ConSm} {env : σ} {ev : Event}
    {s : ConSm × σ} (table : Processed cb now m env ev s)
    (deaf : State.ignores m.state ev = true) : s = (m, env) := by
  cases table with
  | ignored => rfl
  | requested free | requestFailed free | answerFailed free => simp [free, State.ignores] at deaf
  | answered awake => cases state : m.state <;> simp_all [State.ignores]
  | answerLost open' | releasing open' | releaseFailed open' =>
    rcases open' with state | state <;> simp [state, State.ignores] at deaf
  | released up | lost up => simp [up, State.ignores] at deaf
  | accepted waiting | refused waiting => simp [waiting, State.ignores] at deaf
  | confirmed leaving => simp [leaving, State.ignores] at deaf

/-- Closed, the machine sends nothing and stays closed, unless it is asked to connect. -/
theorem call_closed {σ : Type} (cb : Callbacks σ) {s : ConSm × σ} (shape : Shape s.1)
    (down : s.1.state = .disconnected) (c : Call) (idle : ∀ now, c ≠ .connect now)
    (answers : ∀ msgType now, c = .onFrame msgType now → IsAnswer msgType) :
    (call cb s c).1.state = .disconnected ∧ (call cb s c).2 = s.2 := by
  have ignored : ∀ ev now, State.ignores s.1.state ev = true → process cb ev now s = s :=
    fun ev now deaf => ignored_eq (process_table cb ev now s.1 s.2) deaf
  cases c with
  | connect now => exact absurd rfl (idle now)
  | disconnect now =>
    simp only [call, disconnect, down]
    exact ⟨down, rfl⟩
  | reset =>
    rw [call, reset_eq, lowered, if_neg (by simp [(shape.notReady (.inl down)).1])]
    exact ⟨rfl, rfl⟩
  | tick now =>
    rw [call, tick_closed cb now shape down]
    exact ⟨down, rfl⟩
  | onFrame msgType now =>
    rcases answers msgType now rfl with rfl | rfl | rfl
    · rw [call, onFrame, ignored .accept now (by simp [down, State.ignores])]
      exact ⟨down, rfl⟩
    · rw [call, onFrame, ignored .reject now (by simp [down, State.ignores])]
      exact ⟨down, rfl⟩
    · exact ⟨down, rfl⟩

/-! ### The machine in `DISCONNECTING` -/

/-- The last message sent is the DISABLE_REQUEST or a keepalive after it. -/
def Leaving (line : Line) : Prop :=
  line.sent.getLast? = some .disableRequest ∨ line.sent.getLast? = some .pingRequest

theorem sendFn_cases (msgType : ConMsgType) (line : Line) :
    Line.callbacks.sendFn msgType line =
        (true, Line.put msgType { line with accepts := line.accepts.tail }) ∨
      Line.callbacks.sendFn msgType line = (false, { line with accepts := line.accepts.tail }) := by
  simp only [Line.callbacks]
  split
  · exact .inl rfl
  · exact .inr rfl

theorem sent_last {msgType : ConMsgType} {line : Line}
    (sent : (Line.callbacks.sendFn msgType line).1 = true) :
    (Line.callbacks.sendFn msgType line).2.sent.getLast? = some msgType := by
  rcases sendFn_cases msgType line with taken | refused
  · simp [taken, Line.put]
  · simp [refused] at sent

theorem processed_leaving {now : Nat} {m : ConSm} {line : Line} {ev : Event} {s : ConSm × Line}
    (table : Processed Line.callbacks now m line ev s)
    (before : m.state = .disconnecting → Leaving line) (after : s.1.state = .disconnecting) :
    Leaving s.2 := by
  cases table with
  | ignored => exact before after
  | releasing _ sent => exact .inl (sent_last sent)
  | requested | answered | accepted => simp [requesting, established] at after
  | requestFailed free | answerFailed free => simp [free] at after
  | answerLost | releaseFailed | released | refused | lost | confirmed => simp at after

theorem tickRsp_leaving {now : Nat} {m : ConSm} {line : Line} {s : ConSm × Line}
    (table : TickedRsp Line.callbacks now m line s) (shape : Shape m)
    (before : m.state = .disconnecting → Leaving line) (after : s.1.state = .disconnecting) :
    Leaving s.2 := by
  cases table with
  | idle => exact before after
  | resent _ _ _ sent => exact .inl (shape.disconnecting_req after ▸ sent_last sent)
  | resendFailed _ _ _ _ closed => simp [closed.reject_state] at after
  | exhausted _ _ closed => simp [closed.reject_state] at after

theorem tickPing_leaving {now : Nat} {m : ConSm} {line : Line} {s : ConSm × Line}
    (table : TickedPing Line.callbacks now m line s)
    (before : m.state = .disconnecting → Leaving line) (after : s.1.state = .disconnecting) :
    Leaving s.2 := by
  cases table with
  | idle => exact before after
  | pinged _ _ _ sent => exact .inr (sent_last sent)
  | pingFailed _ _ _ _ closed => simp [closed.reject_state] at after
  | muted => exact before after
  | silent _ _ closed => simp [closed.reject_state] at after

theorem call_leaving {s : ConSm × Line} (shape : Shape s.1) (c : Call)
    (before : s.1.state = .disconnecting → Leaving s.2)
    (after : (call Line.callbacks s c).1.state = .disconnecting) :
    Leaving (call Line.callbacks s c).2 := by
  obtain ⟨m, line⟩ := s
  cases c with
  | connect now =>
    simp only [call, connect] at after ⊢
    split at after
    next up => simp [up] at after
    next free =>
      rw [if_neg free]
      split at after
      next waiting => simp [waiting] at after
      next free' =>
        rw [if_neg free']
        exact processed_leaving (process_table _ .enable now m line) before after
  | disconnect now =>
    simp only [call, disconnect] at after ⊢
    split at after
    next up =>
      rw [if_pos up]
      exact processed_leaving (process_table _ .disable now { m with pingRep := 0 } line) before
        after
    next other =>
      rw [if_neg other]
      split at after
      next down => simp [down] at after
      next busy =>
        rw [if_neg busy]
        exact before after
  | reset =>
    rw [call, reset_eq] at after
    simp at after
  | onFrame msgType now =>
    cases msgType with
    | enableRequest => exact processed_leaving (process_table _ _ now m line) before after
    | enableResponse => exact processed_leaving (process_table _ _ now m line) before after
    | disableRequest => exact processed_leaving (process_table _ _ now m line) before after
    | disableResponse => exact processed_leaving (process_table _ _ now m line) before after
    | pingRequest => exact before after
    | pingResponse => exact before after
  | tick now =>
    have rsp := tickRsp_table Line.callbacks now m line
    have half := tickRsp_leaving rsp shape before
    exact tickPing_leaving (tickPing_table Line.callbacks now _ _) half after

/-! ### What is in flight -/

/-- `conReady_` once every message sent so far is handled. -/
def upAfter (sent : List ConMsgType) : Bool := sent.foldl MockBoard.readyAfter false

/-- The frames added by a call carry what it sent. -/
def Extends (line next : Line) : Prop :=
  ∃ frames sent, next.toBoard = line.toBoard ++ frames ∧ next.sent = line.sent ++ sent ∧
    List.Forall₂ (MockBoard.Carries kConSenderHost) frames sent

theorem put_extends (msgType : ConMsgType) {line next : Line} (sofar : Extends line next) :
    Extends line (next.put msgType) := by
  obtain ⟨frames, sent, inflight, log, carried⟩ := sofar
  refine ⟨frames ++ [conFrame msgType kConSenderHost next.seq], sent ++ [msgType], ?_, ?_, ?_⟩
  · rw [Line.put, inflight, List.append_assoc]
  · rw [Line.put, log, List.append_assoc]
  · exact List.rel_append carried (.cons (MockBoard.carries_conFrame msgType _ _) .nil)

theorem call_extends (s : ConSm × Line) (c : Call) :
    Extends s.2 (call Line.callbacks s c).2 := by
  have keeps : Line.callbacks.Keeps fun _ next => Extends s.2 next := by
    constructor
    · intro comm msgType next sofar
      rcases sendFn_cases msgType next with taken | refused
      · rw [taken]
        exact put_extends msgType sofar
      · rw [refused]
        exact sofar
    · exact fun _ _ _ sofar => sofar
  exact call_keeps keeps c ⟨[], [], (List.append_nil _).symm, (List.append_nil _).symm, .nil⟩

/-- What holds in every state, however the two sides take turns. -/
structure Tied (s : Joined) : Prop where
  shape : Shape s.host
  carried : ∃ handled pending, s.line.sent = handled ++ pending ∧
    List.Forall₂ (MockBoard.Carries kConSenderHost) s.line.toBoard pending ∧
    s.board.conReady = upAfter handled
  answers : ∀ f ∈ s.board.txBuf, ∃ msgType, hostReads f = some msgType ∧ IsAnswer msgType
  leaving : s.host.state = .disconnecting → Leaving s.line
  down : s.tornDown = true → s.host.state = .disconnected

theorem Tied.fresh : Tied {} where
  shape := .fresh
  carried := ⟨[], [], rfl, .nil, rfl⟩
  answers := by simp
  leaving := by simp
  down := by simp

/-! ### One turn -/

/-- A call of the host keeps what holds, if a torn-down link stays down. -/
theorem calling_tied {s : Joined} (tied : Tied s) (c : Call) (accepts : List Bool)
    (closed : s.tornDown = true → (s.calling c accepts).host.state = .disconnected) :
    Tied (s.calling c accepts) := by
  obtain ⟨handled, pending, log, inflight, ready⟩ := tied.carried
  obtain ⟨frames, sent, more, longer, carried⟩ := call_extends (s.host, { s.line with accepts }) c
  constructor
  · exact call_shape Line.callbacks (s.host, _) tied.shape c
  · refine ⟨handled, pending ++ sent, ?_, ?_, ready⟩
    · rw [calling, longer, log, List.append_assoc]
    · rw [calling, more]
      exact List.rel_append inflight carried
  · exact tied.answers
  · exact call_leaving (s := (s.host, { s.line with accepts })) tied.shape c tied.leaving
  · exact closed

/-- Torn down, the host says nothing more and stays down until it connects again. -/
theorem calling_closed {s : Joined} (tied : Tied s) (down : s.host.state = .disconnected)
    (c : Call) (accepts : List Bool) (idle : ∀ now, c ≠ .connect now)
    (answers : ∀ msgType now, c = .onFrame msgType now → IsAnswer msgType) :
    (s.calling c accepts).host.state = .disconnected ∧
      (s.calling c accepts).line = { s.line with accepts } :=
  call_closed Line.callbacks (s := (s.host, { s.line with accepts })) tied.shape down c idle answers

theorem hostReads_conFrame (msgType : ConMsgType) (seq : UInt8) :
    hostReads (conFrame msgType kConSenderBoard seq) = some msgType := by
  have other : ¬ kConSenderBoard = kConSenderHost := by decide
  rw [hostReads, MockBoard.carries_conFrame]
  simp only [if_neg other, ConMsgType.ofByte_toByte]

theorem reply_answers {msgType reply : ConMsgType}
    (replied : MockBoard.reply? msgType = some reply) : IsAnswer reply := by
  cases msgType <;> simp [MockBoard.reply?] at replied <;> subst replied <;> simp [IsAnswer]

theorem boardReceive_tied {s : Joined} (tied : Tied s) (now : Nat) : Tied (s.boardReceive now) := by
  unfold boardReceive
  cases inflight : s.line.toBoard with
  | nil => exact tied
  | cons f rest =>
    obtain ⟨handled, pending, log, carried, ready⟩ := tied.carried
    rw [inflight] at carried
    cases carried with
    | cons carries later =>
      rename_i msgType pending
      refine ⟨tied.shape, ⟨handled ++ [msgType], pending, ?_, later, ?_⟩, fun g member => ?_,
        tied.leaving, tied.down⟩
      · simp [log]
      · rw [MockBoard.handleCon_ready carries, ready]
        simp [upAfter]
      · rw [MockBoard.handleCon_txBuf carries] at member
        rcases List.mem_append.mp member with old | new
        · exact tied.answers g old
        · obtain ⟨reply, replied, rfl⟩ := List.mem_map.mp new
          exact ⟨reply, hostReads_conFrame reply _, reply_answers (Option.mem_toList.mp replied)⟩

/-- The frame taken off the channel, the host handles a message that is an answer. -/
theorem hostReceive_eq {s : Joined} (tied : Tied s) (now : Nat) (accepts : List Bool) :
    s.hostReceive now accepts = s ∧ s.board.txBuf = [] ∨
      ∃ msgType rest, IsAnswer msgType ∧
        (s.board.txBuf.head?.bind hostReads) = some msgType ∧ s.board.txBuf.tail = rest ∧
        Tied { s with board := { s.board with txBuf := rest } } ∧
        s.hostReceive now accepts =
          { Joined.calling (.onFrame msgType now) accepts
              { s with board := { s.board with txBuf := rest } } with
            tornDown := s.tornDown ||
              (s.host.state = .disconnecting && msgType = .disableResponse) } := by
  unfold hostReceive
  cases inflight : s.board.txBuf with
  | nil => exact .inl ⟨rfl, rfl⟩
  | cons f rest =>
    have answers := tied.answers
    rw [inflight] at answers
    obtain ⟨msgType, read, answer⟩ := answers f (by simp)
    refine .inr ⟨msgType, rest, answer, by simpa using read, rfl, ?_, by simp only [read]⟩
    exact { tied with answers := fun g member => answers g (by simp [member]) }

theorem hostReceive_tied {s : Joined} (tied : Tied s) (now : Nat) (accepts : List Bool) :
    Tied (s.hostReceive now accepts) := by
  rcases hostReceive_eq tied now accepts with ⟨same, _⟩ | ⟨msgType, rest, answer, _, _, taken, eq⟩
  · rw [same]
    exact tied
  · have shut : s.tornDown = true → (Joined.calling (.onFrame msgType now) accepts
        { s with board := { s.board with txBuf := rest } }).host.state = .disconnected :=
      fun torn => (calling_closed taken (tied.down torn) _ accepts (by simp)
        (fun _ _ same => by cases same; exact answer)).1
    have kept := calling_tied taken (.onFrame msgType now) accepts shut
    rw [eq]
    refine { kept with down := fun torn => ?_ }
    simp only [Bool.or_eq_true, Bool.and_eq_true, decide_eq_true_eq] at torn
    rcases torn with before | ⟨_, rfl⟩
    · exact shut before
    · exact (process_table Line.callbacks .reject now s.host { s.line with accepts }).reject_state

theorem turn_tied {s : Joined} (tied : Tied s) (t : Turn) : Tied (s.turn t) := by
  have quiet : ∀ c accepts, (∀ now, c ≠ .connect now) → (∀ msgType now, c ≠ .onFrame msgType now) →
      Tied (s.calling c accepts) := fun c accepts idle other =>
    calling_tied tied c accepts fun torn =>
      (calling_closed tied (tied.down torn) c accepts idle
        (fun msgType now same => absurd same (other msgType now))).1
  cases t with
  | connect now accepts =>
    have open' : Tied { s with tornDown := false } := { tied with down := by simp }
    exact calling_tied open' (.connect now) accepts (by simp)
  | disconnect now accepts => exact quiet _ accepts (by simp) (by simp)
  | reset => exact quiet _ [] (by simp) (by simp)
  | tick now accepts => exact quiet _ accepts (by simp) (by simp)
  | hostReceives now accepts => exact hostReceive_tied tied now accepts
  | boardReceives now => exact boardReceive_tied tied now

/-! ### A teardown that was prompt stays agreed -/

/-- Torn down, what was sent last leaves the board down. -/
structure Settled (s : Joined) : Prop extends Tied s where
  last : s.tornDown = true → upAfter s.line.sent = false

theorem upAfter_snoc (sent : List ConMsgType) (msgType : ConMsgType) :
    upAfter (sent ++ [msgType]) = MockBoard.readyAfter (upAfter sent) msgType := by
  simp [upAfter]

/-- Torn down and not about to connect, the host sends nothing. -/
theorem turn_silent {s : Joined} (tied : Tied s) (torn : s.tornDown = true) (t : Turn)
    (idle : ∀ now accepts, t ≠ .connect now accepts) :
    (s.turn t).line.sent = s.line.sent ∧ (s.turn t).tornDown = true := by
  have quiet : ∀ c accepts, (∀ now, c ≠ .connect now) → (∀ msgType now, c ≠ .onFrame msgType now) →
      (s.calling c accepts).line.sent = s.line.sent ∧ (s.calling c accepts).tornDown = true :=
    fun c accepts idle other =>
      ⟨by rw [(calling_closed tied (tied.down torn) c accepts idle
        (fun msgType now same => absurd same (other msgType now))).2], torn⟩
  cases t with
  | connect now accepts => exact absurd rfl (idle now accepts)
  | disconnect now accepts => exact quiet _ accepts (by simp) (by simp)
  | reset => exact quiet _ [] (by simp) (by simp)
  | tick now accepts => exact quiet _ accepts (by simp) (by simp)
  | boardReceives now =>
    simp only [turn, boardReceive]
    split
    · exact ⟨rfl, torn⟩
    · exact ⟨rfl, torn⟩
  | hostReceives now accepts =>
    rw [turn]
    rcases hostReceive_eq tied now accepts with ⟨same, _⟩ | ⟨msgType, rest, answer, _, _, taken, eq⟩
    · rw [same]
      exact ⟨rfl, torn⟩
    · have silent := (calling_closed taken (tied.down torn) (.onFrame msgType now) accepts (by simp)
        (fun _ _ same => by cases same; exact answer)).2
      have same := congrArg Line.sent silent
      rw [eq]
      exact ⟨same, by simp [torn]⟩

/-- A DISABLE_RESPONSE is answered with nothing. -/
theorem reject_sends_nothing {now : Nat} {m : ConSm} {line : Line} {s : ConSm × Line}
    (table : Processed Line.callbacks now m line .reject s) : s.2 = line := by
  have kept : lowered Line.callbacks m line = line := by
    unfold lowered
    split <;> rfl
  cases table with
  | ignored | refused => rfl
  | lost | confirmed => exact kept

theorem turn_settled {s : Joined} (settled : Settled s) (t : Turn) (prompt : Prompt s t) :
    Settled (s.turn t) := by
  have tied := settled.toTied
  refine { turn_tied tied t with last := fun torn' => ?_ }
  by_cases torn : s.tornDown = true
  · by_cases connects : ∃ now accepts, t = .connect now accepts
    · obtain ⟨now, accepts, rfl⟩ := connects
      simp [turn] at torn'
    · have silent := turn_silent tied torn t fun now accepts same => connects ⟨now, accepts, same⟩
      rw [silent.1]
      exact settled.last torn
  · cases t with
    | connect now accepts => simp [turn] at torn'
    | disconnect | reset | tick => exact absurd torn' torn
    | boardReceives now =>
      simp only [turn, boardReceive] at torn'
      split at torn' <;> exact absurd torn' torn
    | hostReceives now accepts =>
      rw [turn] at torn' ⊢
      rcases hostReceive_eq tied now accepts with
        ⟨same, _⟩ | ⟨msgType, rest, _, read, _, _, eq⟩
      · exact absurd (same ▸ torn') torn
      · rw [eq] at torn' ⊢
        simp only [torn, Bool.false_or, Bool.and_eq_true, decide_eq_true_eq] at torn'
        obtain ⟨leaving, rfl⟩ := torn'
        obtain ⟨before, sent⟩ := List.getLast?_eq_some_iff.mp (prompt leaving read)
        have silent := reject_sends_nothing
          (process_table Line.callbacks .reject now s.host { s.line with accepts })
        have unsent := congrArg Line.sent silent
        have same : (Joined.calling (.onFrame .disableResponse now) accepts
            { s with board := { s.board with txBuf := rest } }).line.sent = s.line.sent := unsent
        simp only [same, sent, upAfter_snoc, MockBoard.readyAfter]

/-! ### Deliveries alone -/

def Turn.delivers : Turn → Prop
  | .hostReceives _ _ | .boardReceives _ => True
  | _ => False

/-- A torn-down link agrees, whatever is delivered from here on. -/
def Resolved (s : Joined) : Prop :=
  s.tornDown = true → ∀ deliveries : List Turn, (∀ t ∈ deliveries, Turn.delivers t) →
    Agreed (deliveries.foldl turn s)

theorem Settled.agreed {s : Joined} (settled : Settled s) : Agreed s := by
  intro torn empty _
  obtain ⟨handled, pending, log, inflight, ready⟩ := settled.carried
  rw [empty, List.forall₂_nil_left_iff] at inflight
  have last := settled.last torn
  rw [log, inflight, List.append_nil] at last
  rw [ready, last]

theorem Settled.resolved {s : Joined} (settled : Settled s) : Resolved s := by
  intro torn deliveries only
  induction deliveries generalizing s with
  | nil => exact settled.agreed
  | cons t rest ih =>
    have first := only t (by simp)
    have down := settled.down torn
    have prompt : Prompt s t := by
      cases t with
      | hostReceives => exact fun leaving => by simp [down] at leaving
      | _ => trivial
    have torn' := (turn_silent settled.toTied torn t (fun now accepts same => by
      subst same
      exact first)).2
    exact ih (turn_settled settled t prompt) torn' fun t' member => only t' (by simp [member])

theorem board_drains (pending : List Frame) {s : Joined} (tied : Tied s)
    (torn : s.tornDown = true) (inflight : s.line.toBoard = pending) :
    ∃ deliveries : List Turn, (∀ t ∈ deliveries, Turn.delivers t) ∧
      Tied (deliveries.foldl turn s) ∧ (deliveries.foldl turn s).tornDown = true ∧
      (deliveries.foldl turn s).line.toBoard = [] ∧
      (deliveries.foldl turn s).line.sent = s.line.sent := by
  induction pending generalizing s with
  | nil => exact ⟨[], by simp, tied, torn, inflight, rfl⟩
  | cons f rest ih =>
    have silent := turn_silent tied torn (.boardReceives 0) (by simp)
    have next : (s.turn (.boardReceives 0)).line.toBoard = rest := by
      simp only [turn, boardReceive, inflight]
    obtain ⟨more, only, tied', torn', empty, sent⟩ :=
      ih (turn_tied tied (.boardReceives 0)) silent.2 next
    refine ⟨.boardReceives 0 :: more, fun t member => ?_, tied', torn', empty, sent.trans silent.1⟩
    rcases List.mem_cons.mp member with rfl | later
    · trivial
    · exact only t later

/-- What a torn-down host does with an answer. -/
theorem hostReceive_silent {s : Joined} (tied : Tied s) (torn : s.tornDown = true) (now : Nat) :
    (s.hostReceive now []).line.toBoard = s.line.toBoard ∧
      (s.hostReceive now []).board.txBuf = s.board.txBuf.tail ∧
      (s.hostReceive now []).board.conReady = s.board.conReady := by
  rcases hostReceive_eq tied now [] with ⟨same, empty⟩ | ⟨msgType, rest, answer, _, tail, taken, eq⟩
  · rw [same, empty]
    exact ⟨rfl, rfl, rfl⟩
  · have silent := (calling_closed taken (tied.down torn) (.onFrame msgType now) [] (by simp)
      (fun _ _ same => by cases same; exact answer)).2
    have same := congrArg Line.toBoard silent
    rw [eq, tail]
    exact ⟨same, rfl, rfl⟩

theorem host_drains (pending : List Frame) {s : Joined} (tied : Tied s)
    (torn : s.tornDown = true) (inflight : s.board.txBuf = pending) :
    ∃ deliveries : List Turn, (∀ t ∈ deliveries, Turn.delivers t) ∧
      (deliveries.foldl turn s).tornDown = true ∧
      (deliveries.foldl turn s).line.toBoard = s.line.toBoard ∧
      (deliveries.foldl turn s).board.txBuf = [] ∧
      (deliveries.foldl turn s).board.conReady = s.board.conReady := by
  induction pending generalizing s with
  | nil => exact ⟨[], by simp, torn, rfl, inflight, rfl⟩
  | cons f rest ih =>
    have silent := turn_silent tied torn (.hostReceives 0 []) (by simp)
    obtain ⟨line, tail, ready⟩ := hostReceive_silent tied torn 0
    have next : (s.turn (.hostReceives 0 [])).board.txBuf = rest := by
      rw [turn, tail, inflight]
      rfl
    obtain ⟨more, only, torn', line', empty, ready'⟩ :=
      ih (turn_tied tied (.hostReceives 0 [])) silent.2 next
    refine ⟨.hostReceives 0 [] :: more, fun t member => ?_, torn', line'.trans line, empty,
      ready'.trans ready⟩
    rcases List.mem_cons.mp member with rfl | later
    · trivial
    · exact only t later

/-- Everything in flight can arrive: the frames for the board, then its answers. -/
theorem settles {s : Joined} (tied : Tied s) (torn : s.tornDown = true) :
    ∃ deliveries : List Turn, (∀ t ∈ deliveries, Turn.delivers t) ∧
      (deliveries.foldl turn s).tornDown = true ∧
      (deliveries.foldl turn s).line.toBoard = [] ∧ (deliveries.foldl turn s).board.txBuf = [] ∧
      (deliveries.foldl turn s).board.conReady = upAfter s.line.sent := by
  obtain ⟨first, only, tied', torn', none', sent⟩ := board_drains _ tied torn rfl
  obtain ⟨second, only', torn'', line, empty, ready⟩ := host_drains _ tied' torn' rfl
  obtain ⟨handled, pending, log, inflight, up⟩ := tied'.carried
  rw [none', List.forall₂_nil_left_iff] at inflight
  have all : handled = s.line.sent := by
    rw [← sent, log, inflight, List.append_nil]
  refine ⟨first ++ second, fun t member => ?_, ?_⟩
  · rcases List.mem_append.mp member with now | later
    · exact only t now
    · exact only' t later
  · rw [List.foldl_append]
    exact ⟨torn'', line.trans none', empty, by rw [ready, up, all]⟩

/-- A keepalive behind the DISABLE_REQUEST sets the link up again. -/
theorem not_resolved {s : Joined} (tied : Tied s) (t : Turn) (late : ¬ Prompt s t) :
    ¬ Resolved (s.turn t) := by
  cases t with
  | connect | disconnect | reset | tick | boardReceives => exact absurd trivial late
  | hostReceives now accepts =>
    simp only [Prompt, Classical.not_imp] at late
    obtain ⟨leaving, read, last⟩ := late
    have ping : s.line.sent.getLast? = some .pingRequest := (tied.leaving leaving).resolve_left last
    have torn : (s.turn (.hostReceives now accepts)).tornDown = true ∧
        (s.turn (.hostReceives now accepts)).line.sent = s.line.sent := by
      rw [turn]
      rcases hostReceive_eq tied now accepts with
        ⟨_, empty⟩ | ⟨msgType, rest, _, read', _, _, eq⟩
      · simp [empty] at read
      · obtain rfl : msgType = .disableResponse := Option.some.inj (read'.symm.trans read)
        have silent := reject_sends_nothing
          (process_table Line.callbacks .reject now s.host { s.line with accepts })
        have unsent := congrArg Line.sent silent
        rw [eq]
        exact ⟨by simp [leaving], unsent⟩
    obtain ⟨deliveries, only, torn', none', empty, ready⟩ :=
      settles (turn_tied tied (.hostReceives now accepts)) torn.1
    obtain ⟨before, sent⟩ := List.getLast?_eq_some_iff.mp ping
    have up : upAfter s.line.sent = true := by
      simp [sent, upAfter_snoc, MockBoard.readyAfter]
    intro resolved
    have down := resolved torn.1 deliveries only torn' none' empty
    rw [ready, torn.2, up] at down
    cases down

/-! ### Whole runs -/

/-- A run in which every teardown is prompt leaves both sides disconnected whenever the
host is torn down and nothing is in flight. Promptness is exact: a run has it if and only
if every torn-down state on it comes to agree by deliveries alone. -/
theorem graceful_teardown_iff (turns : List Turn) :
    (machine.Allowed Prompt {} turns → machine.Always Agreed {} turns) ∧
      (machine.Always Resolved {} turns ↔ machine.Allowed Prompt {} turns) := by
  have fresh : Settled {} := { Tied.fresh with last := by simp }
  have preserved : ∀ s t, Settled s → Prompt s t → ∃ next, machine.step s t = .ok next ∧ Settled next :=
    fun s t settled prompt => ⟨s.turn t, rfl, turn_settled settled t prompt⟩
  have broken : ∀ s t next, Settled s → ¬ Prompt s t → machine.step s t = .ok next →
      ¬ Resolved next := by
    intro s t next settled late taken
    cases taken
    exact not_resolved settled.toTied t late
  exact ⟨Library.Machine.always_of_allowed (fun _ => Settled.agreed) preserved fresh turns,
    Library.Machine.always_iff_allowed (fun _ => Settled.resolved) preserved broken fresh turns⟩

/-- The keepalive falls due 10 ms after `disconnect`, before the board has answered. -/
def lateKeepalive : List Turn :=
  [.connect 1000 [], .boardReceives 1005, .hostReceives 1010 [], .disconnect 2005 [],
    .tick 2015 [], .boardReceives 2020, .boardReceives 2025, .hostReceives 2030 [],
    .hostReceives 2035 []]

/-- Both sides are idle and nothing is in flight, but the board is up. -/
theorem late_keepalive_resurrects : ¬ machine.Always Agreed {} lateKeepalive := by
  intro always
  obtain ⟨final, ran, agreed⟩ := always.ends
  obtain rfl : lateKeepalive.foldl turn {} = final := Except.ok.inj ran
  have quiet : (lateKeepalive.foldl turn {}).tornDown = true ∧
      (lateKeepalive.foldl turn {}).line.toBoard = [] ∧
      (lateKeepalive.foldl turn {}).board.txBuf = [] ∧
      (lateKeepalive.foldl turn {}).board.conReady = true := by
    decide +kernel
  have down := agreed quiet.1 quiet.2.1 quiet.2.2.1
  rw [quiet.2.2.2] at down
  cases down

end Joined
end Mhost.Link
