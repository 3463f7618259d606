import Mathlib.Data.List.Induction
import Mathlib.Data.List.ReduceOption
import Mhost.App.RelabelHost
import Mhost.Library.Resumable

/-!
# The lines of a client

What `onMessage` hands to `handleLine` (ChassisHost.cc:169-189), against the lines of the
stream as the client sent it. The two branches for an overflow do not treat the same bytes
alike: a half line that is too long is dropped where a piece ends, and what then follows it
up to the LF is taken for a line of its own.
-/
namespace Mhost.App.ChassisHost
open Library (Text utf8 Consumer)
open Proto Link Serial Ota

/-! ### The lines a stream has -/

/-- The lines that an LF ends, without the LF. -/
def terminatedLines (stream : Text) : List Text := (stream.splitOn 10).dropLast

/-- Those that are not too long. -/
def acceptableLines (stream : Text) : List Text :=
  (terminatedLines stream).filter (·.length ≤ kMaxLineLen)

theorem terminatedLines_line {line : Text} (whole : 10 ∉ line) (rest : Text) :
    terminatedLines (line ++ 10 :: rest) = line :: terminatedLines rest := by
  unfold terminatedLines
  rw [List.splitOn_append_cons_self_of_not_mem whole]
  exact List.dropLast_cons_of_ne_nil (List.splitOn_ne_nil 10 rest)

theorem acceptableLines_open {line : Text} (whole : 10 ∉ line) : acceptableLines line = [] := by
  simp [acceptableLines, terminatedLines, List.splitOn_eq_singleton whole]

theorem acceptableLines_line {line : Text} (whole : 10 ∉ line) (rest : Text) :
    acceptableLines (line ++ 10 :: rest) =
      (if line.length ≤ kMaxLineLen then [line] else []) ++ acceptableLines rest := by
  unfold acceptableLines
  rw [terminatedLines_line whole, List.filter_cons]
  by_cases short : line.length ≤ kMaxLineLen <;> simp [short]

/-! ### The bytes of a stream and where its pieces end -/

/-- `none` is the end of a piece. -/
def marked (pieces : List Text) : List (Option UInt8) :=
  pieces.flatMap fun piece => piece.map some ++ [none]

theorem marked_bytes (pieces : List Text) : (marked pieces).reduceOption = pieces.flatten := by
  induction pieces with
  | nil => rfl
  | cons piece rest ih =>
    have first : (piece.map some).reduceOption = piece := by simp [List.reduceOption]
    unfold marked at ih ⊢
    rw [List.flatMap_cons, List.reduceOption_append, List.reduceOption_append, first, ih]
    simp [List.reduceOption]

/-- `seen` bytes of the current line have come, `kept` of them since the last piece that
ended with more than `kMaxLineLen` of it: no line that is too long ends with a short rest. -/
def Unfragmented (seen kept : Nat) : List (Option UInt8) → Prop
  | [] => True
  | none :: rest => Unfragmented seen (if kept > kMaxLineLen then 0 else kept) rest
  | some c :: rest =>
      if c = 10 then (seen ≤ kMaxLineLen ∨ kept > kMaxLineLen) ∧ Unfragmented 0 0 rest
      else Unfragmented (seen + 1) (kept + 1) rest

/-! ### `onMessage`, one byte after another -/

/-- One message: the lines it completes and what stays in the buffer. -/
def lineConsumer : Consumer Text UInt8 Text where
  feed buf piece :=
    let (lines, left) := takeLines (buf ++ piece).length (buf ++ piece)
    (left, lines)

def scan (buf : Text) : List (Option UInt8) → Text × List Text
  | [] => (buf, [])
  | none :: rest => scan (if buf.length > kMaxLineLen then [] else buf) rest
  | some c :: rest =>
      if c = 10 then
        ((scan [] rest).1, (if buf.length ≤ kMaxLineLen then [buf] else []) ++ (scan [] rest).2)
      else scan (buf ++ [c]) rest

theorem scan_append (buf : Text) (marks rest : List (Option UInt8)) :
    scan buf (marks ++ rest) =
      ((scan (scan buf marks).1 rest).1, (scan buf marks).2 ++ (scan (scan buf marks).1 rest).2) := by
  induction marks generalizing buf with
  | nil => rfl
  | cons mark more ih =>
    cases mark with
    | none => exact ih _
    | some c =>
      by_cases lf : c = 10
      · simp only [List.cons_append, scan, if_pos lf, ih, List.append_assoc]
      · simp only [List.cons_append, scan, if_neg lf, ih]

/-- No line is left in the buffer. -/
theorem scan_open {buf : Text} (whole : 10 ∉ buf) (marks : List (Option UInt8)) :
    10 ∉ (scan buf marks).1 := by
  induction marks generalizing buf with
  | nil => exact whole
  | cons mark rest ih =>
    cases mark with
    | none =>
      apply ih
      split
      · simp
      · exact whole
    | some c =>
      by_cases lf : c = 10
      · simp only [scan, if_pos lf]
        exact ih (by simp)
      · simp only [scan, if_neg lf]
        exact ih (by simp [whole, Ne.symm lf])

theorem findIdx_open {buf : Text} (whole : 10 ∉ buf) : buf.findIdx? (· = 10) = none := by
  simp only [List.findIdx?_eq_none_iff, decide_eq_false_iff_not]
  rintro _ member rfl
  exact whole member

theorem takeLines_open {buf : Text} (whole : 10 ∉ buf) (fuel : Nat) (enough : buf.length ≤ fuel) :
    takeLines fuel buf = ([], if buf.length > kMaxLineLen then [] else buf) := by
  cases fuel with
  | zero =>
    have empty : buf = [] := List.eq_nil_of_length_eq_zero (by omega)
    simp [takeLines, empty]
  | succ fuel =>
    rw [takeLines, findIdx_open whole]
    split
    next empty => simp [List.isEmpty_iff.mp empty]
    · rfl

theorem takeLines_line {line : Text} (whole : 10 ∉ line) (rest : Text) (fuel : Nat) :
    takeLines (fuel + 1) (line ++ 10 :: rest) =
      ((if line.length ≤ kMaxLineLen then [line] else []) ++ (takeLines fuel rest).1,
        (takeLines fuel rest).2) := by
  have first : (line ++ 10 :: rest).findIdx? (· = 10) = some line.length := by
    rw [List.findIdx?_append, findIdx_open whole]
    simp [List.findIdx?_cons]
  rw [takeLines, if_neg (by simp), first]
  by_cases short : line.length ≤ kMaxLineLen <;> simp [short]

/-- `takeLines` is the byte by byte reading of a buffer and its new piece. -/
theorem takeLines_scan {buf : Text} (whole : 10 ∉ buf) (piece : Text) (fuel : Nat)
    (enough : (buf ++ piece).length ≤ fuel) :
    takeLines fuel (buf ++ piece) =
      ((scan buf (piece.map some ++ [none])).2, (scan buf (piece.map some ++ [none])).1) := by
  induction piece generalizing buf fuel with
  | nil =>
    rw [List.append_nil] at enough ⊢
    rw [takeLines_open whole fuel enough]
    rfl
  | cons c rest ih =>
    by_cases lf : c = 10
    · subst lf
      obtain ⟨more, rfl⟩ : ∃ more, fuel = more + 1 := ⟨fuel - 1, by simp at enough; omega⟩
      have short : (([] : Text) ++ rest).length ≤ more := by simp at enough ⊢; omega
      rw [takeLines_line whole, ← List.nil_append rest, ih (by simp) more short]
      simp [scan]
    · have whole' : 10 ∉ buf ++ [c] := by simp [whole, Ne.symm lf]
      rw [List.append_cons] at enough ⊢
      rw [ih whole' fuel enough]
      simp [scan, lf]

theorem feed_scan {buf : Text} (whole : 10 ∉ buf) (piece : Text) :
    lineConsumer.feed buf piece = scan buf (piece.map some ++ [none]) := by
  unfold lineConsumer
  simp only [takeLines_scan whole piece _ (Nat.le_refl _)]

theorem feedAll_scan {buf : Text} (whole : 10 ∉ buf) (pieces : List Text) :
    lineConsumer.feedAll buf pieces = scan buf (marked pieces) := by
  induction pieces generalizing buf with
  | nil => rfl
  | cons piece rest ih =>
    rw [Consumer.feedAll_cons, feed_scan whole, ih (scan_open whole _)]
    exact (scan_append buf _ _).symm

/-! ### Fragments -/

/-- However the stream is cut, at least as many lines come out as should. -/
theorem scan_enough {line buf : Text} (whole : 10 ∉ line)
    (agrees : buf = line ∨ kMaxLineLen < line.length) (marks : List (Option UInt8)) :
    (acceptableLines (line ++ marks.reduceOption)).length ≤ (scan buf marks).2.length := by
  induction marks generalizing line buf with
  | nil => simp [List.reduceOption, acceptableLines_open whole]
  | cons mark rest ih =>
    cases mark with
    | none =>
      apply ih whole
      split
      next long => exact .inr (agrees.elim (fun same => same ▸ long) id)
      next => exact agrees
    | some c =>
      rw [List.reduceOption_cons_of_some]
      by_cases lf : c = 10
      · subst lf
        have later : (acceptableLines rest.reduceOption).length ≤ (scan [] rest).2.length :=
          @ih [] [] (by simp) (.inl rfl)
        rw [acceptableLines_line whole, scan, if_pos rfl, List.length_append, List.length_append]
        rcases agrees with rfl | long
        · omega
        · rw [if_neg (by omega)]
          exact Nat.le_trans (by simpa using later) (Nat.le_add_left _ _)
      · rw [List.append_cons, scan, if_neg lf]
        apply ih (by simp [whole, Ne.symm lf])
        rcases agrees with rfl | long
        · exact .inl rfl
        · exact .inr (by simp; omega)

/-- The lines of the stream come out when no fragment of a long one does, and only then. -/
theorem scan_iff {line buf : Text} (whole : 10 ∉ line)
    (agrees : buf = line ∨ kMaxLineLen < line.length) (marks : List (Option UInt8)) :
    (scan buf marks).2 = acceptableLines (line ++ marks.reduceOption) ↔
      Unfragmented line.length buf.length marks := by
  induction marks generalizing line buf with
  | nil => simp [List.reduceOption, acceptableLines_open whole, scan, Unfragmented]
  | cons mark rest ih =>
    cases mark with
    | none =>
      rw [List.reduceOption_cons_of_none, scan, Unfragmented]
      split
      next long => exact ih whole (.inr (agrees.elim (fun same => same ▸ long) id))
      next => exact ih whole agrees
    | some c =>
      rw [List.reduceOption_cons_of_some]
      by_cases lf : c = 10
      · subst lf
        have later : (scan [] rest).2 = acceptableLines rest.reduceOption ↔ Unfragmented 0 0 rest :=
          @ih [] [] (by simp) (.inl rfl)
        have enough : (acceptableLines rest.reduceOption).length ≤ (scan [] rest).2.length :=
          @scan_enough [] [] (by simp) (.inl rfl) rest
        rw [acceptableLines_line whole, scan, if_pos rfl, Unfragmented, if_pos rfl, ← later]
        by_cases short : line.length ≤ kMaxLineLen
        · -- a line that is not too long has been kept whole
          have same : buf = line := agrees.resolve_right (by omega)
          simp [same, short]
        · by_cases rest' : buf.length ≤ kMaxLineLen
          · -- the fragment that comes out is one line too many
            have fragment : ¬ (line.length ≤ kMaxLineLen ∨ buf.length > kMaxLineLen) := by omega
            rw [if_neg short, if_pos rest']
            refine iff_of_false (fun equal => ?_) fun sound => fragment sound.1
            have lengths := congrArg List.length equal
            simp at lengths
            omega
          · have gone : buf.length > kMaxLineLen := by omega
            simp [short, rest', gone]
      · rw [List.append_cons, scan, if_neg lf, Unfragmented, if_neg lf]
        have grown := @ih (line ++ [c]) (buf ++ [c]) (by simp [whole, Ne.symm lf])
          (agrees.elim (fun same => .inl (by rw [same])) fun long => .inr (by simp; omega))
        simpa using grown

/-! ### What a connection sent and what was handled of it -/

/-- The pieces in which `c` sent its stream, since it came up. -/
def piecesOf (c : Conn) (events : List Event) : List Text :=
  events.foldl (fun pieces e =>
    match e with
    | .connDown c' => if c' = c then [] else pieces
    | .message c' bytes => if c' = c then pieces ++ [bytes] else pieces
    | _ => pieces) []

/-- The lines of `c` that `handleLine` was given, since it came up. -/
def linesAfter (c : Conn) (lines : List Text) (taken : List Act) : List Text :=
  taken.foldl (fun lines a =>
    match a with
    | .down c' => if c' = c then [] else lines
    | .line c' text => if c' = c then lines ++ [text] else lines
    | _ => lines) lines

def linesOf (c : Conn) (taken : List Act) : List Text := linesAfter c [] taken

/-- The acts that bear on the lines of `c`. -/
def Act.concerns (c : Conn) : Act → Bool
  | .down c' => c' = c
  | .buffered c' _ => c' = c
  | .line c' _ => c' = c
  | _ => false

section
variable {w : World} {h : ChassisHost} {c : Conn}

theorem inputOf_same {b b' : Base} (same : b'.inputs = b.inputs) : inputOf c b' = inputOf c b := by
  unfold inputOf
  rw [same]

theorem find_other {c' : Conn} (other : c' ≠ c) (inputs : List (Conn × Text)) :
    (inputs.filter (·.1 ≠ c')).find? (·.1 = c) = inputs.find? (·.1 = c) := by
  rw [List.find?_filter]
  congr 1
  funext pair
  by_cases mine : pair.1 = c
  · simp [mine, Ne.symm other]
  · simp [mine]

theorem inputOf_act {a : Act} (foreign : a.concerns c = false) :
    inputOf c (act w h a).base = inputOf c h.base := by
  have after := act_inputs w h a
  unfold inputOf
  rw [after]
  cases a with
  | down c' =>
    have other : c' ≠ c := by simpa [Act.concerns] using foreign
    rw [Act.buffers, find_other other]
  | buffered c' left =>
    have other : c' ≠ c := by simpa [Act.concerns] using foreign
    rw [Act.buffers, List.find?_cons_of_neg (by simpa using other), find_other other]
  | _ => rfl

/-- Acts that do not bear on `c` change neither its lines nor its buffer. -/
theorem foreign_keep {taken : List Act} (foreign : ∀ a ∈ taken, a.concerns c = false)
    (h : ChassisHost) (lines : List Text) :
    linesAfter c lines taken = lines ∧ inputOf c (acts w h taken).base = inputOf c h.base := by
  induction taken generalizing h with
  | nil => exact ⟨rfl, rfl⟩
  | cons a rest ih =>
    obtain ⟨same, kept⟩ := ih (fun a member => foreign a (by simp [member])) (act w h a)
    have here := foreign a (by simp)
    refine ⟨?_, kept.trans (inputOf_act here)⟩
    cases a with
    | down c' | line c' =>
      have other : c' ≠ c := by simpa [Act.concerns] using here
      simpa [linesAfter, other] using same
    | _ => exact same

theorem foreign_ofPort {a : Act} (port : a.ofPort = true) : a.concerns c = false := by
  cases a with
  | parsed | frame | closed => rfl
  | _ => cases port

theorem linesAfter_lines (lines more : List Text) :
    linesAfter c lines (more.map (.line c)) = lines ++ more := by
  induction more generalizing lines with
  | nil => simp [linesAfter]
  | cons line rest ih =>
    have later := ih (lines ++ [line])
    simpa [linesAfter] using later

theorem lines_inputs (lines : List Text) (h : ChassisHost) :
    (acts w h (lines.map (.line c))).base.inputs = h.base.inputs := by
  induction lines generalizing h with
  | nil => rfl
  | cons line rest ih => exact (ih _).trans (act_inputs w h (.line c line))

/-- The lines of a message are handled, and its rest stays in the buffer. -/
theorem messageActs_lines (w : World) (h : ChassisHost) (c : Conn) (bytes : Text)
    (lines : List Text) :
    linesAfter c lines (messageActs c bytes h) =
        lines ++ (lineConsumer.feed (inputOf c h.base) bytes).2 ∧
      inputOf c (acts w h (messageActs c bytes h)).base =
        (lineConsumer.feed (inputOf c h.base) bytes).1 := by
  have buffered := lines_inputs (w := w) (c := c) (lineConsumer.feed (inputOf c h.base) bytes).2
    (act w h (.buffered c (lineConsumer.feed (inputOf c h.base) bytes).1))
  constructor
  · exact linesAfter_lines lines (lineConsumer.feed (inputOf c h.base) bytes).2
  · refine (inputOf_same buffered).trans ?_
    simp [inputOf, act, onBase]

theorem handle_foreign {e : Event} (foreign : ∀ a ∈ actsOf w h e, a.concerns c = false)
    (lines : List Text) :
    linesAfter c lines (actsOf w h e) = lines ∧ inputOf c (handle w h e).base = inputOf c h.base := by
  rw [handle_acts]
  exact foreign_keep foreign h lines

/-- The pieces after one more event. -/
theorem piecesOf_snoc (events : List Event) (e : Event) :
    piecesOf c (events ++ [e]) =
      match e with
      | .connDown c' => if c' = c then [] else piecesOf c events
      | .message c' bytes =>
          if c' = c then piecesOf c events ++ [bytes] else piecesOf c events
      | _ => piecesOf c events := by
  simp [piecesOf]

theorem start_inputs (w : World) : (start w).base.inputs = [] := by
  have same := SerialPort.openDevice_seen (serialEnv_views [] [] w) {} {} w.opts.serialBaud
  exact congrArg (fun answer : Bool × Core => answer.2.2.inputs) same

/-- What the host does with the stream of `c` is what `onMessage` does with its pieces one
after another, whatever else goes on in between. -/
theorem run_lines (w : World) (c : Conn) (events : List Event) :
    lineConsumer.feedAll [] (piecesOf c events) =
      (inputOf c (run w events).base, linesOf c (actsIn w (start w) events)) := by
  induction events using List.reverseRecOn with
  | nil =>
    have fresh : inputOf c (start w).base = [] := by simp [inputOf, start_inputs]
    exact congrArg (·, []) fresh.symm
  | append_singleton events e ih =>
    have later : run w (events ++ [e]) = handle w (run w events) e := by simp [run]
    have taken : linesOf c (actsIn w (start w) (events ++ [e])) =
        linesAfter c (linesOf c (actsIn w (start w) events)) (actsOf w (run w events) e) := by
      simp [linesOf, linesAfter, actsIn_append, actsIn, run]
    rw [later, taken, piecesOf_snoc]
    have quiet (foreign : ∀ a ∈ actsOf w (run w events) e, a.concerns c = false) :
        lineConsumer.feedAll [] (piecesOf c events) =
          (inputOf c (handle w (run w events) e).base,
            linesAfter c (linesOf c (actsIn w (start w) events)) (actsOf w (run w events) e)) := by
      obtain ⟨lines, input⟩ := handle_foreign foreign (linesOf c (actsIn w (start w) events))
      rw [lines, input, ih]
    cases e with
    | connDown c' =>
      by_cases mine : c' = c
      · subst mine
        have gone : inputOf c' (onConnectionDown w c' (run w events)).base = [] := by
          have after := act_inputs w (run w events) (.down c')
          unfold inputOf
          rw [show (onConnectionDown w c' (run w events)).base.inputs = _ from after, Act.buffers,
            List.find?_filter, List.find?_eq_none.mpr (by simp)]
          rfl
        simp [actsOf, linesAfter, handle, gone, Consumer.feedAll]
      · simp only [if_neg mine]
        exact quiet (by simpa [actsOf, Act.concerns] using mine)
    | message c' bytes =>
      by_cases mine : c' = c
      · subst mine
        obtain ⟨lines, input⟩ := messageActs_lines w (run w events) c' bytes
          (linesOf c' (actsIn w (start w) events))
        simp only [if_true, Consumer.feedAll_snoc, ih, handle_acts, actsOf, lines, input]
      · simp only [if_neg mine]
        apply quiet
        intro a member
        rcases List.mem_cons.mp member with rfl | line
        · simpa [Act.concerns] using mine
        · obtain ⟨text, _, rfl⟩ := List.mem_map.mp line
          simpa [Act.concerns] using mine
    | serialReadable reads =>
      exact quiet fun a member => foreign_ofPort (readActs_ofPort reads _ a member)
    | _ => exact quiet (by simp [actsOf, Act.concerns])

end

/-- In every run the lines of a connection that are handled are the lines of its stream that
are not too long, in order, if and only if the pieces leave no fragment of a long one. -/
theorem line_framing_iff (w : World) (c : Conn) (events : List Event) :
    linesOf c (actsIn w (start w) events) = acceptableLines (piecesOf c events).flatten ↔
      Unfragmented 0 0 (marked (piecesOf c events)) := by
  have handled : linesOf c (actsIn w (start w) events) =
      (scan [] (marked (piecesOf c events))).2 := by
    rw [← feedAll_scan (by simp), run_lines]
  have exactly := @scan_iff [] [] (by simp) (.inl rfl) (marked (piecesOf c events))
  rw [handled]
  simpa [marked_bytes] using exactly

/-- One line of 517 bytes, of which the first 513 come alone. -/
def oversized : List Event :=
  linkUp ++ [.message console (List.replicate 513 97), .message console (utf8 "v 1\n")]

/-- The tail of the line is taken for a command and moves the robot; in one piece the same
line is dropped. -/
theorem tail_executed :
    linesOf console (actsIn bench (start bench) oversized) = [utf8 "v 1"] ∧
      acceptableLines (piecesOf console oversized).flatten = [] ∧
      .twist console (Vector.replicate 3 ⟨0⟩) ∈ (run bench oversized).base.journal ∧
      linesOf console (actsIn bench (start bench)
        (linkUp ++ [.message console (piecesOf console oversized).flatten])) = [] := by
  decide +kernel

end Mhost.App.ChassisHost
