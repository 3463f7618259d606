import Mhost.Proto.FrameScan

/-!
# Every access of the parser, and what a call leaves

FrameCodec.cc:115-176 access by access. An indexed read, a range handed to `memcpy` or to the
CRC, an erasure and the copy into a payload each say whether they stay in bounds, and the loop is
a derivation with no bound on its rounds. A call then has exactly one derivation, that of `feed`.
-/
namespace Mhost.Proto

/-- The bytes `[start, start + size)` of the buffer, if it has them all. -/
def sliceAt (buf : List UInt8) (start size : Nat) : Option (List UInt8) :=
  if start + size ≤ buf.length then some ((buf.drop start).take size) else none

/-- `buf_.erase(buf_.begin(), buf_.begin() + size)`. -/
def eraseFront (buf : List UInt8) (size : Nat) : Option (List UInt8) :=
  if size ≤ buf.length then some (buf.drop size) else none

/-- `memcpy` into the 32 bytes of `Frame::payload`. -/
def storePayload (source : List UInt8) : Option (Vector UInt8 kMaxPayload) :=
  if source.length ≤ kMaxPayload then some (copyPayload source) else none

/-- The scan of step 1 from index `i` on. -/
def scanFrom (buf : List UInt8) (i : Nat) : Option Nat :=
  if i + 1 < buf.length then do
    let first ← buf[i]?
    let second ← buf[i + 1]?
    if first = kHead0 ∧ second = kHead1 then some i else scanFrom buf (i + 1)
  else some buf.length
termination_by buf.length - i

/-- Steps 2 to 5, each access checked. -/
def FrameParser.atHeadChecked (p : FrameParser) : Option Round :=
  if p.buf.length < 5 then some (.leave p)
  else do
    let type ← p.buf[2]?
    let plen := (← p.buf[3]?).toNat
    if pseudo : plen > kMaxPayload then
      let buf ← eraseFront p.buf 2
      some (.again { buf, stats := { p.stats with drop := p.stats.drop + 1 } } none)
    else if p.buf.length < kFrameOverhead + plen then some (.leave p)
    else
      let seq ← p.buf[4]?
      let payload ← storePayload (← sliceAt p.buf 5 plen)
      let f : Frame := { type, seq, payload, len := plen, len_le := Nat.le_of_not_lt pseudo }
      let lo ← p.buf[5 + plen]?
      let hi ← p.buf[6 + plen]?
      let crcRx := lo.toUInt16 ||| (hi.toUInt16 <<< 8)
      let crcCalc := crc16Modbus (← sliceAt p.buf 2 (3 + plen))
      let buf ← eraseFront p.buf (kFrameOverhead + plen)
      if crcCalc = crcRx then
        some (.again { buf, stats := { p.stats with frames := p.stats.frames + 1 } } (some f))
      else some (.again { buf, stats := { p.stats with crcErr := p.stats.crcErr + 1 } } none)

/-- `!buf_.empty() && buf_.back() == kHead0`, as the number of bytes kept. -/
def keepChecked (buf : List UInt8) : Option Nat :=
  if buf.isEmpty then some 0
  else buf.getLast?.map fun back => if back = kHead0 then 1 else 0

def FrameParser.roundChecked (p : FrameParser) : Option Round := do
  let idx ← scanFrom p.buf 0
  if idx = p.buf.length then
    let keep ← keepChecked p.buf
    if p.buf.length > keep then
      let buf ← eraseFront p.buf (p.buf.length - keep)
      some (.leave { buf, stats := { p.stats with drop := p.stats.drop + (p.buf.length - keep) } })
    else some (.leave p)
  else if idx > 0 then
    let buf ← eraseFront p.buf idx
    FrameParser.atHeadChecked { buf, stats := { p.stats with drop := p.stats.drop + idx } }
  else p.atHeadChecked

/-- `for (;;)` as the source has it: `rounds` turns, all of them in bounds, and then a `return`. -/
inductive FrameParser.Returns :
    FrameParser → List Frame → (rounds : Nat) → FrameParser × List Frame → Prop where
  | leave (p next : FrameParser) (out : List Frame)
      (turn : p.roundChecked = some (.leave next)) : Returns p out 1 (next, out)
  | again (p next : FrameParser) (out : List Frame) (pushed : Option Frame) (rounds : Nat)
      (result : FrameParser × List Frame) (turn : p.roundChecked = some (.again next pushed))
      (rest : Returns next (out ++ pushed.toList) rounds result) :
      Returns p out (rounds + 1) result

/-! ### No access leaves the buffer -/

theorem scanFrom_eq (buf : List UInt8) (i : Nat) (inside : i ≤ buf.length) :
    scanFrom buf i = some (i + findHead (buf.drop i)) := by
  fun_induction scanFrom buf i with
  | case1 i more ih =>
    have here : buf[i]? = some buf[i] := List.getElem?_eq_getElem (by omega)
    have there : buf[i + 1]? = some buf[i + 1] := List.getElem?_eq_getElem more
    have cut : buf.drop i = buf[i] :: buf[i + 1] :: buf.drop (i + 2) := by
      rw [List.drop_eq_getElem_cons (by omega), List.drop_eq_getElem_cons more]
    simp only [here, there, Option.bind_eq_bind, Option.bind_some]
    split
    next head => simp [cut, findHead, head]
    next other =>
      rw [ih (by omega), cut, findHead, if_neg other, ← List.drop_eq_getElem_cons more]
      congr 1
      omega
  | case2 i done =>
    have last : (buf.drop i).length ≤ 1 := by
      rw [List.length_drop]
      omega
    have short : findHead (buf.drop i) = (buf.drop i).length := by
      rcases tail : buf.drop i with _ | ⟨x, _ | ⟨y, more⟩⟩
      · rfl
      · rfl
      · simp [tail] at last
    rw [short, List.length_drop]
    congr 1
    omega

theorem atHeadChecked_eq (p : FrameParser) : p.atHeadChecked = some p.atHead := by
  unfold FrameParser.atHeadChecked FrameParser.atHead
  split
  · rfl
  next header =>
    have header : 5 ≤ p.buf.length := Nat.le_of_not_lt header
    have at2 : p.buf[2]? = some p.buf[2] := List.getElem?_eq_getElem (by omega)
    have at3 : p.buf[3]? = some p.buf[3] := List.getElem?_eq_getElem (by omega)
    have at4 : p.buf[4]? = some p.buf[4] := List.getElem?_eq_getElem (by omega)
    simp only [at2, at3, at4, Option.bind_eq_bind, Option.bind_some]
    by_cases pseudo : p.buf[3].toNat > kMaxPayload
    · have erased : 2 ≤ p.buf.length := by omega
      simp only [dif_pos pseudo, eraseFront, if_pos erased, Option.bind_some]
      rfl
    · rw [dif_neg pseudo, dif_neg pseudo]
      by_cases unfinished : p.buf.length < kFrameOverhead + p.buf[3].toNat
      · rw [if_pos unfinished, dif_pos unfinished]
      · rw [if_neg unfinished, dif_neg unfinished]
        have whole : 7 + p.buf[3].toNat ≤ p.buf.length := Nat.le_of_not_lt unfinished
        have stored : ((p.buf.drop 5).take p.buf[3].toNat).length ≤ kMaxPayload := by
          rw [List.length_take]
          omega
        have atLo : p.buf[5 + p.buf[3].toNat]? = some p.buf[5 + p.buf[3].toNat] :=
          List.getElem?_eq_getElem (by omega)
        have atHi : p.buf[6 + p.buf[3].toNat]? = some p.buf[6 + p.buf[3].toNat] :=
          List.getElem?_eq_getElem (by omega)
        have payload : 5 + p.buf[3].toNat ≤ p.buf.length := by omega
        have covered : 2 + (3 + p.buf[3].toNat) ≤ p.buf.length := by omega
        have erased : kFrameOverhead + p.buf[3].toNat ≤ p.buf.length := whole
        simp only [sliceAt, storePayload, eraseFront, atLo, atHi, Option.bind_some,
          if_pos stored, if_pos payload, if_pos covered, if_pos erased]
        split <;> rfl

theorem findHead_le (bytes : List UInt8) : findHead bytes ≤ bytes.length := by
  fun_induction findHead bytes with
  | case1 => exact Nat.zero_le _
  | case2 _ _ _ _ ih => exact Nat.succ_le_succ ih
  | case3 => exact Nat.le_refl _

theorem keepChecked_eq (buf : List UInt8) :
    keepChecked buf = some (if buf.getLast? = some kHead0 then 1 else 0) := by
  unfold keepChecked
  cases last : buf.getLast? with
  | none => simp [List.getLast?_eq_none_iff.mp last]
  | some b =>
    have filled : buf ≠ [] := fun empty => by simp [empty] at last
    simp [filled]

/-- A round of `feed` never leaves the buffer. -/
theorem roundChecked_eq (p : FrameParser) : p.roundChecked = some p.round := by
  have found := scanFrom_eq p.buf 0 (Nat.zero_le _)
  rw [List.drop_zero, Nat.zero_add] at found
  have inside := findHead_le p.buf
  unfold FrameParser.roundChecked FrameParser.round
  simp only [found, Option.bind_eq_bind, Option.bind_some]
  by_cases headless : findHead p.buf = p.buf.length
  · simp only [if_pos headless]
    rw [keepChecked_eq, Option.bind_some]
    generalize (if p.buf.getLast? = some kHead0 then 1 else 0) = keep
    have erased : p.buf.length - keep ≤ p.buf.length := Nat.sub_le _ _
    simp only [eraseFront, if_pos erased, Option.bind_some]
    split <;> rfl
  · simp only [if_neg headless, eraseFront, if_pos inside, Option.bind_some]
    split <;> exact atHeadChecked_eq _

/-! ### The loop ends by itself -/

theorem returns_drain (p : FrameParser) (out : List Frame) :
    ∃ rounds ≤ p.buf.length + 1, p.Returns out rounds (p.drain out) := by
  induction size : p.buf.length using Nat.strongRecOn generalizing p out with
  | ind n ih =>
    cases turn : p.round with
    | leave next =>
      rw [drain_leave p next out turn]
      exact ⟨1, by omega, .leave p next out (by rw [roundChecked_eq, turn])⟩
    | again next pushed =>
      have shrinks := size ▸ again_shrinks p next pushed turn
      obtain ⟨rounds, few, rest⟩ := ih _ shrinks next (out ++ pushed.toList) rfl
      rw [drain_again _ _ _ _ turn]
      exact ⟨rounds + 1, by omega, .again p next out pushed rounds _
        (by rw [roundChecked_eq, turn]) rest⟩

theorem FrameParser.Returns.unique {p : FrameParser} {out : List Frame} {n m : Nat}
    {r s : FrameParser × List Frame} (left : p.Returns out n r) (right : p.Returns out m s) :
    n = m ∧ r = s := by
  induction left generalizing m s with
  | leave p next out turn =>
    cases right with
    | leave _ _ _ turn' => cases turn.symm.trans turn'; exact ⟨rfl, rfl⟩
    | again _ _ _ _ _ _ turn' => cases turn.symm.trans turn'
  | again p next out pushed rounds result turn _ ih =>
    cases right with
    | leave _ _ _ turn' => cases turn.symm.trans turn'
    | again _ _ _ _ _ _ turn' rest' =>
      cases turn.symm.trans turn'
      obtain ⟨same, agreed⟩ := ih rest'
      exact ⟨congrArg (· + 1) same, agreed⟩

/-! ### What a call leaves -/

/-- Empty, a lone `0xAA`, or a head whose frame is not complete. -/
def Incomplete (buf : List UInt8) : Prop :=
  buf = [] ∨ buf = [kHead0] ∨
    [kHead0, kHead1] <+: buf ∧
      (buf.length < 5 ∨
        ∃ plen, buf[3]? = some plen ∧ plen.toNat ≤ 32 ∧ buf.length < 7 + plen.toNat)

theorem Residual.incomplete {buf : List UInt8} (left : Residual buf) : Incomplete buf := by
  cases left with
  | empty => exact .inl rfl
  | loneHead => exact .inr (.inl rfl)
  | short rest size =>
    refine .inr (.inr ⟨⟨rest, rfl⟩, .inl ?_⟩)
    simp only [List.length_cons]
    omega
  | unfinished type len seq rest fits size =>
    refine .inr (.inr ⟨⟨type :: len :: seq :: rest, rfl⟩, .inr ⟨len, rfl, fits, ?_⟩⟩)
    simp only [List.length_cons]
    omega

theorem Incomplete.length_le {buf : List UInt8} (left : Incomplete buf) : buf.length ≤ 38 := by
  rcases left with rfl | rfl | ⟨_, short | ⟨plen, _, fits, short⟩⟩
  · simp
  · simp
  · omega
  · omega

/-- A new parser after earlier calls of `feed`. -/
def FrameParser.fed (history : List (List UInt8)) : FrameParser :=
  (frameConsumer.feedAll {} history).1

/-- From every state that earlier calls leave, a call returns what `feed` says after at most one
round per buffered byte and one more, every access of them in bounds, and leaves an incomplete
frame of at most 38 bytes. -/
theorem feed_returns_in_bounds (history : List (List UInt8)) (data : List UInt8) :
    (∃ rounds ≤ (FrameParser.fed history).buf.length + data.length + 1, ∀ n result,
        ((FrameParser.fed history).receive data).Returns [] n result ↔
          n = rounds ∧ result = (FrameParser.fed history).feed data) ∧
      Incomplete ((FrameParser.fed history).feed data).1.buf ∧
      ((FrameParser.fed history).feed data).1.buf.length ≤ 38 := by
  generalize FrameParser.fed history = p
  have left : Incomplete (p.feed data).1.buf := (drain_residual (p.receive data) []).incomplete
  refine ⟨?_, left, left.length_le⟩
  obtain ⟨rounds, few, returns⟩ := returns_drain (p.receive data) []
  have size : (p.receive data).buf.length = p.buf.length + data.length := by
    simp [FrameParser.receive]
  refine ⟨rounds, size ▸ few, fun n result => ⟨fun other => other.unique returns, ?_⟩⟩
  rintro ⟨rfl, rfl⟩
  exact returns

end Mhost.Proto
