import Mhost.Proto.FrameCodec

/-!
# What one round of the parser does, and why cuts do not matter

The scan of FrameCodec.cc:119-175 is described by list equations: a head-free
buffer, a buffer whose first head is preceded by junk, and the four outcomes at
a head. From these follow the loop equations of `drain` and the resumption law:
bytes that arrive later only extend what the loop had left.
-/
namespace Mhost.Proto

/-- No adjacent pair `AA 55`. -/
def HeadFree (bytes : List UInt8) : Prop := ¬ [kHead0, kHead1] <:+: bytes

instance (bytes : List UInt8) : Decidable (HeadFree bytes) :=
  inferInstanceAs (Decidable (¬ _))

/-- The pair `AA 55` does not arise where `left` meets `right`. -/
def CleanSeam (left right : List UInt8) : Prop :=
  ¬ (left.getLast? = some kHead0 ∧ right.head? = some kHead1)

theorem head0_ne_head1 : kHead0 ≠ kHead1 := by decide

theorem headFree_nil : HeadFree [] := by
  simp [HeadFree]

theorem headFree_cons (a : UInt8) (bytes : List UInt8) :
    HeadFree (a :: bytes) ↔ ¬ (a = kHead0 ∧ bytes.head? = some kHead1) ∧ HeadFree bytes := by
  have pair : [kHead1] <+: bytes ↔ bytes.head? = some kHead1 := by
    cases bytes with
    | nil => simp
    | cons b rest => simp [List.cons_prefix_cons, eq_comm]
  unfold HeadFree
  rw [List.infix_cons_iff, List.cons_prefix_cons, pair, not_or, eq_comm (a := kHead0)]

theorem headFree_append (left right : List UInt8) :
    HeadFree (left ++ right) ↔ HeadFree left ∧ HeadFree right ∧ CleanSeam left right := by
  induction left with
  | nil => simp [headFree_nil, CleanSeam]
  | cons a rest ih =>
    rw [List.cons_append, headFree_cons, headFree_cons, ih]
    cases rest with
    | nil => simp [headFree_nil, CleanSeam, and_comm]
    | cons b more => simp [CleanSeam, and_assoc]

theorem findHead_headFree (bytes : List UInt8) (free : HeadFree bytes) :
    findHead bytes = bytes.length := by
  fun_induction findHead bytes with
  | case1 a b rest head => simp [headFree_cons, head] at free
  | case2 a b rest _ ih =>
    rw [headFree_cons] at free
    simp [ih free.2]
  | case3 => rfl

theorem findHead_junk (junk rest : List UInt8) (free : HeadFree junk) :
    findHead (junk ++ kHead0 :: kHead1 :: rest) = junk.length := by
  induction junk with
  | nil => simp [findHead]
  | cons a more ih =>
    rw [headFree_cons] at free
    have tail := ih free.2
    cases more with
    | nil =>
      have noHead : ¬ (a = kHead0 ∧ kHead0 = kHead1) := fun h => head0_ne_head1 h.2
      simp [findHead, noHead]
    | cons b others =>
      have noHead : ¬ (a = kHead0 ∧ b = kHead1) := by simpa using free.1
      simp only [List.cons_append] at tail
      simp [findHead, noHead, tail]

/-- Every buffer is head-free or has a first head after a head-free run. -/
theorem firstHead (bytes : List UInt8) :
    HeadFree bytes ∨
      ∃ junk rest, bytes = junk ++ kHead0 :: kHead1 :: rest ∧ HeadFree junk := by
  induction bytes with
  | nil => exact .inl headFree_nil
  | cons a more ih =>
    by_cases head : a = kHead0 ∧ more.head? = some kHead1
    · obtain ⟨rfl, next⟩ := head
      obtain ⟨rest, rfl⟩ := List.head?_eq_some_iff.mp next
      exact .inr ⟨[], rest, rfl, headFree_nil⟩
    · rcases ih with free | ⟨junk, rest, rfl, free⟩
      · exact .inl ((headFree_cons a more).mpr ⟨head, free⟩)
      · refine .inr ⟨a :: junk, rest, rfl, (headFree_cons a junk).mpr ⟨?_, free⟩⟩
        cases junk with
        | nil => simp
        | cons b others => simpa using head

/-! ### The outcomes of one round -/

/-- The two CRC bytes as `feed` reads them. -/
def crcRead (lo hi : UInt8) : UInt16 := lo.toUInt16 ||| (hi.toUInt16 <<< 8)

/-- The frame with a given payload, as `feed` fills it in. -/
def Frame.ofBytes (type seq : UInt8) (payload : List UInt8)
    (fits : payload.length ≤ kMaxPayload) : Frame :=
  { type, seq, payload := copyPayload payload, len := payload.length, len_le := fits }

theorem copyPayload_getD (source : List UInt8) {i : Nat} (inside : i < kMaxPayload) :
    (copyPayload source).toList.getD i 0 = source.getD i 0 := by
  simp [copyPayload, List.getD_eq_getElem?_getD, inside]

theorem discard_append (junk rest : List UInt8) (stats : Stats) (counted : Nat) :
    FrameParser.discard ⟨junk ++ rest, stats⟩ junk.length counted =
      ⟨rest, { stats with drop := stats.drop + counted }⟩ := by
  simp [FrameParser.discard]

/-- Trimming down to `keep` bytes needs no size test: erasing nothing changes nothing. -/
theorem leave_trim (p : FrameParser) (keep : Nat) :
    (if p.buf.length > keep then
        Round.leave (p.discard (p.buf.length - keep) (p.buf.length - keep))
      else .leave p) =
      .leave (p.discard (p.buf.length - keep) (p.buf.length - keep)) := by
  split
  · rfl
  next small =>
    have nothing : p.buf.length - keep = 0 := by omega
    simp [nothing, FrameParser.discard]

/-- Without a head everything goes, up to a trailing `0xAA`. -/
theorem round_headFree (p : FrameParser) (free : HeadFree p.buf) :
    p.round =
      let keep := if p.buf.getLast? = some kHead0 then 1 else 0
      .leave (p.discard (p.buf.length - keep) (p.buf.length - keep)) := by
  simp only [FrameParser.round, findHead_headFree _ free, if_true]
  exact leave_trim p _

theorem round_head (junk rest : List UInt8) (stats : Stats) (free : HeadFree junk) :
    FrameParser.round ⟨junk ++ kHead0 :: kHead1 :: rest, stats⟩ =
      FrameParser.atHead ⟨kHead0 :: kHead1 :: rest, { stats with drop := stats.drop + junk.length }⟩ := by
  have found : junk.length ≠ (junk ++ kHead0 :: kHead1 :: rest).length := by simp
  simp only [FrameParser.round, findHead_junk junk rest free, if_neg found, discard_append]
  split
  · rfl
  next empty =>
    have nil : junk = [] := List.eq_nil_of_length_eq_zero (by omega)
    simp [nil]

theorem atHead_short (rest : List UInt8) (stats : Stats) (short : rest.length < 3) :
    FrameParser.atHead ⟨kHead0 :: kHead1 :: rest, stats⟩ =
      .leave ⟨kHead0 :: kHead1 :: rest, stats⟩ := by
  have header : (kHead0 :: kHead1 :: rest).length < 5 := by simp; omega
  simp only [FrameParser.atHead, dif_pos header]

theorem atHead_pseudo (type len seq : UInt8) (rest : List UInt8) (stats : Stats)
    (long : kMaxPayload < len.toNat) :
    FrameParser.atHead ⟨kHead0 :: kHead1 :: type :: len :: seq :: rest, stats⟩ =
      .again ⟨type :: len :: seq :: rest, { stats with drop := stats.drop + 1 }⟩ none := by
  have header : ¬ (kHead0 :: kHead1 :: type :: len :: seq :: rest).length < 5 := by simp
  simp only [FrameParser.atHead, dif_neg header]
  simp [long, FrameParser.discard]

theorem atHead_unfinished (type len seq : UInt8) (rest : List UInt8) (stats : Stats)
    (fits : len.toNat ≤ kMaxPayload) (short : rest.length < len.toNat + 2) :
    FrameParser.atHead ⟨kHead0 :: kHead1 :: type :: len :: seq :: rest, stats⟩ =
      .leave ⟨kHead0 :: kHead1 :: type :: len :: seq :: rest, stats⟩ := by
  have header : ¬ (kHead0 :: kHead1 :: type :: len :: seq :: rest).length < 5 := by simp
  have whole : rest.length + 5 < kFrameOverhead + len.toNat := by
    unfold kFrameOverhead
    omega
  simp only [FrameParser.atHead, dif_neg header]
  simp [Nat.not_lt.mpr fits, whole]

/-- A whole frame leaves the buffer, whatever its CRC. -/
theorem atHead_whole (type len seq lo hi : UInt8) (payload rest : List UInt8) (stats : Stats)
    (size : payload.length = len.toNat) (fits : payload.length ≤ kMaxPayload) :
    FrameParser.atHead ⟨kHead0 :: kHead1 :: type :: len :: seq :: payload ++ lo :: hi :: rest, stats⟩ =
      if crc16Modbus (type :: len :: seq :: payload) = crcRead lo hi then
        .again ⟨rest, { stats with frames := stats.frames + 1 }⟩
          (some (Frame.ofBytes type seq payload fits))
      else .again ⟨rest, { stats with crcErr := stats.crcErr + 1 }⟩ none := by
  have fits' : ¬ kMaxPayload < len.toNat := by omega
  have header : ¬ (kHead0 :: kHead1 :: type :: len :: seq :: payload ++ lo :: hi :: rest).length < 5 := by
    simp
  have whole : ¬ (kHead0 :: kHead1 :: type :: len :: seq :: payload ++ lo :: hi :: rest).length <
      kFrameOverhead + len.toNat := by
    unfold kFrameOverhead
    simp only [List.length_append, List.length_cons]
    omega
  simp only [FrameParser.atHead, dif_neg header]
  simp only [List.cons_append, List.getElem_cons_succ, List.getElem_cons_zero, gt_iff_lt]
  rw [dif_neg fits', dif_neg (by simpa using whole)]
  simp only [← size, kFrameOverhead]
  have covered : ((kHead0 :: kHead1 :: type :: len :: seq :: (payload ++ lo :: hi :: rest)).drop 2).take
      (3 + payload.length) = type :: len :: seq :: payload := by
    simp [Nat.add_comm 3]
  have carried : ((kHead0 :: kHead1 :: type :: len :: seq :: (payload ++ lo :: hi :: rest)).drop 5).take
      payload.length = payload := by
    simp
  have after : (kHead0 :: kHead1 :: type :: len :: seq :: (payload ++ lo :: hi :: rest)).drop
      (7 + payload.length) = rest := by
    simp [Nat.add_comm 7]
  simp only [covered, carried, after, Nat.add_comm 5, Nat.add_comm 6, List.getElem_cons_succ]
  simp [crcRead, Frame.ofBytes]
  rfl

/-- What can follow a head: the four continuations of steps 2 to 5. -/
inductive HeadView : List UInt8 → Prop where
  | short (rest : List UInt8) (size : rest.length < 3) : HeadView rest
  | pseudo (type len seq : UInt8) (rest : List UInt8) (long : kMaxPayload < len.toNat) :
      HeadView (type :: len :: seq :: rest)
  | unfinished (type len seq : UInt8) (rest : List UInt8) (fits : len.toNat ≤ kMaxPayload)
      (size : rest.length < len.toNat + 2) : HeadView (type :: len :: seq :: rest)
  | whole (type len seq lo hi : UInt8) (payload rest : List UInt8)
      (size : payload.length = len.toNat) (fits : payload.length ≤ kMaxPayload) :
      HeadView (type :: len :: seq :: payload ++ lo :: hi :: rest)

theorem headView (rest : List UInt8) : HeadView rest := by
  match rest with
  | [] | [_] | [_, _] => exact .short _ (by simp)
  | type :: len :: seq :: tail =>
    by_cases long : kMaxPayload < len.toNat
    · exact .pseudo type len seq tail long
    · by_cases size : tail.length < len.toNat + 2
      · exact .unfinished type len seq tail (Nat.le_of_not_lt long) size
      · have taken : (tail.take len.toNat).length = len.toNat := by
          rw [List.length_take]
          omega
        obtain ⟨lo, hi, after, cut⟩ : ∃ lo hi after, tail.drop len.toNat = lo :: hi :: after := by
          match left : tail.drop len.toNat with
          | [] | [_] =>
            have := congrArg List.length left
            simp at this
            omega
          | lo :: hi :: after => exact ⟨lo, hi, after, rfl⟩
        have glued := List.take_append_drop len.toNat tail
        rw [cut] at glued
        rw [← glued]
        exact .whole type len seq lo hi _ after taken (by omega)

/-! ### The loop -/

theorem again_shrinks (p next : FrameParser) (pushed : Option Frame)
    (turn : p.round = .again next pushed) : next.buf.length < p.buf.length := by
  obtain ⟨buf, stats⟩ := p
  rcases firstHead buf with free | ⟨junk, rest, rfl, free⟩
  · simp [round_headFree ⟨buf, stats⟩ free] at turn
  · rw [round_head junk rest stats free] at turn
    cases headView rest with
    | short _ size => simp [atHead_short _ _ size] at turn
    | pseudo type len seq tail long =>
      rw [atHead_pseudo _ _ _ _ _ long] at turn
      cases turn
      simp
      omega
    | unfinished type len seq tail fits size =>
      simp [atHead_unfinished _ _ _ _ _ fits size] at turn
    | whole type len seq lo hi payload tail size fits =>
      rw [← List.cons_append, ← List.cons_append, atHead_whole _ _ _ _ _ _ _ _ size fits] at turn
      split at turn <;> cases turn <;> simp <;> omega

/-- Fuel beyond the buffer length is never used. -/
theorem rounds_fuel (n m : Nat) (p : FrameParser) (out : List Frame)
    (enough : p.buf.length < n) (enough' : p.buf.length < m) :
    p.rounds n out = p.rounds m out := by
  induction n generalizing m p out with
  | zero => omega
  | succ n ih =>
    cases m with
    | zero => omega
    | succ m =>
      simp only [FrameParser.rounds]
      cases turn : p.round with
      | leave next => rfl
      | again next pushed =>
        have shrinks := again_shrinks p next pushed turn
        exact ih m next _ (by omega) (by omega)

theorem drain_leave (p next : FrameParser) (out : List Frame) (turn : p.round = .leave next) :
    p.drain out = (next, out) := by
  simp [FrameParser.drain, FrameParser.rounds, turn]

theorem drain_again (p next : FrameParser) (pushed : Option Frame) (out : List Frame)
    (turn : p.round = .again next pushed) :
    p.drain out = next.drain (out ++ pushed.toList) := by
  have shrinks := again_shrinks p next pushed turn
  unfold FrameParser.drain
  rw [FrameParser.rounds, turn]
  exact rounds_fuel _ _ _ _ (by omega) (by omega)

theorem drain_congr (p q : FrameParser) (out : List Frame) (same : p.round = q.round) :
    p.drain out = q.drain out := by
  cases turn : q.round with
  | leave next => rw [drain_leave p next out (same.trans turn), drain_leave q next out turn]
  | again next pushed =>
    rw [drain_again p next pushed out (same.trans turn), drain_again q next pushed out turn]

/-! ### Junk and residue -/

/-- A head-free run that no continuation of `rest` can turn into a head. -/
structure JunkBefore (junk rest : List UInt8) : Prop where
  free : HeadFree junk
  decided : junk.getLast? = some kHead0 → ∃ b, rest.head? = some b ∧ b ≠ kHead1

theorem JunkBefore.clean {junk rest : List UInt8} (h : JunkBefore junk rest) :
    CleanSeam junk rest := by
  rintro ⟨last, first⟩
  obtain ⟨b, head, differs⟩ := h.decided last
  rw [first] at head
  exact differs (Option.some.inj head).symm

theorem JunkBefore.extend {junk rest : List UInt8} (h : JunkBefore junk rest) (more : List UInt8) :
    JunkBefore junk (rest ++ more) := by
  refine ⟨h.free, fun last => ?_⟩
  obtain ⟨b, head, differs⟩ := h.decided last
  exact ⟨b, by simp [List.head?_append, head], differs⟩

theorem junkBefore_head (junk rest : List UInt8) (free : HeadFree junk) :
    JunkBefore junk (kHead0 :: rest) :=
  ⟨free, fun _ => ⟨kHead0, rfl, head0_ne_head1⟩⟩

theorem round_junk (junk rest : List UInt8) (stats : Stats) (h : JunkBefore junk rest) :
    FrameParser.round ⟨junk ++ rest, stats⟩ =
      FrameParser.round ⟨rest, { stats with drop := stats.drop + junk.length }⟩ := by
  rcases firstHead rest with free | ⟨more, tail, rfl, free⟩
  · have both : HeadFree (junk ++ rest) := (headFree_append junk rest).mpr ⟨h.free, free, h.clean⟩
    have keep : ∃ k ≤ rest.length,
        (if (junk ++ rest).getLast? = some kHead0 then 1 else 0) = k ∧
        (if rest.getLast? = some kHead0 then 1 else 0) = k := by
      cases rest with
      | nil =>
        have undecided : junk.getLast? ≠ some kHead0 := fun last => by
          obtain ⟨b, head, _⟩ := h.decided last
          simp at head
        exact ⟨0, Nat.le_refl _, by simp [undecided], by simp⟩
      | cons b others =>
        have last : (junk ++ b :: others).getLast? = (b :: others).getLast? := by
          simp [List.getLast?_append, List.getLast?_cons]
        refine ⟨_, ?_, by rw [last], rfl⟩
        split <;> simp
    obtain ⟨k, small, left, right⟩ := keep
    rw [round_headFree ⟨junk ++ rest, stats⟩ both, round_headFree ⟨rest, _⟩ free]
    simp only [left, right, FrameParser.discard, List.length_append]
    rw [Nat.add_sub_assoc small, ← List.drop_drop, List.drop_left, Nat.add_assoc]
  · have seam : CleanSeam junk more := by
      rintro ⟨last, first⟩
      exact h.clean ⟨last, by simp [List.head?_append, first]⟩
    have both : HeadFree (junk ++ more) := (headFree_append junk more).mpr ⟨h.free, free, seam⟩
    rw [← List.append_assoc, round_head (junk ++ more) tail stats both, round_head more tail _ free]
    simp [Nat.add_assoc]

/-- What `feed` can leave in `buf_`. -/
inductive Residual : List UInt8 → Prop where
  | empty : Residual []
  | loneHead : Residual [kHead0]
  | short (rest : List UInt8) (size : rest.length < 3) : Residual (kHead0 :: kHead1 :: rest)
  | unfinished (type len seq : UInt8) (rest : List UInt8) (fits : len.toNat ≤ kMaxPayload)
      (size : rest.length < len.toNat + 2) :
      Residual (kHead0 :: kHead1 :: type :: len :: seq :: rest)

theorem round_residual (buf : List UInt8) (stats : Stats) (h : Residual buf) :
    FrameParser.round ⟨buf, stats⟩ = .leave ⟨buf, stats⟩ := by
  cases h with
  | empty => rfl
  | loneHead => rfl
  | short rest size => exact (round_head [] rest stats headFree_nil).trans (atHead_short _ _ size)
  | unfinished type len seq rest fits size =>
    exact (round_head [] _ stats headFree_nil).trans (atHead_unfinished _ _ _ _ _ fits size)

/-- Leaving the loop drops junk that later bytes cannot revive and keeps a residue. -/
theorem leave_inversion (buf : List UInt8) (stats : Stats) (next : FrameParser)
    (turn : FrameParser.round ⟨buf, stats⟩ = .leave next) :
    ∃ junk, buf = junk ++ next.buf ∧ JunkBefore junk next.buf ∧ Residual next.buf ∧
      next.stats = { stats with drop := stats.drop + junk.length } := by
  rcases firstHead buf with free | ⟨junk, rest, rfl, free⟩
  · rw [round_headFree ⟨buf, stats⟩ free] at turn
    cases turn
    by_cases last : buf.getLast? = some kHead0
    · obtain ⟨junk, rfl⟩ := List.getLast?_eq_some_iff.mp last
      have parts := (headFree_append junk [kHead0]).mp free
      exact ⟨junk, by simp [FrameParser.discard], by
        simpa [FrameParser.discard] using junkBefore_head junk [] parts.1, by
        simpa [FrameParser.discard] using Residual.loneHead, by simp [FrameParser.discard]⟩
    · exact ⟨buf, by simp [FrameParser.discard, last],
        ⟨free, fun h => absurd h last⟩, by
        simpa [FrameParser.discard, last] using Residual.empty, by simp [FrameParser.discard, last]⟩
  · rw [round_head junk rest stats free] at turn
    have before := junkBefore_head junk (kHead1 :: rest) free
    cases headView rest with
    | short _ size =>
      rw [atHead_short _ _ size] at turn
      cases turn
      exact ⟨junk, rfl, before, .short rest size, rfl⟩
    | pseudo type len seq tail long => simp [atHead_pseudo _ _ _ _ _ long] at turn
    | unfinished type len seq tail fits size =>
      rw [atHead_unfinished _ _ _ _ _ fits size] at turn
      cases turn
      exact ⟨junk, rfl, before, .unfinished type len seq tail fits size, rfl⟩
    | whole type len seq lo hi payload tail size fits =>
      rw [← List.cons_append, ← List.cons_append, atHead_whole _ _ _ _ _ _ _ _ size fits] at turn
      split at turn <;> cases turn

/-- Bytes that arrive later do not change a round that goes on. -/
theorem again_receive (p next : FrameParser) (pushed : Option Frame) (more : List UInt8)
    (turn : p.round = .again next pushed) :
    (p.receive more).round = .again (next.receive more) pushed := by
  obtain ⟨buf, stats⟩ := p
  unfold FrameParser.receive
  rcases firstHead buf with free | ⟨junk, rest, rfl, free⟩
  · simp [round_headFree ⟨buf, stats⟩ free] at turn
  · rw [round_head junk rest stats free] at turn
    simp only [List.append_assoc, List.cons_append]
    rw [round_head junk (rest ++ more) stats free]
    cases headView rest with
    | short _ size => simp [atHead_short _ _ size] at turn
    | pseudo type len seq tail long =>
      rw [atHead_pseudo _ _ _ _ _ long] at turn
      cases turn
      exact atHead_pseudo _ _ _ _ _ long
    | unfinished type len seq tail fits size =>
      simp [atHead_unfinished _ _ _ _ _ fits size] at turn
    | whole type len seq lo hi payload tail size fits =>
      have now := atHead_whole type len seq lo hi payload tail
        { stats with drop := stats.drop + junk.length } size fits
      have later := atHead_whole type len seq lo hi payload (tail ++ more)
        { stats with drop := stats.drop + junk.length } size fits
      simp only [List.cons_append, List.append_assoc] at now later turn ⊢
      rw [now] at turn
      rw [later]
      split at turn
      next good => cases turn; rw [if_pos good]
      next bad => cases turn; rw [if_neg bad]

/-- Resumption: draining what has arrived, then the rest, is draining it all. -/
theorem drain_receive (p : FrameParser) (out : List Frame) (more : List UInt8) :
    (p.receive more).drain out = ((p.drain out).1.receive more).drain (p.drain out).2 := by
  induction size : p.buf.length using Nat.strongRecOn generalizing p out with
  | ind n ih =>
    cases turn : p.round with
    | leave next =>
      rw [drain_leave p next out turn]
      obtain ⟨junk, split, before, _, counted⟩ := leave_inversion p.buf p.stats next turn
      apply drain_congr
      simp only [FrameParser.receive, split, counted, List.append_assoc]
      exact round_junk junk (next.buf ++ more) p.stats (before.extend more)
    | again next pushed =>
      rw [drain_again _ _ _ _ (again_receive p next pushed more turn), drain_again _ _ _ _ turn]
      exact ih next.buf.length (size ▸ again_shrinks p next pushed turn) next _ rfl

/-- `drain` only appends to the frames it is given. -/
theorem drain_out (p : FrameParser) (out : List Frame) :
    p.drain out = ((p.drain []).1, out ++ (p.drain []).2) := by
  induction size : p.buf.length using Nat.strongRecOn generalizing p out with
  | ind n ih =>
    cases turn : p.round with
    | leave next => simp [drain_leave p next _ turn]
    | again next pushed =>
      have smaller := size ▸ again_shrinks p next pushed turn
      rw [drain_again _ _ _ _ turn, drain_again _ _ _ _ turn,
        ih _ smaller next (out ++ pushed.toList) rfl, ih _ smaller next ([] ++ pushed.toList) rfl]
      simp

theorem drain_residual (p : FrameParser) (out : List Frame) : Residual (p.drain out).1.buf := by
  induction size : p.buf.length using Nat.strongRecOn generalizing p out with
  | ind n ih =>
    cases turn : p.round with
    | leave next =>
      rw [drain_leave p next out turn]
      obtain ⟨_, _, _, residue, _⟩ := leave_inversion p.buf p.stats next turn
      exact residue
    | again next pushed =>
      rw [drain_again _ _ _ _ turn]
      exact ih _ (size ▸ again_shrinks p next pushed turn) next _ rfl

/-- Between calls the parser is at a residue, and any piece may be cut anywhere. -/
theorem frameConsumer_resumable : frameConsumer.Resumable fun p => Residual p.buf where
  feed_settles p piece := drain_residual (p.receive piece) []
  feed_nil p residue := by
    show (p.receive []).drain [] = (p, [])
    have same : p.receive [] = p := by simp [FrameParser.receive]
    rw [same]
    exact drain_leave p p [] (round_residual p.buf p.stats residue)
  feed_append p a b := by
    show (p.receive (a ++ b)).drain [] = _
    have split : p.receive (a ++ b) = (p.receive a).receive b := by simp [FrameParser.receive]
    rw [split, drain_receive, drain_out]
    rfl

/-- From any state that earlier calls can reach, the frames, the residual buffer
and the statistics do not depend on how the bytes are cut into calls. -/
theorem feed_chunking (history pieces : List (List UInt8)) :
    frameConsumer.feedAll (frameConsumer.feedAll {} history).1 pieces =
      FrameParser.feed (frameConsumer.feedAll {} history).1 pieces.flatten := by
  have settled := frameConsumer_resumable.feedAll_settles {} .empty history
  exact frameConsumer_resumable.feedAll_flatten _ settled pieces

end Mhost.Proto
