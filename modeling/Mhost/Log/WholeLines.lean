import Mhost.Log.AppendAccounting
import Mhost.Log.AsyncStorm
import Mhost.Log.LogFileRolls

/-!
# From the loggers to the files

AsyncLogging.cc:31-46 and 64-127, LogFile.cc:47-79 and FileUtil.cc:31-47 behind one another. A block
holds whole lines, every block is appended to one file, and a file is replaced only between two
appends; so no line is torn, whichever threads log and whenever the files roll.
-/
namespace Mhost.Log
open Library (Text utf8)

/-! ### All the files -/

namespace AppendFile

/-- What `fwrite` took. -/
def content (f : AppendFile) : Text := f.calls.flatMap fun c => c.handed.take c.accepted

/-- A disk that takes everything. -/
theorem append_whole {f : AppendFile} (opened : f.opened = true) (line : Text) :
    ∃ next, f.append line [] = .ok next ∧ next.opened = true ∧ next.content = f.content ++ line := by
  by_cases some : line = []
  · subst some
    exact ⟨f, append_nil f [], opened, (List.append_nil _).symm⟩
  · refine ⟨_, append_opened (a := ⟨line, []⟩) some opened, opened, ?_⟩
    simp [content, firstCall]

end AppendFile

namespace LogFile

/-- The log file with the files it has left behind, the oldest first. -/
structure Archive where
  current : LogFile
  past : List AppendFile := []

namespace Archive

/-- One append; what it was written to is left behind where another file is opened. -/
def append (env : Surroundings) (s : Archive) (a : Append) : Except FileFault Archive := do
  let file ← s.current.file.append a.logline a.results
  let current ← append_unlocked env s.current a
  return { current, past := if current.files = s.current.files then s.past else s.past ++ [file] }

def machine (env : Surroundings) : Library.Machine Archive Append FileFault := ⟨append env⟩

def contents (s : Archive) : List Text := s.past.map (·.content) ++ [s.current.file.content]

end Archive

variable {env : Surroundings}

theorem rollFile_file (s : LogFile) :
    (rollFile env s).files = s.files ∧ (rollFile env s).file = s.file ∨
      (rollFile env s).files = s.files + 1 ∧ (rollFile env s).file = { opened := env.opens s.files } := by
  unfold rollFile
  dsimp only
  split
  · exact .inr ⟨rfl, rfl⟩
  · exact .inl ⟨rfl, rfl⟩

/-- A file that takes what is appended stays, or is replaced by an empty one. -/
theorem append_file (s : LogFile) (a : Append) {file : AppendFile}
    (wrote : s.file.append a.logline a.results = .ok file) :
    ∃ next, append_unlocked env s a = .ok next ∧
      (next.files = s.files ∧ next.file = file ∨
        next.files = s.files + 1 ∧ next.file = { opened := env.opens s.files }) := by
  unfold append_unlocked
  simp only [wrote, bind, Except.bind, pure, Except.pure]
  split
  · exact ⟨_, rfl, rollFile_file _⟩
  · split
    · split
      · exact ⟨_, rfl, rollFile_file _⟩
      · split
        · exact ⟨_, rfl, .inl ⟨rfl, rfl⟩⟩
        · exact ⟨_, rfl, .inl ⟨rfl, rfl⟩⟩
    · exact ⟨_, rfl, .inl ⟨rfl, rfl⟩⟩

/-- What is appended stands in one file. -/
theorem Archive.append_placed (opens : ∀ n, env.opens n = true) (s : Archive)
    (opened : s.current.file.opened = true) (line : Text) :
    ∃ next, s.append env ⟨line, []⟩ = .ok next ∧ next.current.file.opened = true ∧
      (next.contents = s.past.map (·.content) ++ [s.current.file.content ++ line] ∨
        next.contents = s.past.map (·.content) ++ [s.current.file.content ++ line] ++ [[]]) := by
  obtain ⟨file, wrote, stays, grown⟩ := AppendFile.append_whole opened line
  obtain ⟨next, moved, here⟩ := @append_file env s.current ⟨line, []⟩ file wrote
  refine ⟨_, by simp only [Archive.append, wrote, moved]; rfl, ?_⟩
  rcases here with ⟨files, same⟩ | ⟨files, fresh⟩
  · refine ⟨by rw [same]; exact stays, .inl ?_⟩
    rw [Archive.contents, if_pos files, same, grown]
  · refine ⟨by rw [fresh]; exact opens _, .inr ?_⟩
    have other : next.files ≠ s.current.files := by
      rw [files]
      exact Nat.succ_ne_self _
    rw [Archive.contents, if_neg other, fresh, List.map_append, ← grown]
    rfl

/-- A series of appends, placed in the files one after another. -/
theorem Archive.run_placed {α : Type} (text : α → Text) (opens : ∀ n, env.opens n = true)
    (pieces : List (List α)) (s : Archive) (opened : s.current.file.opened = true)
    (files : List (List α)) (before : s.contents = files.map (·.flatMap text)) :
    ∃ (next : Archive) (files' : List (List α)),
      (machine env).run s (pieces.map fun piece => ⟨piece.flatMap text, []⟩) = .ok next ∧
      next.contents = files'.map (·.flatMap text) ∧ files'.flatten = files.flatten ++ pieces.flatten := by
  induction pieces generalizing s files with
  | nil => exact ⟨s, files, rfl, before, (List.append_nil _).symm⟩
  | cons piece rest ih =>
    obtain ⟨next, ran, stays, placed⟩ := s.append_placed opens opened (piece.flatMap text)
    rcases List.eq_nil_or_concat files with none | ⟨past, last, split⟩
    · rw [none] at before
      simp [Archive.contents] at before
    · rw [List.concat_eq_append] at split
      rw [split, List.map_append, Archive.contents] at before
      obtain ⟨pastSame, lastSame⟩ := List.append_inj' before rfl
      have held : s.current.file.content = last.flatMap text := (List.cons.inj lastSame).1
      have grown : s.past.map (·.content) ++ [s.current.file.content ++ piece.flatMap text] =
          (past ++ [last ++ piece]).map (·.flatMap text) := by
        rw [pastSame, held, List.map_append, List.map_cons, List.map_nil, List.flatMap_append]
      obtain ⟨after, same, all⟩ : ∃ after : List (List α), next.contents = after.map (·.flatMap text) ∧
          after.flatten = files.flatten ++ piece := by
        rcases placed with here | rolled
        · exact ⟨past ++ [last ++ piece], here.trans grown, by simp [split]⟩
        · exact ⟨past ++ [last ++ piece] ++ [[]], by rw [rolled, grown]; simp,
            by simp [split]⟩
      obtain ⟨final, files', later, ends, whole⟩ := ih next stays after same
      refine ⟨final, files', ?_, ends, ?_⟩
      · rw [List.map_cons, Library.Machine.run_cons]
        exact ⟨next, ran, later⟩
      · rw [whole, all, List.flatten_cons, List.append_assoc]

/-- One life of the background thread, which constructs a `LogFile` of its own: what `time` and `fopen`
give there, the unset members, and the pieces that it appends. -/
structure Session where
  env : Surroundings
  unset : Int
  pieces : List Text

def Session.filed (config : LogFileConfig) (session : Session) : Except FileFault Archive :=
  (Archive.machine session.env).run ⟨construct session.env config session.unset, []⟩
    (session.pieces.map fun piece => ⟨piece, []⟩)

/-- The files of the sessions one after another, wherever a session ends. -/
theorem sessions_placed {α : Type} (text : α → Text) (config : LogFileConfig)
    (sessions : List Session) (opens : ∀ session ∈ sessions, ∀ n, session.env.opens n = true)
    (pieces : List (List α))
    (divided : sessions.flatMap (·.pieces) = pieces.map (·.flatMap text)) :
    ∃ (archives : List Archive) (files : List (List α)),
      sessions.mapM (Session.filed config) = .ok archives ∧
      archives.flatMap Archive.contents = files.map (·.flatMap text) ∧
      files.flatten = pieces.flatten := by
  induction sessions generalizing pieces with
  | nil =>
    have none : pieces = [] := List.map_eq_nil_iff.mp divided.symm
    exact ⟨[], [], rfl, rfl, by rw [none]⟩
  | cons session rest ih =>
    obtain ⟨mine, others⟩ := List.forall_mem_cons.mp opens
    rw [List.flatMap_cons] at divided
    obtain ⟨now, later, rfl, here, after⟩ := List.map_eq_append_iff.mp divided.symm
    obtain ⟨archive, files, filed, contents, all⟩ := Archive.run_placed text mine now
      ⟨construct session.env config session.unset, []⟩ (mine 0) [[]] rfl
    obtain ⟨archives, files', filed', contents', all'⟩ := ih others later after.symm
    have first : session.filed config = .ok archive := by
      rw [Session.filed, ← here, List.map_map]
      exact filed
    refine ⟨archive :: archives, files ++ files', ?_, ?_, ?_⟩
    · simp only [List.mapM_cons, first, filed', bind, Except.bind, pure, Except.pure]
    · rw [List.flatMap_cons, List.map_append, contents, contents']
    · rw [List.flatten_append, List.flatten_append, all, all']
      rfl

end LogFile

/-! ### Lines in blocks -/

namespace AsyncLogging

/-- What stands in a file: a line that was appended, or the notice of a storm. -/
inductive Item where
  | line (text : Text)
  | notice (stamp : Text) (dropped : Nat)

def Item.text : Item → Text
  | .line text => text
  | .notice stamp dropped => dropNotice stamp dropped

def Item.line? : Item → Option Text
  | .line text => some text
  | .notice _ _ => none

/-- The lines of some items. -/
def linesOf (items : List Item) : List Text := items.filterMap Item.line?

/-- Blocks as they are written. -/
def itemsOf (blocks : List (List Text)) : List (List Item) := blocks.map (·.map Item.line)

theorem linesOf_append (items more : List Item) : linesOf (items ++ more) = linesOf items ++ linesOf more :=
  List.filterMap_append

theorem linesOf_items (blocks : List (List Text)) : linesOf (itemsOf blocks).flatten = blocks.flatten := by
  have one (lines : List Text) : linesOf (lines.map Item.line) = lines := by
    simp [linesOf, List.filterMap_map, Function.comp_def, Item.line?]
  induction blocks with
  | nil => rfl
  | cons block rest ih =>
    have split : (itemsOf (block :: rest)).flatten = block.map Item.line ++ (itemsOf rest).flatten := rfl
    rw [split, linesOf_append, one, ih, List.flatten_cons]

theorem itemsOf_text (blocks : List (List Text)) :
    (itemsOf blocks).map (·.flatMap Item.text) = blocks.map List.flatten := by
  have one (lines : List Text) : (lines.map Item.line).flatMap Item.text = lines.flatten := by
    simp [List.flatMap_def, Function.comp_def, Item.text]
  simp [itemsOf, Function.comp_def, one]

/-- The lines of the blocks: of those handed to the log file, with the notices among them, of those in
hand of the background thread, of those that are full, and of the current one. -/
structure Ledger where
  out : List (List Item) := []
  hand : List (List Text) := []
  full : List (List Text) := []
  current : List Text := []

namespace Ledger
variable (l : Ledger)

def lines : List Text := linesOf l.out.flatten ++ (l.hand.flatten ++ (l.full.flatten ++ l.current))

/-- A line in the current block. -/
def put (line : Text) : Ledger := { l with current := l.current ++ [line] }

/-- A line in the block that takes its place. -/
def rotate (line : Text) : Ledger := { l with full := l.full ++ [l.current], current := [line] }

def swap : Ledger := { l with hand := l.full ++ [l.current], full := [], current := [] }

def write : Ledger := { l with out := l.out ++ itemsOf l.hand, hand := [] }

/-- A storm: a notice and the first two blocks. -/
def storm (stamp : Text) : Ledger :=
  { l with out := l.out ++ ([.notice stamp (l.hand.length - 2)] :: itemsOf (l.hand.take 2)), hand := [] }

theorem put_lines (line : Text) : (l.put line).lines = l.lines ++ [line] := by
  simp [lines, put]

theorem rotate_lines (line : Text) : (l.rotate line).lines = l.lines ++ [line] := by
  simp [lines, rotate]

theorem swap_lines (idle : l.hand = []) : l.swap.lines = l.lines := by
  simp [lines, swap, idle]

theorem write_lines : l.write.lines = l.lines := by
  simp only [lines, write, List.flatten_append, linesOf_append, linesOf_items, List.flatten_nil,
    List.nil_append, List.append_assoc]

theorem storm_lines (stamp : Text) : (l.storm stamp).lines.Sublist l.lines := by
  have notice : linesOf [.notice stamp (l.hand.length - 2)] = [] := rfl
  simp only [lines, storm, List.flatten_append, List.flatten_cons, linesOf_append, linesOf_items, notice,
    List.flatten_nil, List.nil_append, List.append_assoc]
  have fewer : (l.hand.take 2).flatten.Sublist l.hand.flatten := by
    conv_rhs => rw [← List.take_append_drop 2 l.hand, List.flatten_append]
    exact List.sublist_append_left _ _
  exact (List.Sublist.refl _).append (fewer.append_right _)

end Ledger

def blockBytes (ptr : Option Buffer) : Text := (ptr.map (·.data)).getD []

theorem held_blocks (v : List (Option Buffer)) : held v = (v.map blockBytes).flatten :=
  List.flatMap_def

theorem held_single (ptr : Option Buffer) : held [ptr] = blockBytes ptr := by
  simp [held, blockBytes]

/-- The ledger is right about what was appended so far. -/
structure Lined (all : List Text) (s : AsyncLogging) (l : Ledger) : Prop where
  output : s.output = l.out.map (·.flatMap Item.text)
  hand : (taken s).map blockBytes = l.hand.map List.flatten
  full : s.buffers.map blockBytes = l.full.map List.flatten
  current : blockBytes s.currentBuffer = l.current.flatten
  spare : blockBytes s.nextBuffer = []
  clean : ∀ t, s.thread = some t → blockBytes t.newBuffer1 = [] ∧ blockBytes t.newBuffer2 = [] ∧
    (t.place ≠ .writing → t.buffersToWrite = [])
  order : l.lines.Sublist all
  whole : (∀ i ∈ l.out.flatten, i.line?.isSome) → l.lines = all

theorem Lined.fresh : Lined [] {} {} where
  output := rfl
  hand := rfl
  full := rfl
  current := rfl
  spare := rfl
  clean t runs := by cases runs
  order := List.Sublist.refl _
  whole _ := rfl

variable {all : List Text} {s next : AsyncLogging} {l : Ledger}

/-- The block that is taken away holds its lines. -/
theorem Lined.filled (lined : Lined all s l) :
    (s.buffers ++ [s.currentBuffer]).map blockBytes = (l.full ++ [l.current]).map List.flatten := by
  rw [List.map_append, lined.full, List.map_append, List.map_singleton, lined.current]
  rfl

theorem Lined.inHand (lined : Lined all s l) : AsyncLogging.inHand s = l.hand.flatten.flatten := by
  have same : AsyncLogging.inHand s = held (taken s) := by
    unfold AsyncLogging.inHand taken
    cases s.thread <;> rfl
  rw [same, held_blocks, lined.hand, List.flatten_flatten]

theorem Lined.front (lined : Lined all s l) :
    AsyncLogging.front s = (l.full.flatten ++ l.current).flatten := by
  rw [AsyncLogging.front, held_single, held_blocks, lined.full, lined.current, List.flatten_append,
    List.flatten_flatten]

/-- A line goes into the current block whole, or into the empty one that takes its place. -/
theorem Lined.append (lined : Lined all s l) {line : Text} (short : line.length < kLargeBuffer)
    (ran : s.append line = .ok next) : ∃ l', Lined (all ++ [line]) next l' := by
  have longer : (l.lines ++ [line]).Sublist (all ++ [line]) := lined.order.append_right _
  unfold AsyncLogging.append at ran
  cases here : s.currentBuffer with
  | none => simp [here, deref, bind, Except.bind] at ran
  | some current =>
    have held : current.data = l.current.flatten := by simpa [here, blockBytes] using lined.current
    have empty (b : Buffer) (none : b.data = []) : (b.append line).data = line := by
      rw [FixedBuffer.append_data b line (by simpa [FixedBuffer.avail, none] using short), none,
        List.nil_append]
    have full : (s.buffers ++ [some current]).map blockBytes = (l.rotate line).full.map List.flatten :=
      here ▸ lined.filled
    have order : (l.rotate line).lines.Sublist (all ++ [line]) := (l.rotate_lines line).symm ▸ longer
    have whole (none : ∀ i ∈ l.out.flatten, i.line?.isSome) : (l.rotate line).lines = all ++ [line] := by
      rw [l.rotate_lines, lined.whole none]
    simp only [here, deref, bind, Except.bind, pure, Except.pure] at ran
    split at ran
    next room =>
      cases ran
      refine ⟨l.put line, lined.output, lined.hand, lined.full, ?_, lined.spare, lined.clean,
        (l.put_lines line).symm ▸ longer, fun none => by rw [l.put_lines, lined.whole none]⟩
      simp [blockBytes, FixedBuffer.append_data current line room, held, Ledger.put]
    next =>
      cases next' : s.nextBuffer with
      | some buffer =>
        simp only [next', Except.ok.injEq] at ran
        subst ran
        have unused : buffer.data = [] := by simpa [next', blockBytes] using lined.spare
        exact ⟨l.rotate line, lined.output, lined.hand, full,
          by simp [blockBytes, empty buffer unused, Ledger.rotate], rfl, lined.clean, order, whole⟩
      | none =>
        simp only [next', Except.ok.injEq] at ran
        subst ran
        exact ⟨l.rotate line, lined.output, lined.hand, full,
          by simp [blockBytes, empty {} rfl, Ledger.rotate], rfl, lined.clean, order, whole⟩

/-- The swap hands all the blocks over as they are. -/
theorem Lined.swap (lined : Lined all s l) {t : Thread} (runs : s.thread = some t)
    (waiting : t.place ≠ .writing) : Lined all (s.swapBuffers t) l.swap := by
  obtain ⟨first, second, idle⟩ := lined.clean t runs
  have none := idle waiting
  have nothing : l.hand = [] := by
    have same := lined.hand
    simp only [taken, runs, Option.map_some, Option.getD_some, none, List.map_nil] at same
    exact List.map_eq_nil_iff.mp same.symm
  have lines := l.swap_lines nothing
  unfold swapBuffers
  simp only [none]
  split
  · refine ⟨lined.output, lined.filled, rfl, first, second, ?_, lines.symm ▸ lined.order,
      fun silent => by rw [lines, lined.whole silent]⟩
    rintro t ⟨⟩
    exact ⟨rfl, rfl, fun wrong => absurd rfl wrong⟩
  · refine ⟨lined.output, lined.filled, rfl, first, lined.spare, ?_, lines.symm ▸ lined.order,
      fun silent => by rw [lines, lined.whole silent]⟩
    rintro t ⟨⟩
    exact ⟨rfl, second, fun wrong => absurd rfl wrong⟩

theorem writeAll_blocks (v : List (Option Buffer)) (written : List (List UInt8))
    (done : writeAll v = .ok written) : written = v.map blockBytes := by
  induction v generalizing written with
  | nil => cases done; rfl
  | cons ptr rest ih =>
    cases ptr with
    | none => simp [writeAll, deref, bind, Except.bind] at done
    | some buffer =>
      obtain ⟨_, here, done⟩ := bind_ok done
      obtain ⟨more, later, done⟩ := bind_ok done
      cases here
      cases done
      rw [ih more later]
      rfl

/-- An iteration writes its blocks whole; a storm leaves some out, and says so. -/
theorem Lined.finish (lined : Lined all s l) {build : Build} {stamp : Text} {t : Thread}
    (runs : s.thread = some t) (ran : s.finishIteration build stamp t = .ok next) :
    ∃ l', Lined all next l' := by
  obtain ⟨first, second, _⟩ := lined.clean t runs
  obtain ⟨notice, kept, written, t', storm, wrote, recycled, rfl⟩ := finish_ok build stamp s next t ran
  obtain ⟨clean1, clean2, empty⟩ := recycle_clean { t with buffersToWrite := kept } t'
    (by rw [held_single]; exact first) (by rw [held_single]; exact second) recycled
  rw [held_single] at clean1 clean2
  have inHand : t.buffersToWrite.map blockBytes = l.hand.map List.flatten := by
    simpa [taken, runs] using lined.hand
  have counted : t.buffersToWrite.length = l.hand.length := by
    simpa using congrArg List.length inHand
  have idle : (t'.buffersToWrite).map blockBytes = ([] : List (List Text)).map List.flatten := by
    rw [empty]
    rfl
  cases writeAll_blocks kept written wrote
  by_cases many : 25 < t.buffersToWrite.length
  · cases (dropStorm_many stamp t.buffersToWrite many).symm.trans storm
    refine ⟨l.storm stamp, ?_, idle, lined.full, lined.current, lined.spare, ?_,
      (l.storm_lines stamp).trans lined.order, fun silent => ?_⟩
    · have blocks : (t.buffersToWrite.take 2).map blockBytes = (l.hand.take 2).map List.flatten := by
        rw [List.map_take, inHand, List.map_take]
      simp only [Ledger.storm, List.map_append, List.map_cons, itemsOf_text, lined.output, blocks,
        counted, List.cons_append, List.nil_append]
      simp [Item.text]
    · rintro t'' ⟨⟩
      exact ⟨clean1, clean2, fun _ => empty⟩
    · have wrong := silent (.notice stamp (l.hand.length - 2)) (by simp [Ledger.storm])
      cases wrong
  · cases (dropStorm_few stamp t.buffersToWrite (Nat.le_of_not_lt many)).symm.trans storm
    refine ⟨l.write, ?_, idle, lined.full, lined.current, lined.spare, ?_,
      l.write_lines.symm ▸ lined.order, fun silent => ?_⟩
    · simp only [Ledger.write, List.map_append, itemsOf_text, lined.output, inHand, List.nil_append]
    · rintro t'' ⟨⟩
      exact ⟨clean1, clean2, fun _ => empty⟩
    · rw [l.write_lines, lined.whole fun i member => silent i (by simp [Ledger.write, member])]

/-! ### Whole runs -/

/-- The lines that were appended. -/
def appended (steps : List Step) : List Text := steps.filterMap fun
  | .append logline => some logline
  | _ => none

theorem Lined.step (lined : Lined all s l) {build : Build} {a : Step}
    (short : ∀ line, a = .append line → line.length < kLargeBuffer)
    (ran : step build s a = .ok next) : ∃ l', Lined (all ++ appended [a]) next l' := by
  have other {a : Step} {l' : Ledger} {next : AsyncLogging} (none : appended [a] = [])
      (lined : Lined all next l') : ∃ l', Lined (all ++ appended [a]) next l' :=
    ⟨l', by rwa [none, List.append_nil]⟩
  cases step_cases build ran with
  | idle silent =>
    cases a with
    | append logline => exact absurd rfl (silent logline)
    | _ => exact other rfl lined
  | started free =>
    refine other rfl ⟨lined.output, ?_, lined.full, lined.current, lined.spare, ?_, lined.order,
      lined.whole⟩
    · simpa [taken, free] using lined.hand
    · rintro t ⟨⟩
      exact ⟨rfl, rfl, fun _ => rfl⟩
  | appended put => exact lined.append (short _ rfl) put
  | told => exact other rfl ⟨lined.output, lined.hand, lined.full, lined.current, lined.spare,
      lined.clean, lined.order, lined.whole⟩
  | joined runs place =>
    have empty := (lined.clean _ runs).2.2 (by simp [place])
    refine other rfl ⟨lined.output, ?_, lined.full, lined.current, lined.spare, ?_, lined.order,
      lined.whole⟩
    · simpa [taken, runs, empty] using lined.hand
    · rintro t ⟨⟩
  | entered runs place =>
    obtain ⟨first, second, idle⟩ := lined.clean _ runs
    refine other rfl ⟨lined.output, ?_, lined.full, lined.current, lined.spare, ?_, lined.order,
      lined.whole⟩
    · simpa [taken, runs] using lined.hand
    · rintro t ⟨⟩
      exact ⟨first, second, fun _ => idle (by simp [place])⟩
  | slept runs place =>
    obtain ⟨first, second, idle⟩ := lined.clean _ runs
    refine other rfl ⟨lined.output, ?_, lined.full, lined.current, lined.spare, ?_, lined.order,
      lined.whole⟩
    · simpa [taken, runs] using lined.hand
    · rintro t ⟨⟩
      exact ⟨first, second, fun _ => idle (by simp [place])⟩
  | swapped runs place => exact other rfl (lined.swap runs (by simp [place]))
  | woken runs place => exact other rfl (lined.swap runs (by simp [place]))
  | wrote runs place finish =>
    obtain ⟨l', lined'⟩ := lined.finish runs finish
    exact other rfl lined'

theorem run_lined (build : Build) {steps : List Step} (lined : Lined all s l)
    (short : ∀ line, .append line ∈ steps → line.length < kLargeBuffer)
    (ran : (machine build).run s steps = .ok next) : ∃ l', Lined (all ++ appended steps) next l' := by
  induction steps generalizing s all l with
  | nil =>
    cases ran
    exact ⟨l, by rwa [appended, List.filterMap_nil, List.append_nil]⟩
  | cons a rest ih =>
    obtain ⟨mid, moved, ran⟩ := Library.Machine.run_cons.mp ran
    obtain ⟨l', lined'⟩ := lined.step (fun line same => short line (by simp [same])) moved
    have later := ih lined' (fun line member => short line (by simp [member])) ran
    have split : appended ([a] ++ rest) = appended [a] ++ appended rest := List.filterMap_append
    rwa [List.append_assoc, ← split] at later

/-- In every run of the threads that log and the background thread, on a disk that takes everything,
for every schedule of the swaps, however often the files roll and wherever one session ends and the
next `start` opens files of its own: each file is a sequence of whole lines with the notices of storms
among them, and so is what is in hand and at the front; no line stands twice or out of order, and
lines are missing only where a notice says so. -/
theorem files_hold_whole_lines (build : Build) (steps : List Step) (s : AsyncLogging)
    (short : ∀ line, .append line ∈ steps → line.length < kLargeBuffer)
    (ran : (machine build).run {} steps = .ok s) (config : LogFileConfig)
    (sessions : List LogFile.Session) (opens : ∀ session ∈ sessions, ∀ n, session.env.opens n = true)
    (divided : sessions.flatMap (·.pieces) = s.output) :
    ∃ (archives : List LogFile.Archive) (files : List (List Item)) (hand front : List Text),
      sessions.mapM (LogFile.Session.filed config) = .ok archives ∧
      archives.flatMap (·.contents) = files.map (·.flatMap Item.text) ∧
      inHand s = hand.flatten ∧ AsyncLogging.front s = front.flatten ∧
      (linesOf files.flatten ++ (hand ++ front)).Sublist (appended steps) ∧
      ((∀ i ∈ files.flatten, i.line?.isSome) →
        linesOf files.flatten ++ (hand ++ front) = appended steps) := by
  obtain ⟨l, lined⟩ := run_lined build .fresh short ran
  obtain ⟨archives, files, filed, contents, flat⟩ := LogFile.sessions_placed Item.text config sessions
    opens l.out (divided.trans lined.output)
  refine ⟨archives, files, l.hand.flatten, l.full.flatten ++ l.current, filed, contents, ?_, ?_, ?_, ?_⟩
  · exact lined.inHand
  · exact lined.front
  · rw [flat]
    exact lined.order
  · rw [flat]
    exact lined.whole

/-- A record is swapped out and written; another start writes one more, and a third is at the front. -/
def twoSessions : List Step :=
  [.start, .enter, .lock, .append (utf8 "ready\n"), .wake, .stopFlag,
    .write (utf8 "20250101 00:00:00.000000"), .join, .start, .enter, .lock,
    .append (utf8 "again\n"), .wake, .write (utf8 "20250101 00:01:00.000000"),
    .append (utf8 "last\n")]

theorem files_hold_whole_lines_sample :
    ∃ (s : AsyncLogging) (archives : List LogFile.Archive) (files : List (List Item))
        (hand front : List Text),
      (machine .debug).run {} twoSessions = .ok s ∧ s.output = [utf8 "ready\n", utf8 "again\n"] ∧
      [LogFile.Session.mk LogFile.oneMoment 0 [utf8 "ready\n"],
        ⟨LogFile.oneMoment, 0, [utf8 "again\n"]⟩].mapM (LogFile.Session.filed ⟨0, 3, 1024⟩) =
          .ok archives ∧
      archives.flatMap (·.contents) = files.map (·.flatMap Item.text) ∧
      inHand s = hand.flatten ∧ AsyncLogging.front s = front.flatten ∧
      (linesOf files.flatten ++ (hand ++ front)).Sublist (appended twoSessions) ∧
      ((∀ i ∈ files.flatten, i.line?.isSome) →
        linesOf files.flatten ++ (hand ++ front) = appended twoSessions) := by
  have short (line : Text) (member : .append line ∈ twoSessions) : line.length < kLargeBuffer := by
    have either : line = utf8 "ready\n" ∨ line = utf8 "again\n" ∨ line = utf8 "last\n" := by
      simpa [twoSessions] using member
    rcases either with rfl | rfl | rfl <;> decide
  obtain ⟨s, ran, output⟩ : ∃ s, (machine .debug).run {} twoSessions = .ok s ∧
      s.output = [utf8 "ready\n", utf8 "again\n"] := ⟨_, rfl, rfl⟩
  obtain ⟨archives, files, hand, front, holds⟩ :=
    files_hold_whole_lines .debug twoSessions s short ran ⟨0, 3, 1024⟩
      [⟨LogFile.oneMoment, 0, [utf8 "ready\n"]⟩, ⟨LogFile.oneMoment, 0, [utf8 "again\n"]⟩]
      (by simp [LogFile.oneMoment]) (by rw [output]; rfl)
  exact ⟨s, archives, files, hand, front, ran, output, holds⟩

end AsyncLogging
end Mhost.Log
