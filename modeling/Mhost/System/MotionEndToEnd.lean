import Mhost.App.GovernedHost
import Mhost.System.CommandsArrive
import Mhost.System.HostAndBoard

/-!
# From a client's command to the motors

ChassisHost.cc, SerialPort.cc and tools/mock_board.cc together. The rules by which the host hands
out frames and those by which the board obeys them, joined over the line between them.
-/
namespace Mhost.System
open Library (Text)
open Proto App Serial Tools.Simulator

variable {w : World} {ar : Arith} {l : Line}

/-! ### Both ends run -/

theorem Reached.host_run (reached : Reached w ar l) :
    ∃ events, l.host = ChassisHost.run w events := by
  induction reached with
  | refl => exact ⟨[], rfl⟩
  | tail _ step ih =>
    obtain ⟨events, same⟩ := ih
    cases step with
    | host e =>
      refine ⟨events ++ [e], ?_⟩
      rw [ChassisHost.run, List.foldl_append]
      exact congrArg (ChassisHost.handle w · e) same
    | reads => exact ⟨events, same⟩
    | beats => exact ⟨events, same⟩

theorem Reached.board_run (reached : Reached w ar l) : ∃ doings, l.rig = Rig.run ar doings := by
  induction reached with
  | refl => exact ⟨[], rfl⟩
  | tail _ step ih =>
    obtain ⟨doings, same⟩ := ih
    have more (d : Doing) : (Rig.run ar doings).doing ar d = Rig.run ar (doings ++ [d]) := by
      rw [Rig.run, Rig.run, List.foldl_append]
      rfl
    cases step with
    | host => exact ⟨doings, same⟩
    | reads clock bytes => exact ⟨_, (congrArg (Rig.doing ar · _) same).trans (more (.feed clock bytes))⟩
    | beats now => exact ⟨_, (congrArg (Rig.doing ar · _) same).trans (more (.pump now))⟩

theorem Reached.governed (reached : Reached w ar l) : l.host.Governed w False := by
  obtain ⟨events, same⟩ := reached.host_run
  rw [same]
  exact ChassisHost.run_governed w events

theorem Reached.obeys (reached : Reached w ar l) : Obeys ar l.rig := by
  obtain ⟨doings, same⟩ := reached.board_run
  rw [same]
  exact Obeys.run ar doings

/-! ### What was handled was sent -/

theorem sent_of_numbered {packets : List Packet} {seq : UInt8} {f : Frame}
    (member : f ∈ numbered seq packets) : ∃ packet ∈ packets, ∃ seq, f = packet.decoded seq := by
  obtain ⟨i, inside, rfl⟩ := List.mem_mapIdx.mp member
  exact ⟨_, List.getElem_mem inside, _, rfl⟩

theorem entry_of_packet {journal : List Entry} {packet : Packet}
    (member : packet ∈ packetsOf journal) :
    ∃ past e future, journal = past ++ e :: future ∧ e.packet? = some packet := by
  obtain ⟨e, listed, found⟩ := List.mem_filterMap.mp member
  obtain ⟨past, future, split⟩ := List.append_of_mem listed
  exact ⟨past, e, future, split, found⟩

end Mhost.System
