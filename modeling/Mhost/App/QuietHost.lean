import Mhost.App.CalmHost
import Mhost.App.Quiet

/-!
# Handlers that neither move nor enable

The handlers that only talk, and what ends an upgrade or waits for its child: they leave the
link alone too.
-/
namespace Mhost.App.ChassisHost
open Library (Text utf8)
open Proto Link Serial Ota

structure Quietly (h h' : ChassisHost) : Prop where
  conSm : h'.conSm = h.conSm
  core : Core.Quiet (h.serial, h.base) (h'.serial, h'.base)

variable {w : World} {h h' h'' : ChassisHost}

theorem Calmly.quietly (calm : Calmly h h') : Quietly h h' :=
  ⟨calm.conSm, calm.core.isOpen, calm.core.env.quiet⟩

namespace Quietly

theorem refl (h : ChassisHost) : Quietly h h := ⟨rfl, .refl _⟩

theorem either {p : Prop} [Decidable p] {yes no : ChassisHost} (left : p → Quietly h yes)
    (right : ¬ p → Quietly h no) : Quietly h (if p then yes else no) :=
  iteInduction (motive := Quietly h) left right

variable (before : Quietly h h')
include before

/-! ### Parts of a handler -/

theorem onCore {f : Core → Core} (quiet : Core.Quiet (h'.serial, h'.base) (f (h'.serial, h'.base))) :
    Quietly h (h'.onCore f) :=
  ⟨before.conSm, fun opened => before.core.isOpen (quiet.isOpen opened),
    before.core.env.trans quiet.env⟩

theorem onBase {f : Base → Base} (quiet : Base.Quiet h'.base (f h'.base)) :
    Quietly h (h'.onBase f) :=
  ⟨before.conSm, before.core.isOpen, before.core.env.trans quiet⟩

theorem calm (calm : Calmly h' h'') : Quietly h h'' :=
  ⟨calm.conSm.trans before.conSm, fun opened => before.core.isOpen (calm.core.isOpen opened),
    before.core.env.trans calm.core.env.quiet⟩

theorem reply (c : Conn) (text : Text) : Quietly h (h'.reply c text) :=
  before.calm ((Calmly.refl h').reply c text)

/-- A frame that neither moves nor enables. -/
theorem sendFrame {type : UInt8} (payload : List UInt8)
    (harmless : (Entry.frame type payload).quiet = true) :
    Quietly h (h'.sendFrame w type payload).2 :=
  before.onCore (f := fun s => (sendFrameToBoard w type payload s).2)
    (sendFrameToBoard_harmless w type payload _ harmless)

theorem onFlasher {f : OtaFlasher Unit × Base → OtaFlasher Unit × Base}
    (quiet : ∀ flasher, Base.Quiet h'.base (f (flasher, h'.base)).2) :
    Quietly h (h'.onFlasher f) := by
  unfold ChassisHost.onFlasher
  cases h'.flasher with
  | none => exact before
  | some flasher => exact ⟨before.conSm, before.core.isOpen, before.core.env.trans (quiet flasher)⟩

/-! ### Upgrades -/

theorem cmdFlashAbort (c : Conn) (tok : List Text) : Quietly h (cmdFlashAbort w c tok h') := by
  unfold ChassisHost.cmdFlashAbort
  split
  · exact before.reply c _
  · split
    · exact before.reply c _
    · split
      · exact before.reply c _
      · exact before.onBase (otaFinish_quiet (.refl _) _)
      · split
        · exact (before.reply c _).onFlasher fun _ =>
            OtaFlasher.killGroup_keeps (flasherEnv_keeps w _) (.refl _)
        · exact before.reply c _
      · exact before.onBase (otaFinish_quiet (.refl _) _)

theorem childEvent (due : OtaFlasher Unit → Bool)
    {f : OtaFlasher Unit × Base → OtaFlasher Unit × Base}
    (quiet : ∀ flasher, Base.Quiet h'.base (f (flasher, h'.base)).2) :
    Quietly h (childEvent due f h') :=
  .either (fun _ => before.onFlasher quiet) (fun _ => before)

end Quietly
end Mhost.App.ChassisHost
