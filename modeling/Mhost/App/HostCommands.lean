import Mhost.App.HostLink

/-!
# The commands of the TCP clients

ChassisHost.cc:22-29, 188-534, 624-687, 847-868. Every command is a function of the host,
the connection and, where it takes any, its tokens.
-/
namespace Mhost.App
open Library (Text utf8 decimal)
open Proto Link Serial Ota

structure ChassisHost where
  conSm : ConSm := {}
  serial : SerialPort := {}
  flasher : Option (OtaFlasher Unit) := none
  base : Base := {}
  deriving DecidableEq, Repr

namespace ChassisHost

/-! ### Running a part of the host -/

def onBase (h : ChassisHost) (f : Base → Base) : ChassisHost := { h with base := f h.base }

def onCore (h : ChassisHost) (f : Core → Core) : ChassisHost :=
  let (serial, base) := f (h.serial, h.base)
  { h with serial, base }

/-- A call into the link, which may send and may call back. -/
def onLink (h : ChassisHost) (f : ConSm × Core → ConSm × Core) : ChassisHost :=
  let (conSm, serial, base) := f (h.conSm, (h.serial, h.base))
  { h with conSm, serial, base }

/-- A call into the flasher, if there is one. -/
def onFlasher (h : ChassisHost) (f : OtaFlasher Unit × Base → OtaFlasher Unit × Base) :
    ChassisHost :=
  match h.flasher with
  | none => h
  | some flasher =>
      let (flasher, base) := f (flasher, h.base)
      { h with flasher := some flasher, base }

def reply (h : ChassisHost) (c : Conn) (text : Text) : ChassisHost :=
  h.onBase fun b => b.sendTo c text

def otaBusy (h : ChassisHost) : Bool := h.base.ota.otaState ≠ .none

variable (w : World)

/-- A frame for the board, and whether the port took it. -/
def sendFrame (type : UInt8) (payload : List UInt8) (h : ChassisHost) : Bool × ChassisHost :=
  (h.serial.isOpen, h.onCore fun s => (sendFrameToBoard w type payload s).2)

def clock (h : ChassisHost) : Nat × ChassisHost :=
  let (now, base) := steadyMs w h.base
  (now, { h with base })

/-! ### Parsing -/

def isSpace (c : UInt8) : Bool := c = 32 ∨ (9 ≤ c ∧ c ≤ 13)

/-- `iss >> w` until the end of the line. -/
def splitTokens (line : Text) : List Text := (line.splitBy fun a b => !isSpace a && !isSpace b)
  |>.filter fun word => !word.all isSpace

/-- All of the token must be a number; `strtod` stops at a NUL byte as at the end. -/
def parseDouble (fl : Floats) (s : Text) : Option F64 :=
  if s.isEmpty then none
  else
    let (v, used) := fl.strtod s
    if used = 0 then none
    else
      match s[used]? with
      | none => some v
      | some c => if c = 0 then some v else none

/-- The parameters of `v` and `rpm`, or the first one that is no number. -/
def parseParams (fl : Floats) : List Text → Except Text (List F64)
  | [] => .ok []
  | token :: rest =>
      match parseDouble fl token with
      | none => .error token
      | some v =>
          match parseParams fl rest with
          | .ok more => .ok (v :: more)
          | .error bad => .error bad

/-- Three floats, zero where no parameter was given. -/
def toFloats (fl : Floats) (v : List F64) : Vector F32 3 :=
  Vector.ofFn fun i => fl.narrow (v.getD i.val ⟨0⟩)

def isAlnum (c : UInt8) : Bool :=
  (48 ≤ c ∧ c ≤ 57) ∨ (65 ≤ c ∧ c ≤ 90) ∨ (97 ≤ c ∧ c ≤ 122)

def isSafeFirmwareName (name : Text) : Bool :=
  name.length ≥ 5 && (utf8 ".hex").isSuffixOf name &&
    name.all (fun c => isAlnum c || c = 46 || c = 95 || c = 45) && !contains (utf8 "..") name

/-! ### Speed and enable -/

def cmdTwist (c : Conn) (tok : List Text) (h : ChassisHost) : ChassisHost :=
  if tok.length < 2 ∨ tok.length > 4 then h.reply c (utf8 "err 用法: v <vx> [vy] [wz]\n")
  else
    match parseParams w.fl tok.tail with
    | .error bad => h.reply c (utf8 "err 参数非法: " ++ bad ++ utf8 "\n")
    | .ok v =>
        let twist := toFloats w.fl v
        let h := h.onBase fun b =>
          { b with speed := { b.speed with twist, cmdMode := .twist, speedConn := some c } }.note
            (.twist c twist)
        let shown := fun i : Fin 3 => jnum w.fl (w.fl.widen twist[i]) "%.3f"
        h.reply c (utf8 "ok twist vx=" ++ shown 0 ++ utf8 " vy=" ++ shown 1 ++ utf8 " wz=" ++
          shown 2 ++ (if h.conSm.comm = .ready then utf8 "（已下发，10Hz 重发中）\n"
            else utf8 "（链路未就绪，建链后生效）\n"))

def cmdRpm (c : Conn) (tok : List Text) (h : ChassisHost) : ChassisHost :=
  if tok.length < 2 ∨ tok.length > 4 then h.reply c (utf8 "err 用法: rpm <r1> [r2] [r3]\n")
  else
    match parseParams w.fl tok.tail with
    | .error bad => h.reply c (utf8 "err 参数非法: " ++ bad ++ utf8 "\n")
    | .ok v =>
        let rpm := toFloats w.fl v
        let h := h.onBase fun b =>
          { b with speed := { b.speed with rpm, cmdMode := .rpm, speedConn := some c } }.note
            (.rpm c rpm)
        h.reply c (utf8 "ok rpm " ++ jArr3 w.fl rpm "%.1f" ++ utf8 "（已登记，10Hz 重发中）\n")

def cmdStop (c : Conn) (h : ChassisHost) : ChassisHost :=
  let h := h.onBase fun b => { b with speed := { b.speed with cmdMode := .none, speedConn := none } }
  let (sent, h) := h.sendFrame w ptCmdStop []
  h.reply c (if sent then utf8 "ok stop\n" else utf8 "err stop: 串口未打开\n")

def cmdEnable (c : Conn) (tok : List Text) (h : ChassisHost) : ChassisHost :=
  if tok.length ≠ 2 ∨ (tok.getD 1 [] ≠ utf8 "0" ∧ tok.getD 1 [] ≠ utf8 "1") then
    h.reply c (utf8 "err 用法: en <0|1>\n")
  else
    let (now, h) := h.clock w
    if tok.getD 1 [] = utf8 "1" then
      let h := h.onBase fun b =>
        { b with userDisabled := false, lastEnSentMs := now }.note (.enable c true)
      let (_, h) := h.sendFrame w ptCmdEn (packCmdEn true)
      let h :=
        if h.conSm.state = .disconnected then
          h.onLink fun s => (ConSm.connect (conCallbacks w) now s).2
        else h
      h.reply c (utf8 "ok en=1（并自动建链）\n")
    else
      let h := h.onBase fun b =>
        { b with userDisabled := true, speed := { b.speed with cmdMode := .none } }.note
          (.enable c false)
      let (_, h) := h.sendFrame w ptCmdEn (packCmdEn false)
      let h := h.onLink fun s => (ConSm.disconnect (conCallbacks w) now s).2
      h.reply c (utf8 "ok en=0（已拆链，重连后仍保持失能）\n")

/-! ### Parameters of the board -/

def cmdPid (c : Conn) (tok : List Text) (h : ChassisHost) : ChassisHost :=
  let usage := utf8 "err 用法: pid <kp> <ki> <kd>\n"
  if tok.length ≠ 4 then h.reply c usage
  else
    match parseParams w.fl tok.tail with
    | .error _ => h.reply c usage
    | .ok v =>
        let gain := toFloats w.fl v
        let (sent, h) := h.sendFrame w ptCmdPid (packCmdPid gain[0] gain[1] gain[2])
        let shown := fun i => jnum w.fl (v.getD i ⟨0⟩) "%.4g"
        h.reply c
          (if sent then utf8 "ok pid " ++ shown 0 ++ utf8 " " ++ shown 1 ++ utf8 " " ++ shown 2 ++
            utf8 "\n"
          else utf8 "err pid: 串口未打开\n")

def cmdSign (c : Conn) (tok : List Text) (h : ChassisHost) : ChassisHost :=
  if tok.length ≠ 4 then h.reply c (utf8 "err 用法: sign <s1> <s2> <s3>（±1）\n")
  else
    match parseParams w.fl tok.tail with
    | .error bad => h.reply c (utf8 "err 参数非法: " ++ bad ++ utf8 "\n")
    | .ok v =>
        let sign : Vector Bool 3 := Vector.ofFn fun i => w.fl.nonneg (v.getD i.val ⟨0⟩)
        let (sent, h) := h.sendFrame w ptCmdSign (packCmdSign sign)
        let shown := fun i : Fin 3 => utf8 (if sign[i] then "1" else "-1")
        h.reply c
          (if sent then utf8 "ok sign " ++ shown 0 ++ utf8 " " ++ shown 1 ++ utf8 " " ++ shown 2 ++
            utf8 "\n"
          else utf8 "err sign: 串口未打开\n")

def cmdPing (c : Conn) (h : ChassisHost) : ChassisHost :=
  if !h.serial.isOpen then h.reply c (utf8 "err ping: 串口未打开\n")
  else
    let (now, h) := h.clock w
    let lastPingId := UInt32.ofNat now
    let h := h.onBase fun b =>
      { b with ping := { lastPingId, lastPingSentMs := now, pingConn := some c } }
    (h.sendFrame w ptCmdPing (packPing lastPingId)).2

/-! ### Queries -/

def cmdWatch (c : Conn) (arg : Text) (h : ChassisHost) : ChassisHost :=
  let on :=
    if arg = utf8 "on" then true else if arg = utf8 "off" then false
    else c ∉ h.base.watchers
  let h := h.onBase fun b =>
    { b with watchers :=
        if on then (if c ∈ b.watchers then b.watchers else b.watchers ++ [c])
        else b.watchers.filter (· ≠ c) }
  h.reply c (utf8 "ok watch=" ++ utf8 (if on then "on" else "off") ++ utf8 "\n")

def otaStateName : OtaState → Text
  | .none => utf8 "none"
  | .quiescing => utf8 "quiescing"
  | .flashing => utf8 "flashing"
  | .recovering => utf8 "recovering"

/-- The summary, for the elapsed time `uptime`. -/
def statSummary (uptime : F64) (h : ChassisHost) : Text :=
  let shown := fun (v : Vector F32 3) fmt =>
    joinComma (v.toList.map fun x => jnum w.fl (w.fl.widen x) fmt)
  let cmd := match h.base.speed.cmdMode with
    | .none => utf8 "none"
    | .twist => utf8 "twist(" ++ shown h.base.speed.twist "%.3f" ++ utf8 ")"
    | .rpm => utf8 "rpm(" ++ shown h.base.speed.rpm "%.1f" ++ utf8 ")"
  let st := h.base.parser.stats
  appendf []
    (utf8 "serial=" ++ utf8 (if h.serial.isOpen then "up" else "down") ++
      utf8 " con=" ++ utf8 h.conSm.state.name ++ utf8 "/" ++ utf8 h.conSm.comm.name ++
      utf8 " cmd=" ++ cmd ++ utf8 " ota=" ++ otaStateName h.base.ota.otaState ++
      utf8 " tx=" ++ decimal h.base.txFrames ++ utf8 " frames=" ++ decimal st.frames ++
      utf8 " crc=" ++ decimal st.crcErr ++ utf8 " drop=" ++ decimal st.drop ++
      utf8 " uptime=" ++ w.fl.print "%.1f" uptime ++ utf8 "s")

def cmdStat (c : Conn) (h : ChassisHost) : ChassisHost :=
  let uptime := w.os.uptime h.base.asked
  let h := h.onBase Base.answered
  h.reply c (utf8 "ok " ++ h.statSummary w uptime ++ utf8 "\n")

def cmdCon (c : Conn) (h : ChassisHost) : ChassisHost :=
  let s := utf8 "ok con state=" ++ utf8 h.conSm.state.name ++ utf8 " comm=" ++
    utf8 h.conSm.comm.name ++ utf8 " lastFrame="
  if h.base.lastFrameMs = 0 then h.reply c (s ++ utf8 "never" ++ utf8 "\n")
  else
    let (now, h) := h.clock w
    let ago := (now + 2 ^ 64 - h.base.lastFrameMs) % 2 ^ 64
    h.reply c (appendf s (decimal ago ++ utf8 "ms-ago") ++ utf8 "\n")

def helpText : Text := utf8 <|
  "ok 命令列表:\n" ++
  "  v <vx> [vy] [wz]    车体速度 m/s、rad/s（CMD_TWIST，宿主 10Hz 重发）\n" ++
  "  rpm <r1> [r2] [r3]  三电机输出轴转速 rpm（CMD_VEL）\n" ++
  "  stop                刹车并停止重发（CMD_STOP）\n" ++
  "  en <0|1>            电机使能（1=使能+自动建链；0=失能+拆链）\n" ++
  "  pid <kp> <ki> <kd>  设置 PID（CMD_PID）\n" ++
  "  sign <s1> <s2> <s3> 编码器方向校正 ±1（CMD_SIGN）\n" ++
  "  ping                测板端 RTT\n" ++
  "  watch [on|off]      订阅/退订 JSON 遥测流\n" ++
  "  flash <name.hex>    远程固件烧录（仅本机连接；文件须在固件目录内\n" ++
  "                      且配对 .manifest.json；完成后保持失能）\n" ++
  "  flash_status        烧录状态/进度\n" ++
  "  flash_abort [force] 取消烧录（擦写中需 force：杀进程组，板留在 BL）\n" ++
  "  stat | con | quit   统计 / CON 状态 / 断开\n"

def cmdHelp (c : Conn) (h : ChassisHost) : ChassisHost := h.reply c helpText

/-! ### Upgrade -/

def isLoopbackConn (c : Conn) : Bool := c.ip = utf8 "127.0.0.1" ∨ c.ip = utf8 "::1"

def firmwarePath (name : Text) : Text := w.opts.firmwareDir ++ utf8 "/" ++ name

def cmdFlash (c : Conn) (tok : List Text) (h : ChassisHost) : ChassisHost :=
  if tok.length ≠ 2 then
    h.reply c (utf8 "err 用法: flash <文件名.hex>（仅文件名，文件位于固件目录）\n")
  else if !isLoopbackConn c then
    h.reply c (utf8 "err flash 仅接受本机回环连接（SSH 到车端后 nc 127.0.0.1 9000）\n")
  else if h.otaBusy then
    h.reply c (utf8 "err flash: 已有任务进行中（" ++ otaStateName h.base.ota.otaState ++
      utf8 "），flash_status 查看\n")
  else if w.opts.flashDev.isEmpty ∨ w.opts.flashScript.isEmpty then
    h.reply c (utf8 <| "err flash: 未配置烧录链路（启动参数 --flash-dev / " ++
      "--flash-script，见 docs/protocol-tcp.md）\n")
  else
    let name := tok.getD 1 []
    if !isSafeFirmwareName name then
      h.reply c (utf8 "err flash: 文件名非法（仅收固件目录内的 .hex 文件名）\n")
    else
      let readable := w.os.access h.base.asked
      let h := h.onBase Base.answered
      if !readable then
        h.reply c (utf8 "err flash: 文件不存在 " ++ firmwarePath w name ++ utf8 "\n")
      else
        let (now, h) := h.clock w
        let h := h.onBase fun b =>
          { b with
            ota :=
              { otaFile := name, otaConn := some c, otaStage := utf8 "-", otaLastLine := []
                otaCliLineCount := 0, otaState := .quiescing, otaPhaseStartMs := now }
            speed := { b.speed with cmdMode := .none, speedConn := none }
            userDisabled := true }.note (.flash c name)
        let (_, h) := h.sendFrame w ptCmdStop []
        let (_, h) := h.sendFrame w ptCmdEn (packCmdEn false)
        let h := h.reply c (utf8 "ok flash: 停车确认中（等 STATUS en=0，超时 " ++
          decimal w.opts.quiesceTimeoutMs ++ utf8 "ms）\n")
        h.onBase fun b => b.broadcastAll
          (utf8 "\x7b\"t\":\"ota\",\"state\":\"quiescing\",\"file\":\"" ++ name ++ utf8 "\"\x7d")

def flashArgv (otaFile : Text) : List Text :=
  [w.opts.flashPython, utf8 "-u", w.opts.flashScript, utf8 "--flash", w.opts.flashDev,
    firmwarePath w otaFile, utf8 "--tool", w.opts.flashTool]

/-- The board is about to reset, so the link is dropped without a word. -/
def otaBeginFlasher (h : ChassisHost) : ChassisHost :=
  let (now, h) := (h.onBase fun b => { b with ota := { b.ota with otaState := .flashing } }).clock w
  let h := h.onBase fun b => { b with ota := { b.ota with otaPhaseStartMs := now } }
  let h := h.onLink fun s => ConSm.reset (conCallbacks w) s
  let flasher := h.flasher.getD {}
  let (started, flasher, base) :=
    OtaFlasher.start (flasherEnv w) (flashArgv w h.base.ota.otaFile) () (flasher, h.base)
  let h := { h with flasher := some flasher, base }
  if !started then
    h.onBase (otaFinish (utf8 "err flash: 子进程启动失败（检查 --flash-script / 解释器）"))
  else
    h.onBase fun b =>
      (otaSendProgress (utf8 "ok flash: 烧录子进程已启动（" ++ b.ota.otaFile ++ utf8 "）") b).broadcastAll
        (utf8 "\x7b\"t\":\"ota\",\"state\":\"flashing\"\x7d")

def cmdFlashStatus (c : Conn) (h : ChassisHost) : ChassisHost :=
  let s := utf8 "ok flash_status state=" ++ otaStateName h.base.ota.otaState
  let alive := h.flasher.any (·.running)
  let s :=
    if h.otaBusy then
      appendf s (utf8 " file=" ++ h.base.ota.otaFile ++ utf8 " stage=" ++ h.base.ota.otaStage ++
        utf8 " child=" ++ utf8 (if alive then "alive" else "none"))
    else s
  h.reply c (s ++ utf8 "\n")

def cmdFlashAbort (c : Conn) (tok : List Text) (h : ChassisHost) : ChassisHost :=
  if !isLoopbackConn c then h.reply c (utf8 "err flash_abort 仅接受本机回环连接\n")
  else if tok.length > 2 ∨ (tok.length = 2 ∧ tok.getD 1 [] ≠ utf8 "force") then
    h.reply c (utf8 "err 用法: flash_abort [force]\n")
  else
    match h.base.ota.otaState with
    | .none => h.reply c (utf8 "err flash_abort: 无进行中的烧录任务\n")
    | .quiescing =>
        h.onBase (otaFinish (utf8 "ok flash_abort: 擦除尚未开始，已取消；电机保持失能"))
    | .flashing =>
        if tok.length = 2 then
          let h := h.reply c (utf8 <| "ok flash_abort force: 已向进程组发 TERM（0.5s 后 KILL），" ++
            "退出后自动收尾；板子留在 bootloader，可重试 flash\n")
          h.onFlasher (OtaFlasher.killGroup (flasherEnv w))
        else
          h.reply c (utf8 <| "err flash_abort: 擦写进行中，中止会留下半份固件" ++
            "（bootloader 无恙，重烧可恢复）。确认请用: flash_abort force\n")
    | .recovering =>
        h.onBase (otaFinish (utf8 "ok flash_abort: 已退出恢复等待，CON 由看门狗继续自动重建"))

/-! ### Dispatch -/

/-- What the busy gate lets through during an upgrade. -/
def busyCommands : List Text :=
  ["flash_status", "flash_abort", "stat", "con", "help", "quit", "exit", "watch", "stop"].map utf8

def shutdown (c : Conn) (h : ChassisHost) : ChassisHost :=
  h.onBase fun b => { b with halfClosed := b.halfClosed ++ [c] }

def handleCommand (c : Conn) (tok : List Text) (h : ChassisHost) : ChassisHost :=
  match tok with
  | [] => h
  | cmd :: _ =>
      let h := h.onBase fun b => b.note (.command c tok)
      if h.otaBusy ∧ cmd ∉ busyCommands then
        h.reply c (utf8 "err busy: 固件升级进行中（" ++ otaStateName h.base.ota.otaState ++
          utf8 "），flash_status 查看 / flash_abort 取消\n")
      else if cmd = utf8 "v" then cmdTwist w c tok h
      else if cmd = utf8 "rpm" then cmdRpm w c tok h
      else if cmd = utf8 "stop" then cmdStop w c h
      else if cmd = utf8 "en" then cmdEnable w c tok h
      else if cmd = utf8 "pid" then cmdPid w c tok h
      else if cmd = utf8 "sign" then cmdSign w c tok h
      else if cmd = utf8 "ping" then cmdPing w c h
      else if cmd = utf8 "watch" then cmdWatch c (tok.getD 1 []) h
      else if cmd = utf8 "stat" then cmdStat w c h
      else if cmd = utf8 "con" then cmdCon w c h
      else if cmd = utf8 "flash" then cmdFlash w c tok h
      else if cmd = utf8 "flash_status" then cmdFlashStatus c h
      else if cmd = utf8 "flash_abort" then cmdFlashAbort w c tok h
      else if cmd = utf8 "help" then cmdHelp c h
      else if cmd = utf8 "quit" ∨ cmd = utf8 "exit" then h.shutdown c
      else h.reply c (utf8 "err 未知命令 '" ++ cmd ++ utf8 "'，输入 help 查看命令\n")

end ChassisHost
end Mhost.App
