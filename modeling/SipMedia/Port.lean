import SipMedia.Pipeline
import SipMedia.Watchdog

/-!
# The media port

Reference: `pkg/sip/media_port.go` (`MediaPort`, `NewMediaPortWith`, `MediaPort.SetConfig`,
`MediaPort.setupOutput`, `MediaPort.setupInput`, `MediaPort.Close`, `MediaPort.WriteAudioTo`,
`MediaPort.GetAudioWriter`, `MediaPort.HandleDTMF`, `MediaPort.WriteDTMF`,
`MediaPort.SetDTMFAudio`, `MediaPort.EnableOut`, `MediaPort.DisableOut`, `MediaPort.Config`).

The port's fields, the two switch writers and the udp channel form one state; each public
operation is a function of it. `SetConfig` and `Close` run under the port's lock and
`SetConfig` never overlaps itself or `Close`. `WriteAudioTo` takes no lock: it reads `p.conf`,
which only `SetConfig` writes, and its one write is the atomic `Swap` of `audioIn`, which
`SetConfig` does not touch, so it too is one step at the point of its `Swap`. A history of calls is
then a list of `Op`s, replayed by `runPort`. The session library's answers during `SetConfig`
come with the call (`SessionEnv`). The state also keeps, for the proofs, every resource the port
created and every `Close` it called on one; identities are drawn from `nextId`.
-/

namespace SipMedia

/-- `msdk.SwitchWriter`: the writer it forwards to, and the `Enable`/`Disable` gate. -/
structure SwitchWriter where
  target : Option Writer
  enabled : Bool
  deriving DecidableEq, Repr

/-- `msdk.NewSwitchWriter(sampleRate)`. -/
def SwitchWriter.new : SwitchWriter := ⟨none, true⟩

/-- `Swap(w)`: install `w` and return the writer it displaces. -/
def SwitchWriter.swap (s : SwitchWriter) (w : Option Writer) : SwitchWriter × Option Writer :=
  ({ s with target := w }, s.target)

@[simp] theorem SwitchWriter.swap_fst (s : SwitchWriter) (w : Option Writer) :
    (s.swap w).1 = { s with target := w } := rfl

@[simp] theorem SwitchWriter.swap_snd (s : SwitchWriter) (w : Option Writer) :
    (s.swap w).2 = s.target := rfl

/-- A resource the port creates and has to close. -/
inductive Resource where
  | session (id : Nat)
  | chain (id : Nat)
  | writer (w : Writer)
  | conn
  deriving DecidableEq, Repr

/-- A handler chain stored in `p.hnd`: the pointer's identity and the chain. -/
structure Chain where
  id : Nat
  root : Handler
  deriving DecidableEq, Repr

/-- `hnd.String()` of a stored chain. -/
instance : ToString Chain := ⟨fun ch => toString ch.root⟩

/-- `MediaPort`'s fields that the modelled operations read or write, and the resources the port
created and closed so far. -/
structure MediaPort where
  closed : Bool
  dtmfAudioEnabled : Bool
  jitterEnabled : Bool
  conf : Option MediaConf
  sess : Option Nat
  hnd : Option Chain
  dtmfOutRTP : Option Stream
  dtmfOutAudio : Option Writer
  audioOutRTP : Option Stream
  audioOut : SwitchWriter
  audioIn : SwitchWriter
  audioInHandler : Option Handler
  dtmfIn : Option Nat
  port : UdpConn
  nextId : Nat
  created : List Resource
  loops : List Nat
  closes : List Resource
  deriving DecidableEq, Repr

/-- `NewMediaPortWith` over an already bound connection. -/
def newMediaPortWith (opts : MediaOptions) : MediaPort where
  closed := false
  dtmfAudioEnabled := false
  jitterEnabled := opts.withDefaults.enableJitterBuffer
  conf := none
  sess := none
  hnd := none
  dtmfOutRTP := none
  dtmfOutAudio := none
  audioOutRTP := none
  audioOut := .new
  audioIn := .new
  audioInHandler := none
  dtmfIn := none
  port := newUDPConn
  nextId := 0
  created := []
  loops := []
  closes := []

/-- What the session library answers during `SetConfig`: the error of `srtp.NewSession` (only
asked for a keyed call) and the error of `OpenWriteStream`. -/
structure SessionEnv where
  newSessionErr : Option String
  openWriteStreamErr : Option String
  deriving DecidableEq, Repr

/-- The error of the session constructor `SetConfig` calls: `srtp.NewSession` for a keyed call,
`rtp.NewSession`, which cannot fail, otherwise. -/
def SessionEnv.sessionErr (env : SessionEnv) (c : MediaConf) : Option String :=
  match c.crypto with
  | some _ => env.newSessionErr
  | none => none

/-- The errors `SetConfig` returns. -/
inductive ConfigError where
  | alreadyClosed
  | newSession (err : String)
  | openWriteStream (err : String)
  deriving DecidableEq, Repr

/-- The error's text. -/
def ConfigError.msg : ConfigError → String
  | .alreadyClosed => "media is already closed"
  | .newSession err => err
  | .openWriteStream err => err

/-- What goes wrong in a Go call instead of returning: a nil pointer dereference. -/
inductive Fault where
  | nilDeref
  deriving DecidableEq, Repr

namespace MediaPort

/-- `setupOutput`, run under the lock with `p.conf = c` and `p.sess = sess`. -/
def setupOutput (p : MediaPort) (c : MediaConf) (sess : Nat) (env : SessionEnv) :
    MediaPort × Except ConfigError Unit :=
  if p.closed then (p, .error .alreadyClosed) else
  let p := { p with loops := p.loops ++ [sess] }
  match env.openWriteStreamErr with
  | some err => (p, .error (.openWriteStream err))
  | none =>
    let seq := p.nextId
    let audioOutRTP : Stream := ⟨sess, seq, c.audio.type, c.audio.codec.rtpClockRate⟩
    let p := { p with nextId := seq + 1, audioOutRTP := some audioOutRTP }
    let audioOut := Writer.encoder c.audio.codec audioOutRTP
    let (p, audioOut) :=
      if c.audio.dtmfType ≠ 0 then
        let p := { p with dtmfOutRTP := some ⟨sess, seq, c.audio.dtmfType, dtmfSampleRate⟩ }
        if p.dtmfAudioEnabled then
          let mix := p.nextId
          let dtmfOutAudio := Writer.mixerInput mix audioOut 1
          ({ p with
              nextId := mix + 1
              dtmfOutAudio := some dtmfOutAudio
              created := p.created ++ [Resource.writer dtmfOutAudio] },
            Writer.mixerInput mix audioOut 0)
        else (p, audioOut)
      else (p, audioOut)
    let (sw, old) := p.audioOut.swap (some audioOut)
    ({ p with
        audioOut := sw
        created := p.created ++ [Resource.writer audioOut]
        closes := p.closes ++ (old.map Resource.writer).toList }, .ok ())

/-- `setupInput`: build the handler chain of `c` and publish it in `p.hnd`. -/
def setupInput (p : MediaPort) (c : MediaConf) : MediaPort :=
  let gen := p.nextId
  { p with
    nextId := gen + 1
    audioInHandler := some (.decoder gen c.audio.codec c.audio.type)
    hnd := some ⟨gen, inputChain c gen p.jitterEnabled⟩
    created := p.created ++ [Resource.chain gen] }

/-- `SetConfig`. -/
def setConfig (p : MediaPort) (c : MediaConf) (env : SessionEnv) :
    MediaPort × Except ConfigError Unit :=
  if p.closed then (p, .error .alreadyClosed) else
  let p := { p with port := p.port.setDst c.remote }
  match env.sessionErr c with
  | some err => (p, .error (.newSession err))
  | none =>
    let sess := p.nextId
    let p := { p with nextId := sess + 1, created := p.created ++ [Resource.session sess] }
    let p := { p with port := p.port.setDst c.remote, conf := some c, sess := some sess }
    match p.setupOutput c sess env with
    | (p, .error err) => (p, .error err)
    | (p, .ok ()) => (p.setupInput c, .ok ())

/-- `Close`: the first call tears everything down, later calls do nothing. -/
def close (p : MediaPort) : MediaPort :=
  if p.closed then p else
  let (audioOut, wOut) := p.audioOut.swap none
  let (audioIn, wIn) := p.audioIn.swap none
  { p with
    closed := true
    audioOut
    audioIn
    audioOutRTP := none
    audioInHandler := none
    dtmfOutRTP := none
    dtmfOutAudio := none
    dtmfIn := none
    closes := p.closes ++ (wOut.map Resource.writer).toList ++ (wIn.map Resource.writer).toList ++
      (p.dtmfOutAudio.map Resource.writer).toList ++ (p.sess.map Resource.session).toList ++ [Resource.conn] ++
      (p.hnd.map fun ch => Resource.chain ch.id).toList }

/-- `w = processor(w)` when `p.conf.Processor` is set: a new writer, drawn at `nextId`. -/
def applyProcessor (p : MediaPort) (processor : Option Nat) (w : Writer) : MediaPort × Writer :=
  match processor with
  | some processor =>
    let w := Writer.processed processor p.nextId w
    ({ p with nextId := p.nextId + 1, created := p.created ++ [Resource.writer w] }, w)
  | none => (p, w)

/-- `WriteAudioTo(w)`, with `w` the caller's writer `Writer.user w`: it reads `p.conf.Processor`
without checking `p.conf`, installs `w`, or the processor's writer around it, in `audioIn`, and
closes the writer it displaces. A caller may pass the same writer again. -/
def writeAudioTo (p : MediaPort) (w : Nat) : Except Fault MediaPort :=
  match p.conf with
  | none => .error .nilDeref
  | some c =>
    let (p, w) := p.applyProcessor c.processor (.user w)
    let (audioIn, pw) := p.audioIn.swap (some w)
    .ok { p with audioIn, closes := p.closes ++ (pw.map Resource.writer).toList }

/-- `HandleDTMF`: a nil callback stores a nil pointer. -/
@[simp] def handleDTMF (p : MediaPort) (h : Option Nat) : MediaPort := { p with dtmfIn := h }

/-- `SetDTMFAudio`. -/
@[simp] def setDTMFAudio (p : MediaPort) (enabled : Bool) : MediaPort :=
  { p with dtmfAudioEnabled := enabled }

/-- `EnableOut`. -/
@[simp] def enableOut (p : MediaPort) : MediaPort := { p with audioOut := { p.audioOut with enabled := true } }

/-- `DisableOut`. -/
@[simp] def disableOut (p : MediaPort) : MediaPort :=
  { p with audioOut := { p.audioOut with enabled := false } }

/-- `Config`. -/
def config (p : MediaPort) : Option MediaConf := p.conf

/-- `GetAudioWriter`. -/
def getAudioWriter (p : MediaPort) : SwitchWriter := p.audioOut

/-- The call `WriteDTMF` makes: `dtmf.Write(ctx, audioOut, dtmfOut, rtpTs, digits)`, with `rtpTs`
read from `tsFrom` (`0` when it is nil). -/
structure DtmfWrite where
  audioOut : Option Writer
  dtmfOut : Option Stream
  tsFrom : Option Stream
  digits : String
  deriving DecidableEq, Repr

/-- `WriteDTMF`: the `dtmf.Write` call it makes, or `none` when it returns without one. -/
def writeDTMF (p : MediaPort) (digits : String) : Option DtmfWrite :=
  if digits.length = 0 then none else
  let dtmfOut := p.dtmfOutRTP
  let audioOut := if p.dtmfAudioEnabled then p.dtmfOutAudio else none
  if dtmfOut.isNone ∧ audioOut.isNone then none
  else some ⟨audioOut, dtmfOut, p.audioOutRTP, digits⟩

end MediaPort

/-- A call of a public operation. -/
inductive Op where
  | setConfig (c : MediaConf) (env : SessionEnv)
  /-- `SetConfig(c)` with a nil `c`, or with a nil `c.Audio.Codec`. -/
  | setConfigNil
  | close
  /-- `WriteAudioTo` with the caller's writer `Writer.user w`. -/
  | writeAudioTo (w : Nat)
  | getAudioWriter
  | handleDTMF (h : Option Nat)
  | writeDTMF (digits : String)
  | setDTMFAudio (enabled : Bool)
  | enableOut
  | disableOut
  | config
  deriving DecidableEq, Repr

/-- The port after a call, or the fault the call hits. -/
def portStep (p : MediaPort) : Op → Except Fault MediaPort
  | .setConfig c env => .ok (p.setConfig c env).1
  | .setConfigNil => if p.closed then .ok p else .error .nilDeref
  | .close => .ok p.close
  | .writeAudioTo w => p.writeAudioTo w
  | .getAudioWriter => .ok p
  | .handleDTMF h => .ok (p.handleDTMF h)
  | .writeDTMF _ => .ok p
  | .setDTMFAudio enabled => .ok (p.setDTMFAudio enabled)
  | .enableOut => .ok p.enableOut
  | .disableOut => .ok p.disableOut
  | .config => .ok p

/-- Replay a history of calls. -/
def runPort (p : MediaPort) : List Op → Except Fault MediaPort
  | [] => .ok p
  | op :: ops => (portStep p op).bind (runPort · ops)

end SipMedia
