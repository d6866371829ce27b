import SipMedia.Net
import SipMedia.ReadLoop

/-!
# The media pipeline's parts

Reference: `pkg/sip/media_port.go` (`MediaConf`, `MediaPort.setupInput`), with the parts the port
builds its pipelines from: RTP streams of a sequencing writer, PCM writers, and the inbound
handler chain.

The handler chain is a tree of wrappers around the audio decoder and the DTMF handler, under a mux
keyed on payload type. `Handler.handleRTP` says what each node does with a packet, as a list of
`Effect`s: the counters and stats it feeds, the decoder it reaches, the DTMF callback it calls.
The wrappers come from libraries outside the repository (the mux, the stats and counting handlers,
the nop closer, the jitter buffer) and are modelled from the spec's description of the chain
(sections 4.4 and 9): the jitter buffer is a reorder/delay buffer at the root, so a packet
handed to it is only queued, and reaches the rest of the chain when the buffer releases it.
`inputChain` is the chain `setupInput` builds for a configuration; `inputChain_jitter` says what
its root does, and `inputChain_handleRTP` where the chain sends a packet of each payload type.
-/

namespace SipMedia

/-- What `Codec.Info()` tells the port about a codec. -/
structure CodecInfo where
  sdpName : String
  rtpClockRate : Nat
  deriving DecidableEq, Repr

/-- `sdp.AudioConfig`: the negotiated codec, its payload type and the DTMF payload type
(`0` when DTMF is not negotiated). -/
structure AudioConfig where
  codec : CodecInfo
  type : UInt8
  dtmfType : UInt8
  deriving DecidableEq, Repr

/-- `MediaConf`: the negotiated `sdp.MediaConfig` and the PCM post-processor. `crypto` is the SRTP
profile when the call is keyed; `processor` names the `PCM16Processor`, if any. -/
structure MediaConf where
  audio : AudioConfig
  remote : AddrPort
  crypto : Option String
  processor : Option Nat
  deriving DecidableEq, Repr

/-- Modelled from the spec: `dtmf.SampleRate`, the 8 kHz clock of RFC 4733 events. -/
def dtmfSampleRate : Nat := 8000

/-- Modelled from the spec: `dtmf.SDPName`, `telephone-event`. -/
def dtmfSDPName : String := "telephone-event"

/-- An outbound `rtp.Stream`: a payload type and clock rate on a sequencing writer, which writes to
the write stream of a session. -/
structure Stream where
  sess : Nat
  seq : Nat
  payloadType : UInt8
  clockRate : Nat
  deriving DecidableEq, Repr

/-- A PCM writer the port creates or is given (`msdk.PCM16Writer`). -/
inductive Writer where
  /-- `conf.Audio.Codec.EncodeRTP(audioOutRTP)`. -/
  | encoder (codec : CodecInfo) (out : Stream)
  /-- Input `k` of the mixer `mix` that writes to `out` (`mixer.NewMixer(out, ...).NewInput()`). -/
  | mixerInput (mix : Nat) (out : Writer) (k : Nat)
  /-- A writer the caller passes to `WriteAudioTo`; `id` tells the caller's writers apart. -/
  | user (id : Nat)
  /-- `processor(w)`: the writer the configured `PCM16Processor` returns around `w`, a new one on
  each call, drawn as `id`. -/
  | processed (processor : Nat) (id : Nat) (w : Writer)
  deriving DecidableEq, Repr

/-- Modelled from the spec: an RFC 4733 event as `dtmf.DecodeRTP` returns it. -/
structure DtmfEvent where
  code : UInt8
  digit : Char
  dur : UInt16
  deriving DecidableEq, Repr

/-- The counter pairs of `PortStats` a `newRTPHandlerCount` adds to. -/
inductive Counter where
  | audio
  | dtmf
  | mux
  deriving DecidableEq, Repr

/-- A node of an inbound handler chain. -/
inductive Handler where
  /-- A nil handler: the packet goes no further. -/
  | drop
  /-- `conf.Audio.Codec.DecodeRTP(p.audioIn, pt)`, built by the configuration `gen`. -/
  | decoder (gen : Nat) (codec : CodecInfo) (pt : UInt8)
  /-- The `rtp.HandlerFunc` of `setupInput` that decodes DTMF for `p.dtmfIn`, built by `gen`. -/
  | dtmfIn (gen : Nat)
  /-- Modelled from the spec: `newRTPStatsHandler(p.mon, name, h)` records the packet in the call's
  stats under `name` and passes it to `h` (a nil `h` drops it). -/
  | stats (name : String) (inner : Handler)
  /-- Modelled from the spec: `newRTPHandlerCount(h, packets, bytes)` adds the packet to a pair of
  `PortStats` counters and passes it to `h`. -/
  | count (inner : Handler) (ctr : Counter)
  /-- Modelled from the spec: a mux arm; packets of payload type `pt` go to `arm`, others to `rest`. -/
  | route (pt : UInt8) (arm : Handler) (rest : Handler)
  /-- Modelled from the spec: `rtp.NewNopCloser(h)` passes packets to `h`; its `Close` does
  nothing. -/
  | nopCloser (inner : Handler)
  /-- Modelled from the spec: `rtp.HandleJitter(h)`, a reorder/delay buffer at the root of the
  chain. A packet is queued and reaches `h` only when the buffer releases it, in sequence order;
  the buffer's depth and release times are implementation-defined and left open. -/
  | jitter (inner : Handler)
  deriving DecidableEq, Repr

/-- `hnd.String()`, which the read loop logs as the pipeline of a failing handler. -/
instance : ToString Handler := ⟨reprStr⟩

/-- What a packet does on its way through a chain. -/
inductive Effect where
  /-- A `newRTPHandlerCount` adds the packet to its counters. -/
  | counted (ctr : Counter)
  /-- A `newRTPStatsHandler` records the packet under `name`. -/
  | stats (name : String)
  /-- The audio decoder of configuration `gen` decodes it into `p.audioIn`. -/
  | decoded (gen : Nat)
  /-- The DTMF handler of configuration `gen` runs `dtmf.DecodeRTP` on it. -/
  | dtmfDecoded (gen : Nat)
  /-- The DTMF callback `cb` is called with `ev`. -/
  | dtmfEvent (cb : Nat) (ev : DtmfEvent)
  /-- A jitter buffer queues the packet. -/
  | queued
  deriving DecidableEq, Repr

/-! ## The mux -/

namespace Handler

/-- Modelled from the spec: `rtp.NewMux(nil)`, a mux with no arms and a nil default. -/
def newMux : Handler := .drop

/-- Modelled from the spec: `mux.SetDefault(d)`, the arm for unregistered payload types. -/
def setDefault : Handler → Handler → Handler
  | .route pt arm rest, d => .route pt arm (rest.setDefault d)
  | _, d => d

/-- Modelled from the spec: `mux.Register(pt, h)`; a later registration of `pt` wins. -/
def register (m : Handler) (pt : UInt8) (h : Handler) : Handler := .route pt h m

/-- What handling one packet does, with `dtmfIn` the callback `p.dtmfIn` holds at that moment and
`decodeRTP` the RFC 4733 decoder (`dtmf.DecodeRTP`). A jitter buffer only queues the packet; what
happens when it releases it is `releasedTo`'s handling. -/
def handleRTP (decodeRTP : Header → List UInt8 → Option DtmfEvent) (dtmfIn : Option Nat)
    (h : Header) (payload : List UInt8) : Handler → List Effect
  | .drop => []
  | .decoder gen _ _ => [.decoded gen]
  | .dtmfIn gen =>
    match dtmfIn with
    | none => []
    | some cb =>
      .dtmfDecoded gen ::
        match decodeRTP h payload with
        | some ev => [.dtmfEvent cb ev]
        | none => []
  | .stats name inner => .stats name :: handleRTP decodeRTP dtmfIn h payload inner
  | .count inner ctr => .counted ctr :: handleRTP decodeRTP dtmfIn h payload inner
  | .route pt arm rest =>
    if h.payloadType = pt then handleRTP decodeRTP dtmfIn h payload arm
    else handleRTP decodeRTP dtmfIn h payload rest
  | .nopCloser inner => handleRTP decodeRTP dtmfIn h payload inner
  | .jitter _ => [.queued]

/-- Modelled from the spec: the handler a chain's packets reach once past its root jitter buffer,
which hands them on as it releases them; a chain without one hands them on at once. -/
def releasedTo : Handler → Handler
  | .jitter inner => inner
  | h => h

end Handler

/-! ## The chain `setupInput` builds -/

/-- The handler chain `setupInput` builds for `conf`, as configuration `gen`. -/
def inputChain (conf : MediaConf) (gen : Nat) (jitterEnabled : Bool) : Handler :=
  let audioHandler := Handler.decoder gen conf.audio.codec conf.audio.type
  let mux := Handler.newMux.setDefault (.stats "" .drop)
  let mux := mux.register conf.audio.type
    (.count (.stats conf.audio.codec.sdpName audioHandler) .audio)
  let mux :=
    if conf.audio.dtmfType ≠ 0 then
      mux.register conf.audio.dtmfType (.count (.stats dtmfSDPName (.dtmfIn gen)) .dtmf)
    else mux
  let hnd := Handler.nopCloser (.count mux .mux)
  if jitterEnabled then .jitter hnd else hnd

/-- Where the chain of `conf` sends a packet: the audio arm for the audio payload type, the DTMF
arm (decoding only when a callback is installed) for the DTMF payload type when it is negotiated
and differs from the audio one, and the stats-only default arm otherwise. -/
def routeSpec (decodeRTP : Header → List UInt8 → Option DtmfEvent) (conf : MediaConf) (gen : Nat)
    (dtmfIn : Option Nat) (h : Header) (payload : List UInt8) : List Effect :=
  .counted .mux ::
    if h.payloadType = conf.audio.type then
      [.counted .audio, .stats conf.audio.codec.sdpName, .decoded gen]
    else if conf.audio.dtmfType ≠ 0 ∧ h.payloadType = conf.audio.dtmfType then
      .counted .dtmf :: .stats dtmfSDPName ::
        match dtmfIn with
        | none => []
        | some cb =>
          .dtmfDecoded gen ::
            match decodeRTP h payload with
            | some ev => [.dtmfEvent cb ev]
            | none => []
    else [.stats ""]

/-- With the jitter buffer enabled the chain only queues a packet, and the buffer hands the packets
it releases to the chain built without it. -/
theorem inputChain_jitter (conf : MediaConf) (gen : Nat) (jitterEnabled : Bool) :
    (inputChain conf gen jitterEnabled).releasedTo = inputChain conf gen false ∧
    ∀ decodeRTP dtmfIn h payload, (inputChain conf gen jitterEnabled).handleRTP decodeRTP dtmfIn h
      payload = if jitterEnabled then [.queued]
        else (inputChain conf gen false).handleRTP decodeRTP dtmfIn h payload := by
  cases jitterEnabled <;> exact ⟨rfl, fun _ _ _ _ => rfl⟩

/-- Without the jitter buffer, the chain `setupInput` builds routes every packet as `routeSpec`
says, when the DTMF payload type differs from the audio one. -/
theorem inputChain_handleRTP (decodeRTP : Header → List UInt8 → Option DtmfEvent)
    (conf : MediaConf) (gen : Nat) (dtmfIn : Option Nat) (h : Header) (payload : List UInt8)
    (hne : conf.audio.type ≠ conf.audio.dtmfType) :
    (inputChain conf gen false).handleRTP decodeRTP dtmfIn h payload =
      routeSpec decodeRTP conf gen dtmfIn h payload := by
  simp only [inputChain, Bool.false_eq_true, if_false]
  by_cases ha : h.payloadType = conf.audio.type
  · have hd : h.payloadType ≠ conf.audio.dtmfType := ha ▸ hne
    split <;> simp [Handler.handleRTP, Handler.register, ha, hd, hne, routeSpec]
  · by_cases hd : conf.audio.dtmfType ≠ 0 ∧ h.payloadType = conf.audio.dtmfType
    · obtain ⟨hd0, hdt⟩ := hd
      simp only [if_pos hd0, Handler.handleRTP, Handler.register, hdt, if_true, routeSpec,
        if_neg (hdt ▸ ha), hd0, ne_eq, not_false_eq_true, and_self]
    · split <;> simp_all [Handler.handleRTP, Handler.register, Handler.newMux,
        Handler.setDefault, routeSpec]

end SipMedia
