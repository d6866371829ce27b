import SipMedia.Lifecycle

/-!
# Where inbound packets go after `SetConfig`

Reference: `pkg/sip/media_port.go` (`MediaPort.setupInput`, `MediaPort.HandleDTMF`, the handler
load in `MediaPort.rtpReadLoop`).

A read loop loads `p.hnd` for every packet and hands the packet to what it loaded, later, without
the port's lock; the DTMF handler of the chain loads `p.dtmfIn` when the packet reaches it. So a
packet goes through the chain of the state its load saw, and reaches the DTMF callback of the state
it is handled in. `setConfig_routes` follows a history of calls from a new port through a
successful `SetConfig`, then any calls other than `SetConfig` and `Close` up to the load, then any
calls at all up to the dispatch, and says where a packet of every payload type goes.

The loaded handler is the chain built from the configuration of that `SetConfig` under a new
identity (`setConfig_ok`, `FreshIds`), since no call but `SetConfig` replaces it (`portStep_hnd`).
The callback is the one the latest `HandleDTMF` installed, unless the first `Close` came after it
(`runPort_dtmfIn`). With the jitter buffer enabled the chain's root only queues the packet, and
the rest of the chain handles it when the buffer releases it (`inputChain_jitter`). `Routed` says
where the chain sends it then. The DTMF handler returns before decoding when no callback is
installed, so `dtmf.DecodeRTP` runs on a DTMF packet only while one is.
-/

namespace SipMedia

open MediaPort

/-! ## The installed DTMF callback -/

/-- The DTMF callback and the closed flag after one call: `HandleDTMF` stores its argument, a nil
one clearing it, and the first `Close` clears it. -/
def installStep (s : Option Nat × Bool) : Op → Option Nat × Bool
  | .handleDTMF h => (h, s.2)
  | .close => if s.2 then s else (none, true)
  | _ => s

/-- The callback `p.dtmfIn` holds after a history of calls from a new port. -/
def installedCallback (ops : List Op) : Option Nat := (ops.foldl installStep (none, false)).1

/-- Every call changes `p.dtmfIn` and `p.closed` only as `installStep` says. -/
theorem portStep_dtmfIn {p q : MediaPort} {op : Op} (h : portStep p op = .ok q) :
    (q.dtmfIn, q.closed) = installStep (p.dtmfIn, p.closed) op := by
  cases op with
  | setConfig c env =>
    cases h
    rw [(setConfig_keeps p c env).1, (setConfig_keeps p c env).2.1]
    rfl
  | setConfigNil => obtain ⟨-, rfl⟩ := portStep_setConfigNil h; rfl
  | writeAudioTo w => obtain ⟨-, w₁, n, ws, rfl, -⟩ := writeAudioTo_ok h; rfl
  | close =>
    cases h
    unfold close installStep
    split <;> simp_all
  | _ => cases h; rfl

/-- Over a history from a new port, `p.dtmfIn` is the callback `installedCallback` says. -/
theorem runPort_dtmfIn {o : MediaOptions} {q : MediaPort} {ops : List Op}
    (h : runPort (newMediaPortWith o) ops = .ok q) : q.dtmfIn = installedCallback ops := by
  suffices hgen : ∀ p : MediaPort, runPort p ops = .ok q →
      (q.dtmfIn, q.closed) = ops.foldl installStep (p.dtmfIn, p.closed) from
    congrArg Prod.fst (hgen _ h)
  clear h
  induction ops with
  | nil => intro p h; cases h; rfl
  | cons op ops ih =>
    intro p h
    obtain ⟨p₁, hs, h₁⟩ := runPort_cons.mp h
    rw [ih p₁ h₁, List.foldl_cons, portStep_dtmfIn hs]

/-- No call changes whether the jitter buffer is enabled. -/
theorem runPort_jitterEnabled {p q : MediaPort} {ops : List Op} (h : runPort p ops = .ok q) :
    q.jitterEnabled = p.jitterEnabled :=
  runPort_preserves (fun q => q.jitterEnabled = p.jitterEnabled)
    (fun _ _ _ _ hq hs => (portStep_jitterEnabled hs).trans hq) rfl h

/-- Where a packet with header `h` goes through the chain of configuration `c` built as `g`, with
`cb` the DTMF callback installed when it is handled. -/
structure Routed (decodeRTP : Header → List UInt8 → Option DtmfEvent) (c : MediaConf) (g : Nat)
    (cb : Option Nat) (h : Header) (payload : List UInt8) (effects : List Effect) : Prop where
  /-- The audio decoder of `c` gets exactly the packets of the audio payload type. -/
  audio : Effect.decoded g ∈ effects ↔ h.payloadType = c.audio.type
  /-- `dtmf.DecodeRTP` runs exactly on the negotiated DTMF payload type while a callback is
  installed. -/
  dtmf : Effect.dtmfDecoded g ∈ effects ↔
    c.audio.dtmfType ≠ 0 ∧ h.payloadType = c.audio.dtmfType ∧ cb.isSome
  /-- The installed callback gets the event of exactly the DTMF packets that decode. -/
  callback : ∀ cb' ev, Effect.dtmfEvent cb' ev ∈ effects ↔
    c.audio.dtmfType ≠ 0 ∧ h.payloadType = c.audio.dtmfType ∧ cb = some cb' ∧
      decodeRTP h payload = some ev
  /-- Any other payload type reaches only the mux counter and the default stats handler. -/
  default : h.payloadType ≠ c.audio.type → ¬(c.audio.dtmfType ≠ 0 ∧ h.payloadType = c.audio.dtmfType) →
    effects = [.counted .mux, .stats ""]
  /-- No decoder or DTMF handler built under another identity is reached. -/
  only : ∀ g', Effect.decoded g' ∈ effects ∨ Effect.dtmfDecoded g' ∈ effects → g' = g

/-- `routeSpec` routes as `Routed` says, when the DTMF payload type differs from the audio one. -/
theorem routeSpec_routed (decodeRTP : Header → List UInt8 → Option DtmfEvent) (c : MediaConf)
    (g : Nat) (cb : Option Nat) (h : Header) (payload : List UInt8)
    (hne : c.audio.type ≠ c.audio.dtmfType) :
    Routed decodeRTP c g cb h payload (routeSpec decodeRTP c g cb h payload) := by
  by_cases ha : h.payloadType = c.audio.type
  · have hd : h.payloadType ≠ c.audio.dtmfType := ha ▸ hne
    exact ⟨by simp [routeSpec, ha], by simp [routeSpec, ha, hne], by simp [routeSpec, ha, hne],
      fun h' => absurd ha h', by simp [routeSpec, ha]⟩
  by_cases hd : c.audio.dtmfType ≠ 0 ∧ h.payloadType = c.audio.dtmfType
  · obtain ⟨hd0, hdt⟩ := hd
    have hta : c.audio.dtmfType ≠ c.audio.type := hne.symm
    cases cb <;> cases hdec : decodeRTP h payload <;>
      refine ⟨?_, ?_, ?_, fun _ h' => absurd ⟨hd0, hdt⟩ h', ?_⟩ <;>
      simp [routeSpec, ha, hd0, hdt, hta, hdec, eq_comm]
  · have hroute : routeSpec decodeRTP c g cb h payload = [.counted .mux, .stats ""] := by
      simp only [routeSpec, if_neg ha, if_neg hd]
    rw [hroute]
    exact ⟨by simp [ha], by simp_all, by simp_all, fun _ _ => rfl, by simp⟩

/-! ## After a successful `SetConfig` -/

/-- A read loop that loads `p.hnd` after a successful `SetConfig(c)` and any calls but `SetConfig`
and `Close` loads a chain built from `c`, with the port's jitter setting, under an identity no
earlier chain had. In every later state, after any calls: the DTMF callback is the one
`installedCallback` says, the chain's root queues a packet when the jitter buffer is enabled and
hands it on otherwise, and a packet handed on there, at once or on its release, is routed as
`Routed` says. -/
theorem setConfig_routes (o : MediaOptions) (hist : List Op) (p : MediaPort)
    (hrun : runPort (newMediaPortWith o) hist = .ok p) (c : MediaConf) (env : SessionEnv)
    (p₁ : MediaPort) (hset : p.setConfig c env = (p₁, .ok ()))
    (hne : c.audio.type ≠ c.audio.dtmfType) (ops : List Op)
    (hops : ∀ op ∈ ops, op ≠ .close ∧ ∀ c' env', op ≠ .setConfig c' env') (p₂ : MediaPort)
    (hrun₂ : runPort p₁ ops = .ok p₂) (ops' : List Op) (p₃ : MediaPort)
    (hrun₃ : runPort p₂ ops' = .ok p₃) (decodeRTP : Header → List UInt8 → Option DtmfEvent)
    (h : Header) (payload : List UInt8) :
    ∃ ch, p₂.hnd = some ch ∧ ch.root = inputChain c ch.id o.enableJitterBuffer ∧
      Resource.chain ch.id ∉ p.created ∧
      p₃.dtmfIn = installedCallback (hist ++ .setConfig c env :: ops ++ ops') ∧
      ch.root.handleRTP decodeRTP p₃.dtmfIn h payload = (if o.enableJitterBuffer then [.queued]
        else ch.root.releasedTo.handleRTP decodeRTP p₃.dtmfIn h payload) ∧
      Routed decodeRTP c ch.id p₃.dtmfIn h payload
        (ch.root.releasedTo.handleRTP decodeRTP p₃.dtmfIn h payload) := by
  obtain ⟨-, -, -, -, -, -, -, -, g, -, hg, -, hh, -⟩ := setConfig_ok hset
  have hh₂ : p₂.hnd = p₁.hnd := runPort_preserves (fun q => q.hnd = p₁.hnd)
    (fun op hop _ _ hq hs => (portStep_hnd hs (hops op hop).2).trans hq) rfl hrun₂
  have hjit : p.jitterEnabled = o.enableJitterBuffer := runPort_jitterEnabled hrun
  have hall : runPort (newMediaPortWith o) (hist ++ .setConfig c env :: ops ++ ops') = .ok p₃ := by
    simp only [List.append_assoc, List.cons_append, runPort_append, hrun, Except.bind, runPort,
      portStep, hset, hrun₂, hrun₃]
  obtain ⟨hroot, hdispatch⟩ := inputChain_jitter c g o.enableJitterBuffer
  refine ⟨_, hh₂.trans hh, by rw [hjit], fun hm => ?_, runPort_dtmfIn hall, ?_, ?_⟩
  · exact absurd (freshIds_of_run o hist p hrun _ hm g rfl) (by omega)
  · rw [hjit, hroot]
    exact hdispatch _ _ _ _
  · rw [hjit, hroot, inputChain_handleRTP _ _ _ _ _ _ hne]
    exact routeSpec_routed _ _ _ _ _ _ hne

/-- The call `pcmuConf` set up on a new port. -/
def configuredCall : MediaPort := ((newMediaPortWith defaultOptions).setConfig pcmuConf okEnv).1

/-- Loaded after `HandleDTMF` installed callback 7 and handled at once, a DTMF packet is decoded
and its event passed on. -/
theorem dtmf_packet_reaches_callback :
    (newMediaPortWith defaultOptions).setConfig pcmuConf okEnv = (configuredCall, .ok ()) ∧
    runPort configuredCall [.handleDTMF (some 7)] = .ok (configuredCall.handleDTMF (some 7)) ∧
    ∃ ch, (configuredCall.handleDTMF (some 7)).hnd = some ch ∧
      ch.root = inputChain pcmuConf ch.id defaultOptions.enableJitterBuffer ∧
      Resource.chain ch.id ∉ (newMediaPortWith defaultOptions).created ∧
      (configuredCall.handleDTMF (some 7)).dtmfIn =
        installedCallback ([] ++ .setConfig pcmuConf okEnv :: [.handleDTMF (some 7)] ++ []) ∧
      ch.root.handleRTP (fun _ _ => some ⟨1, '1', 160⟩) (some 7) ⟨101, 1, 160, 7, false⟩ [] =
        (if defaultOptions.enableJitterBuffer then [.queued] else ch.root.releasedTo.handleRTP
          (fun _ _ => some ⟨1, '1', 160⟩) (some 7) ⟨101, 1, 160, 7, false⟩ []) ∧
      Routed (fun _ _ => some ⟨1, '1', 160⟩) pcmuConf ch.id (some 7) ⟨101, 1, 160, 7, false⟩ []
        (ch.root.releasedTo.handleRTP (fun _ _ => some ⟨1, '1', 160⟩) (some 7)
          ⟨101, 1, 160, 7, false⟩ []) := by
  have hset : (newMediaPortWith defaultOptions).setConfig pcmuConf okEnv =
      (configuredCall, .ok ()) := rfl
  have hrun : runPort configuredCall [.handleDTMF (some 7)] =
      .ok (configuredCall.handleDTMF (some 7)) := rfl
  exact ⟨hset, hrun, setConfig_routes defaultOptions [] _ rfl pcmuConf okEnv _ hset (by decide)
    [.handleDTMF (some 7)] (by simp) _ hrun [] _ rfl _ ⟨101, 1, 160, 7, false⟩ []⟩

/-- With no callback installed, a packet of the negotiated DTMF payload type is not decoded. -/
theorem dtmf_not_decoded_without_callback :
    ¬ ∀ (o : MediaOptions) (hist : List Op) (p : MediaPort),
      runPort (newMediaPortWith o) hist = .ok p →
      ∀ (c : MediaConf) (env : SessionEnv) (p₁ : MediaPort), p.setConfig c env = (p₁, .ok ()) →
      c.audio.type ≠ c.audio.dtmfType →
      ∀ ops : List Op, (∀ op ∈ ops, op ≠ .close ∧ ∀ c' env', op ≠ .setConfig c' env') →
      ∀ p₂ : MediaPort, runPort p₁ ops = .ok p₂ →
      ∀ (decodeRTP : Header → List UInt8 → Option DtmfEvent) (h : Header) (payload : List UInt8),
      ∃ ch, p₂.hnd = some ch ∧
        (Effect.dtmfDecoded ch.id ∈ ch.root.handleRTP decodeRTP p₂.dtmfIn h payload ↔
          c.audio.dtmfType ≠ 0 ∧ h.payloadType = c.audio.dtmfType) := by
  intro hall
  obtain ⟨ch, hch, hiff⟩ := hall defaultOptions [] _ rfl pcmuConf okEnv configuredCall rfl
    (by decide) [] (by simp) configuredCall rfl (fun _ _ => none) ⟨101, 1, 160, 7, false⟩ []
  obtain rfl : ch = ⟨2, inputChain pcmuConf 2 false⟩ := Option.some.inj (hch.symm.trans rfl)
  exact absurd (hiff.mpr ⟨by decide, rfl⟩) (by decide)

end SipMedia
