import Mathlib.Data.List.Count
import Mathlib.Data.List.Nodup
import SipMedia.Net

/-! # The SIP server's listeners: `Start` and `Stop`

Reference: `pkg/sip/server.go` (`NewServer`, `Server.startUDP`, `startTCP`, `startTLS`,
`Server.Start`, `Server.Stop`).

`startUDP`, `startTCP` and `startTLS` are one body, `startListener`, applied to each one's label,
listen and transport; `Start` runs its stages with Go's early return (`andThen`). Every stage only
opens listeners, under identities drawn from `nextId` (`Opens`), so the listeners a server holds are
distinct (`Fresh`).

`listener_closed_per_stop`: over any history from `NewServer`, every `Stop` closes each listener
opened before it once more, also one a failed `Start` left behind; no other call closes it. `Stop`
runs whenever it is called, so a second `Stop` closes every listener again.
-/

namespace SipMedia

/-- Go's conversion `uint16(n)` of an `int`: its low 16 bits. -/
def goUint16 (n : Int) : UInt16 := UInt16.ofNat (n % 65536).toNat

/-- A certificate of the TLS configuration. -/
structure TLSCert where
  certFile : String
  keyFile : String
  deriving DecidableEq, Repr

/-- The TLS part of `config.Config` that `Start` reads. -/
structure TLSConf where
  listenPort : Int
  certs : List TLSCert
  deriving DecidableEq, Repr

/-- The fields of `config.Config` that `Start` reads. -/
structure ServerConf where
  listenIP : String
  sipPortListen : Int
  tls : Option TLSConf
  deriving DecidableEq, Repr

/-- The kind of a signaling listener. -/
inductive Transport where
  | udp
  | tcp
  | tls
  deriving DecidableEq, Repr

/-- A listener `Start` opened, under the identity it drew. -/
structure Listener where
  id : Nat
  transport : Transport
  addr : AddrPort
  deriving DecidableEq, Repr

/-- An error `Serve*` returns: `closed` for one that `errors.Is(err, net.ErrClosed)` holds of. -/
inductive ServeError where
  | closed
  | other (msg : String)
  deriving DecidableEq, Repr

/-- What `Stop` closes: an active call, the `sipgo` server, a listener. -/
inductive ServerResource where
  | call (c : Nat)
  | sipSrv (id : Nat)
  | listener (l : Listener)
  deriving DecidableEq, Repr

/-- `Server`: its configuration, the `sipgo` server, the listeners, the active calls, the `closing`
fuse; `closes` records every `Close` it calls, in order. -/
structure Server where
  conf : ServerConf
  sipSrv : Option Nat
  sipListeners : List Listener
  activeCalls : List (String × Nat)
  closing : Bool
  nextId : Nat
  closes : List ServerResource
  deriving DecidableEq, Repr

/-- What the libraries `Start` calls answer: `sipgo.NewUA`, `sipgo.NewServer`, `netip.ParseAddr`,
`net.ListenUDP`, `net.ListenTCP` and `tls.LoadX509KeyPair`. -/
structure StartEnv where
  newUAErr : Option String
  newServerErr : Option String
  parseAddr : String → Except String Addr
  listenUDP : AddrPort → Option String
  listenTCP : AddrPort → Option String
  loadCertErr : TLSCert → Option String

/-- `NewServer`. -/
def newServer (conf : ServerConf) : Server :=
  ⟨conf, none, [], [], false, 0, []⟩

namespace Server

/-- Go's `if err := f(); err != nil { return err }`: go on from the state `f` left, or stop with its
error. -/
def andThen (r : Server × Except String Unit) (k : Server → Server × Except String Unit) :
    Server × Except String Unit :=
  match r with
  | (s, .error e) => (s, .error e)
  | (s, .ok ()) => k s

/-- The body `startUDP`, `startTCP` and `startTLS` share: the listen's error is reported with the
listener's `label` and `SIPPortListen`; a listener that opened is kept and served. -/
def startListener (s : Server) (label : String) (listenErr : Option String) (t : Transport)
    (addr : AddrPort) : Server × Except String Unit :=
  match listenErr with
  | some err =>
    (s, .error ("cannot listen on the " ++ label ++ " signaling port " ++
      toString s.conf.sipPortListen ++ ": " ++ err))
  | none =>
    ({ s with nextId := s.nextId + 1, sipListeners := s.sipListeners ++ [⟨s.nextId, t, addr⟩] },
      .ok ())

/-- `startUDP`. -/
def startUDP (s : Server) (env : StartEnv) (addr : AddrPort) : Server × Except String Unit :=
  s.startListener "UDP" (env.listenUDP addr) .udp addr

/-- `startTCP`. -/
def startTCP (s : Server) (env : StartEnv) (addr : AddrPort) : Server × Except String Unit :=
  s.startListener "TCP" (env.listenTCP addr) .tcp addr

/-- `startTLS`: a TCP listen, wrapped by `tls.NewListener`. -/
def startTLS (s : Server) (env : StartEnv) (addr : AddrPort) : Server × Except String Unit :=
  s.startListener "TLS" (env.listenTCP addr) .tls addr

/-- The address `Start` parses: `ListenIP`, `0.0.0.0` when it is empty. -/
def listenIP (conf : ServerConf) : String :=
  if conf.listenIP = "" then "0.0.0.0" else conf.listenIP

/-- The TLS part of `Start`: it needs a certificate, loads them in order, and `startTLS` listens on
`TLS.ListenPort`. -/
def startTLSConf (s : Server) (env : StartEnv) (ip : Addr) (tconf : TLSConf) :
    Server × Except String Unit :=
  if tconf.certs.isEmpty then (s, .error "TLS certificate required") else
  match tconf.certs.findSome? env.loadCertErr with
  | some err => (s, .error err)
  | none => s.startTLS env ⟨ip, goUint16 tconf.listenPort⟩

/-- The listeners `Start` opens once `ListenIP` parsed to `ip`: UDP and TCP on `SIPPortListen`, then
TLS when it is configured. -/
def startListeners (s : Server) (env : StartEnv) (ip : Addr) : Server × Except String Unit :=
  let addr : AddrPort := ⟨ip, goUint16 s.conf.sipPortListen⟩
  andThen (s.startUDP env addr) fun s =>
  andThen (s.startTCP env addr) fun s =>
  match s.conf.tls with
  | none => (s, .ok ())
  | some tconf => s.startTLSConf env ip tconf

/-- `Start`, with `agentGiven` telling whether a `sipgo.UserAgent` was passed. The server `NewServer`
returns with an error is nil. -/
def start (s : Server) (agentGiven : Bool) (env : StartEnv) : Server × Except String Unit :=
  match (if agentGiven then none else env.newUAErr) with
  | some err => (s, .error err)
  | none =>
    match env.newServerErr with
    | some err => ({ s with sipSrv := none }, .error err)
    | none =>
      let s := { s with sipSrv := some s.nextId, nextId := s.nextId + 1 }
      match env.parseAddr (listenIP s.conf) with
      | .error err => (s, .error err)
      | .ok ip => s.startListeners env ip

/-- `Stop`: break the `closing` fuse, take the active calls out and close them, then close the
`sipgo` server and every listener. -/
def stop (s : Server) : Server :=
  { s with
    closing := true
    activeCalls := []
    closes := s.closes ++ s.activeCalls.map (fun c => .call c.2) ++
      (s.sipSrv.map .sipSrv).toList ++ s.sipListeners.map .listener }

/-- Whether the goroutine serving a listener panics when `Serve*` returns `err`: `startUDP`'s on
every error, `startTCP`'s and `startTLS`'s on every error but `net.ErrClosed`. -/
def servePanics : Transport → Option ServeError → Bool
  | _, none => false
  | .udp, some _ => true
  | _, some .closed => false
  | _, some (.other _) => true

@[simp] theorem startListener_none (s : Server) (label : String) (t : Transport) (addr : AddrPort) :
    s.startListener label none t addr = ({ s with
      nextId := s.nextId + 1
      sipListeners := s.sipListeners ++ [⟨s.nextId, t, addr⟩] }, .ok ()) := rfl

/-- Libraries where every call succeeds. -/
def freeEnv : StartEnv := ⟨none, none, fun _ => .ok (.v4 0), fun _ => none, fun _ => none, fun _ => none⟩

/-! ## Listeners over a whole run -/

/-- `q` is `s` with listeners opened under identities drawn from `s.nextId` on, nothing closed. -/
structure Opens (s q : Server) : Prop where
  conf : q.conf = s.conf
  closes : q.closes = s.closes
  nextId_le : s.nextId ≤ q.nextId
  listeners : ∃ new, q.sipListeners = s.sipListeners ++ new ∧ (new.map Listener.id).Nodup ∧
    ∀ l ∈ new, s.nextId ≤ l.id ∧ l.id < q.nextId

/-- A stage that opens no listener. -/
theorem Opens.of_frame {s q : Server} (hc : q.conf = s.conf) (hcl : q.closes = s.closes)
    (hn : s.nextId ≤ q.nextId) (hl : q.sipListeners = s.sipListeners) : Opens s q :=
  ⟨hc, hcl, hn, [], by simp [hl], by simp, by simp⟩

theorem Opens.refl (s : Server) : Opens s s := .of_frame rfl rfl (le_refl _) rfl

/-- Listeners drawn below `n` and listeners drawn from `n` on share no identity. -/
theorem nodup_ids_append {a b : List Listener} {n : Nat} (ha : (a.map Listener.id).Nodup)
    (hb : (b.map Listener.id).Nodup) (hlt : ∀ l ∈ a, l.id < n) (hge : ∀ l ∈ b, n ≤ l.id) :
    ((a ++ b).map Listener.id).Nodup := by
  refine List.map_append _ _ _ ▸ ha.append hb fun i hi₁ hi₂ => ?_
  obtain ⟨l₁, hm₁, rfl⟩ := List.mem_map.mp hi₁
  obtain ⟨l₂, hm₂, he⟩ := List.mem_map.mp hi₂
  have := hlt l₁ hm₁
  have := hge l₂ hm₂
  omega

theorem Opens.trans {s q r : Server} (h₁ : Opens s q) (h₂ : Opens q r) : Opens s r := by
  obtain ⟨n₁, hl₁, hnd₁, hid₁⟩ := h₁.listeners
  obtain ⟨n₂, hl₂, hnd₂, hid₂⟩ := h₂.listeners
  have := h₁.nextId_le
  have := h₂.nextId_le
  refine ⟨h₂.conf.trans h₁.conf, h₂.closes.trans h₁.closes, by omega, n₁ ++ n₂,
    by rw [hl₂, hl₁, List.append_assoc],
    nodup_ids_append hnd₁ hnd₂ (fun l hl => (hid₁ l hl).2) (fun l hl => (hid₂ l hl).1),
    fun l hl => ?_⟩
  rcases List.mem_append.mp hl with hl | hl
  · have := hid₁ l hl; omega
  · have := hid₂ l hl; omega

theorem Opens.startListener (s : Server) (label : String) (r : Option String) (t : Transport)
    (addr : AddrPort) : Opens s (s.startListener label r t addr).1 := by
  cases r with
  | some err => exact .refl s
  | none => exact ⟨rfl, rfl, by simp, [⟨s.nextId, t, addr⟩], rfl, by simp, by simp⟩

theorem Opens.andThen {s : Server} {r : Server × Except String Unit}
    {k : Server → Server × Except String Unit} (hr : Opens s r.1)
    (hk : ∀ s', r = (s', .ok ()) → Opens s' (k s').1) : Opens s (andThen r k).1 := by
  obtain ⟨s', _ | ⟨⟩⟩ := r
  · exact hr
  · exact hr.trans (hk s' rfl)

theorem Opens.startTLSConf (s : Server) (env : StartEnv) (ip : Addr) (tconf : TLSConf) :
    Opens s (s.startTLSConf env ip tconf).1 := by
  unfold Server.startTLSConf
  split
  · exact .refl s
  split
  · exact .refl s
  · exact .startListener _ _ _ _ _

theorem Opens.startListeners (s : Server) (env : StartEnv) (ip : Addr) :
    Opens s (s.startListeners env ip).1 := by
  unfold Server.startListeners
  refine .andThen (.startListener _ _ _ _ _) fun s₁ _ => .andThen (.startListener _ _ _ _ _) fun s₂ _ => ?_
  split
  · exact .refl _
  · exact .startTLSConf _ _ _ _

theorem Opens.start (s : Server) (agentGiven : Bool) (env : StartEnv) :
    Opens s (s.start agentGiven env).1 := by
  unfold Server.start
  split
  · exact .refl s
  split
  · exact .of_frame rfl rfl (le_refl _) rfl
  dsimp only
  have hsrv : Opens s { s with sipSrv := some s.nextId, nextId := s.nextId + 1 } :=
    .of_frame rfl rfl (by simp) rfl
  split
  · exact hsrv
  · exact hsrv.trans (.startListeners _ _ _)

/-- Listener identities are distinct and drawn below `nextId`. -/
structure Fresh (s : Server) : Prop where
  nodup : (s.sipListeners.map Listener.id).Nodup
  lt : ∀ l ∈ s.sipListeners, l.id < s.nextId

theorem Fresh.opens {s q : Server} (hs : Fresh s) (h : Opens s q) : Fresh q := by
  obtain ⟨new, hl, hnd, hid⟩ := h.listeners
  refine ⟨hl ▸ nodup_ids_append hs.nodup hnd hs.lt (fun l hl => (hid l hl).1), fun l hl' => ?_⟩
  rcases List.mem_append.mp (hl ▸ hl') with hl' | hl'
  · exact Nat.lt_of_lt_of_le (hs.lt l hl') h.nextId_le
  · exact (hid l hl').2

/-- Each listener the server holds appears once. -/
theorem Fresh.count_eq_one {s : Server} (hs : Fresh s) {l : Listener} (hl : l ∈ s.sipListeners) :
    s.sipListeners.count l = 1 :=
  List.count_eq_one_of_mem (List.Nodup.of_map _ hs.nodup) hl

end Server

open Server

/-- A call of `Start` or `Stop`. -/
inductive ServerOp where
  | start (agentGiven : Bool) (env : StartEnv)
  | stop

/-- Whether a call is `Stop`. -/
def ServerOp.isStop : ServerOp → Bool
  | .start _ _ => false
  | .stop => true

/-- The server after a call. -/
def serverStep (s : Server) : ServerOp → Server
  | .start agentGiven env => (s.start agentGiven env).1
  | .stop => s.stop

/-- Replay a history of calls. -/
def runServer (s : Server) (ops : List ServerOp) : Server := ops.foldl serverStep s

theorem Server.Fresh.step {s : Server} (hs : Fresh s) : ∀ op, Fresh (serverStep s op)
  | .start _ _ => hs.opens (.start _ _ _)
  | .stop => ⟨hs.nodup, hs.lt⟩

theorem fresh_run (conf : ServerConf) (ops : List ServerOp) : Fresh (runServer (newServer conf) ops) := by
  suffices ∀ s, Fresh s → Fresh (ops.foldl serverStep s) from this _ ⟨List.nodup_nil, by simp [newServer]⟩
  induction ops with
  | nil => exact fun _ hs => hs
  | cons op ops ih => exact fun s hs => ih _ (hs.step op)

/-- One call keeps a listener and closes it once if it is `Stop`, never otherwise. -/
theorem closes_listener_step {s : Server} (hs : Fresh s) {l : Listener} (hl : l ∈ s.sipListeners)
    (op : ServerOp) : l ∈ (serverStep s op).sipListeners ∧
      (serverStep s op).closes.count (.listener l) =
        s.closes.count (.listener l) + if op.isStop then 1 else 0 := by
  cases op with
  | start agentGiven env =>
    have h := Opens.start s agentGiven env
    obtain ⟨new, hnew, -⟩ := h.listeners
    exact ⟨hnew ▸ List.mem_append_left _ hl, by simp [serverStep, h.closes, ServerOp.isStop]⟩
  | stop =>
    refine ⟨hl, ?_⟩
    have hinj : Function.Injective ServerResource.listener := fun _ _ h => ServerResource.listener.inj h
    have hcalls : (s.activeCalls.map fun c => ServerResource.call c.2).count (.listener l) = 0 :=
      List.count_eq_zero.mpr (by simp)
    have hsrv : (s.sipSrv.map ServerResource.sipSrv).toList.count (.listener l) = 0 :=
      List.count_eq_zero.mpr (by cases s.sipSrv <;> simp)
    simp [serverStep, stop, ServerOp.isStop, List.count_append, List.count_map_of_injective _ _ hinj,
      hs.count_eq_one hl, hcalls, hsrv]

theorem runServer_append (s : Server) (a b : List ServerOp) :
    runServer s (a ++ b) = runServer (runServer s a) b :=
  List.foldl_append _ _ _ _

/-- From a state with fresh identities, a listener it holds is closed once by each later `Stop`. -/
theorem closes_listener_run {s : Server} (hs : Fresh s) {l : Listener} (hl : l ∈ s.sipListeners)
    (ops : List ServerOp) : (runServer s ops).closes.count (.listener l) =
      s.closes.count (.listener l) + ops.countP ServerOp.isStop := by
  induction ops generalizing s with
  | nil => rfl
  | cons op ops ih =>
    obtain ⟨hl', hc⟩ := closes_listener_step hs hl op
    rw [runServer, List.foldl_cons, ← runServer, ih (hs.step op) hl', hc, List.countP_cons]
    omega

/-- Every `Stop` after a listener was opened closes it once more, and no other call closes it: a
listener is closed as many times as `Stop` ran after it opened, even one a failed `Start` opened. -/
theorem listener_closed_per_stop (conf : ServerConf) (pre post : List ServerOp) (l : Listener)
    (hl : l ∈ (runServer (newServer conf) pre).sipListeners) :
    (runServer (newServer conf) (pre ++ post)).closes.count (.listener l) =
      (runServer (newServer conf) pre).closes.count (.listener l) + post.countP ServerOp.isStop := by
  rw [runServer_append]
  exact closes_listener_run (fresh_run conf pre) hl post

/-- TLS configured without a certificate. -/
def noCertConf : ServerConf := ⟨"", 5060, some ⟨5061, []⟩⟩

/-- `Start` fails for want of a certificate after opening UDP and TCP; the two `Stop` calls after it
close the UDP listener twice. -/
theorem failed_start_listener_closed_twice :
    ((newServer noCertConf).start false freeEnv).2 = .error "TLS certificate required" ∧
      (⟨1, .udp, ⟨.v4 0, 5060⟩⟩ : Listener) ∈
        (runServer (newServer noCertConf) [.start false freeEnv]).sipListeners ∧
      (runServer (newServer noCertConf) ([.start false freeEnv] ++ [.stop, .stop])).closes.count
          (.listener ⟨1, .udp, ⟨.v4 0, 5060⟩⟩) = 0 + 2 := by
  have hl : (⟨1, .udp, ⟨.v4 0, 5060⟩⟩ : Listener) ∈
      (runServer (newServer noCertConf) [.start false freeEnv]).sipListeners := by decide
  exact ⟨rfl, hl, listener_closed_per_stop noCertConf _ [.stop, .stop] _ hl⟩

end SipMedia
