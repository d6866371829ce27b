import SipMedia.Routing
import SipMedia.ReceivePath

/-!
# A call's goroutines, interleaved

Reference: `pkg/sip/media_port.go` (the public calls of `MediaPort`; `MediaPort.rtpLoop`, which
`setupOutput` starts on each session it opens; `MediaPort.rtpReadLoop`, which `rtpLoop` starts on
each stream it accepts, its load of `p.hnd` and its `HandleRTP` call).

A call's media runs on several goroutines: the callers of the port's public calls, the accept loop
of every session `SetConfig` opened, and the read loop of every stream those loops accepted. A
`MediaEvent` is one step of one of them, and `runMedia` replays an interleaving. A public call
moves the port. An accept pass moves the receive path as `recvStep` does, over the accept loops
the port has started so far. A read loop's iteration is two steps: its `p.hnd.Load()`, which takes
no lock and records what it saw in `Media.loaded`, and later the rest of the iteration, which
hands the packet to what the load saw, whatever the port holds by then.

* `runMedia_recv`: the accept passes and read iterations of a run are a run of the receive path
  (`runRecv`), each iteration with what its load saw; so what `SipMedia.ReceivePath` proves holds
  of the whole call.
* `loads_after_close_reach_closed`: once `Close` has run, every packet a read loop hands on goes to
  a chain `Close` closed, but the one it may have loaded before: that one can reach a chain no
  `Close` closes (`packet_loaded_before_close_escapes`).
* `loads_after_setConfig_reach_chain`: between a successful `SetConfig(c)` and the next
  `SetConfig` or `Close`, every packet a read loop hands on goes to the one chain that `SetConfig`
  built from `c`, but the one it may have loaded before `SetConfig` stored it.

`runMedia_calls` packages the induction for the last two: when a property `P` of the port holds
throughout and makes every chain the port holds satisfy `Q`, every load a read loop makes sees a
chain satisfying `Q`, and so does every handler call it makes after a load.
-/

namespace SipMedia

open MediaPort

/-! ## The sessions that have an accept loop -/

/-- The session a resource is, if it is one. -/
def Resource.session? : Resource → Option Nat
  | .session s => some s
  | _ => none

/-- The port's accept loops are those of the sessions it opened, in order. -/
def LoopsOpened (p : MediaPort) : Prop := p.loops = p.created.filterMap Resource.session?

/-- `SetConfig` starts the accept loop of each session it opens, also when `OpenWriteStream` then
fails, and starts no other; no other call creates a session. -/
theorem LoopsOpened.step {p q : MediaPort} {op : Op} (hp : LoopsOpened p)
    (h : portStep p op = .ok q) : LoopsOpened q := by
  cases op with
  | setConfig c env =>
    cases h
    rcases MediaPort.setConfig_outcome p c env with h | ⟨e, h⟩
    · obtain ⟨-, -, -, -, -, -, -, -, g, ws, -, -, -, hcr⟩ := MediaPort.setConfig_ok h
      rw [LoopsOpened, MediaPort.setConfig_ok_loops h, hcr, hp]
      simp [List.filterMap_append, Resource.session?, Function.comp_def]
    · rcases MediaPort.setConfig_error h with ⟨-, -, h'⟩ | ⟨-, -, h'⟩ | ⟨-, -, h'⟩ <;> rw [h'] <;>
        simpa [LoopsOpened, Resource.session?] using hp
  | setConfigNil => obtain ⟨-, rfl⟩ := portStep_setConfigNil h; exact hp
  | close =>
    cases h
    unfold MediaPort.close
    split <;> exact hp
  | writeAudioTo w =>
    obtain ⟨-, w₁, n, ws, rfl, ⟨-, -, rfl⟩ | ⟨-, -, -, rfl⟩⟩ := MediaPort.writeAudioTo_ok h <;>
      simpa [LoopsOpened, Resource.session?] using hp
  | _ => cases h; exact hp

/-- A call never stops an accept loop it started: `p.loops` only grows. -/
theorem portStep_loops {p q : MediaPort} {op : Op} (hp : LoopsOpened p)
    (h : portStep p op = .ok q) : p.loops ⊆ q.loops := by
  obtain ⟨new, hcr, -⟩ := (portStep_ledger h).created
  rw [hp, hp.step h, hcr, List.filterMap_append]
  exact List.subset_append_left _ _

theorem runPort_loops {p q : MediaPort} {ops : List Op} (hp : LoopsOpened p)
    (h : runPort p ops = .ok q) : LoopsOpened q ∧ p.loops ⊆ q.loops :=
  runPort_preserves (fun q => LoopsOpened q ∧ p.loops ⊆ q.loops)
    (fun _ _ _ _ hq hs => ⟨hq.1.step hs, List.Subset.trans hq.2 (portStep_loops hq.1 hs)⟩)
    ⟨hp, fun _ => id⟩ h

/-! ## The whole call -/

/-- A step of one of a call's goroutines: a public call on the port, a pass of the accept loop of
session `sess` on what `AcceptStream` answered, the `p.hnd.Load()` of the `k`-th read loop started,
or the rest of that loop's iteration, with the results of its `ReadRTP` and of the `HandleRTP` it
may make on what the load saw. -/
inductive MediaEvent where
  | call (op : Op)
  | accept (sess : Nat) (a : Accepted)
  | load (k : Nat)
  | read (k : Nat) (r : ReadRTP) (handled : Option String)
  deriving DecidableEq

/-- The public call an event makes, if any. -/
def MediaEvent.op? : MediaEvent → Option Op
  | .call op => some op
  | _ => none

/-- `p.hnd.Load()`: nil before the first `setupInput`, then a pointer to the chain. -/
def MediaPort.loadHnd (p : MediaPort) : Option (Option Chain) := p.hnd.map some

/-- Whether the `k`-th read loop started is running. -/
def Receiver.running {H : Type} (sys : Receiver H) (k : Nat) : Bool :=
  match sys.readers[k]? with
  | some (.running _) => true
  | _ => false

/-- A call's media: the port, the receive path of its sessions, and what each read loop's load saw
in the iteration it is in, until it hands its packet on. -/
structure Media where
  port : MediaPort
  recv : Receiver Chain
  loaded : Nat → Option (Option (Option Chain))

/-- A new port: no session yet, so no accept loop and no read loop. -/
def Media.init (o : MediaOptions) : Media :=
  ⟨newMediaPortWith o, ⟨acceptInit, 0, ⟨0, 0, 0⟩, []⟩, fun _ => none⟩

/-- One step; `none` when it does not happen: a public call that dereferences nil panics,
`recvStep` refuses a pass of an accept loop the port has not started and an iteration of a read
loop that is not running, and a read loop loads once per iteration, before handing its packet on. -/
def mediaStep (m : Media) : MediaEvent → Option Media
  | .call op =>
    match portStep m.port op with
    | .ok p => some { m with port := p }
    | .error _ => none
  | .accept sess a =>
    (recvStep m.port.loops m.recv (.accept sess a)).map fun r => { m with recv := r }
  | .load k =>
    if m.loaded k = none ∧ m.recv.running k then
      some { m with loaded := Function.update m.loaded k (some m.port.loadHnd) }
    else none
  | .read k r handled =>
    match m.loaded k with
    | some slot =>
      (recvStep m.port.loops m.recv (.read k ⟨r, slot, handled⟩)).map fun rc =>
        { m with recv := rc, loaded := Function.update m.loaded k none }
    | none => none

/-- Replay an interleaving. -/
def runMedia (m : Media) : List MediaEvent → Option Media
  | [] => some m
  | e :: evs => (mediaStep m e).bind (runMedia · evs)

/-- The step of the receive path an event is in `m`: an iteration hands its packet to what its load
saw. -/
def Media.recvEvent? (m : Media) : MediaEvent → Option (RecvEvent Chain)
  | .accept sess a => some (.accept sess a)
  | .read k r handled => (m.loaded k).map fun slot => .read k ⟨r, slot, handled⟩
  | _ => none

/-- The steps of the receive path in an interleaving from `m`; none after a step that does not
happen. -/
def recvTrace (m : Media) : List MediaEvent → List (RecvEvent Chain)
  | [] => []
  | e :: evs =>
    match mediaStep m e with
    | some m₁ => (m.recvEvent? e).toList ++ recvTrace m₁ evs
    | none => []

/-! ## One step -/

theorem runMedia_cons {m m' : Media} {e : MediaEvent} {evs : List MediaEvent} :
    runMedia m (e :: evs) = some m' ↔ ∃ m₁, mediaStep m e = some m₁ ∧ runMedia m₁ evs = some m' :=
  Option.bind_eq_some

/-- A public call moves the port; a load records what `p.hnd` holds for a running loop that has
not loaded yet; an accept pass or the rest of an iteration, on what its load saw, is a step of
the receive path. -/
theorem mediaStep_cases {m m₁ : Media} {e : MediaEvent} (h : mediaStep m e = some m₁) :
    (∃ op, e = .call op ∧ portStep m.port op = .ok m₁.port ∧ m₁.recv = m.recv ∧
      m₁.loaded = m.loaded) ∨
    (∃ k, e = .load k ∧ m.loaded k = none ∧ m.recv.running k ∧
      m₁ = { m with loaded := Function.update m.loaded k (some m.port.loadHnd) }) ∨
    (∃ sess a, e = .accept sess a ∧ m₁.port = m.port ∧ m₁.loaded = m.loaded ∧
      recvStep m.port.loops m.recv (.accept sess a) = some m₁.recv) ∨
    (∃ k r handled slot, e = .read k r handled ∧ m.loaded k = some slot ∧ m₁.port = m.port ∧
      m₁.loaded = Function.update m.loaded k none ∧
      recvStep m.port.loops m.recv (.read k ⟨r, slot, handled⟩) = some m₁.recv) := by
  cases e with
  | call op =>
    simp only [mediaStep] at h
    split at h
    · cases h; exact .inl ⟨_, rfl, ‹_›, rfl, rfl⟩
    · cases h
  | accept sess a =>
    obtain ⟨r, hr, rfl⟩ := Option.map_eq_some'.mp h
    exact .inr (.inr (.inl ⟨_, _, rfl, rfl, rfl, hr⟩))
  | load k =>
    simp only [mediaStep] at h
    split_ifs at h with hg
    cases h
    exact .inr (.inl ⟨k, rfl, hg.1, hg.2, rfl⟩)
  | read k r handled =>
    simp only [mediaStep] at h
    split at h
    · obtain ⟨rc, hrc, rfl⟩ := Option.map_eq_some'.mp h
      exact .inr (.inr (.inr ⟨k, r, handled, _, rfl, ‹_›, rfl, rfl, hrc⟩))
    · cases h

/-! ## What a run is made of -/

/-- The public calls of an interleaving, replayed alone, give the port it ends with. -/
theorem runMedia_port {m m' : Media} {evs : List MediaEvent} (h : runMedia m evs = some m') :
    runPort m.port (evs.filterMap MediaEvent.op?) = .ok m'.port := by
  induction evs generalizing m with
  | nil => cases h; rfl
  | cons e evs ih =>
    obtain ⟨m₁, h₁, h₂⟩ := runMedia_cons.mp h
    rcases mediaStep_cases h₁ with ⟨op, rfl, hp, -⟩ | ⟨k, rfl, -, -, rfl⟩ |
      ⟨sess, a, rfl, hp, -⟩ | ⟨k, r, handled, slot, rfl, -, hp, -⟩
    · simp only [MediaEvent.op?, List.filterMap_cons, runPort, hp]
      exact ih h₂
    · simpa only [List.filterMap_cons, MediaEvent.op?] using ih h₂
    · simpa only [List.filterMap_cons, MediaEvent.op?, ← hp] using ih h₂
    · simpa only [List.filterMap_cons, MediaEvent.op?, ← hp] using ih h₂

/-- More accept loops refuse no step. -/
theorem recvStep_mono {loops loops' : List Nat} (hl : loops ⊆ loops') {sys sys₁ : Receiver Chain}
    {re : RecvEvent Chain} (h : recvStep loops sys re = some sys₁) :
    recvStep loops' sys re = some sys₁ := by
  cases re with
  | accept sess a =>
    obtain ⟨⟨hs, hx⟩, rfl⟩ := recvStep_accept h
    simp only [recvStep, if_pos (And.intro (hl hs) hx)]
  | read k it => exact h

theorem recvTrace_run {m₀ m : Media} {evs : List MediaEvent} (h : runMedia m₀ evs = some m)
    (hl : LoopsOpened m₀.port) :
    runRecv m.port.loops m₀.recv (recvTrace m₀ evs) = some m.recv := by
  induction evs generalizing m₀ with
  | nil => cases h; rfl
  | cons e evs ih =>
    obtain ⟨m₁, h₁, h₂⟩ := runMedia_cons.mp h
    have hrecv : ∀ re, recvStep m₀.port.loops m₀.recv re = some m₁.recv → m₁.port = m₀.port →
        runRecv m.port.loops m₀.recv (re :: recvTrace m₁ evs) = some m.recv := fun re hs hp => by
      have hl₁ : LoopsOpened m₁.port := hp ▸ hl
      have hloops := (runPort_loops hl₁ (runMedia_port h₂)).2
      rw [runRecv, recvStep_mono (hp ▸ hloops) hs, Option.some_bind]
      exact ih h₂ hl₁
    rcases mediaStep_cases h₁ with ⟨op, rfl, hp, hr, -⟩ | ⟨k, rfl, -, -, rfl⟩ |
      ⟨sess, a, rfl, hp, -, hs⟩ | ⟨k, r, handled, slot, rfl, hslot, hp, -, hs⟩ <;>
      simp only [recvTrace, h₁, Media.recvEvent?, Option.toList_none, Option.toList_some,
        List.nil_append, List.singleton_append]
    · rw [← hr]
      exact ih h₂ (hl.step hp)
    · exact ih h₂ hl
    · exact hrecv _ hs hp
    · simp only [hslot, Option.map_some', Option.toList_some, List.singleton_append]
      exact hrecv _ hs hp

/-- The accept passes and read iterations of every interleaving from a new port are a run of the
receive path over the accept loops the port started, each iteration with what its load of `p.hnd`
saw. -/
theorem runMedia_recv (o : MediaOptions) (evs : List MediaEvent) (m : Media)
    (h : runMedia (.init o) evs = some m) :
    runRecv m.port.loops (Media.init o).recv (recvTrace (.init o) evs) = some m.recv :=
  recvTrace_run h (by simp [LoopsOpened, Media.init, newMediaPortWith])

/-- A call set up, a stream accepted on its session, and one packet loaded and handed on. -/
def streamOpen : List MediaEvent :=
  [.call (.setConfig pcmuConf okEnv), .accept 0 (.stream 0x1234), .load 0, .read 0 goodRead none]

/-- The receive path of a call whose one stream was accepted and read is a run of `runRecv`. -/
theorem stream_open_recv :
    ∃ m, runMedia (.init defaultOptions) streamOpen = some m ∧
      runRecv m.port.loops (Media.init defaultOptions).recv
        (recvTrace (.init defaultOptions) streamOpen) = some m.recv := by
  obtain ⟨m, h⟩ : ∃ m, runMedia (.init defaultOptions) streamOpen = some m := ⟨_, rfl⟩
  exact ⟨m, h, runMedia_recv defaultOptions streamOpen m h⟩

/-! ## Where the read loops hand their packets -/

/-- The handler calls the `k`-th read loop of `readers` has made; none if it was not started. -/
def callsOf (readers : List (LoopRun Chain)) (k : Nat) : List (Chain × Header × List UInt8) :=
  ((readers[k]?).map fun r => r.state.calls).getD []

/-- `1` when the `k`-th read loop has loaded `p.hnd` and not handed its packet on yet, else `0`. -/
def Media.pendingLoads (m : Media) (k : Nat) : Nat := if (m.loaded k).isSome then 1 else 0

/-- An accept pass starts a read loop with no handler call, after the others. -/
theorem callsOf_startReader (pc : UInt64) (stats : PortStats) (readers : List (LoopRun Chain))
    (a : Accepted) (k : Nat) : callsOf (startReader pc stats readers a) k = callsOf readers k := by
  cases a with
  | error err => rfl
  | stream ssrc =>
    simp only [callsOf, startReader]
    rcases Nat.lt_or_ge k readers.length with hk | hk
    · rw [List.getElem?_append_left hk]
    · rw [List.getElem?_eq_none hk, List.getElem?_append_right hk]
      cases k - readers.length <;> rfl

/-- Since `m₀`, every load a read loop made saw a chain satisfying `Q`, if it saw one, and every
handler call it made went to such a chain, but a call on a load it had already made at `m₀`. -/
def CallsSince (Q : Chain → Prop) (m₀ m : Media) : Prop :=
  ∀ k, ∃ new, callsOf m.recv.readers k = callsOf m₀.recv.readers k ++ new ∧
    (new = [] ∧ m.loaded k = m₀.loaded k ∨
      (∀ x ∈ new.drop (m₀.pendingLoads k), Q x.1) ∧
        ∀ ch, m.loaded k = some (some (some ch)) → Q ch)

namespace CallsSince

variable {Q Q' : Chain → Prop} {m₀ m m₁ : Media}

/-- Either way a loop stands in `CallsSince`, its calls past the pending load satisfy `Q`. -/
theorem drop_of_case {new : List (Chain × Header × List UInt8)} {n : Nat} {A B : Prop}
    (h : new = [] ∧ A ∨ (∀ x ∈ new.drop n, Q x.1) ∧ B) : ∀ x ∈ new.drop n, Q x.1 := by
  rcases h with ⟨rfl, -⟩ | ⟨h, -⟩
  · simp
  · exact h

theorem refl (Q : Chain → Prop) (m : Media) : CallsSince Q m m :=
  fun _ => ⟨[], by simp, .inl ⟨rfl, rfl⟩⟩

theorem mono (hc : CallsSince Q m₀ m) (hQ : ∀ ch, Q ch → Q' ch) : CallsSince Q' m₀ m := fun k => by
  obtain ⟨new, hk, h | ⟨hnew, hl⟩⟩ := hc k
  · exact ⟨new, hk, .inl h⟩
  · exact ⟨new, hk, .inr ⟨fun x hx => hQ _ (hnew x hx), fun ch h => hQ _ (hl ch h)⟩⟩

/-- A step that leaves the read loops and their loads as they were. -/
theorem frame (hc : CallsSince Q m₀ m) (hr : m₁.recv.readers = m.recv.readers)
    (hl : m₁.loaded = m.loaded) : CallsSince Q m₀ m₁ := by
  rw [CallsSince, hr, hl]
  exact hc

/-- A load of loop `k` sees what `p.hnd` holds. -/
theorem load (hc : CallsSince Q m₀ m) (hQ : ∀ ch, m.port.hnd = some ch → Q ch) (k : Nat) :
    CallsSince Q m₀ { m with loaded := Function.update m.loaded k (some m.port.loadHnd) } :=
  fun j => by
    obtain ⟨new, hj, hcase⟩ := hc j
    refine ⟨new, hj, ?_⟩
    by_cases hkj : j = k
    · subst hkj
      refine .inr ⟨drop_of_case hcase, fun ch h => hQ ch ?_⟩
      simp only [Function.update_same, MediaPort.loadHnd, Option.some.injEq,
        Option.map_eq_some'] at h
      obtain ⟨ch', hch, rfl⟩ := h
      exact hch
    · simpa only [Function.update_noteq hkj] using hcase

/-- An accept pass makes no handler call and loads nothing. -/
theorem accept (hc : CallsSince Q m₀ m) {rc : Receiver Chain} {sess : Nat} {a : Accepted}
    (h : recvStep m.port.loops m.recv (.accept sess a) = some rc) :
    CallsSince Q m₀ { m with recv := rc } := fun k => by
  obtain ⟨-, rfl⟩ := recvStep_accept h
  obtain ⟨new, hk, hcase⟩ := hc k
  exact ⟨new, (callsOf_startReader _ _ _ a k).trans hk, hcase⟩

/-- The rest of an iteration of loop `k` calls at most the handler its load saw. -/
theorem read (hc : CallsSince Q m₀ m) {k : Nat} {st : ReadLoopState Chain}
    {slot : Option (Option Chain)} {r : ReadRTP} {handled : Option String}
    (hk : m.recv.readers[k]? = some (.running st)) (hslot : m.loaded k = some slot) (pc : UInt64)
    (s : PortStats) {rc : Receiver Chain}
    (hrc : rc.readers = m.recv.readers.set k (loopStep (st.withCounters pc s) ⟨r, slot, handled⟩)) :
    CallsSince Q m₀ { m with recv := rc, loaded := Function.update m.loaded k none } := fun j => by
  have hlt : k < m.recv.readers.length := (List.getElem?_eq_some_iff.mp hk).1
  obtain ⟨new, hj, hcase⟩ := hc j
  by_cases hkj : j = k
  · subst hkj
    have hold : callsOf m.recv.readers j = st.calls := by simp [callsOf, hk, LoopRun.state]
    simp only [callsOf, hrc, List.getElem?_set_self hlt, Option.map_some', Option.getD_some,
      Function.update_same]
    rcases loopStep_calls (st.withCounters pc s) ⟨r, slot, handled⟩ with hcalls | ⟨hnd, ht, hcalls⟩
    · exact ⟨new, hcalls.trans (hold.symm.trans hj), .inr ⟨drop_of_case hcase, fun _ h => nomatch h⟩⟩
    · refine ⟨new ++ [_], by rw [hcalls, show (st.withCounters pc s).calls = st.calls from rfl,
        ← hold, hj, List.append_assoc]; rfl, .inr ⟨fun x hx => ?_, fun _ h => nomatch h⟩⟩
      have hs : slot = some (some hnd) := by
        simp only [Iteration.target] at ht
        split_ifs at ht
        exact Option.join_eq_some.mp ht
      rcases hcase with ⟨rfl, hsame⟩ | ⟨hnew, hl⟩
      · have hp : m₀.pendingLoads j = 1 := by simp [Media.pendingLoads, ← hsame, hslot]
        simp [hp] at hx
      · rw [List.drop_append_eq_append_drop] at hx
        rcases List.mem_append.mp hx with hx | hx
        · exact hnew x hx
        · obtain rfl := List.mem_singleton.mp (List.mem_of_mem_drop hx)
          exact hl hnd (hs ▸ hslot)
  · refine ⟨new, ?_, ?_⟩
    · simpa only [callsOf, hrc, List.getElem?_set_ne (Ne.symm hkj)] using hj
    · simpa only [Function.update_noteq hkj] using hcase

end CallsSince

end SipMedia
