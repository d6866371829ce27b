import SipMedia.Port

/-!
# What the port's calls do over a whole life

Reference: `pkg/sip/media_port.go` (`MediaPort.SetConfig`, `setupOutput`, `setupInput`,
`MediaPort.Close`, `MediaPort.WriteAudioTo`).

Each call's effect is said once, as an inversion lemma (`setupOutput_ok`, `setConfig_ok`,
`setConfig_error`, `portStep_ledger`), and every result over histories is derived from those by
`runPort_preserves`, which packages the induction over a history once.

* `setConfig_error_state`: what a failed `SetConfig` leaves behind. Only the "already closed" error
  leaves the port as it was; the other two have already moved the connection's destination, and a
  write-stream failure has also published the new configuration and a new session.
* `FreshIds`: every session and chain identity is below `nextId`, so the identities a call draws
  are new.
* `replaced_never_closed`: a session or chain that is no longer the port's current one is closed by
  no later call: `SetConfig` replaces them without closing them.
* `hnd_closed_after_close`: after `Close`, `p.hnd` still holds the chain `Close` closed.
* `writeAudioTo_before_setConfig`: `WriteAudioTo` on a new port dereferences the nil `p.conf`.
-/

namespace SipMedia

/-- The identity a session or a handler chain carries. -/
def Resource.id? : Resource → Option Nat
  | .session s => some s
  | .chain g => some g
  | _ => none

/-- The identity a writer's creation drew. -/
def Writer.id : Writer → Nat
  | .encoder _ out => out.seq
  | .mixerInput mix _ _ => mix
  | .user id => id
  | .processed _ id _ => id

namespace MediaPort

/-- The session and chain `Close` would close now: `p.sess` and the chain in `p.hnd`. -/
def current (p : MediaPort) : List Resource :=
  (p.sess.map Resource.session).toList ++ (p.hnd.map fun ch => Resource.chain ch.id).toList

/-! ## One `SetConfig` -/

section SetConfig

variable {p q : MediaPort} {c : MediaConf} {env : SessionEnv} {s : Nat} {e : ConfigError}

/-- A successful `setupOutput` touches only the outbound side: it draws identities, publishes the
streams and the writer, and closes the writer it displaced. -/
theorem setupOutput_ok (h : p.setupOutput c s env = (q, .ok ())) :
    q.closed = p.closed ∧ q.jitterEnabled = p.jitterEnabled ∧ q.dtmfIn = p.dtmfIn ∧
    q.conf = p.conf ∧ q.sess = p.sess ∧ q.hnd = p.hnd ∧ p.nextId < q.nextId ∧
    q.loops = p.loops ++ [s] ∧ q.closes = p.closes ++ (p.audioOut.target.map Resource.writer).toList ∧
    ∃ ws : List Writer, q.created = p.created ++ ws.map Resource.writer := by
  unfold setupOutput at h
  split at h
  · cases h
  split at h
  · cases h
  dsimp only at h
  split_ifs at h <;> obtain ⟨rfl, -⟩ := Prod.mk.inj h
  · exact ⟨rfl, rfl, rfl, rfl, rfl, rfl, by dsimp only; omega, rfl, rfl, [_, _],
      List.append_assoc _ _ _⟩
  all_goals exact ⟨rfl, rfl, rfl, rfl, rfl, rfl, by simp, rfl, rfl, [_], rfl⟩

/-- A failing `setupOutput` either found the port closed or has started the accept loop. -/
theorem setupOutput_error (h : p.setupOutput c s env = (q, .error e)) :
    (p.closed = true ∧ e = .alreadyClosed ∧ q = p) ∨
    (∃ err, e = .openWriteStream err ∧ q = { p with loops := p.loops ++ [s] }) := by
  unfold setupOutput at h
  split at h
  · cases h; exact .inl ⟨‹_›, rfl, rfl⟩
  split at h
  · cases h; exact .inr ⟨_, rfl, rfl⟩
  dsimp only at h
  split at h <;> (try split at h) <;> cases h

/-- The path of a successful `SetConfig`: the port was open, the session is opened and published,
`setupOutput` succeeds and `setupInput` runs. -/
theorem setConfig_ok_path (h : p.setConfig c env = (q, .ok ())) :
    p.closed = false ∧ ∃ q₀, ({ p with
      port := (p.port.setDst c.remote).setDst c.remote, nextId := p.nextId + 1,
      created := p.created ++ [Resource.session p.nextId], conf := some c,
      sess := some p.nextId } : MediaPort).setupOutput c p.nextId env = (q₀, .ok ()) ∧
      q = q₀.setupInput c := by
  unfold setConfig at h
  split at h
  · cases h
  rename_i hc
  split at h
  · cases h
  dsimp only at h
  split at h
  · cases h
  rename_i q₀ hout
  exact ⟨by simpa using hc, q₀, hout, (Prod.mk.inj h).1.symm⟩

/-- A successful `SetConfig` publishes `c`, a new session and a new chain built from `c`, and
closes nothing but the output writer it displaced. -/
theorem setConfig_ok (h : p.setConfig c env = (q, .ok ())) :
    p.closed = false ∧ q.closed = false ∧ q.jitterEnabled = p.jitterEnabled ∧
    q.dtmfIn = p.dtmfIn ∧ q.conf = some c ∧ q.sess = some p.nextId ∧ p.nextId < q.nextId ∧
    q.closes = p.closes ++ (p.audioOut.target.map Resource.writer).toList ∧
    ∃ (g : Nat) (ws : List Writer), p.nextId < g ∧ g < q.nextId ∧
      q.hnd = some ⟨g, inputChain c g p.jitterEnabled⟩ ∧
      q.created = p.created ++ Resource.session p.nextId :: ws.map Resource.writer ++
        [Resource.chain g] := by
  obtain ⟨hc, q₀, hout, rfl⟩ := setConfig_ok_path h
  obtain ⟨h1, h2, h3, h4, h5, -, h7, -, h8, ws, h9⟩ := setupOutput_ok hout
  simp only at h1 h2 h3 h4 h5 h7 h8 h9
  simp only [setupInput, h1, h2, h3, h4, h5, h8, h9, hc, true_and]
  exact ⟨by omega, _, ws, by omega, by omega, rfl, by simp⟩

/-- A successful `SetConfig` starts one accept loop, on the session it opened. -/
theorem setConfig_ok_loops (h : p.setConfig c env = (q, .ok ())) : q.loops = p.loops ++ [p.nextId] := by
  obtain ⟨-, q₀, hout, rfl⟩ := setConfig_ok_path h
  obtain ⟨-, -, -, -, -, -, -, hl, -⟩ := setupOutput_ok hout
  exact hl

/-- A failed `SetConfig`: a closed port is left alone; a session error has already set the
destination; a write-stream error has also published `c` and a new session with its accept loop. -/
theorem setConfig_error (h : p.setConfig c env = (q, .error e)) :
    (p.closed = true ∧ e = .alreadyClosed ∧ q = p) ∨
    (∃ err, e = .newSession err ∧ q = { p with port := p.port.setDst c.remote }) ∨
    (∃ err, e = .openWriteStream err ∧ q = { p with
      port := p.port.setDst c.remote, conf := some c, sess := some p.nextId,
      nextId := p.nextId + 1, created := p.created ++ [Resource.session p.nextId],
      loops := p.loops ++ [p.nextId] }) := by
  unfold setConfig at h
  split at h
  · cases h; exact .inl ⟨‹_›, rfl, rfl⟩
  split at h
  · cases h; exact .inr (.inl ⟨_, rfl, rfl⟩)
  dsimp only at h
  split at h
  · cases h
    rename_i hout
    rcases setupOutput_error hout with ⟨hc, -⟩ | ⟨err, rfl, rfl⟩
    · simp_all
    · exact .inr (.inr ⟨err, rfl, by simp⟩)
  · cases h

/-- On a closed port `SetConfig` only returns its error. -/
theorem setConfig_of_closed (hc : p.closed = true) :
    p.setConfig c env = (p, .error .alreadyClosed) := by
  simp [setConfig, hc]

/-- Every call of `SetConfig` ends in one of the two outcomes. -/
theorem setConfig_outcome (p : MediaPort) (c : MediaConf) (env : SessionEnv) :
    p.setConfig c env = ((p.setConfig c env).1, .ok ()) ∨
    ∃ e, p.setConfig c env = ((p.setConfig c env).1, .error e) := by
  rcases h : (p.setConfig c env).2 with e | ⟨⟩
  · exact .inr ⟨e, Prod.ext rfl h⟩
  · exact .inl (Prod.ext rfl h)

/-- What no `SetConfig` changes: the closed flag, the DTMF callback and the jitter setting. -/
theorem setConfig_keeps (p : MediaPort) (c : MediaConf) (env : SessionEnv) :
    (p.setConfig c env).1.closed = p.closed ∧ (p.setConfig c env).1.dtmfIn = p.dtmfIn ∧
    (p.setConfig c env).1.jitterEnabled = p.jitterEnabled := by
  rcases setConfig_outcome p c env with h | ⟨e, h⟩
  · obtain ⟨hc, hc', hj, hd, -⟩ := setConfig_ok h
    exact ⟨hc'.trans hc.symm, hd, hj⟩
  · rcases setConfig_error h with ⟨-, -, h⟩ | ⟨-, -, h⟩ | ⟨-, -, h⟩ <;> rw [h] <;> simp

end SetConfig

/-- The state a failed call must not touch: the handler, the outbound streams, the output switch
and the closed resources. -/
structure KeepsOutputs (p q : MediaPort) : Prop where
  hnd : q.hnd = p.hnd
  audioOutRTP : q.audioOutRTP = p.audioOutRTP
  dtmfOutRTP : q.dtmfOutRTP = p.dtmfOutRTP
  dtmfOutAudio : q.dtmfOutAudio = p.dtmfOutAudio
  audioOut : q.audioOut = p.audioOut
  closes : q.closes = p.closes

/-- A failed `SetConfig` publishes no handler, stream or writer and closes nothing. A closed port
is left exactly as it was; after a session error the connection already sends to `c.remote`; after
a write-stream error, `c`, a new session and its accept loop are published as well. -/
theorem setConfig_error_state (p : MediaPort) (c : MediaConf) (env : SessionEnv) (q : MediaPort)
    (e : ConfigError) (h : p.setConfig c env = (q, .error e)) :
    KeepsOutputs p q ∧ (e = .alreadyClosed → q = p) ∧
    (∀ err, e = .newSession err → q = { p with port := p.port.setDst c.remote }) ∧
    (∀ err, e = .openWriteStream err → q = { p with
      port := p.port.setDst c.remote, conf := some c, sess := some p.nextId,
      nextId := p.nextId + 1, created := p.created ++ [Resource.session p.nextId],
      loops := p.loops ++ [p.nextId] }) := by
  rcases setConfig_error h with ⟨-, rfl, rfl⟩ | ⟨err, rfl, rfl⟩ | ⟨err, rfl, rfl⟩ <;>
    exact ⟨⟨rfl, rfl, rfl, rfl, rfl, rfl⟩, by simp⟩

/-! ## The other calls -/

section Calls

variable {p q : MediaPort}

/-- A `WriteAudioTo(w)` that returns has read a configuration; it installs `w`, or the
processor's new writer around `w` drawn at `nextId`, and closes the writer it displaced. -/
theorem writeAudioTo_ok {w : Nat} (h : p.writeAudioTo w = .ok q) :
    p.conf.isSome ∧ ∃ (w₁ : Writer) (n : Nat) (ws : List Writer), q = { p with
      nextId := n, audioIn := { p.audioIn with target := some w₁ },
      created := p.created ++ ws.map Resource.writer,
      closes := p.closes ++ (p.audioIn.target.map Resource.writer).toList } ∧
      (w₁ = .user w ∧ n = p.nextId ∧ ws = [] ∨
        ∃ proc, w₁ = .processed proc p.nextId (.user w) ∧ n = p.nextId + 1 ∧ ws = [w₁]) := by
  unfold writeAudioTo at h
  split at h
  · cases h
  rename_i c hc
  refine ⟨by simp [hc], ?_⟩
  cases hpr : c.processor <;> simp only [applyProcessor, hpr] at h <;> cases h
  · exact ⟨_, _, [], by simp, .inl ⟨rfl, rfl, rfl⟩⟩
  · exact ⟨_, _, [.processed _ p.nextId (.user w)], rfl, .inr ⟨_, rfl, rfl, rfl⟩⟩

/-- `Close` on a closed port does nothing. -/
theorem close_of_closed (hc : p.closed = true) : p.close = p := by
  simp [close, hc]

/-- The first `Close` closes the writers, the current session, the connection and the chain. -/
theorem close_closes (hc : p.closed = false) :
    p.close.closes = p.closes ++ (p.audioOut.target.map Resource.writer).toList ++
      (p.audioIn.target.map Resource.writer).toList ++
      (p.dtmfOutAudio.map Resource.writer).toList ++ (p.sess.map Resource.session).toList ++
      [Resource.conn] ++ (p.hnd.map fun ch => Resource.chain ch.id).toList := by
  simp [close, hc]

end Calls

end MediaPort

/-! ## Histories -/

/-- A history's run is the run of its first part continued by its second. -/
theorem runPort_cons {p q : MediaPort} {op : Op} {ops : List Op} :
    runPort p (op :: ops) = .ok q ↔ ∃ p₁, portStep p op = .ok p₁ ∧ runPort p₁ ops = .ok q := by
  simp only [runPort]
  cases portStep p op <;> simp [Except.bind]

theorem runPort_append (p : MediaPort) (a b : List Op) :
    runPort p (a ++ b) = (runPort p a).bind (runPort · b) := by
  induction a generalizing p with
  | nil => rfl
  | cons op a ih =>
    simp only [List.cons_append, runPort]
    cases portStep p op with
    | error e => rfl
    | ok q => exact ih q

/-- A property that each call of a history keeps holds after the whole history. -/
theorem runPort_preserves (P : MediaPort → Prop) {ops : List Op}
    (hstep : ∀ op ∈ ops, ∀ p q, P p → portStep p op = .ok q → P q) {p q : MediaPort}
    (hp : P p) (h : runPort p ops = .ok q) : P q := by
  induction ops generalizing p with
  | nil => cases h; exact hp
  | cons op ops ih =>
    obtain ⟨p₁, hs, h₁⟩ := runPort_cons.mp h
    exact ih (fun op' hop => hstep op' (.tail _ hop)) (hstep op (.head _) p p₁ hp hs) h₁

section Step

open MediaPort

variable {p q : MediaPort} {op : Op}

/-- `SetConfig(nil)` returns only on a closed port, which it leaves alone. -/
theorem portStep_setConfigNil (h : portStep p .setConfigNil = .ok q) : p.closed = true ∧ q = p := by
  simp only [portStep] at h
  split at h
  · cases h; exact ⟨‹_›, rfl⟩
  · cases h

/-- A port is closed after a call exactly when it was closed before or the call was `Close`. -/
theorem portStep_closed (h : portStep p op = .ok q) :
    q.closed = true ↔ p.closed = true ∨ op = .close := by
  cases op with
  | setConfig c env => cases h; simp [(setConfig_keeps p c env).1]
  | setConfigNil => obtain ⟨-, rfl⟩ := portStep_setConfigNil h; simp
  | writeAudioTo w => obtain ⟨-, w₁, n, ws, rfl, -⟩ := writeAudioTo_ok h; simp
  | close => cases h; unfold close; split <;> simp_all
  | _ => cases h; simp

/-- No call changes whether the jitter buffer is enabled. -/
theorem portStep_jitterEnabled (h : portStep p op = .ok q) : q.jitterEnabled = p.jitterEnabled := by
  cases op with
  | setConfig c env => cases h; exact (setConfig_keeps p c env).2.2
  | setConfigNil => obtain ⟨-, rfl⟩ := portStep_setConfigNil h; rfl
  | writeAudioTo w => obtain ⟨-, w₁, n, ws, rfl, -⟩ := writeAudioTo_ok h; rfl
  | close => cases h; unfold close; split <;> rfl
  | _ => cases h; rfl

/-- Only `SetConfig` stores a handler. -/
theorem portStep_hnd (h : portStep p op = .ok q) (hop : ∀ c env, op ≠ .setConfig c env) :
    q.hnd = p.hnd := by
  cases op with
  | setConfig c env => exact absurd rfl (hop c env)
  | setConfigNil => obtain ⟨-, rfl⟩ := portStep_setConfigNil h; rfl
  | writeAudioTo w => obtain ⟨-, w₁, n, ws, rfl, -⟩ := writeAudioTo_ok h; rfl
  | close => cases h; unfold close; split <;> rfl
  | _ => cases h; rfl

/-- What one call may do to the port's ledgers (`portStep_ledger`). -/
structure LedgerStep (p q : MediaPort) : Prop where
  /-- Identities are never drawn twice. -/
  nextId_le : p.nextId ≤ q.nextId
  /-- It closes only writers, the connection and the current session and chain. -/
  closes : ∃ new, q.closes = p.closes ++ new ∧ ∀ r ∈ new, r.id? = none ∨ r ∈ p.current
  /-- A session or chain it makes current carries an identity drawn by this call. -/
  current : ∀ r ∈ q.current, r ∈ p.current ∨ ∀ i ∈ r.id?, p.nextId ≤ i
  /-- So does every session and chain it creates. -/
  created : ∃ new, q.created = p.created ++ new ∧
    ∀ r ∈ new, ∀ i ∈ r.id?, p.nextId ≤ i ∧ i < q.nextId

/-- A call that leaves the identities, the ledgers, `sess` and `hnd` alone. -/
theorem LedgerStep.of_frame (hn : q.nextId = p.nextId) (hcl : q.closes = p.closes)
    (hs : q.sess = p.sess) (hh : q.hnd = p.hnd) (hcr : q.created = p.created) :
    LedgerStep p q where
  nextId_le := hn.ge
  closes := ⟨[], by simp [hcl], by simp⟩
  current r hr := .inl (by simpa [MediaPort.current, hs, hh] using hr)
  created := ⟨[], by simp [hcr], by simp⟩

/-- The writers an `Option` holds carry no identity. -/
theorem id?_of_mem_writers {o : Option Writer} {r : Resource}
    (h : r ∈ (o.map Resource.writer).toList) : r.id? = none := by
  cases o with
  | none => cases h
  | some w => rw [List.mem_singleton.mp h]; rfl

/-- `SetConfig` makes current only the session and chain it creates. -/
theorem LedgerStep.setConfig (p : MediaPort) (c : MediaConf) (env : SessionEnv) :
    LedgerStep p (p.setConfig c env).1 := by
  rcases setConfig_outcome p c env with h | ⟨e, h⟩
  · obtain ⟨-, -, -, -, -, hs, hn, hcl, g, ws, hg, hgn, hh, hcr⟩ := setConfig_ok h
    refine ⟨hn.le, ⟨_, hcl, fun r hr => .inl (id?_of_mem_writers hr)⟩, fun r hr => .inr ?_,
      ⟨_, hcr.trans (List.append_assoc _ _ _), fun r hr i hi => ?_⟩⟩
    · simp only [MediaPort.current, hs, hh, Option.map_some', Option.toList_some,
        List.singleton_append, List.mem_cons, List.mem_singleton, List.not_mem_nil, or_false] at hr
      rcases hr with rfl | rfl <;> intro i hi <;> cases hi
      · exact le_refl _
      · exact hg.le
    · simp only [List.cons_append, List.mem_cons, List.mem_append, List.mem_map,
        List.mem_singleton, List.not_mem_nil, or_false] at hr
      rcases hr with rfl | ⟨w, -, rfl⟩ | rfl <;> cases hi
      · exact ⟨le_refl _, hn⟩
      · exact ⟨hg.le, hgn⟩
  · rcases setConfig_error h with ⟨-, -, h⟩ | ⟨-, -, h⟩ | ⟨-, -, h⟩ <;> rw [h]
    · exact .of_frame rfl rfl rfl rfl rfl
    · exact .of_frame rfl rfl rfl rfl rfl
    · refine ⟨by simp, ⟨[], by simp, by simp⟩, fun r hr => ?_, ⟨_, rfl, by simp [Resource.id?]⟩⟩
      simp only [MediaPort.current, Option.map_some', Option.toList_some, List.singleton_append,
        List.mem_cons] at hr
      rcases hr with rfl | hr
      · exact .inr (by simp [Resource.id?])
      · exact .inl (by simp [MediaPort.current, hr])

/-- `Close` closes writers, the connection and the current session and chain, and keeps them
current. -/
theorem LedgerStep.close (p : MediaPort) : LedgerStep p p.close := by
  by_cases hc : p.closed
  · rw [close_of_closed hc]; exact .of_frame rfl rfl rfl rfl rfl
  have hcl := close_closes (p := p) (by simpa using hc)
  simp only [List.append_assoc] at hcl
  refine ⟨by simp [MediaPort.close, hc], ⟨_, hcl, fun r hr => ?_⟩,
    fun r hr => .inl (by simpa [MediaPort.current, MediaPort.close, hc] using hr),
    ⟨[], by simp [MediaPort.close, hc], by simp⟩⟩
  simp only [List.mem_append] at hr
  rcases hr with hr | hr | hr | hr | hr | hr
  · exact .inl (id?_of_mem_writers hr)
  · exact .inl (id?_of_mem_writers hr)
  · exact .inl (id?_of_mem_writers hr)
  · exact .inr (List.mem_append_left _ hr)
  · rw [List.mem_singleton.mp hr]; exact .inl rfl
  · exact .inr (List.mem_append_right _ hr)

/-- `WriteAudioTo` creates and closes only writers. -/
theorem LedgerStep.writeAudioTo {w : Nat} (h : p.writeAudioTo w = .ok q) : LedgerStep p q := by
  obtain ⟨-, w₁, n, ws, rfl, hn⟩ := writeAudioTo_ok h
  refine ⟨?_, ⟨_, rfl, fun r hr => .inl (id?_of_mem_writers hr)⟩, fun r hr => .inl hr,
    ⟨_, rfl, by simp [Resource.id?]⟩⟩
  rcases hn with ⟨-, rfl, -⟩ | ⟨-, -, rfl, -⟩
  · exact Nat.le_refl _
  · exact Nat.le_succ _

theorem portStep_ledger (h : portStep p op = .ok q) : LedgerStep p q := by
  cases op with
  | setConfig c env => cases h; exact .setConfig p c env
  | setConfigNil => obtain ⟨-, rfl⟩ := portStep_setConfigNil h; exact .of_frame rfl rfl rfl rfl rfl
  | close => cases h; exact .close p
  | writeAudioTo w => exact .writeAudioTo h
  | _ => cases h; exact .of_frame rfl rfl rfl rfl rfl

end Step

/-! ## Identities are fresh -/

/-- Every session and chain the port created carries an identity below `nextId`. -/
def FreshIds (p : MediaPort) : Prop := ∀ r ∈ p.created, ∀ i ∈ r.id?, i < p.nextId

theorem LedgerStep.freshIds {p q : MediaPort} (hl : LedgerStep p q) (hf : FreshIds p) :
    FreshIds q := by
  obtain ⟨new, hcr, hnew⟩ := hl.created
  intro r hr i hi
  rw [hcr, List.mem_append] at hr
  rcases hr with hr | hr
  · exact Nat.lt_of_lt_of_le (hf r hr i hi) hl.nextId_le
  · exact (hnew r hr i hi).2

/-- In every state a history reaches from a new port, identities are fresh. -/
theorem freshIds_of_run (o : MediaOptions) (hist : List Op) (p : MediaPort)
    (h : runPort (newMediaPortWith o) hist = .ok p) : FreshIds p :=
  runPort_preserves FreshIds (fun _ _ _ _ hf hs => (portStep_ledger hs).freshIds hf)
    (by simp [FreshIds, newMediaPortWith]) h

/-! ## Replaced sessions and chains stay open -/

/-- A session or chain whose identity was drawn, which is no longer current and is not closed. -/
structure Orphan (p : MediaPort) (r : Resource) : Prop where
  drawn : ∃ i ∈ r.id?, i < p.nextId
  not_current : r ∉ p.current
  not_closed : r ∉ p.closes

theorem LedgerStep.orphan {p q : MediaPort} {r : Resource} (hl : LedgerStep p q)
    (ho : Orphan p r) : Orphan q r := by
  obtain ⟨i, hi, hlt⟩ := ho.drawn
  refine ⟨⟨i, hi, Nat.lt_of_lt_of_le hlt hl.nextId_le⟩, fun hr => ?_, fun hr => ?_⟩
  · rcases hl.current r hr with h | h
    · exact ho.not_current h
    · exact absurd (h i hi) (by omega)
  · obtain ⟨new, hcl, hnew⟩ := hl.closes
    rw [hcl, List.mem_append] at hr
    rcases hr with hr | hr
    · exact ho.not_closed hr
    · rcases hnew r hr with h | h
      · rw [h] at hi; cases hi
      · exact ho.not_current h

/-- A session or chain that is no longer the port's current one and is not closed yet is closed by
no later call. -/
theorem replaced_never_closed (p : MediaPort) (r : Resource) (i : Nat) (hid : r.id? = some i)
    (hi : i < p.nextId) (hcur : r ∉ p.current) (hopen : r ∉ p.closes) (ops : List Op)
    (q : MediaPort) (h : runPort p ops = .ok q) : r ∉ q.closes :=
  (runPort_preserves (Orphan · r) (fun _ _ _ _ ho hs => (portStep_ledger hs).orphan ho)
    ⟨⟨i, hid, hi⟩, hcur, hopen⟩ h).not_closed

/-- A PCMU call with `telephone-event` on payload type 101, to 192.0.2.5:30000. -/
def pcmuConf : MediaConf := ⟨⟨⟨"PCMU", 8000⟩, 0, 101⟩, ⟨.v4 0xC0000205, 30000⟩, none, none⟩

/-- The same call, keyed with SRTP. -/
def keyedConf : MediaConf := { pcmuConf with crypto := some "AES_CM_128_HMAC_SHA1_80" }

/-- The session library answering without errors. -/
def okEnv : SessionEnv := ⟨none, none⟩

/-- The session library rejecting the SRTP keys. -/
def badKeyEnv : SessionEnv := ⟨some "srtp: invalid key", none⟩

/-- The port `badKeyEnv` leaves after a keyed `SetConfig` on a new port. -/
def rejectedPort : MediaPort :=
  { newMediaPortWith defaultOptions with port := newUDPConn.setDst keyedConf.remote }

/-- A keyed `SetConfig` on a new port fails with the session error and leaves the outputs alone. -/
theorem keyed_setConfig_rejected :
    (newMediaPortWith defaultOptions).setConfig keyedConf badKeyEnv =
      (rejectedPort, .error (.newSession "srtp: invalid key")) ∧
    MediaPort.KeepsOutputs (newMediaPortWith defaultOptions) rejectedPort ∧
    (ConfigError.newSession "srtp: invalid key" = .alreadyClosed →
      rejectedPort = newMediaPortWith defaultOptions) ∧
    (∀ err, ConfigError.newSession "srtp: invalid key" = .newSession err →
      rejectedPort = { newMediaPortWith defaultOptions with
        port := (newMediaPortWith defaultOptions).port.setDst keyedConf.remote }) ∧
    (∀ err, ConfigError.newSession "srtp: invalid key" = .openWriteStream err →
      rejectedPort = { newMediaPortWith defaultOptions with
        port := (newMediaPortWith defaultOptions).port.setDst keyedConf.remote,
        conf := some keyedConf, sess := some (newMediaPortWith defaultOptions).nextId,
        nextId := (newMediaPortWith defaultOptions).nextId + 1,
        created := (newMediaPortWith defaultOptions).created ++
          [Resource.session (newMediaPortWith defaultOptions).nextId],
        loops := (newMediaPortWith defaultOptions).loops ++
          [(newMediaPortWith defaultOptions).nextId] }) := by
  have h : (newMediaPortWith defaultOptions).setConfig keyedConf badKeyEnv =
      (rejectedPort, .error (.newSession "srtp: invalid key")) := rfl
  exact ⟨h, MediaPort.setConfig_error_state _ _ _ _ _ h⟩

/-- A `SetConfig` that fails does not leave the connection's destination as it was: the keyed call
above already sends to its remote. -/
theorem failed_setConfig_moves_destination :
    ¬ ∀ (p : MediaPort) (c : MediaConf) (env : SessionEnv) (q : MediaPort) (e : ConfigError),
      p.setConfig c env = (q, .error e) → q.port.dst = p.port.dst := by
  intro hall
  have := hall _ _ _ _ _ (show (newMediaPortWith defaultOptions).setConfig keyedConf badKeyEnv =
    (rejectedPort, .error (.newSession "srtp: invalid key")) from rfl)
  exact absurd this (by decide)

/-- The port after a re-INVITE: `pcmuConf` set up twice. -/
def reconfigured : MediaPort :=
  (((newMediaPortWith defaultOptions).setConfig pcmuConf okEnv).1.setConfig pcmuConf okEnv).1

/-- The first session is replaced by the re-INVITE without being closed, so `Close` leaves it open. -/
theorem first_session_outlives_close :
    0 < reconfigured.nextId ∧ Resource.session 0 ∉ reconfigured.current ∧
    Resource.session 0 ∉ reconfigured.closes ∧ Resource.session 0 ∉ reconfigured.close.closes :=
  ⟨by decide, by decide, by decide,
    replaced_never_closed reconfigured (.session 0) 0 rfl (by decide) (by decide) (by decide)
      [.close] reconfigured.close rfl⟩

/-- A re-INVITE and `Close`: after the second `SetConfig` two sessions are open, and after `Close`
the first session and the first handler chain are still open. -/
theorem reinvite_leaks_first_session :
    runPort (newMediaPortWith defaultOptions)
        [.setConfig pcmuConf okEnv, .setConfig pcmuConf okEnv, .close] = .ok reconfigured.close ∧
    reconfigured.created.filter (· ∉ reconfigured.closes) =
      [.session 0, .chain 2, .session 3, .writer (.encoder ⟨"PCMU", 8000⟩ ⟨3, 4, 0, 8000⟩),
        .chain 5] ∧
    reconfigured.close.created.filter (· ∉ reconfigured.close.closes) = [.session 0, .chain 2] :=
  ⟨rfl, by decide, by decide⟩

/-! ## The handler after `Close` -/

/-- Once the port is closed, the chain `p.hnd` holds, if any, has been closed. -/
def ClosedChain (p : MediaPort) : Prop :=
  p.closed = true → ∀ ch, p.hnd = some ch → Resource.chain ch.id ∈ p.closes

open MediaPort in
theorem ClosedChain.step {p q : MediaPort} {op : Op} (h : portStep p op = .ok q)
    (hp : ClosedChain p) : ClosedChain q := by
  intro hq ch hch
  by_cases hc : p.closed
  · have hh : q.hnd = p.hnd := by
      cases op with
      | setConfig c env => cases h; rw [setConfig_of_closed hc]
      | _ => exact portStep_hnd h (fun _ _ => nofun)
    obtain ⟨new, hcl, -⟩ := (portStep_ledger h).closes
    rw [hcl]
    exact List.mem_append_left _ (hp hc ch (hh ▸ hch))
  · obtain rfl : op = .close := ((portStep_closed h).mp hq).resolve_left hc
    cases h
    have hc : p.closed = false := by simpa using hc
    have hh : p.close.hnd = p.hnd := by simp [close, hc]
    rw [close_closes hc]
    simp [← hh, hch]

/-- After `Close`, the chain `p.hnd` still holds, if any, is one `Close` has closed. -/
theorem hnd_closed_after_close (o : MediaOptions) (hist : List Op) (p : MediaPort)
    (h : runPort (newMediaPortWith o) hist = .ok p) (hc : p.closed = true) (ch : Chain)
    (hch : p.hnd = some ch) : Resource.chain ch.id ∈ p.closes :=
  runPort_preserves ClosedChain (fun _ _ _ _ hp hs => hp.step hs)
    (by simp [ClosedChain, newMediaPortWith]) h hc ch hch

/-- After a re-INVITE and `Close`, `p.hnd` holds the second chain, which `Close` closed. -/
theorem reconfigured_chain_closed :
    runPort (newMediaPortWith defaultOptions)
        [.setConfig pcmuConf okEnv, .setConfig pcmuConf okEnv, .close] = .ok reconfigured.close ∧
    reconfigured.close.closed = true ∧
    reconfigured.close.hnd = some ⟨5, inputChain pcmuConf 5 false⟩ ∧
    Resource.chain 5 ∈ reconfigured.close.closes := by
  have h : runPort (newMediaPortWith defaultOptions)
      [.setConfig pcmuConf okEnv, .setConfig pcmuConf okEnv, .close] = .ok reconfigured.close := rfl
  exact ⟨h, rfl, rfl, hnd_closed_after_close _ _ _ h rfl _ rfl⟩

/-- The port after one call set up and closed. -/
def closedCall : MediaPort := ((newMediaPortWith defaultOptions).setConfig pcmuConf okEnv).1.close

/-- Configured, then closed: `p.hnd` is not nil but holds the chain `Close` closed, and a read loop
that loads it hands its next packet to that chain. -/
theorem read_after_close_dispatches :
    runPort (newMediaPortWith defaultOptions) [.setConfig pcmuConf okEnv, .close] = .ok closedCall ∧
    closedCall.closed = true ∧ closedCall.hnd = some ⟨2, inputChain pcmuConf 2 false⟩ ∧
    Resource.chain 2 ∈ closedCall.closes ∧
    rtpReadLoop (.init 0 ⟨0, 0, 0⟩)
        [⟨⟨⟨0, 1, 160, 7, false⟩, 160, [], none⟩, some (closedCall.hnd.map Chain.root), none⟩] =
      .running ⟨1, ⟨1, 0, 1⟩, false, "", 0,
        [(inputChain pcmuConf 2 false, ⟨0, 1, 160, 7, false⟩, [])], []⟩ :=
  ⟨rfl, rfl, rfl, by decide, by decide⟩

/-! ## Nil dereferences -/

/-- `WriteAudioTo` as the first call on a new port dereferences the nil `p.conf`, whatever the
options and the writer. -/
theorem writeAudioTo_before_setConfig (o : MediaOptions) (w : Nat) :
    runPort (newMediaPortWith o) [.writeAudioTo w] = .error .nilDeref := rfl

/-! ## The outbound DTMF stream -/

/-- The same call without DTMF. -/
def noDtmfConf : MediaConf := { pcmuConf with audio := { pcmuConf.audio with dtmfType := 0 } }

/-- The port after a re-INVITE that drops DTMF. -/
def dtmfDropped : MediaPort :=
  (((newMediaPortWith defaultOptions).setConfig pcmuConf okEnv).1.setConfig noDtmfConf okEnv).1

/-- Re-configured from DTMF on 101 to no DTMF: `dtmfOutRTP` is still the payload type 101 stream
on the first session, and `WriteDTMF` sends through it, with timestamps of the second session's
audio stream. -/
theorem dtmf_stream_outlives_reconfig :
    runPort (newMediaPortWith defaultOptions)
        [.setConfig pcmuConf okEnv, .setConfig noDtmfConf okEnv] = .ok dtmfDropped ∧
    dtmfDropped.conf = some noDtmfConf ∧ dtmfDropped.sess = some 3 ∧
    dtmfDropped.dtmfOutRTP = some ⟨0, 1, 101, 8000⟩ ∧
    dtmfDropped.writeDTMF "1" = some ⟨none, some ⟨0, 1, 101, 8000⟩, some ⟨3, 4, 0, 8000⟩, "1"⟩ :=
  ⟨rfl, rfl, rfl, rfl, rfl⟩

end SipMedia
