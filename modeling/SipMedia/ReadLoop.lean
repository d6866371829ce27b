import Mathlib.Data.List.Basic

/-!
# The RTP read loop

Reference: `pkg/sip/media_port.go` (`MediaPort.rtpReadLoop`, `PortStats`).

`rtpReadLoop` reads one RTP packet per iteration, counts it, drops it when it overflows the MTU or
when `p.hnd` holds no handler, and otherwise hands it to the loaded handler; `maxErrors` handler
failures since the last success end the loop. The loop is generic in the handler it loads, so that
every interleaving with stores to `p.hnd` is an `Iteration` whose `slot` is what the load saw.

`loopStep` is one iteration and `rtpReadLoop` replays a list of them. The loop's error counter is
the failure streak of the iterations it has run (`errorCnt_eq_failStreak`); from that, every
iteration counts exactly as `loopStep_counts` says, and the loop stops on persisted errors exactly
at the `maxErrors`-th failing call of a streak (`rtpReadLoop_per_read`). The MTU message is never
logged (`rtpReadLoop_never_logs_mtu`).
-/

namespace SipMedia

/-- Modelled from the spec: `rtp.MTUSize`, the "MTU (1500 bytes)" of inbound validation. -/
def MTUSize : Nat := 1500

/-- `rtp.Header`. -/
structure Header where
  payloadType : UInt8
  sequenceNumber : UInt16
  timestamp : UInt32
  ssrc : UInt32
  marker : Bool
  deriving DecidableEq, Repr

/-- The error of a `ReadRTP` call: `io.EOF` or another one. -/
inductive ReadError where
  | eof
  | other (msg : String)
  deriving DecidableEq, Repr

/-- What one `r.ReadRTP(&h, buf)` call returned: the header, `n`, the buffer and the error. -/
structure ReadRTP where
  hdr : Header
  n : Nat
  buf : List UInt8
  err : Option ReadError
  deriving DecidableEq, Repr

/-- One iteration's view of the world: the read, what `p.hnd.Load()` saw (a nil pointer, a pointer
to a nil handler, or a handler) and the error `HandleRTP` returns if it is called. -/
structure Iteration (H : Type) where
  read : ReadRTP
  slot : Option (Option H)
  handled : Option String
  deriving DecidableEq, Repr

/-- The counters of `PortStats` that the read loop adds to. -/
structure PortStats where
  packets : UInt64
  ignoredPackets : UInt64
  inputPackets : UInt64
  deriving DecidableEq, Repr

/-- The lines the read loop logs. -/
inductive LoopLog where
  | readFailed (err : String)
  | mtuLimit (payloadSize : Nat)
  | handleFailed (payloadSize : Nat) (rtpHeader : Header) (pipeline : String) (errorCount : Nat)
      (err : String)
  | killing (err : String)
  deriving DecidableEq, Repr

/-- The message text of a log line. -/
def LoopLog.msg : LoopLog → String
  | .readFailed _ => "read RTP failed"
  | .mtuLimit _ => "RTP packet is larger than MTU limit"
  | .handleFailed .. => "handle RTP failed"
  | .killing _ => "killing RTP loop due to persisted errors"

/-- The loop's state: the port's packet counter and stats, the loop's locals, and what it did so
far (handler calls and log lines). -/
structure ReadLoopState (H : Type) where
  packetCount : UInt64
  stats : PortStats
  overflow : Bool
  pipeline : String
  errorCnt : Nat
  calls : List (H × Header × List UInt8)
  logs : List LoopLog
  deriving DecidableEq, Repr

/-- The state at the loop's start, over the port's current counters. -/
def ReadLoopState.init {H : Type} (packetCount : UInt64) (stats : PortStats) : ReadLoopState H :=
  ⟨packetCount, stats, false, "", 0, [], []⟩

/-- Why the loop returned. -/
inductive Exit where
  | eof
  | readFailed
  | persistedErrors
  deriving DecidableEq, Repr

/-- The loop running, or returned. -/
inductive LoopRun (H : Type) where
  | running (st : ReadLoopState H)
  | exited (why : Exit) (st : ReadLoopState H)
  deriving DecidableEq, Repr

/-- The state a run reached. -/
def LoopRun.state {H : Type} : LoopRun H → ReadLoopState H
  | .running st => st
  | .exited _ st => st

/-- `maxErrors`: 1 s of failures, given 20 ms frames. -/
def maxErrors : Nat := 50

section Loop

variable {H : Type} [ToString H]

/-- The handler call and its outcome, once the packet passed the MTU and handler checks. -/
def handle (st : ReadLoopState H) (it : Iteration H) (hnd : H) : LoopRun H :=
  let st := { st with
    stats := { st.stats with inputPackets := st.stats.inputPackets + 1 }
    calls := st.calls ++ [(hnd, it.read.hdr, it.read.buf.take it.read.n)] }
  match it.handled with
  | some err =>
    let pipeline := if st.pipeline = "" then toString hnd else st.pipeline
    let st := { st with
      pipeline
      logs := st.logs ++ [.handleFailed it.read.n it.read.hdr pipeline st.errorCnt err]
      errorCnt := st.errorCnt + 1 }
    if st.errorCnt ≥ maxErrors then .exited .persistedErrors { st with logs := st.logs ++ [.killing err] }
    else .running st
  | none => .running { st with errorCnt := 0, pipeline := "" }

/-- `p.packetCount.Add(1)` and `p.stats.Packets.Add(1)`. -/
@[simp] def ReadLoopState.countPacket (st : ReadLoopState H) : ReadLoopState H :=
  { st with
    packetCount := st.packetCount + 1
    stats := { st.stats with packets := st.stats.packets + 1 } }

/-- `p.stats.IgnoredPackets.Add(1)`. -/
@[simp] def ReadLoopState.ignorePacket (st : ReadLoopState H) : ReadLoopState H :=
  { st with stats := { st.stats with ignoredPackets := st.stats.ignoredPackets + 1 } }

/-- One iteration of `rtpReadLoop`'s `for` loop. -/
def loopStep (st : ReadLoopState H) (it : Iteration H) : LoopRun H :=
  match it.read.err with
  | some .eof => .exited .eof st
  | some (.other err) => .exited .readFailed { st with logs := st.logs ++ [.readFailed err] }
  | none =>
    let st := st.countPacket
    if it.read.n > MTUSize then
      let overflow := true
      let st := { st with overflow }
      let st := if !overflow then { st with logs := st.logs ++ [.mtuLimit it.read.n] } else st
      .running st.ignorePacket
    else
      match it.slot with
      | none => .running st.ignorePacket
      | some none => .running st.ignorePacket
      | some (some hnd) => handle st it hnd

/-- `rtpReadLoop` over the reads it gets, until it returns. -/
def rtpReadLoop (st : ReadLoopState H) : List (Iteration H) → LoopRun H
  | [] => .running st
  | it :: its =>
    match loopStep st it with
    | .running st' => rtpReadLoop st' its
    | .exited why st' => .exited why st'

end Loop

/-! ## What an iteration does

`target` is the handler a read reaches, if any, and `failStreak` the number of failing handler
calls since the last successful one; both read only the iterations, not the loop's state.
-/

section Spec

variable {H : Type}

/-- The handler the read is handed to: the read succeeded, fits the MTU and `p.hnd` held one. -/
def Iteration.target (it : Iteration H) : Option H :=
  if it.read.err = none ∧ ¬ it.read.n > MTUSize then it.slot.join else none

/-- The failure streak after one more iteration: a failing call extends it, a successful call
resets it, a dropped packet leaves it. -/
def streakStep (k : Nat) (it : Iteration H) : Nat :=
  match it.target with
  | none => k
  | some _ => if it.handled.isSome then k + 1 else 0

/-- The failing handler calls since the last successful one, or since the start. -/
def failStreak (its : List (Iteration H)) : Nat := its.foldl streakStep 0

theorem target_eq_none_of_err {it : Iteration H} (h : it.read.err ≠ none) : it.target = none := by
  simp [Iteration.target, h]

theorem target_err {it : Iteration H} {hnd : H} (h : it.target = some hnd) : it.read.err = none := by
  by_contra herr
  simp [target_eq_none_of_err herr] at h

end Spec

section Proofs

variable {H : Type} [ToString H]

theorem rtpReadLoop_append (st : ReadLoopState H) (pre post : List (Iteration H)) :
    rtpReadLoop st (pre ++ post) =
      match rtpReadLoop st pre with
      | .running st' => rtpReadLoop st' post
      | .exited why st' => .exited why st' := by
  induction pre generalizing st with
  | nil => rfl
  | cons it pre ih =>
    simp only [List.cons_append, rtpReadLoop]
    cases loopStep st it with
    | running st' => exact ih st'
    | exited why st' => rfl

@[simp] theorem handle_packetCount (st : ReadLoopState H) (it : Iteration H) (hnd : H) :
    (handle st it hnd).state.packetCount = st.packetCount := by
  unfold handle; cases it.handled <;> [rfl; (dsimp only; split <;> rfl)]

@[simp] theorem handle_stats (st : ReadLoopState H) (it : Iteration H) (hnd : H) :
    (handle st it hnd).state.stats = { st.stats with inputPackets := st.stats.inputPackets + 1 } := by
  unfold handle; cases it.handled <;> [rfl; (dsimp only; split <;> rfl)]

@[simp] theorem handle_calls (st : ReadLoopState H) (it : Iteration H) (hnd : H) :
    (handle st it hnd).state.calls = st.calls ++ [(hnd, it.read.hdr, it.read.buf.take it.read.n)] := by
  unfold handle; cases it.handled <;> [rfl; (dsimp only; split <;> rfl)]

theorem loopStep_of_err (st : ReadLoopState H) {it : Iteration H} (h : it.read.err ≠ none) :
    ∃ why st', loopStep st it = .exited why st' ∧ why ≠ .persistedErrors ∧
      st'.packetCount = st.packetCount ∧ st'.stats = st.stats ∧ st'.calls = st.calls := by
  unfold loopStep
  split
  · exact ⟨_, _, rfl, by decide, rfl, rfl, rfl⟩
  · exact ⟨_, _, rfl, by decide, rfl, rfl, rfl⟩
  · contradiction

/-- A read that reaches no handler is counted as ignored. -/
theorem loopStep_of_target_none (st : ReadLoopState H) {it : Iteration H}
    (h : it.read.err = none) (ht : it.target = none) :
    loopStep st it =
      .running { st.countPacket with overflow := st.overflow || decide (it.read.n > MTUSize) }.ignorePacket := by
  simp only [Iteration.target, h, true_and] at ht
  simp only [loopStep, h]
  by_cases hn : it.read.n > MTUSize
  · simp [hn]
  · simp only [hn, if_false, not_false_eq_true] at ht ⊢
    rcases hs : it.slot with _ | _ | hnd <;> simp_all

/-- A read that reaches a handler is handed to it. -/
theorem loopStep_of_target_some (st : ReadLoopState H) {it : Iteration H} {hnd : H}
    (ht : it.target = some hnd) :
    loopStep st it = handle st.countPacket it hnd := by
  simp only [Iteration.target] at ht
  split_ifs at ht with h
  obtain ⟨herr, hn⟩ := h
  rcases hs : it.slot with _ | _ | hnd' <;> simp [hs] at ht
  subst ht
  simp [loopStep, herr, hn, hs]

/-- Per read: one more packet; one more ignored packet and no call when the read reaches no
handler; one more input packet and one call with the header and `buf[:n]` when it does. -/
theorem loopStep_counts (st : ReadLoopState H) (it : Iteration H) (h : it.read.err = none) :
    (loopStep st it).state.packetCount = st.packetCount + 1 ∧
    (loopStep st it).state.stats.packets = st.stats.packets + 1 ∧
    (it.target = none →
      (loopStep st it).state.stats.ignoredPackets = st.stats.ignoredPackets + 1 ∧
      (loopStep st it).state.stats.inputPackets = st.stats.inputPackets ∧
      (loopStep st it).state.calls = st.calls) ∧
    (∀ hnd, it.target = some hnd →
      (loopStep st it).state.stats.inputPackets = st.stats.inputPackets + 1 ∧
      (loopStep st it).state.stats.ignoredPackets = st.stats.ignoredPackets ∧
      (loopStep st it).state.calls =
        st.calls ++ [(hnd, it.read.hdr, it.read.buf.take it.read.n)]) := by
  cases ht : it.target with
  | none => simp [loopStep_of_target_none st h ht, LoopRun.state]
  | some hnd => simp [loopStep_of_target_some st ht]

/-- A pass of the loop calls no handler, or the one handler its read reached. -/
theorem loopStep_calls (st : ReadLoopState H) (it : Iteration H) :
    (loopStep st it).state.calls = st.calls ∨ ∃ hnd, it.target = some hnd ∧
      (loopStep st it).state.calls = st.calls ++ [(hnd, it.read.hdr, it.read.buf.take it.read.n)] := by
  by_cases herr : it.read.err = none
  · cases ht : it.target with
    | none => exact .inl ((loopStep_counts st it herr).2.2.1 ht).2.2
    | some hnd => exact .inr ⟨hnd, rfl, ((loopStep_counts st it herr).2.2.2 hnd ht).2.2⟩
  · obtain ⟨why, st', heq, -, -, -, hcalls⟩ := loopStep_of_err st herr
    exact .inl (by rw [heq]; exact hcalls)

/-- The three outcomes of a handler call: success resets the error counter, a failure below
`maxErrors` extends it, and the failure that reaches `maxErrors` ends the loop. -/
theorem handle_cases (st : ReadLoopState H) (it : Iteration H) (hnd : H) :
    (it.handled = none ∧ ∃ st', handle st it hnd = .running st' ∧ st'.errorCnt = 0) ∨
    (it.handled.isSome ∧ st.errorCnt + 1 < maxErrors ∧
      ∃ st', handle st it hnd = .running st' ∧ st'.errorCnt = st.errorCnt + 1) ∨
    (it.handled.isSome ∧ maxErrors ≤ st.errorCnt + 1 ∧
      ∃ st', handle st it hnd = .exited .persistedErrors st') := by
  unfold handle
  cases it.handled with
  | none => exact .inl ⟨rfl, _, rfl, rfl⟩
  | some err =>
    dsimp only
    split
    · exact .inr (.inr ⟨rfl, ‹_›, _, rfl⟩)
    · exact .inr (.inl ⟨rfl, by omega, _, rfl, rfl⟩)

/-- An iteration that does not end the loop moves the error counter as `streakStep` does. -/
theorem loopStep_errorCnt {st st' : ReadLoopState H} {it : Iteration H}
    (hst : st.errorCnt < maxErrors) (h : loopStep st it = .running st') :
    st'.errorCnt = streakStep st.errorCnt it ∧ st'.errorCnt < maxErrors := by
  by_cases herr : it.read.err = none
  · cases ht : it.target with
    | none =>
      rw [loopStep_of_target_none st herr ht] at h
      cases h
      exact ⟨by simp [streakStep, ht], hst⟩
    | some hnd =>
      rw [loopStep_of_target_some st ht] at h
      simp only [streakStep, ht]
      rcases handle_cases st.countPacket it hnd with
        ⟨hh, st'', hr, he⟩ | ⟨hh, hlt, st'', hr, he⟩ | ⟨-, -, st'', hr⟩ <;> rw [hr] at h <;>
        cases h
      · simp [hh, he, maxErrors]
      · simp only [hh, Option.isSome_some, if_true]; exact ⟨he, he ▸ hlt⟩
  · obtain ⟨why, st'', hex, -⟩ := loopStep_of_err st herr
    rw [hex] at h
    cases h

/-- While the loop runs, its error counter is the failure streak of the iterations it ran, and
that streak is below `maxErrors`. -/
theorem errorCnt_eq_failStreak (pc : UInt64) (stats : PortStats) {pre : List (Iteration H)}
    {st : ReadLoopState H} (h : rtpReadLoop (.init pc stats) pre = .running st) :
    st.errorCnt = failStreak pre ∧ failStreak pre < maxErrors := by
  suffices ∀ (st₀ : ReadLoopState H), st₀.errorCnt < maxErrors →
      rtpReadLoop st₀ pre = .running st →
      st.errorCnt = pre.foldl streakStep st₀.errorCnt ∧ st.errorCnt < maxErrors by
    obtain ⟨he, hlt⟩ := this (.init pc stats) (show 0 < maxErrors by decide) h
    exact ⟨he, (show failStreak pre = st.errorCnt from he.symm) ▸ hlt⟩
  clear h
  induction pre with
  | nil => rintro st₀ hst₀ ⟨⟩; exact ⟨rfl, hst₀⟩
  | cons it pre ih =>
    intro st₀ hst₀ hrun
    simp only [rtpReadLoop] at hrun
    cases hstep : loopStep st₀ it with
    | running st₁ =>
      rw [hstep] at hrun
      obtain ⟨he, hlt⟩ := loopStep_errorCnt hst₀ hstep
      rw [List.foldl_cons, ← he]
      exact ih st₁ hlt hrun
    | exited why st₁ => rw [hstep] at hrun; cases hrun

theorem rtpReadLoop_snoc {st₀ st : ReadLoopState H} {pre : List (Iteration H)}
    (h : rtpReadLoop st₀ pre = .running st) (it : Iteration H) :
    rtpReadLoop st₀ (pre ++ [it]) = loopStep st it := by
  simp only [rtpReadLoop_append, h, rtpReadLoop]
  cases loopStep st it <;> rfl

/-- How a good read can end a loop whose error count is the failure streak of the reads before
it: only on a handler error, and exactly when that error completes a streak of `maxErrors`. -/
theorem loopStep_exits {pre : List (Iteration H)} {st : ReadLoopState H}
    (hcnt : st.errorCnt = failStreak pre) (hlt : st.errorCnt < maxErrors) (it : Iteration H)
    (herr : it.read.err = none) :
    (∀ why st', loopStep st it = .exited why st' → why = .persistedErrors) ∧
    ((∃ st', loopStep st it = .exited .persistedErrors st') ↔
      it.target.isSome ∧ it.handled.isSome ∧ failStreak (pre ++ [it]) = maxErrors) := by
  rw [failStreak, List.foldl_append, List.foldl_cons, List.foldl_nil, ← failStreak, ← hcnt]
  cases ht : it.target with
  | none => simp [loopStep_of_target_none st herr ht]
  | some hnd =>
    rw [loopStep_of_target_some st ht]
    simp only [streakStep, ht, Option.isSome_some, true_and]
    rcases handle_cases st.countPacket it hnd with
      ⟨hh, st', hr, -⟩ | ⟨hh, hlt', st', hr, -⟩ | ⟨hh, hge, st', hr⟩ <;> rw [hr]
    · simp [hh]
    · simp [hh] at hlt' ⊢; omega
    · simp [hh] at hge ⊢; omega

/-- What a read `it` does to a loop that has run the reads `pre` and reached `st`, when the loop
goes on to `next`: a read error ends the loop without counting; a good read adds one packet and
one to exactly one of the ignored and input counters, calling the handler once with the header
and `buf[:n]` exactly when it is an input; and the loop ends on handler errors exactly at the
`maxErrors`-th failing call since the last successful one, dropped packets not counting. -/
structure ReadAccounting (pre : List (Iteration H)) (st : ReadLoopState H) (it : Iteration H)
    (next : LoopRun H) : Prop where
  read_error : it.read.err ≠ none → ∃ why st', next = .exited why st' ∧
    why ≠ .persistedErrors ∧ st'.packetCount = st.packetCount ∧ st'.stats = st.stats ∧
    st'.calls = st.calls
  packet : it.read.err = none →
    next.state.packetCount = st.packetCount + 1 ∧ next.state.stats.packets = st.stats.packets + 1
  ignored : it.read.err = none → it.target = none →
    next.state.stats.ignoredPackets = st.stats.ignoredPackets + 1 ∧
    next.state.stats.inputPackets = st.stats.inputPackets ∧ next.state.calls = st.calls
  input : ∀ hnd, it.target = some hnd →
    next.state.stats.inputPackets = st.stats.inputPackets + 1 ∧
    next.state.stats.ignoredPackets = st.stats.ignoredPackets ∧
    next.state.calls = st.calls ++ [(hnd, it.read.hdr, it.read.buf.take it.read.n)]
  exits : it.read.err = none → ∀ why st', next = .exited why st' → why = .persistedErrors
  persisted : it.read.err = none → ((∃ st', next = .exited .persistedErrors st') ↔
    it.target.isSome ∧ it.handled.isSome ∧ failStreak (pre ++ [it]) = maxErrors)

/-- Every read of every run, whatever `p.hnd` held at each load, is accounted as
`ReadAccounting` says. -/
theorem rtpReadLoop_per_read (pc : UInt64) (stats : PortStats) (pre : List (Iteration H))
    (st : ReadLoopState H) (hrun : rtpReadLoop (.init pc stats) pre = .running st)
    (it : Iteration H) :
    ReadAccounting pre st it (rtpReadLoop (.init pc stats) (pre ++ [it])) := by
  rw [rtpReadLoop_snoc hrun]
  obtain ⟨hcnt, hlt⟩ := errorCnt_eq_failStreak pc stats hrun
  have hexit := loopStep_exits hcnt (hcnt ▸ hlt) it
  exact {
    read_error := loopStep_of_err st
    packet := fun herr => ⟨(loopStep_counts st it herr).1, (loopStep_counts st it herr).2.1⟩
    ignored := fun herr => (loopStep_counts st it herr).2.2.1
    input := fun hnd ht => (loopStep_counts st it (target_err ht)).2.2.2 hnd ht
    exits := fun herr => (hexit herr).1
    persisted := fun herr => (hexit herr).2 }

/-- A packet handed to a handler that fails. -/
def failingRead : Iteration Unit :=
  ⟨⟨⟨0, 1, 160, 7, false⟩, 12, [], none⟩, some (some ()), some "bad frame"⟩

/-- After `maxErrors - 1` failing calls the loop still runs, and the next failing call ends it on
persisted errors. -/
theorem fiftieth_failure_ends_loop :
    ∃ st, rtpReadLoop (.init 0 ⟨0, 0, 0⟩) (List.replicate 49 failingRead) = .running st ∧
      ReadAccounting (List.replicate 49 failingRead) st failingRead
        (rtpReadLoop (.init 0 ⟨0, 0, 0⟩) (List.replicate 49 failingRead ++ [failingRead])) ∧
      ∃ st', rtpReadLoop (.init 0 ⟨0, 0, 0⟩) (List.replicate 49 failingRead ++ [failingRead]) =
        .exited .persistedErrors st' := by
  obtain ⟨st, h⟩ : ∃ st, rtpReadLoop (.init 0 ⟨0, 0, 0⟩) (List.replicate 49 failingRead) =
      .running st := ⟨_, rfl⟩
  have hacc := rtpReadLoop_per_read 0 ⟨0, 0, 0⟩ _ st h failingRead
  exact ⟨st, h, hacc, (hacc.persisted rfl).mpr ⟨rfl, rfl, by decide⟩⟩

/-! ## The MTU message -/

/-- The message the loop means to log once per stream for an oversize packet. -/
def mtuLimitMsg : String := "RTP packet is larger than MTU limit"

/-- No iteration adds a line with the MTU message: the flag is set just before it is tested. -/
theorem loopStep_logs_mtu (st : ReadLoopState H) (it : Iteration H) :
    ((loopStep st it).state.logs.filter (·.msg = mtuLimitMsg)) =
      st.logs.filter (·.msg = mtuLimitMsg) := by
  unfold loopStep
  split
  · rfl
  · simp [LoopRun.state, LoopLog.msg, mtuLimitMsg]
  · split
    · rfl
    · split
      · rfl
      · rfl
      · unfold handle
        cases it.handled with
        | none => rfl
        | some err => dsimp only; split <;> simp [LoopRun.state, LoopLog.msg, mtuLimitMsg]

/-- On every run, the MTU message is never logged. -/
theorem rtpReadLoop_never_logs_mtu (pc : UInt64) (stats : PortStats) (its : List (Iteration H)) :
    ∀ l ∈ (rtpReadLoop (.init pc stats) its).state.logs, l.msg ≠ mtuLimitMsg := by
  suffices ∀ st₀ : ReadLoopState H, ((rtpReadLoop st₀ its).state.logs.filter (·.msg = mtuLimitMsg))
      = st₀.logs.filter (·.msg = mtuLimitMsg) by
    intro l hl hmsg
    have := this (.init pc stats)
    simp only [ReadLoopState.init, List.filter_nil] at this
    exact List.filter_eq_nil_iff.mp this l hl (by simpa using hmsg)
  induction its with
  | nil => intro; rfl
  | cons it its ih =>
    intro st₀
    have h := loopStep_logs_mtu st₀ it
    simp only [rtpReadLoop]
    cases hs : loopStep st₀ it with
    | running st₁ => rw [hs] at h; exact (ih st₁).trans h
    | exited why st₁ => rw [hs] at h; exact h

/-- An oversize read, then a read whose handler fails: the one line logged is the handler's. -/
theorem oversize_then_failure_logged :
    LoopLog.handleFailed 12 ⟨0, 1, 160, 7, false⟩ "()" 0 "bad frame" ∈
      (rtpReadLoop (.init 0 ⟨0, 0, 0⟩ : ReadLoopState Unit)
        [⟨⟨⟨0, 0, 0, 0, false⟩, MTUSize + 1, [], none⟩, none, none⟩,
          ⟨⟨⟨0, 1, 160, 7, false⟩, 12, [], none⟩, some (some ()), some "bad frame"⟩]).state.logs ∧
    (LoopLog.handleFailed 12 ⟨0, 1, 160, 7, false⟩ "()" 0 "bad frame").msg ≠ mtuLimitMsg := by
  have h : LoopLog.handleFailed 12 ⟨0, 1, 160, 7, false⟩ "()" 0 "bad frame" ∈
      (rtpReadLoop (.init 0 ⟨0, 0, 0⟩ : ReadLoopState Unit)
        [⟨⟨⟨0, 0, 0, 0, false⟩, MTUSize + 1, [], none⟩, none, none⟩,
          ⟨⟨⟨0, 1, 160, 7, false⟩, 12, [], none⟩, some (some ()), some "bad frame"⟩]).state.logs := by
    decide
  exact ⟨h, rtpReadLoop_never_logs_mtu 0 ⟨0, 0, 0⟩ _ _ h⟩

/-- One read of `MTUSize + 1` bytes is dropped and counted as ignored, and nothing is logged. -/
theorem oversize_read_not_logged :
    rtpReadLoop (.init 0 ⟨0, 0, 0⟩ : ReadLoopState Unit)
        [⟨⟨⟨0, 0, 0, 0, false⟩, MTUSize + 1, [], none⟩, none, none⟩] =
      .running ⟨1, ⟨1, 1, 0⟩, true, "", 0, [], []⟩ := by
  decide

end Proofs

end SipMedia
