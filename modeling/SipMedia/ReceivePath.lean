import Mathlib.Data.List.Infix
import SipMedia.ReadLoop
import SipMedia.Watchdog

/-!
# The receive path: accept loops and the read loops they start

Reference: `pkg/sip/media_port.go` (`MediaPort.rtpLoop`, `MediaPort.rtpReadLoop`, `PortStats`).

`setupOutput` starts an accept loop, `rtpLoop`, on each session it opens, and a re-INVITE leaves
the earlier session open, so several may run. Each takes the answers its session's `AcceptStream`
gives, returns at the first error, and gives each stream it takes a goroutine of its own,
`go p.rtpReadLoop(log, r)`. All these loops run interleaved. What they share is the port:
`stats.Streams`, the `mediaReceived` fuse, the atomic counters `p.packetCount` and `p.stats`, and
the loads of `p.hnd`, which each `Iteration` records. A `RecvEvent` is one pass of an accept loop
or one iteration of a read loop; `recvStep` refuses a pass of an accept loop that was not started
or has returned, and an iteration of a read loop that was not started or has returned. An
iteration is one step: its `Add`s commute with every other goroutine's, so no interleaving inside
it changes the state it ends in.

* `runRecv_counters`: no counter update is lost. Over every interleaving, `packetCount` and
  `Packets` grow by the reads of all loops that returned a packet, `IgnoredPackets` by those no
  handler got and `InputPackets` by those a handler got, modulo 2^64; so
  `Packets = IgnoredPackets + InputPackets` is kept (`runRecv_stats_add_up`).
* `runRecv_own`: each read loop does, in every interleaving, what it would do alone on its own
  reads: the same handler calls, log lines, error counter and exit.

## Shape of the proof

`loopStep` reads the port's counters only to add to them (`loopStep_withCounters`), so a loop's
step is the same whatever the other loops have counted. `Solo` says that every loop started is where
its own reads take it from a fresh start; a step of loop `k` moves loop `k` as `rtpReadLoop` would
and leaves every other loop where it was (`Solo.step`), and a whole run keeps it (`Solo.run`).
-/

namespace SipMedia

/-! ## The accept loops -/

/-- `strings.Contains(s, substr)`. -/
def stringsContains (s substr : String) : Bool := decide (substr.toList <:+: s.toList)

/-- An error `AcceptStream` returns: whether `errors.Is(err, net.ErrClosed)` holds of it, and its
text. -/
structure AcceptError where
  isErrClosed : Bool
  msg : String
  deriving DecidableEq, Repr

/-- Whether `rtpLoop` returns on `err` without logging it: the error reads as a closed session. -/
def AcceptError.quiet (err : AcceptError) : Bool :=
  err.isErrClosed || stringsContains err.msg "closed"

example : AcceptError.quiet ⟨false, "use of closed network connection"⟩ = true := by decide

/-- What `AcceptStream` returns: a stream and its SSRC, or an error. -/
inductive Accepted where
  | stream (ssrc : UInt32)
  | error (err : AcceptError)
  deriving DecidableEq, Repr

/-- The log lines of `rtpLoop`: "cannot accept RTP stream" with the error, and "accepting RTP
stream" with the SSRC. -/
inductive AcceptLog where
  | cannotAccept (err : String)
  | accepting (ssrc : UInt32)
  deriving DecidableEq, Repr

/-- `core.Fuse`: broken once `Break` has been called. -/
structure Fuse where
  broken : Bool
  deriving DecidableEq, Repr

/-- `Fuse.Break`: the first call closes the fuse's channel, later calls do nothing. -/
def Fuse.break (_ : Fuse) : Fuse := ⟨true⟩

/-- What the accept loops share: `stats.Streams`, the `mediaReceived` fuse, the read loops started
(by session and SSRC), the log, and the sessions whose loop has returned. -/
structure AcceptState where
  streams : UInt64
  mediaReceived : Fuse
  readLoops : List (Nat × UInt32)
  logs : List AcceptLog
  exited : List Nat
  deriving DecidableEq, Repr

/-- One pass of the loop of session `sess`, on what `AcceptStream` answered. -/
def rtpLoopStep (st : AcceptState) (sess : Nat) : Accepted → AcceptState
  | .error err =>
    { st with
      logs := if err.quiet then st.logs else st.logs ++ [.cannotAccept err.msg]
      exited := st.exited ++ [sess] }
  | .stream ssrc =>
    { st with
      streams := st.streams + 1
      mediaReceived := st.mediaReceived.break
      logs := st.logs ++ [.accepting ssrc]
      readLoops := st.readLoops ++ [(sess, ssrc)] }

/-- No stream accepted yet. -/
def acceptInit : AcceptState := ⟨0, ⟨false⟩, [], [], []⟩

/-! ## What a read loop keeps to itself -/

section Own

variable {H : Type}

/-- A loop's state over other values of the port's counters. -/
def ReadLoopState.withCounters (st : ReadLoopState H) (pc : UInt64) (stats : PortStats) :
    ReadLoopState H :=
  { st with packetCount := pc, stats }

/-- What a loop keeps to itself: its state, the port's counters left out. -/
def ReadLoopState.own (st : ReadLoopState H) : ReadLoopState H := st.withCounters 0 ⟨0, 0, 0⟩

/-- What a loop, running or returned, keeps to itself. -/
def LoopRun.own : LoopRun H → LoopRun H
  | .running st => .running st.own
  | .exited why st => .exited why st.own

theorem ReadLoopState.countPacket_withCounters (st : ReadLoopState H) (pc : UInt64)
    (s : PortStats) :
    (st.withCounters pc s).countPacket =
      st.countPacket.withCounters (pc + 1) { s with packets := s.packets + 1 } := rfl

theorem LoopRun.own_eq_running {r : LoopRun H} {st : ReadLoopState H}
    (h : r.own = .running st.own) : ∃ st', r = .running st' ∧ st'.own = st.own := by
  cases r with
  | running st' => exact ⟨st', rfl, LoopRun.running.inj h⟩
  | exited why st' => cases h

variable [ToString H]

theorem handle_withCounters (st : ReadLoopState H) (pc : UInt64) (s : PortStats)
    (it : Iteration H) (hnd : H) :
    (handle (st.withCounters pc s) it hnd).own = (handle st it hnd).own := by
  unfold handle
  cases it.handled with
  | none => rfl
  | some err =>
    dsimp only [ReadLoopState.withCounters]
    split_ifs <;> rfl

/-- An iteration does the same to a loop whatever the port's counters hold. -/
theorem loopStep_withCounters (st : ReadLoopState H) (pc : UInt64) (s : PortStats)
    (it : Iteration H) :
    (loopStep (st.withCounters pc s) it).own = (loopStep st it).own := by
  unfold loopStep
  split <;> try rfl
  dsimp only
  split_ifs <;> try rfl
  split <;> try rfl
  rw [ReadLoopState.countPacket_withCounters]
  exact handle_withCounters _ _ _ it _

theorem loopStep_own_congr {st st' : ReadLoopState H} (h : st.own = st'.own) (it : Iteration H) :
    (loopStep st it).own = (loopStep st' it).own := by
  rw [← loopStep_withCounters st 0 ⟨0, 0, 0⟩, ← loopStep_withCounters st' 0 ⟨0, 0, 0⟩]
  exact congrArg (fun st => (loopStep st it).own) h

end Own

/-! ## The receive path -/

section Path

variable {H : Type}

/-- What one goroutine of the receive path does next: the accept loop of session `sess` gets an
answer from `AcceptStream`, or the `k`-th read loop started runs one iteration. -/
inductive RecvEvent (H : Type) where
  | accept (sess : Nat) (a : Accepted)
  | read (k : Nat) (it : Iteration H)
  deriving DecidableEq, Repr

/-- The receive path of a port: the accept loops' state, the counters the read loops add to, and
each read loop started, in the order its stream was accepted. -/
structure Receiver (H : Type) where
  accept : AcceptState
  packetCount : UInt64
  stats : PortStats
  readers : List (LoopRun H)
  deriving DecidableEq, Repr

/-- `go p.rtpReadLoop(log, r)` for the stream an accept loop took, if it took one. -/
def startReader (pc : UInt64) (stats : PortStats) (readers : List (LoopRun H)) :
    Accepted → List (LoopRun H)
  | .stream _ => readers ++ [.running (.init pc stats)]
  | .error _ => readers

variable [ToString H]

/-- One step of the receive path; `none` for a pass of an accept loop that was not started or has
returned, and for an iteration of a read loop that was not started or has returned. -/
def recvStep (loops : List Nat) (sys : Receiver H) : RecvEvent H → Option (Receiver H)
  | .accept sess a =>
    if sess ∈ loops ∧ sess ∉ sys.accept.exited then
      some { sys with
        accept := rtpLoopStep sys.accept sess a
        readers := startReader sys.packetCount sys.stats sys.readers a }
    else none
  | .read k it =>
    match sys.readers[k]? with
    | some (.running st) =>
      let r := loopStep (st.withCounters sys.packetCount sys.stats) it
      some { sys with
        packetCount := r.state.packetCount
        stats := r.state.stats
        readers := sys.readers.set k r }
    | _ => none

/-- An interleaving of the receive path's goroutines, from the accept loops started on `loops`. -/
def runRecv (loops : List Nat) (sys : Receiver H) : List (RecvEvent H) → Option (Receiver H)
  | [] => some sys
  | e :: evs => (recvStep loops sys e).bind (runRecv loops · evs)

variable {loops : List Nat} {sys sys₁ sys' : Receiver H}

theorem runRecv_cons {e : RecvEvent H} {evs : List (RecvEvent H)} :
    runRecv loops sys (e :: evs) = some sys' ↔
      ∃ sys₁, recvStep loops sys e = some sys₁ ∧ runRecv loops sys₁ evs = some sys' :=
  Option.bind_eq_some

theorem recvStep_accept {sess : Nat} {a : Accepted}
    (h : recvStep loops sys (.accept sess a) = some sys₁) :
    (sess ∈ loops ∧ sess ∉ sys.accept.exited) ∧ sys₁ = { sys with
      accept := rtpLoopStep sys.accept sess a
      readers := startReader sys.packetCount sys.stats sys.readers a } := by
  dsimp only [recvStep] at h
  split_ifs at h with hg
  exact ⟨hg, (Option.some.inj h).symm⟩

theorem recvStep_read {k : Nat} {it : Iteration H}
    (h : recvStep loops sys (.read k it) = some sys₁) :
    ∃ st, sys.readers[k]? = some (.running st) ∧ sys₁ = { sys with
      packetCount := (loopStep (st.withCounters sys.packetCount sys.stats) it).state.packetCount
      stats := (loopStep (st.withCounters sys.packetCount sys.stats) it).state.stats
      readers := sys.readers.set k (loopStep (st.withCounters sys.packetCount sys.stats) it) } := by
  dsimp only [recvStep] at h
  split at h
  · exact ⟨_, ‹_›, (Option.some.inj h).symm⟩
  · cases h

end Path

/-! ## A re-INVITE's two streams -/

/-- A receive path with no stream accepted yet. -/
def recvStart : Receiver Unit := ⟨acceptInit, 0, ⟨0, 0, 0⟩, []⟩

/-- A read of a 160-byte packet. -/
def goodRead : ReadRTP := ⟨⟨0, 1, 160, 0x1234, false⟩, 172, [], none⟩

/-- A read that hit `io.EOF`. -/
def eofRead : ReadRTP := ⟨⟨0, 0, 0, 0, false⟩, 0, [], some .eof⟩

/-- Both sessions of a re-INVITE accept a stream. The second stream's packets reach the handler,
which fails on the second one; the first stream's packet finds no handler, then its read hits
`io.EOF`. -/
def twoStreams : List (RecvEvent Unit) :=
  [.accept 3 (.stream 0x1234), .accept 0 (.stream 0x5678),
    .read 1 ⟨goodRead, some (some ()), none⟩, .read 0 ⟨goodRead, none, none⟩,
    .read 1 ⟨goodRead, some (some ()), some "bad frame"⟩, .read 0 ⟨eofRead, none, none⟩]

/-! ## The port's counters -/

section Counters

variable {H : Type}

/-- The iteration a read event runs. -/
def RecvEvent.iteration? : RecvEvent H → Option (Iteration H)
  | .read _ it => some it
  | .accept .. => none

/-- The reads of a run, of every read loop, that satisfy `p`. -/
def readsWhere (p : Iteration H → Bool) (evs : List (RecvEvent H)) : Nat :=
  (evs.filterMap RecvEvent.iteration?).countP p

/-- The reads that returned a packet. -/
def goodReads : List (RecvEvent H) → Nat := readsWhere fun it => it.read.err.isNone

/-- The reads that returned a packet no handler got. -/
def ignoredReads : List (RecvEvent H) → Nat :=
  readsWhere fun it => it.read.err.isNone && it.target.isNone

/-- The reads handed to a handler. -/
def inputReads : List (RecvEvent H) → Nat := readsWhere fun it => it.target.isSome

theorem readsWhere_cons (p : Iteration H → Bool) (e : RecvEvent H) (evs : List (RecvEvent H)) :
    readsWhere p (e :: evs) = readsWhere p [e] + readsWhere p evs := by
  rw [readsWhere, readsWhere, readsWhere, ← List.countP_append, ← List.filterMap_append,
    List.singleton_append]

@[simp] theorem readsWhere_read (p : Iteration H → Bool) (k : Nat) (it : Iteration H) :
    readsWhere p [.read k it] = if p it then 1 else 0 := by
  simp [readsWhere, RecvEvent.iteration?, List.countP_cons]

/-- A read that returned a packet either reached no handler or was handed to one. -/
theorem goodReads_eq (evs : List (RecvEvent H)) :
    goodReads evs = ignoredReads evs + inputReads evs := by
  simp only [goodReads, ignoredReads, inputReads, readsWhere]
  induction evs.filterMap RecvEvent.iteration? with
  | nil => rfl
  | cons it its ih =>
    simp only [List.countP_cons, ih]
    rcases herr : it.read.err with _ | err
    · cases it.target <;> simp <;> omega
    · simp [target_eq_none_of_err (by simp [herr] : it.read.err ≠ none)]

/-- `y` is `x` after `n` calls of `Add(1)`. -/
def Adds (x y : UInt64) (n : Nat) : Prop := y.toNat = (x.toNat + n) % UInt64.size

theorem Adds.zero (x : UInt64) : Adds x x 0 := (Nat.mod_eq_of_lt x.toNat_lt_size).symm

theorem Adds.one (x : UInt64) : Adds x (x + 1) 1 := rfl

theorem Adds.of_eq {x y : UInt64} (h : y = x) : Adds x y 0 := h ▸ .zero x

theorem Adds.of_eq_add_one {x y : UInt64} (h : y = x + 1) : Adds x y 1 := h ▸ .one x

theorem Adds.trans {x y z : UInt64} {n m : Nat} (h₁ : Adds x y n) (h₂ : Adds y z m) :
    Adds x z (n + m) := by
  unfold Adds at *
  rw [h₂, h₁, Nat.mod_add_mod, Nat.add_assoc]

/-- The counters of `sys'` are those of `sys` after the `Add(1)`s of the reads of `evs`. -/
structure CountedReads (sys sys' : Receiver H) (evs : List (RecvEvent H)) : Prop where
  packetCount : Adds sys.packetCount sys'.packetCount (goodReads evs)
  packets : Adds sys.stats.packets sys'.stats.packets (goodReads evs)
  ignored : Adds sys.stats.ignoredPackets sys'.stats.ignoredPackets (ignoredReads evs)
  input : Adds sys.stats.inputPackets sys'.stats.inputPackets (inputReads evs)

theorem CountedReads.cons {sys sys₁ sys' : Receiver H} {e : RecvEvent H}
    {evs : List (RecvEvent H)} (h₁ : CountedReads sys sys₁ [e]) (h₂ : CountedReads sys₁ sys' evs) :
    CountedReads sys sys' (e :: evs) := by
  refine ⟨?_, ?_, ?_, ?_⟩ <;> dsimp only [goodReads, ignoredReads, inputReads] <;>
    rw [readsWhere_cons]
  exacts [h₁.1.trans h₂.1, h₁.2.trans h₂.2, h₁.3.trans h₂.3, h₁.4.trans h₂.4]

variable [ToString H] {loops : List Nat} {sys sys₁ sys' : Receiver H}

/-- What one event adds to the counters: an accept pass nothing, an iteration what
`loopStep_counts` and `loopStep_of_err` say of it. -/
theorem recvStep_counted {e : RecvEvent H} (h : recvStep loops sys e = some sys₁) :
    CountedReads sys sys₁ [e] := by
  cases e with
  | accept sess a =>
    obtain ⟨-, rfl⟩ := recvStep_accept h
    exact ⟨.zero _, .zero _, .zero _, .zero _⟩
  | read k it =>
    obtain ⟨st, -, rfl⟩ := recvStep_read h
    set st₀ := st.withCounters sys.packetCount sys.stats
    rcases herr : it.read.err with _ | err
    · have hc := loopStep_counts st₀ it herr
      cases ht : it.target with
      | none =>
        obtain ⟨hi, hn, -⟩ := hc.2.2.1 ht
        refine ⟨?_, ?_, ?_, ?_⟩ <;> simp only [goodReads, ignoredReads, inputReads,
          readsWhere_read, herr, ht, Option.isNone_none, Option.isSome_none, Bool.and_self,
          if_true, Bool.false_eq_true, if_false]
        exacts [.of_eq_add_one hc.1, .of_eq_add_one hc.2.1, .of_eq_add_one hi, .of_eq hn]
      | some hnd =>
        obtain ⟨hn, hi, -⟩ := hc.2.2.2 hnd ht
        refine ⟨?_, ?_, ?_, ?_⟩ <;> simp only [goodReads, ignoredReads, inputReads,
          readsWhere_read, herr, ht, Option.isNone_none, Option.isSome_some, Option.isNone_some,
          Bool.and_false, if_true, Bool.false_eq_true, if_false]
        exacts [.of_eq_add_one hc.1, .of_eq_add_one hc.2.1, .of_eq hi, .of_eq_add_one hn]
    · obtain ⟨why, st', heq, -, hpc, hstats, -⟩ :=
        loopStep_of_err st₀ (herr ▸ Option.some_ne_none err : it.read.err ≠ none)
      have hnone : it.target = none := target_eq_none_of_err (by simp [herr])
      refine ⟨?_, ?_, ?_, ?_⟩ <;> simp only [goodReads, ignoredReads, inputReads,
        readsWhere_read, herr, hnone, Option.isNone_some, Option.isSome_none, Bool.false_and,
        Bool.false_eq_true, if_false, heq, LoopRun.state]
      exacts [.of_eq hpc, .of_eq (congrArg PortStats.packets hstats),
        .of_eq (congrArg PortStats.ignoredPackets hstats),
        .of_eq (congrArg PortStats.inputPackets hstats)]

theorem countedReads_run {evs : List (RecvEvent H)} (h : runRecv loops sys evs = some sys') :
    CountedReads sys sys' evs := by
  induction evs generalizing sys with
  | nil => cases h; exact ⟨.zero _, .zero _, .zero _, .zero _⟩
  | cons e evs ih =>
    obtain ⟨sys₁, h₁, h⟩ := runRecv_cons.mp h
    exact (recvStep_counted h₁).cons (ih h)

/-- No counter update is lost: over every interleaving of the receive path, `packetCount` and
`Packets` grow by the reads of all read loops that returned a packet, `IgnoredPackets` by those no
handler got and `InputPackets` by those a handler got, modulo 2^64. -/
theorem runRecv_counters {evs : List (RecvEvent H)} (h : runRecv loops sys evs = some sys') :
    CountedReads sys sys' evs :=
  countedReads_run h

/-- Over every interleaving of the receive path, `Packets = IgnoredPackets + InputPackets` holds
once it held: no read is counted as a packet without being counted as ignored or as input. -/
theorem runRecv_stats_add_up {evs : List (RecvEvent H)} (h : runRecv loops sys evs = some sys')
    (hb : sys.stats.packets = sys.stats.ignoredPackets + sys.stats.inputPackets) :
    sys'.stats.packets = sys'.stats.ignoredPackets + sys'.stats.inputPackets := by
  obtain ⟨-, hp, hi, hn⟩ := countedReads_run h
  apply UInt64.toNat.inj
  have hb' := congrArg UInt64.toNat hb
  unfold Adds at hp hi hn
  rw [uint64_toNat_add] at hb' ⊢
  rw [hp, hi, hn, hb', goodReads_eq]
  simp only [UInt64.size]
  omega

end Counters

/-- The two streams' reads are counted: three packets, one ignored and two input. -/
theorem two_streams_counted :
    ∃ sys', runRecv [0, 3] recvStart twoStreams = some sys' ∧
      CountedReads recvStart sys' twoStreams ∧
      goodReads twoStreams = 3 ∧ ignoredReads twoStreams = 1 ∧ inputReads twoStreams = 2 := by
  obtain ⟨sys', h⟩ : ∃ sys', runRecv [0, 3] recvStart twoStreams = some sys' := ⟨_, rfl⟩
  exact ⟨sys', h, runRecv_counters h, rfl, rfl, rfl⟩

/-- The counters of the two streams add up. -/
theorem two_streams_add_up :
    ∃ sys', runRecv [0, 3] recvStart twoStreams = some sys' ∧
      sys'.stats.packets = sys'.stats.ignoredPackets + sys'.stats.inputPackets := by
  obtain ⟨sys', h⟩ : ∃ sys', runRecv [0, 3] recvStart twoStreams = some sys' := ⟨_, rfl⟩
  exact ⟨sys', h, runRecv_stats_add_up h rfl⟩

/-! ## Each read loop as if alone -/

section Solo

variable {H : Type}

/-- The iteration a read event of the `k`-th read loop runs. -/
def RecvEvent.readOf? (k : Nat) : RecvEvent H → Option (Iteration H)
  | .read j it => if j = k then some it else none
  | .accept .. => none

/-- The iterations the `k`-th read loop ran in `evs`, in order. -/
def readsOf (k : Nat) (evs : List (RecvEvent H)) : List (Iteration H) :=
  evs.filterMap (RecvEvent.readOf? k)

@[simp] theorem readsOf_snoc_accept (k sess : Nat) (a : Accepted) (pre : List (RecvEvent H)) :
    readsOf k (pre ++ [.accept sess a]) = readsOf k pre := by
  simp [readsOf, RecvEvent.readOf?]

theorem readsOf_snoc_read (k j : Nat) (it : Iteration H) (pre : List (RecvEvent H)) :
    readsOf k (pre ++ [.read j it]) = readsOf k pre ++ if j = k then [it] else [] := by
  by_cases hjk : j = k <;> simp [readsOf, RecvEvent.readOf?, hjk]

variable [ToString H] {pre : List (RecvEvent H)} {readers : List (LoopRun H)}

/-- Every read loop started is where its own iterations of `evs` take it when `rtpReadLoop` runs
them alone, the port's counters apart; and no iteration of `evs` is of a loop not started. -/
structure Solo (evs : List (RecvEvent H)) (readers : List (LoopRun H)) : Prop where
  unstarted : ∀ k, readers.length ≤ k → readsOf k evs = []
  reader : ∀ k r, readers[k]? = some r →
    r.own = (rtpReadLoop (.init 0 ⟨0, 0, 0⟩) (readsOf k evs)).own

theorem Solo.init : Solo [] ([] : List (LoopRun H)) :=
  ⟨fun _ _ => rfl, fun _ _ h => by simp at h⟩

/-- An accept pass runs no read loop's iteration. -/
theorem Solo.accept (hs : Solo pre readers) (sess : Nat) (a : Accepted) :
    Solo (pre ++ [.accept sess a]) readers :=
  ⟨fun j hj => by simpa using hs.unstarted j hj, fun j r hr => by simpa using hs.reader j r hr⟩

/-- A read loop an accept pass starts is where a loop with no reads is. -/
theorem Solo.start (hs : Solo pre readers) (pc : UInt64) (stats : PortStats) :
    ∀ a, Solo pre (startReader pc stats readers a)
  | .error _ => hs
  | .stream _ => by
    simp only [startReader]
    refine ⟨fun j hj => hs.unstarted j (by simp at hj; omega), fun j r hr => ?_⟩
    rcases Nat.lt_or_ge j readers.length with hj | hj
    · rw [List.getElem?_append_left hj] at hr
      exact hs.reader j r hr
    · have hlt := (List.getElem?_eq_some_iff.mp hr).1
      simp only [List.length_append, List.length_singleton] at hlt
      obtain rfl : j = readers.length := by omega
      rw [List.getElem?_concat_length] at hr
      cases hr
      rw [hs.unstarted _ le_rfl]
      rfl

/-- An iteration of loop `k` moves loop `k` as `rtpReadLoop` would, and no other loop. -/
theorem Solo.read {k : Nat} {it : Iteration H} {st : ReadLoopState H} (hs : Solo pre readers)
    (hk : readers[k]? = some (.running st)) (pc : UInt64) (s : PortStats) :
    Solo (pre ++ [.read k it]) (readers.set k (loopStep (st.withCounters pc s) it)) := by
  have hlt : k < readers.length := (List.getElem?_eq_some_iff.mp hk).1
  refine ⟨fun j hj => ?_, fun j r hr => ?_⟩
  · rw [List.length_set] at hj
    rw [readsOf_snoc_read, if_neg (by omega), List.append_nil]
    exact hs.unstarted j hj
  · rw [readsOf_snoc_read]
    by_cases hkj : k = j
    · subst hkj
      rw [List.getElem?_set_self hlt] at hr
      cases hr
      obtain ⟨st', hrun, hown⟩ := LoopRun.own_eq_running (hs.reader k _ hk).symm
      rw [if_pos rfl, rtpReadLoop_snoc hrun, loopStep_withCounters]
      exact loopStep_own_congr hown.symm it
    · rw [List.getElem?_set_ne hkj] at hr
      rw [if_neg hkj, List.append_nil]
      exact hs.reader j r hr

variable {loops : List Nat} {sys sys₁ sys' : Receiver H}

theorem Solo.step {e : RecvEvent H} (hs : Solo pre sys.readers)
    (h : recvStep loops sys e = some sys₁) : Solo (pre ++ [e]) sys₁.readers := by
  cases e with
  | accept sess a =>
    obtain ⟨-, rfl⟩ := recvStep_accept h
    exact (hs.start _ _ a).accept sess a
  | read k it =>
    obtain ⟨st, hk, rfl⟩ := recvStep_read h
    exact hs.read hk _ _

theorem Solo.run {evs : List (RecvEvent H)} (hs : Solo pre sys.readers)
    (h : runRecv loops sys evs = some sys') : Solo (pre ++ evs) sys'.readers := by
  induction evs generalizing pre sys with
  | nil => cases h; simpa using hs
  | cons e evs ih =>
    obtain ⟨sys₁, h₁, h⟩ := runRecv_cons.mp h
    simpa using ih (hs.step h₁) h

/-- Each read loop does, in every interleaving of the receive path, what it would do alone on its
own reads: the same handler calls with the same packets, the same log lines, the same error counter
and the same exit. -/
theorem runRecv_own (loops : List Nat) (acc : AcceptState) (pc : UInt64) (stats : PortStats)
    (evs : List (RecvEvent H)) (h : runRecv loops ⟨acc, pc, stats, []⟩ evs = some sys') (k : Nat)
    (r : LoopRun H) (hk : sys'.readers[k]? = some r) :
    r.own = (rtpReadLoop (.init 0 ⟨0, 0, 0⟩) (readsOf k evs)).own := by
  simpa using (Solo.run Solo.init h).reader k r hk

end Solo

/-- The second stream's loop, interleaved with the first, is where its two reads take it alone. -/
theorem two_streams_own :
    ∃ sys' r, runRecv [0, 3] recvStart twoStreams = some sys' ∧ sys'.readers[1]? = some r ∧
      r.own = (rtpReadLoop (.init 0 ⟨0, 0, 0⟩) (readsOf 1 twoStreams)).own :=
  ⟨_, _, rfl, rfl, runRecv_own [0, 3] acceptInit 0 ⟨0, 0, 0⟩ twoStreams rfl 1 _ rfl⟩

end SipMedia
