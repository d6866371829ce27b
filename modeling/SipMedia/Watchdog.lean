import Mathlib.Data.List.Basic
import Mathlib.Tactic.Common

/-!
# The media-timeout watchdog

Reference: `pkg/sip/media_port.go` (`MediaPort.timeoutLoop`, `MediaPort.EnableTimeout`, the
`packetCount.Add` of `MediaPort.rtpReadLoop`, the `closed` fuse of `MediaPort.Close`).

`timeoutLoop` is one goroutine that `select`s between the closed fuse, the one-slot
`timeoutReset` channel and a ticker. Everything else that touches its shared state is a step of
its own: a read loop counting a packet, `EnableTimeout(false)`, the two halves of
`EnableTimeout(true)` (the non-blocking send on `timeoutReset`, and the later store of
`time.Now()` into `timeoutStart`), and `Close` breaking the fuse. A `TimeoutEvent` carries the
time it happens at; `timeoutStep` refuses an event that is not enabled or goes back in time, and a
`select` with several ready cases may take any of them.

`StartInv` and `CountInv` relate the loop's locals to the history of events. `packetCount` and
the loop's `lastPackets` and `startPackets` are `uint64`s, so `CountInv` states them as counts of
the history mod 2^64. While fewer than 2^64 packets have been counted they do not wrap, and a
tick that calls `timeoutCallback` comes `MediaTimeout` after the last counted packet, and, when the
loop has taken a reset since the enable whose start time it reads, `MediaTimeout` and (without
packets since) `MediaTimeoutInitial` after that enable (`timeout_fires_after_silence`). Without
such a reset the loop works from stale locals: a tick picked while the reset is still buffered
can fire one second after the enable, and after `Close` (`timeout_fires_early_after_close`).
-/

namespace SipMedia

/-- The fields of `MediaOptions` the port reads after construction; durations in nanoseconds. -/
structure MediaOptions where
  mediaTimeoutInitial : Int
  mediaTimeout : Int
  enableJitterBuffer : Bool
  deriving DecidableEq, Repr

/-- `time.Second`, in nanoseconds. -/
def second : Int := 1000000000

/-- The defaults `NewMediaPortWith` fills in. -/
def MediaOptions.withDefaults (o : MediaOptions) : MediaOptions :=
  { o with
    mediaTimeoutInitial := if o.mediaTimeoutInitial ≤ 0 then 30 * second else o.mediaTimeoutInitial
    mediaTimeout := if o.mediaTimeout ≤ 0 then 15 * second else o.mediaTimeout }

theorem withDefaults_pos (o : MediaOptions) :
    0 < o.withDefaults.mediaTimeoutInitial ∧ 0 < o.withDefaults.mediaTimeout := by
  simp only [MediaOptions.withDefaults, second]
  constructor <;> split <;> omega

/-- A step of the watchdog's world, at the time it happens. -/
inductive TimeoutEvent where
  /-- `p.packetCount.Add(1)` in a read loop. -/
  | packet (t : Int)
  /-- `EnableTimeout(false)`: `p.timeoutStart.Store(nil)`. -/
  | disable (t : Int)
  /-- `EnableTimeout(true)` entered at `t`: `select { case p.timeoutReset <- struct{}{}: default: }`. -/
  | enableSend (t : Int)
  /-- The `EnableTimeout(true)` entered at `entered` stores `now := time.Now()`. -/
  | enableStore (t entered now : Int)
  /-- `Close` breaks the `closed` fuse. -/
  | close (t : Int)
  /-- `timeoutLoop`: `case <-p.closed.Watch()`. -/
  | closedCase (t : Int)
  /-- `timeoutLoop`: `case <-p.timeoutReset`. -/
  | resetCase (t : Int)
  /-- `timeoutLoop`: `case <-ticker.C`. -/
  | tickCase (t : Int)
  deriving DecidableEq, Repr

/-- The time an event happens at. -/
def TimeoutEvent.time : TimeoutEvent → Int
  | .packet t | .disable t | .enableSend t | .enableStore t .. | .close t | .closedCase t
  | .resetCase t | .tickCase t => t

/-- The watchdog's shared state, `timeoutLoop`'s locals, and the `EnableTimeout(true)` calls
between their send and their store (by entry time). The packet counts are `uint64`s. -/
structure Watchdog where
  clock : Int
  packetCount : UInt64
  timeoutStart : Option Int
  timeoutReset : Bool
  closed : Bool
  enabling : List Int
  lastPackets : UInt64
  startPackets : UInt64
  /-- `none` is the zero `time.Time`, whose `time.Since` saturates. -/
  lastTime : Option Int
  returned : Bool
  fired : Bool
  deriving DecidableEq, Repr

/-- `NewMediaPortWith` at time `t₀`, with `timeoutLoop` started. -/
def Watchdog.init (t₀ : Int) : Watchdog :=
  ⟨t₀, 0, none, false, false, [], 0, 0, none, false, false⟩

section Loop

variable (o : MediaOptions)

/-- `time.Since(lastTime) < p.opts.MediaTimeout` at `now`. -/
def sinceLastShort (w : Watchdog) (now : Int) : Bool :=
  match w.lastTime with
  | none => false
  | some lastTime => decide (now - lastTime < o.mediaTimeout)

/-- The `case <-ticker.C:` arm of `timeoutLoop` at `now`. -/
def tick (w : Watchdog) (now : Int) : Watchdog :=
  let curPackets := w.packetCount
  if curPackets ≠ w.lastPackets then
    { w with lastPackets := curPackets, lastTime := some now }
  else
    match w.timeoutStart with
    | none => w
    | some start =>
      let sinceStart := now - start
      if w.lastPackets = w.startPackets ∧ sinceStart < o.mediaTimeoutInitial then w
      else if sinceLastShort o w now then w
      else { w with fired := true, returned := true }

/-- What an event does, once the clock reads its time; `none` when it is not enabled. -/
def respond (w : Watchdog) : TimeoutEvent → Option Watchdog
  | .packet _ => some { w with packetCount := w.packetCount + 1 }
  | .disable _ => some { w with timeoutStart := none }
  | .enableSend t => some { w with timeoutReset := true, enabling := t :: w.enabling }
  | .enableStore t entered now =>
    if entered ∈ w.enabling ∧ entered ≤ now ∧ now ≤ t then
      some { w with timeoutStart := some now, enabling := w.enabling.erase entered }
    else none
  | .close _ => some { w with closed := true }
  | .closedCase _ => if !w.returned && w.closed then some { w with returned := true } else none
  | .resetCase t =>
    if !w.returned && w.timeoutReset then
      some { w with timeoutReset := false, startPackets := w.packetCount, lastTime := some t }
    else none
  | .tickCase t => if !w.returned then some (tick o w t) else none

/-- One step of the watchdog's world. -/
def timeoutStep (w : Watchdog) (e : TimeoutEvent) : Option Watchdog :=
  if w.clock ≤ e.time then respond o { w with clock := e.time } e else none

/-- Run a history of events. -/
def runTimeout (w : Watchdog) : List TimeoutEvent → Option Watchdog
  | [] => some w
  | e :: es => (timeoutStep o w e).bind (runTimeout · es)

end Loop

/-! ## The history -/

/-- The time of a counted packet. -/
def packetTime : TimeoutEvent → Option Int
  | .packet t => some t
  | _ => none

/-- The time the loop took a reset. -/
def resetTime : TimeoutEvent → Option Int
  | .resetCase t => some t
  | _ => none

/-- The time `Close` broke the fuse. -/
def closeTime : TimeoutEvent → Option Int
  | .close t => some t
  | _ => none

/-- A write to `timeoutStart`: `none` for `EnableTimeout(false)`, the entry time and the value for
the store of `EnableTimeout(true)`. -/
def startWrite : TimeoutEvent → Option (Option (Int × Int))
  | .disable _ => some none
  | .enableStore _ entered now => some (some (entered, now))
  | _ => none

/-- The times packets were counted. -/
def packetTimes (evs : List TimeoutEvent) : List Int := evs.filterMap packetTime

/-- The times the loop took a reset. -/
def resetTimes (evs : List TimeoutEvent) : List Int := evs.filterMap resetTime

/-- The times `Close` broke the fuse. -/
def closeTimes (evs : List TimeoutEvent) : List Int := evs.filterMap closeTime

/-- The entry time and stored value of the `EnableTimeout(true)` whose store was the last write to
`timeoutStart`, if the last write was a store. -/
def lastStart (evs : List TimeoutEvent) : Option (Int × Int) :=
  ((evs.filterMap startWrite).getLast?).bind id

@[simp] theorem packetTimes_snoc (evs : List TimeoutEvent) (e : TimeoutEvent) :
    packetTimes (evs ++ [e]) = packetTimes evs ++ (packetTime e).toList := by
  cases h : packetTime e <;> simp [packetTimes, h]

@[simp] theorem resetTimes_snoc (evs : List TimeoutEvent) (e : TimeoutEvent) :
    resetTimes (evs ++ [e]) = resetTimes evs ++ (resetTime e).toList := by
  cases h : resetTime e <;> simp [resetTimes, h]

theorem lastStart_snoc (evs : List TimeoutEvent) (e : TimeoutEvent) :
    lastStart (evs ++ [e]) = (startWrite e).getD (lastStart evs) := by
  cases h : startWrite e <;> simp [lastStart, h]

/-! ## The invariant

`StartInv` says what `timeoutStart` holds in terms of the history, `CountInv` what the loop's
locals know about the packets and resets of the history. Each has a frame lemma for the events
that leave its slots alone, and one small lemma for each event that writes them.
-/

/-- `timeoutStart` holds the value of the last store, unless `EnableTimeout(false)` came after;
that store's call entered before it read the clock, and the value is in the past. -/
structure StartInv (evs : List TimeoutEvent) (w : Watchdog) : Prop where
  start : w.timeoutStart = (lastStart evs).map Prod.snd
  start_le : ∀ en v, lastStart evs = some (en, v) →
    en ≤ v ∧ v ≤ w.clock ∧ TimeoutEvent.enableSend en ∈ evs
  enabling_sent : ∀ en ∈ w.enabling, TimeoutEvent.enableSend en ∈ evs

/-- What the loop's locals know about the times `ps` packets were counted at and the times `rs`
the loop took a reset at. The `uint64` counters are counts mod 2^64: `packetCount` of all the
packets, `lastPackets` of the first `k`, all of which the loop had seen by `lastTime`, and
`startPackets` of the first `m`, after which no packet came before a reset. -/
structure CountInv (ps rs : List Int) (w : Watchdog) : Prop where
  count : w.packetCount.toNat = ps.length % UInt64.size
  last : ∃ k ≤ ps.length, w.lastPackets.toNat = k % UInt64.size ∧
    ∀ τ ∈ ps.take k, ∃ l, w.lastTime = some l ∧ τ ≤ l
  start : ∃ m ≤ ps.length, w.startPackets.toNat = m % UInt64.size ∧
    ∀ r ∈ rs, ps.length ≤ m + ps.countP (r ≤ ·)
  packet_le : ∀ τ ∈ ps, τ ≤ w.clock
  lastTime_le : ∀ l, w.lastTime = some l → l ≤ w.clock
  /-- `lastTime` is no earlier than any reset the loop took. -/
  reset_seen : ∀ r ∈ rs, ∃ l, w.lastTime = some l ∧ r ≤ l
  fired_returned : w.fired → w.returned

theorem StartInv.init (t₀ : Int) : StartInv [] (.init t₀) :=
  ⟨rfl, by simp [lastStart], by simp [Watchdog.init]⟩

theorem CountInv.init (t₀ : Int) : CountInv [] [] (.init t₀) :=
  ⟨rfl, ⟨0, le_rfl, rfl, by simp⟩, ⟨0, le_rfl, rfl, by simp⟩, by simp, by simp [Watchdog.init],
    by simp, by simp [Watchdog.init]⟩

theorem CountInv.reset_le {ps rs : List Int} {w : Watchdog} (hi : CountInv ps rs w) {r : Int}
    (hr : r ∈ rs) : r ≤ w.clock := by
  obtain ⟨l, hl, hrl⟩ := hi.reset_seen r hr
  exact Int.le_trans hrl (hi.lastTime_le l hl)

/-- The `toNat` of a `uint64` sum wraps at 2^64. -/
theorem uint64_toNat_add (x y : UInt64) : (x + y).toNat = (x.toNat + y.toNat) % UInt64.size := rfl

section Frame

variable {evs : List TimeoutEvent} {ps rs : List Int} {w w' : Watchdog} {e : TimeoutEvent}

/-- An event that writes neither `timeoutStart` nor the enabling calls keeps `StartInv`. -/
theorem StartInv.frame (hi : StartInv evs w) (hclock : w.clock ≤ w'.clock)
    (hs : startWrite e = none) (hstart : w'.timeoutStart = w.timeoutStart)
    (hen : ∀ en ∈ w'.enabling, en ∈ w.enabling ∨ e = .enableSend en) :
    StartInv (evs ++ [e]) w' where
  start := by rw [hstart, hi.start, lastStart_snoc, hs]; rfl
  start_le en v h := by
    rw [lastStart_snoc, hs] at h
    obtain ⟨h1, h2, h3⟩ := hi.start_le en v h
    exact ⟨h1, Int.le_trans h2 hclock, List.mem_append_left _ h3⟩
  enabling_sent en h := by
    rcases hen en h with h | rfl
    · exact List.mem_append_left _ (hi.enabling_sent en h)
    · exact List.mem_append_right _ (List.mem_singleton_self _)

/-- A step that leaves the counters and the loop's locals alone keeps `CountInv`. -/
theorem CountInv.frame (hi : CountInv ps rs w) (hclock : w.clock ≤ w'.clock)
    (hcount : w'.packetCount = w.packetCount) (hlast : w'.lastPackets = w.lastPackets)
    (hsp : w'.startPackets = w.startPackets) (hlt : w'.lastTime = w.lastTime)
    (hfr : w'.fired → w'.returned) : CountInv ps rs w' where
  count := by rw [hcount]; exact hi.count
  last := by rw [hlast, hlt]; exact hi.last
  start := by rw [hsp]; exact hi.start
  packet_le τ h := Int.le_trans (hi.packet_le τ h) hclock
  lastTime_le l h := Int.le_trans (hi.lastTime_le l (hlt ▸ h)) hclock
  reset_seen := by rw [hlt]; exact hi.reset_seen
  fired_returned := hfr

/-- `packetCount.Add(1)`: one more packet, at a time after every reset. -/
theorem CountInv.packet (hi : CountInv ps rs w) {t : Int} (hle : w.clock ≤ t) :
    CountInv (ps ++ [t]) rs { w with clock := t, packetCount := w.packetCount + 1 } := by
  obtain ⟨k, hk, hkl, hks⟩ := hi.last
  obtain ⟨m, hm, hms, hmr⟩ := hi.start
  have hlen : (ps ++ [t]).length = ps.length + 1 := List.length_append _ _
  refine ⟨?_, ⟨k, by omega, hkl, ?_⟩, ⟨m, by omega, hms, fun r hr => ?_⟩, fun τ h => ?_,
    fun l h => Int.le_trans (hi.lastTime_le l h) hle, hi.reset_seen, hi.fired_returned⟩
  · rw [uint64_toNat_add, hi.count, hlen, Nat.mod_add_mod]; rfl
  · rwa [List.take_append_of_le_length hk]
  · have hrt : r ≤ t := Int.le_trans (hi.reset_le hr) hle
    have := hmr r hr
    simp only [hlen, List.countP_append, List.countP_singleton, hrt, decide_True, if_true]
    omega
  · rcases List.mem_append.mp h with h | h
    · exact Int.le_trans (hi.packet_le τ h) hle
    · obtain rfl := List.mem_singleton.mp h; exact Int.le_refl _

/-- `case <-p.timeoutReset`: `startPackets` samples the count and `lastTime` reads the clock. -/
theorem CountInv.reset (hi : CountInv ps rs w) {t : Int} (hle : w.clock ≤ t) :
    CountInv ps (rs ++ [t]) { w with
      clock := t, timeoutReset := false, startPackets := w.packetCount, lastTime := some t } := by
  have hpast : ∀ τ ∈ ps, τ ≤ t := fun τ h => Int.le_trans (hi.packet_le τ h) hle
  obtain ⟨k, hk, hkl, -⟩ := hi.last
  refine ⟨hi.count, ⟨k, hk, hkl, fun τ h => ⟨t, rfl, hpast τ (List.mem_of_mem_take h)⟩⟩,
    ⟨_, Nat.le_refl _, hi.count, fun _ _ => Nat.le_add_right _ _⟩, hpast,
    fun l h => by cases h; exact Int.le_refl _, fun r hr => ⟨t, rfl, ?_⟩, hi.fired_returned⟩
  rcases List.mem_append.mp hr with hr | hr
  · exact Int.le_trans (hi.reset_le hr) hle
  · obtain rfl := List.mem_singleton.mp hr; exact Int.le_refl _

/-- A tick that sees a new count records it, with the time. -/
theorem CountInv.tickSeen (hi : CountInv ps rs w) {t : Int} (hle : w.clock ≤ t) :
    CountInv ps rs { w with clock := t, lastPackets := w.packetCount, lastTime := some t } := by
  have hpast : ∀ τ ∈ ps, τ ≤ t := fun τ h => Int.le_trans (hi.packet_le τ h) hle
  refine ⟨hi.count, ⟨_, Nat.le_refl _, hi.count, fun τ h => ⟨t, rfl, hpast τ (List.mem_of_mem_take h)⟩⟩,
    hi.start, hpast, fun l h => by cases h; exact Int.le_refl _,
    fun r hr => ⟨t, rfl, Int.le_trans (hi.reset_le hr) hle⟩, hi.fired_returned⟩

end Frame

/-! ## Every run keeps the invariant -/

section Step

variable (o : MediaOptions) {evs : List TimeoutEvent} {w w' : Watchdog} {e : TimeoutEvent}

theorem timeoutStep_some (h : timeoutStep o w e = some w') :
    w.clock ≤ e.time ∧ respond o { w with clock := e.time } e = some w' := by
  unfold timeoutStep at h
  split_ifs at h with hle
  exact ⟨hle, h⟩

/-- The three things a tick does: record a new count, nothing, or fire. -/
theorem tick_cases (w : Watchdog) (now : Int) :
    (w.packetCount ≠ w.lastPackets ∧
      tick o w now = { w with lastPackets := w.packetCount, lastTime := some now }) ∨
    tick o w now = w ∨
    (w.packetCount = w.lastPackets ∧ ∃ start, w.timeoutStart = some start ∧
      ¬(w.lastPackets = w.startPackets ∧ now - start < o.mediaTimeoutInitial) ∧
      sinceLastShort o w now = false ∧ tick o w now = { w with fired := true, returned := true }) := by
  simp only [tick]
  by_cases hc : w.packetCount = w.lastPackets
  · rw [if_neg (not_not_intro hc)]
    cases hs : w.timeoutStart with
    | none => exact .inr (.inl rfl)
    | some start =>
      dsimp only
      split_ifs with h1 h2
      · exact .inr (.inl rfl)
      · exact .inr (.inl rfl)
      · exact .inr (.inr ⟨hc, start, rfl, h1, by simpa using h2, rfl⟩)
  · exact .inl ⟨hc, if_pos hc⟩

theorem StartInv.step (hi : StartInv evs w) (h : timeoutStep o w e = some w') :
    StartInv (evs ++ [e]) w' := by
  obtain ⟨hle, hr⟩ := timeoutStep_some o h
  cases e with
  | disable t =>
    obtain rfl := Option.some.inj hr
    exact ⟨by simp [lastStart_snoc, startWrite], by simp [lastStart_snoc, startWrite],
      fun en h => List.mem_append_left _ (hi.enabling_sent en h)⟩
  | enableStore t en now =>
    simp only [respond] at hr
    split_ifs at hr with hg
    obtain rfl := Option.some.inj hr
    refine ⟨by simp [lastStart_snoc, startWrite], fun en' v h => ?_,
      fun en' h => List.mem_append_left _ (hi.enabling_sent en' (List.mem_of_mem_erase h))⟩
    simp only [lastStart_snoc, startWrite, Option.getD_some, Option.some.injEq,
      Prod.mk.injEq] at h
    obtain ⟨rfl, rfl⟩ := h
    exact ⟨hg.2.1, hg.2.2, List.mem_append_left _ (hi.enabling_sent _ hg.1)⟩
  | enableSend t =>
    obtain rfl := Option.some.inj hr
    exact hi.frame hle rfl rfl fun en h => by
      rcases List.mem_cons.mp h with rfl | h
      · exact .inr rfl
      · exact .inl h
  | packet t | close t =>
    obtain rfl := Option.some.inj hr
    exact hi.frame hle rfl rfl fun _ h => .inl h
  | closedCase t | resetCase t =>
    simp only [respond] at hr
    split_ifs at hr
    obtain rfl := Option.some.inj hr
    exact hi.frame hle rfl rfl fun _ h => .inl h
  | tickCase t =>
    simp only [respond, TimeoutEvent.time] at hr
    split_ifs at hr
    obtain rfl := Option.some.inj hr
    rcases tick_cases o { w with clock := t } t with ⟨-, heq⟩ | heq | ⟨-, -, -, -, -, heq⟩ <;>
      rw [heq] <;> exact hi.frame hle rfl rfl fun _ h => .inl h

theorem CountInv.step (hi : CountInv (packetTimes evs) (resetTimes evs) w)
    (h : timeoutStep o w e = some w') :
    CountInv (packetTimes (evs ++ [e])) (resetTimes (evs ++ [e])) w' := by
  obtain ⟨hle, hr⟩ := timeoutStep_some o h
  cases e <;> simp only [packetTimes_snoc, resetTimes_snoc, packetTime, resetTime,
    Option.toList_some, Option.toList_none, List.append_nil] <;>
    simp only [respond, TimeoutEvent.time] at hr hle
  case packet t =>
    obtain rfl := Option.some.inj hr
    exact hi.packet hle
  case resetCase t =>
    split_ifs at hr
    obtain rfl := Option.some.inj hr
    exact hi.reset hle
  case tickCase t =>
    split_ifs at hr
    obtain rfl := Option.some.inj hr
    rcases tick_cases o { w with clock := t } t with ⟨-, heq⟩ | heq | ⟨-, -, -, -, -, heq⟩ <;>
      rw [heq]
    · exact hi.tickSeen hle
    · exact hi.frame hle rfl rfl rfl rfl hi.fired_returned
    · exact hi.frame hle rfl rfl rfl rfl fun _ => rfl
  case disable t | enableSend t | close t =>
    obtain rfl := Option.some.inj hr
    exact hi.frame hle rfl rfl rfl rfl hi.fired_returned
  case enableStore t en now =>
    split_ifs at hr
    obtain rfl := Option.some.inj hr
    exact hi.frame hle rfl rfl rfl rfl hi.fired_returned
  case closedCase t =>
    split_ifs at hr
    obtain rfl := Option.some.inj hr
    exact hi.frame hle rfl rfl rfl rfl fun _ => rfl

theorem runTimeout_snoc (w₀ : Watchdog) (evs : List TimeoutEvent) (e : TimeoutEvent) :
    runTimeout o w₀ (evs ++ [e]) = (runTimeout o w₀ evs).bind (timeoutStep o · e) := by
  induction evs generalizing w₀ with
  | nil => simp [runTimeout]
  | cons e' evs ih =>
    simp only [List.cons_append, runTimeout]
    cases timeoutStep o w₀ e' <;> simp [ih]

/-- Both invariants hold after every run from `NewMediaPortWith`. -/
theorem inv_of_run (t₀ : Int) (evs : List TimeoutEvent) {w : Watchdog}
    (h : runTimeout o (.init t₀) evs = some w) :
    StartInv evs w ∧ CountInv (packetTimes evs) (resetTimes evs) w := by
  induction evs using List.reverseRecOn generalizing w with
  | nil => cases h; exact ⟨.init t₀, .init t₀⟩
  | append_singleton evs e ih =>
    rw [runTimeout_snoc] at h
    obtain ⟨w₁, h₁, h₂⟩ := Option.bind_eq_some.mp h
    obtain ⟨hs, hc⟩ := ih h₁
    exact ⟨hs.step o h₂, hc.step o h₂⟩

/-! ## When the timeout fires -/

/-- A tick that calls `timeoutCallback` saw no new packet, read a start time, was past the grace
period or had packets since the reset, and was not early. -/
theorem fire_conditions {t : Int} (h : timeoutStep o w (.tickCase t) = some w')
    (hf : w'.fired = true) (hfr : w.fired → w.returned) :
    w.clock ≤ t ∧ w.packetCount = w.lastPackets ∧ ∃ start, w.timeoutStart = some start ∧
      ¬(w.lastPackets = w.startPackets ∧ t - start < o.mediaTimeoutInitial) ∧
      sinceLastShort o w t = false := by
  obtain ⟨hle, hr⟩ := timeoutStep_some o h
  simp only [respond, TimeoutEvent.time] at hr hle
  split_ifs at hr with hret
  obtain rfl := Option.some.inj hr
  have hnf : w.fired = false := by
    cases hw : w.fired
    · rfl
    · simp [hfr hw] at hret
  rcases tick_cases o { w with clock := t } t with ⟨-, heq⟩ | heq | ⟨hc, start, hs, hg, hl, -⟩
  · rw [heq] at hf; exact absurd hf (by simp [hnf])
  · rw [heq] at hf; exact absurd hf (by simp [hnf])
  · exact ⟨hle, hc, start, hs, hg, hl⟩

/-- What a call of `timeoutCallback` at `t` says about the history `evs` before it:
`timeoutStart` holds the value stored by an `EnableTimeout(true)` entered at some `e ≤ t`, and
no packet was counted in `(t - MediaTimeout, t]`. If the loop took a reset at or after `e`, the
callback also comes `MediaTimeout` after `e`, and `MediaTimeoutInitial` after `e` when no packet
was counted in `[e, t]`. -/
def TimeoutWindow (evs : List TimeoutEvent) (t : Int) : Prop :=
  ∃ e v, lastStart evs = some (e, v) ∧ TimeoutEvent.enableSend e ∈ evs ∧ e ≤ v ∧ v ≤ t ∧
    (∀ τ ∈ packetTimes evs, ¬(t - o.mediaTimeout < τ ∧ τ ≤ t)) ∧
    ((∃ r ∈ resetTimes evs, e ≤ r) →
      o.mediaTimeout ≤ t - e ∧
      ((∀ τ ∈ packetTimes evs, ¬(e ≤ τ ∧ τ ≤ t)) → o.mediaTimeoutInitial ≤ t - e))

/-- Every call of `timeoutCallback`, in every run in which fewer than 2^64 packets were counted,
satisfies `TimeoutWindow`. -/
theorem timeout_fires_after_silence (t₀ : Int) (evs : List TimeoutEvent) {t : Int}
    (hrun : runTimeout o (.init t₀) evs = some w) (hfew : (packetTimes evs).length < UInt64.size)
    (htick : timeoutStep o w (.tickCase t) = some w') (hfired : w'.fired = true) :
    TimeoutWindow o evs t := by
  obtain ⟨hs, hc⟩ := inv_of_run o t₀ evs hrun
  obtain ⟨hle, hcur, start, hstart, hgrace, hshort⟩ :=
    fire_conditions o htick hfired hc.fired_returned
  rw [hs.start] at hstart
  obtain ⟨⟨e, v⟩, hls, rfl⟩ := Option.map_eq_some'.mp hstart
  obtain ⟨hev, hvc, hsent⟩ := hs.start_le e v hls
  obtain ⟨k, hkn, hk, hseen⟩ := hc.last
  -- Below 2^64 the counters do not wrap: the tick's unchanged count means the loop had seen every
  -- packet.
  have hkall : k = (packetTimes evs).length := by
    have := congrArg UInt64.toNat hcur
    rw [hc.count, hk, Nat.mod_eq_of_lt hfew, Nat.mod_eq_of_lt (by omega)] at this
    exact this.symm
  rw [hkall, List.take_length] at hseen
  have hlast : ∀ l, w.lastTime = some l → o.mediaTimeout ≤ t - l := by
    intro l hl
    simp only [sinceLastShort, hl, decide_eq_false_iff_not] at hshort
    omega
  refine ⟨e, v, hls, hsent, hev, Int.le_trans hvc hle, fun τ hτ hw => ?_, ?_⟩
  · obtain ⟨l, hl, hτl⟩ := hseen τ hτ
    have := hlast l hl
    omega
  · rintro ⟨r, hr, her⟩
    obtain ⟨l, hl, hrl⟩ := hc.reset_seen r hr
    have hgap := hlast l hl
    refine ⟨by omega, fun hnone => ?_⟩
    have hzero : (packetTimes evs).countP (r ≤ ·) = 0 := by
      refine List.countP_eq_zero.mpr fun τ hτ hrτ => hnone τ hτ ⟨?_, ?_⟩
      · simp only [decide_eq_true_eq] at hrτ; omega
      · have := hc.packet_le τ hτ; omega
    -- No packet since the reset: `startPackets` sampled the same count as `lastPackets`.
    obtain ⟨m, hmn, hm, hmr⟩ := hc.start
    have hsame : w.lastPackets = w.startPackets := by
      have := hmr r hr
      exact UInt64.toNat.inj (by rw [hk, hm, hkall]; congr 1; omega)
    have := not_and.mp hgrace hsame
    omega

end Step

/-- `NewMediaPortWith` with a nil `opts`: `&MediaOptions{}` with the defaults filled in. -/
def defaultOptions : MediaOptions := (⟨0, 0, false⟩ : MediaOptions).withDefaults

/-- A call that stays silent after an enable at 0 s whose reset the loop took at once. -/
def quietHistory : List TimeoutEvent :=
  [.enableSend 0, .enableStore 0 0 0, .resetCase 0, .tickCase (15 * second)]

/-- Where `quietHistory` leaves the watchdog. -/
def quietState : Watchdog := ⟨15 * second, 0, some 0, false, false, [], 0, 0, some 0, false, false⟩

/-- With the default durations, the quiet call times out at the tick at 30 s, after the initial
grace. -/
theorem quiet_call_times_out :
    runTimeout defaultOptions (.init 0) quietHistory = some quietState ∧
    timeoutStep defaultOptions quietState (.tickCase (30 * second)) =
      some { quietState with clock := 30 * second, fired := true, returned := true } ∧
    ({ quietState with clock := 30 * second, fired := true, returned := true } : Watchdog).fired ∧
    TimeoutWindow defaultOptions quietHistory (30 * second) := by
  have hrun : runTimeout defaultOptions (.init 0) quietHistory = some quietState := by decide
  have htick : timeoutStep defaultOptions quietState (.tickCase (30 * second)) =
      some { quietState with clock := 30 * second, fired := true, returned := true } := by decide
  exact ⟨hrun, htick, rfl,
    timeout_fires_after_silence defaultOptions 0 quietHistory hrun (by decide) htick rfl⟩

/-! ## A tick that reads stale locals

The loop's `select` takes any ready case. When a tick is ready together with a buffered reset,
or with the broken fuse, the tick may win: it then reads `startPackets` and `lastTime` from
before the enable.
-/

/-- Packets at 1 to 5 s, ticks at 15 s and 30 s, then at 44 s an enable and a `Close`. -/
def staleHistory : List TimeoutEvent :=
  [.packet (1 * second), .packet (2 * second), .packet (3 * second), .packet (4 * second),
    .packet (5 * second), .tickCase (15 * second), .tickCase (30 * second),
    .enableSend (44 * second), .enableStore (44 * second) (44 * second) (44 * second),
    .close (44 * second)]

/-- Where `staleHistory` leaves the watchdog: the enable's reset still buffered, `lastTime` from
the tick at 15 s, `startPackets` never sampled. -/
def staleState : Watchdog :=
  ⟨44 * second, 5, some (44 * second), true, true, [], 5, 0, some (15 * second), false, false⟩

/-- With the default durations, the tick at 45 s wins over the buffered reset and the broken fuse
and calls `timeoutCallback`: one second after the only enable, with no packet since it, and after
`Close`. -/
theorem timeout_fires_early_after_close :
    runTimeout defaultOptions (.init 0) staleHistory = some staleState ∧
    timeoutStep defaultOptions staleState (.tickCase (45 * second)) =
      some { staleState with clock := 45 * second, fired := true, returned := true } ∧
    lastStart staleHistory = some (44 * second, 44 * second) ∧
    45 * second - 44 * second < defaultOptions.mediaTimeout ∧
    (∀ τ ∈ packetTimes staleHistory, ¬(44 * second ≤ τ ∧ τ ≤ 45 * second)) ∧
    45 * second - 44 * second < defaultOptions.mediaTimeoutInitial ∧
    ∃ c ∈ closeTimes staleHistory, c < 45 * second := by
  decide

end SipMedia
