import Mathlib.Data.List.Basic

/-!
# The symmetric-RTP UDP channel

Reference: `pkg/sip/media_port.go` (`udpConn`).

`udpConn` wraps the call's UDP socket with two atomic address slots: `src`, swapped by every
`Read` for the peer address the socket reported, and `dst`, published by `SetDst` and loaded by
`Write`. Each operation touches one slot with one atomic load or store, so every interleaving of
`Read`, `Write`, `SetDst` and `GetSrc` is a sequence of `ConnOp`s, replayed by `runConn`.

The results compare the slots with two functions of the history alone: `latestDst`, the address
of the latest `SetDst` whose address was valid, and `latestReadAddr`, the address the latest
`Read` reported, whether it failed or not. `write_after` says where a `Write` goes after any
history and `getSrc_after` what `GetSrc` answers; `channel_after` joins the two. A failed
`Read` overwrites a learned source too (`getSrc_forgets_after_failed_read`).
-/

namespace SipMedia

/-- `netip.Addr`: the zero value is the invalid address. -/
inductive Addr where
  | zero
  | v4 (a : UInt32)
  | v6 (hi lo : UInt64)
  deriving DecidableEq, Repr

/-- `netip.AddrPort`. -/
structure AddrPort where
  addr : Addr
  port : UInt16
  deriving DecidableEq, Repr

namespace AddrPort

/-- The zero `netip.AddrPort{}`, what a failed socket read reports. -/
def zero : AddrPort := ⟨.zero, 0⟩

/-- `AddrPort.IsValid`: the address is not the zero address. -/
def isValid (a : AddrPort) : Bool := a.addr != .zero

@[simp] theorem isValid_zero : zero.isValid = false := rfl

end AddrPort

/-- What one `ReadFromUDPAddrPort` call on the socket returned. -/
structure ReadFrom where
  n : Nat
  addr : AddrPort
  err : Option String
  deriving DecidableEq, Repr

/-- The two atomic slots of `udpConn`; `none` is the nil pointer. -/
structure UdpConn where
  src : Option AddrPort
  dst : Option AddrPort
  deriving DecidableEq, Repr

/-- `newUDPConn`: both slots nil. -/
def newUDPConn : UdpConn := ⟨none, none⟩

namespace UdpConn

/-- `GetSrc`. -/
def getSrc (c : UdpConn) : AddrPort × Bool :=
  match c.src with
  | none => (AddrPort.zero, false)
  | some addr => (addr, addr.isValid)

/-- `SetDst`: an invalid address is ignored. -/
def setDst (c : UdpConn) (addr : AddrPort) : UdpConn :=
  if addr.isValid then { c with dst := some addr } else c

/-- Setting the same destination twice is setting it once. -/
@[simp] theorem setDst_setDst (c : UdpConn) (addr : AddrPort) :
    (c.setDst addr).setDst addr = c.setDst addr := by
  unfold setDst; split <;> simp_all

/-- `Read`: the peer address is swapped into `src` before the error is looked at. -/
def read (c : UdpConn) (r : ReadFrom) : UdpConn × (Nat × Option String) :=
  ({ c with src := some r.addr }, (r.n, r.err))

/-- What `Write` does with a datagram. -/
inductive WriteAction where
  /-- `return len(b), nil`: nothing reaches the wire. -/
  | ignore (n : Nat)
  /-- `c.WriteToUDPAddrPort(b, *dst)`. -/
  | sendTo (b : List UInt8) (dst : AddrPort)
  deriving DecidableEq, Repr

/-- `Write`. -/
def write (c : UdpConn) (b : List UInt8) : WriteAction :=
  match c.dst with
  | none => .ignore b.length
  | some dst => .sendTo b dst

end UdpConn

/-- One operation on the channel. -/
inductive ConnOp where
  | read (r : ReadFrom)
  | write (b : List UInt8)
  | setDst (addr : AddrPort)
  | getSrc
  deriving DecidableEq, Repr

/-- The state after one operation. -/
def connStep (c : UdpConn) : ConnOp → UdpConn
  | .read r => (c.read r).1
  | .write _ => c
  | .setDst addr => c.setDst addr
  | .getSrc => c

/-- Replay a history of operations. -/
def runConn (c : UdpConn) (ops : List ConnOp) : UdpConn := ops.foldl connStep c

/-! ## The slots as functions of the history -/

/-- The address of a `SetDst` that `Write` may use: a valid one. -/
def validDst : ConnOp → Option AddrPort
  | .setDst addr => if addr.isValid then some addr else none
  | _ => none

/-- The address a `Read` reported. -/
def readAddr : ConnOp → Option AddrPort
  | .read r => some r.addr
  | _ => none

/-- The address passed to the latest `SetDst` whose address was valid. -/
def latestDst (ops : List ConnOp) : Option AddrPort := (ops.filterMap validDst).getLast?

/-- The address reported by the latest `Read`, successful or not. -/
def latestReadAddr (ops : List ConnOp) : Option AddrPort := (ops.filterMap readAddr).getLast?

theorem connStep_dst (c : UdpConn) (op : ConnOp) :
    (connStep c op).dst = (validDst op).or c.dst := by
  cases op with
  | setDst addr => by_cases h : addr.isValid <;> simp [connStep, UdpConn.setDst, validDst, h]
  | _ => rfl

theorem connStep_src (c : UdpConn) (op : ConnOp) :
    (connStep c op).src = (readAddr op).or c.src := by
  cases op with
  | setDst addr => by_cases h : addr.isValid <;> simp [connStep, UdpConn.setDst, h, readAddr]
  | _ => rfl

theorem runConn_dst (ops : List ConnOp) : (runConn newUDPConn ops).dst = latestDst ops := by
  induction ops using List.reverseRecOn with
  | nil => rfl
  | append_singleton ops op ih =>
    simp only [runConn, List.foldl_append, List.foldl_cons, List.foldl_nil] at ih ⊢
    rw [connStep_dst, ih, latestDst, latestDst, List.filterMap_append, List.getLast?_append]
    cases h : validDst op <;> simp [List.filterMap_cons, h]

theorem runConn_src (ops : List ConnOp) : (runConn newUDPConn ops).src = latestReadAddr ops := by
  induction ops using List.reverseRecOn with
  | nil => rfl
  | append_singleton ops op ih =>
    simp only [runConn, List.foldl_append, List.foldl_cons, List.foldl_nil] at ih ⊢
    rw [connStep_src, ih, latestReadAddr, latestReadAddr, List.filterMap_append,
      List.getLast?_append]
    cases h : readAddr op <;> simp [List.filterMap_cons, h]

/-! ## Writes and `GetSrc` after any history -/

/-- A `Write` after any history sends to the latest valid `SetDst` address, and reports the full
length without sending when there is none. -/
theorem write_after (ops : List ConnOp) (b : List UInt8) :
    (runConn newUDPConn ops).write b =
      match latestDst ops with
      | none => .ignore b.length
      | some dst => .sendTo b dst := by
  rw [UdpConn.write, runConn_dst]

/-- The address a `Write` sends to was passed to a `SetDst` of the history and is valid. -/
theorem latestDst_mem {ops : List ConnOp} {dst : AddrPort} (h : latestDst ops = some dst) :
    ConnOp.setDst dst ∈ ops ∧ dst.isValid := by
  obtain ⟨op, hop, hv⟩ := List.mem_filterMap.mp (List.mem_of_getLast?_eq_some h)
  cases op with
  | setDst addr =>
    by_cases ha : addr.isValid <;> simp [validDst, ha] at hv
    exact hv ▸ ⟨hop, ha⟩
  | _ => simp [validDst] at hv

/-- `GetSrc` after any history reports the address of the latest `Read`, with its validity. -/
theorem getSrc_after (ops : List ConnOp) :
    (runConn newUDPConn ops).getSrc =
      match latestReadAddr ops with
      | none => (AddrPort.zero, false)
      | some a => (a, a.isValid) := by
  rw [UdpConn.getSrc, runConn_src]

/-- After any interleaving, a `Write` goes to the latest valid `SetDst` address, an address a
`SetDst` passed and never one a `Read` learned, and reports the full length without sending
when there is none; `GetSrc` answers `(a, true)` exactly when the latest `Read`, failed or not,
reported the valid address `a`. -/
theorem channel_after (ops : List ConnOp) (b : List UInt8) :
    ((runConn newUDPConn ops).write b =
        match latestDst ops with
        | none => .ignore b.length
        | some dst => .sendTo b dst) ∧
    (∀ dst, latestDst ops = some dst → ConnOp.setDst dst ∈ ops ∧ dst.isValid) ∧
    (∀ a, (runConn newUDPConn ops).getSrc = (a, true) ↔
      latestReadAddr ops = some a ∧ a.isValid) := by
  refine ⟨write_after ops b, fun _ => latestDst_mem, fun a => ?_⟩
  rw [getSrc_after]
  cases latestReadAddr ops with
  | none => simp
  | some a' => simp only [Prod.mk.injEq, Option.some.injEq]; constructor <;> rintro ⟨rfl, h⟩ <;> simp [h]

/-- The address reported by the latest `Read` that succeeded. -/
def latestGoodReadAddr (ops : List ConnOp) : Option AddrPort :=
  (ops.filterMap fun | .read r => if r.err = none then some r.addr else none | _ => none).getLast?

/-- A `Read` from `192.0.2.5:30001` followed by a `Read` that fails on a closed socket: `GetSrc`
no longer reports the learned peer. -/
theorem getSrc_forgets_after_failed_read :
    ¬ ∀ (ops : List ConnOp) (a : AddrPort),
      (runConn newUDPConn ops).getSrc = (a, true) ↔ latestGoodReadAddr ops = some a := by
  intro h
  have := (h [.read ⟨12, ⟨.v4 0xC0000205, 30001⟩, none⟩,
    .read ⟨0, AddrPort.zero, some "use of closed network connection"⟩]
    ⟨.v4 0xC0000205, 30001⟩).mpr rfl
  exact absurd this (by decide)

end SipMedia
