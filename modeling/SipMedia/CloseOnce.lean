import Mathlib.Data.List.Nodup
import SipMedia.Lifecycle

/-! # No resource the port made is closed twice

Reference: `pkg/sip/media_port.go` (`MediaPort.Close`, `MediaPort.SetConfig`, `setupOutput`,
`setupInput`, `MediaPort.WriteAudioTo`).

`Close` tears the port down once, and every other call closes only the writer it displaces from a
`SwitchWriter`. So over any history no resource the port made is closed twice: among the resources
the port has closed and the ones it still holds (`held`, what the first `Close` will close), none
it made appears twice (`own_closes_nodup`). A writer a caller passes to `WriteAudioTo` is not the
port's: passed twice, it is closed by the second call while it stays installed, and again by
`Close` (`caller_writer_closed_twice`).

Each call is a `ResourceStep`: it draws identities from `nextId` on, and afterwards each resource
the port made is closed or held at most as often as before, or once if the call drew it.
`CloseOnce` holds of a new port and is kept by every `ResourceStep` (`CloseOnce.step`); every call
is one (`ResourceStep.portStep`), `SetConfig` as the composite of the steps of its helpers.
-/

namespace SipMedia

/-! ## The identities resources draw -/

/-- A resource the port made: all but a writer a caller passed to `WriteAudioTo`. -/
def Resource.own : Resource → Bool
  | .writer (.user _) => false
  | _ => true

/-- The identity a resource's creation drew: `id?`, and a writer's own; the connection, made before
the port, and a caller's writer have none. -/
def Resource.drawn : Resource → Option Nat
  | .writer (.user _) => none
  | .writer w => some w.id
  | r => r.id?

theorem Resource.own_of_drawn {r : Resource} {i : Nat} (h : r.drawn = some i) : r.own = true := by
  rcases r with _ | _ | ⟨_ | _ | _ | _⟩ | _ <;> simp_all [Resource.drawn, Resource.own]

/-- What the port holds and its first `Close` will close. -/
def MediaPort.held (p : MediaPort) : List Resource :=
  (p.audioOut.target.map Resource.writer).toList ++ (p.audioIn.target.map Resource.writer).toList ++
    (p.dtmfOutAudio.map Resource.writer).toList ++
    if p.closed then [] else
      (p.sess.map Resource.session).toList ++ [Resource.conn] ++
        (p.hnd.map fun ch => Resource.chain ch.id).toList

open MediaPort

/-- Resources whose identities were drawn from `n` up to `m`. -/
def DrawnIn (n m : Nat) (l : List Resource) : Prop :=
  ∀ r ∈ l, ∃ i, r.drawn = some i ∧ n ≤ i ∧ i < m

theorem DrawnIn.mono {n m n' m' : Nat} {l : List Resource} (h : DrawnIn n m l) (hn : n' ≤ n)
    (hm : m ≤ m') : DrawnIn n' m' l := fun r hr => by
  obtain ⟨i, hi, hlo, hhi⟩ := h r hr
  exact ⟨i, hi, by omega, by omega⟩

theorem DrawnIn.lt {n m : Nat} {l : List Resource} (h : DrawnIn n m l) :
    ∀ r ∈ l, ∀ i ∈ r.drawn, i < m := fun r hr i hi => by
  obtain ⟨j, hj, -, hjm⟩ := h r hr
  rw [hj, Option.mem_some_iff] at hi
  exact hi ▸ hjm

/-- What was drawn below `n` is not among what was drawn from `n` on. -/
theorem DrawnIn.disjoint {n m : Nat} {l l' : List Resource} (hl : ∀ r ∈ l, ∀ i ∈ r.drawn, i < n)
    (h : DrawnIn n m l') : List.Disjoint l l' := fun r hr hr' => by
  obtain ⟨i, hi, hle, -⟩ := h r hr'
  exact absurd (hl r hr i hi) (by omega)

/-! ## What one call does to the port's resources -/

/-- A call draws identities from `nextId` on, and closes or keeps of what the port made only what it
had before and what it drew. -/
structure ResourceStep (p q : MediaPort) : Prop where
  nextId_le : p.nextId ≤ q.nextId
  moves : ∃ fresh, fresh.Nodup ∧ DrawnIn p.nextId q.nextId fresh ∧
    ∀ r, r.own → (q.closes ++ q.held).count r ≤ (p.closes ++ p.held ++ fresh).count r

namespace ResourceStep

variable {p q r : MediaPort}

theorem trans (h₁ : ResourceStep p q) (h₂ : ResourceStep q r) : ResourceStep p r := by
  obtain ⟨f₁, hn₁, hd₁, hs₁⟩ := h₁.moves
  obtain ⟨f₂, hn₂, hd₂, hs₂⟩ := h₂.moves
  refine ⟨h₁.nextId_le.trans h₂.nextId_le, f₁ ++ f₂, hn₁.append hn₂ (DrawnIn.disjoint hd₁.lt hd₂),
    fun x hx => ?_, fun a ha => ?_⟩
  · rcases List.mem_append.mp hx with hx | hx
    · exact (hd₁.mono (le_refl _) h₂.nextId_le) x hx
    · exact (hd₂.mono h₁.nextId_le (le_refl _)) x hx
  · have h₁ := hs₁ a ha
    have h₂ := hs₂ a ha
    simp only [List.count_append] at h₁ h₂ ⊢
    omega

/-- A call that draws nothing and leaves the resources as they were. -/
theorem of_eq (hn : q.nextId = p.nextId) (h : q.closes ++ q.held = p.closes ++ p.held) :
    ResourceStep p q :=
  ⟨hn.ge, [], .nil, by simp [DrawnIn], fun _ _ => by rw [h, List.append_nil]⟩

/-- A call that draws one identity, for one new resource. -/
theorem of_drawn (x : Resource) (hn : q.nextId = p.nextId + 1) (hx : x.drawn = some p.nextId)
    (h : ∀ a, (q.closes ++ q.held).count a ≤ (p.closes ++ p.held ++ [x]).count a) :
    ResourceStep p q :=
  ⟨by omega, [x], List.nodup_singleton x,
    fun y hy => ⟨_, List.mem_singleton.mp hy ▸ hx, le_refl _, by omega⟩, fun a _ => h a⟩

/-- `Close` moves what the port holds to what it has closed, once. -/
theorem close (p : MediaPort) : ResourceStep p p.close := by
  by_cases hc : p.closed
  · rw [close_of_closed hc]
    exact .of_eq rfl rfl
  · exact .of_eq (by simp [MediaPort.close, hc]) (by simp [MediaPort.close, held, hc])

/-- `WriteAudioTo` installs the caller's writer, which the port did not make, or the processor's
writer around it, which it draws. -/
theorem writeAudioTo {w : Nat} (h : p.writeAudioTo w = .ok q) : ResourceStep p q := by
  obtain ⟨-, w₁, n, ws, rfl, ⟨rfl, rfl, rfl⟩ | ⟨proc, rfl, rfl, rfl⟩⟩ := writeAudioTo_ok h
  · refine ⟨le_refl _, [], .nil, by simp [DrawnIn], fun a ha => ?_⟩
    have hne : Resource.writer (.user w) ≠ a := by rintro rfl; simp [Resource.own] at ha
    simp only [held, List.count_append, Option.map_some', Option.toList_some, List.count_singleton',
      List.count_nil, hne, if_false]
    omega
  · refine .of_drawn (.writer (.processed proc p.nextId (.user w))) rfl rfl fun a => ?_
    simp only [held, List.count_append, Option.map_some', Option.toList_some]
    omega

/-- `SetConfig` opens the call's session under a fresh identity and publishes it in `p.sess`. -/
theorem openSession (p : MediaPort) :
    ResourceStep p { p with nextId := p.nextId + 1, sess := some p.nextId } :=
  .of_drawn (.session p.nextId) rfl rfl fun a => by
    by_cases hc : p.closed <;>
      simp only [held, hc, List.count_append, Option.map_some', Option.toList_some, if_true,
        Bool.false_eq_true, if_false] <;> omega

theorem setupInput (p : MediaPort) (c : MediaConf) : ResourceStep p (p.setupInput c) :=
  .of_drawn (.chain p.nextId) rfl rfl fun a => by
    by_cases hc : p.closed <;>
      simp only [held, MediaPort.setupInput, hc, List.count_append, Option.map_some',
        Option.toList_some, if_true, Bool.false_eq_true, if_false] <;> omega

/-- `setupOutput` draws the encoder, or with DTMF audio one mixer whose two inputs it installs. -/
theorem setupOutput {c : MediaConf} {s : Nat} {env : SessionEnv}
    (h : p.setupOutput c s env = (q, .ok ())) : ResourceStep p q := by
  unfold MediaPort.setupOutput at h
  split at h
  · cases h
  split at h
  · cases h
  dsimp only at h
  split_ifs at h
  · -- With DTMF audio the two inputs of one mixer are installed, under the identity drawn for it.
    obtain ⟨rfl, -⟩ := Prod.mk.inj h
    set enc := Writer.encoder c.audio.codec ⟨s, p.nextId, c.audio.type, c.audio.codec.rtpClockRate⟩
    refine ⟨by dsimp only; omega, [.writer (.mixerInput (p.nextId + 1) enc 0),
      .writer (.mixerInput (p.nextId + 1) enc 1)], by simp, ?_, ?_⟩
    · intro r hr
      simp only [List.mem_cons, List.mem_singleton, List.not_mem_nil, or_false] at hr
      rcases hr with rfl | rfl <;> exact ⟨_, rfl, by simp [Writer.id], by simp [Writer.id]⟩
    · intro a _
      simp only [held, List.count_append, List.count_cons, List.count_nil, SwitchWriter.swap_fst,
        SwitchWriter.swap_snd, Option.map_some', Option.toList_some]
      omega
  -- Otherwise the encoder itself is installed, under the identity drawn for its stream.
  all_goals
    obtain ⟨rfl, -⟩ := Prod.mk.inj h
    refine .of_drawn (.writer (.encoder c.audio.codec ⟨s, p.nextId, c.audio.type,
      c.audio.codec.rtpClockRate⟩)) rfl rfl fun a => ?_
    simp only [held, List.count_append, SwitchWriter.swap_fst, SwitchWriter.swap_snd,
      Option.map_some', Option.toList_some]
    omega

/-- `SetConfig` is the session's step followed by those of `setupOutput` and `setupInput`; a failed
one stops after the session or earlier. -/
theorem setConfig (p : MediaPort) (c : MediaConf) (env : SessionEnv) :
    ResourceStep p (p.setConfig c env).1 := by
  have hopen := ResourceStep.openSession p
  rcases setConfig_outcome p c env with h | ⟨e, h⟩
  · obtain ⟨-, q₀, hout, hq⟩ := setConfig_ok_path h
    rw [hq]
    refine ((hopen.trans (.of_eq ?_ ?_)).trans (.setupOutput hout)).trans (.setupInput q₀ c) <;> rfl
  · rcases setConfig_error h with ⟨-, -, h'⟩ | ⟨-, -, h'⟩ | ⟨-, -, h'⟩ <;> rw [h']
    · exact .of_eq rfl rfl
    · exact .of_eq rfl rfl
    · exact hopen.trans (.of_eq rfl rfl)

theorem portStep {op : Op} (h : portStep p op = .ok q) : ResourceStep p q := by
  cases op with
  | setConfig c env => cases h; exact .setConfig p c env
  | setConfigNil => obtain ⟨-, rfl⟩ := portStep_setConfigNil h; exact .of_eq rfl rfl
  | close => cases h; exact .close p
  | writeAudioTo w => exact .writeAudioTo h
  | _ => cases h; exact .of_eq rfl rfl

end ResourceStep

/-! ## Over a whole history -/

/-- No resource the port made is closed or held twice, and every identity in use was drawn below
`nextId`. -/
structure CloseOnce (p : MediaPort) : Prop where
  once : ∀ r, r.own → (p.closes ++ p.held).count r ≤ 1
  drawn : ∀ r ∈ p.closes ++ p.held, ∀ i ∈ r.drawn, i < p.nextId

theorem CloseOnce.init (o : MediaOptions) : CloseOnce (newMediaPortWith o) :=
  ⟨fun r _ => by
    simp only [held, newMediaPortWith, SwitchWriter.new, Option.map_none', Option.toList_none,
      List.nil_append, List.append_nil, if_false, Bool.false_eq_true, List.count_singleton']
    split <;> omega,
    by simp [held, newMediaPortWith, SwitchWriter.new, Resource.drawn, Resource.id?]⟩

/-- What a call draws is new, so a resource it adds was neither closed nor held before. -/
theorem CloseOnce.step {p q : MediaPort} (hs : ResourceStep p q) (hp : CloseOnce p) :
    CloseOnce q := by
  obtain ⟨fresh, hfn, hfd, hcount⟩ := hs.moves
  have hold : ∀ r ∈ fresh, r ∉ p.closes ++ p.held := fun r hr hr' => by
    obtain ⟨i, hi, hle, -⟩ := hfd r hr
    exact absurd (hp.drawn r hr' i hi) (by omega)
  refine ⟨fun r hr => ?_, fun r hr i hi => ?_⟩
  · have h := hcount r hr
    rw [List.count_append r (p.closes ++ p.held)] at h
    by_cases hf : r ∈ fresh
    · rw [List.count_eq_one_of_mem hfn hf, List.count_eq_zero.mpr (hold r hf)] at h
      exact h
    · rw [List.count_eq_zero.mpr hf] at h
      exact h.trans (hp.once r hr)
  · by_cases hf : r ∈ fresh
    · exact hfd.lt r hf i hi
    · have hin := hcount r (Resource.own_of_drawn hi)
      rw [List.count_append r (p.closes ++ p.held), List.count_eq_zero.mpr hf] at hin
      have hpos := List.count_pos_iff.mpr hr
      exact Nat.lt_of_lt_of_le (hp.drawn r (List.count_pos_iff.mp (by omega)) i hi) hs.nextId_le

theorem closeOnce_of_run (o : MediaOptions) (hist : List Op) (p : MediaPort)
    (h : runPort (newMediaPortWith o) hist = .ok p) : CloseOnce p :=
  runPort_preserves CloseOnce (fun _ _ _ _ hp hs => hp.step (.portStep hs)) (.init o) h

/-- Over every history from a new port, no resource the port made is closed twice. -/
theorem own_closes_nodup (o : MediaOptions) (hist : List Op) (p : MediaPort)
    (h : runPort (newMediaPortWith o) hist = .ok p) : (p.closes.filter Resource.own).Nodup := by
  have hp := closeOnce_of_run o hist p h
  refine List.nodup_iff_count_le_one.mpr fun r => ?_
  by_cases hr : r.own
  · rw [List.count_filter hr]
    exact le_trans (by simp [List.count_append]) (hp.once r hr)
  · rw [List.count_eq_zero.mpr fun hm => hr (List.mem_filter.mp hm).2]
    exact Nat.zero_le _

/-- A call set up, given the caller's writer 9 twice, then closed. -/
def sameWriterTwice : List Op := [.setConfig pcmuConf okEnv, .writeAudioTo 9, .writeAudioTo 9, .close]

/-- The second `WriteAudioTo` closes the caller's writer while it stays installed, and `Close`
closes it again; nothing the port made is closed twice. -/
theorem caller_writer_closed_twice :
    ∃ p, runPort (newMediaPortWith defaultOptions) sameWriterTwice = .ok p ∧
      p.closes.count (.writer (.user 9)) = 2 ∧ (p.closes.filter Resource.own).Nodup := by
  obtain ⟨p, h⟩ : ∃ p, runPort (newMediaPortWith defaultOptions) sameWriterTwice = .ok p :=
    ⟨_, rfl⟩
  exact ⟨p, h, by cases h; decide, own_closes_nodup defaultOptions sameWriterTwice p h⟩

end SipMedia
