import NvidiaOot.Library.RingCounter
import NvidiaOot.Library.RingQueue
import NvidiaOot.Model.Nvscic2cPcie

/-!
# The comm channel delivers in order

Between the sides there are always the writes that are under way.  `Arrives` follows them one by
one: after each of them the memory of the receiver holds the messages up to the count that has
arrived and those not yet taken are in their frames.  `Returns` says that the counts on their
way back never decrease.  The sender, which sees the older of the two counts, therefore never
writes a frame that is not taken.
-/

namespace NvidiaOot.Analysis

open Library Program Model Function

section

variable {n c : U32} {C P : ℕ}

theorem toNat_count_sub (hle : C ≤ P) (hout : P ≤ C + n.toNat) :
    (c + BitVec.ofNat 32 P - (c + BitVec.ofNat 32 C)).toNat = P - C := by
  have hsplit : BitVec.ofNat 32 P = BitVec.ofNat 32 C + BitVec.ofNat 32 (P - C) := by
    rw [← BitVec.ofNat_add]
    congr 1
    omega
  have hdiff : c + BitVec.ofNat 32 P - (c + BitVec.ofNat 32 C) = BitVec.ofNat 32 (P - C) := by
    rw [hsplit]
    ring
  rw [hdiff, BitVec.toNat_ofNat]
  exact Nat.mod_eq_of_lt (by omega)

theorem count_succ (c : U32) (P : ℕ) : c + BitVec.ofNat 32 P + 1 = c + BitVec.ofNat 32 (P + 1) := by
  rw [BitVec.ofNat_add]
  exact add_assoc _ _ _

theorem toNat_nextFrame {pos : U32} {k : ℕ} (hn : 0 < n.toNat) (hpos : pos.toNat = k % n.toNat) :
    (nextFrame n pos).toNat = (k + 1) % n.toNat := by
  have hlt : pos.toNat < n.toNat := by
    rw [hpos]
    exact Nat.mod_lt _ hn
  have hsucc : (pos + 1).toNat = pos.toNat + 1 := toNat_succ_of_lt (BitVec.lt_def.mpr hlt)
  rw [← Nat.mod_add_mod, ← hpos]
  unfold nextFrame
  by_cases hlast : pos + 1 ≥ n
  · have hge : n.toNat ≤ pos.toNat + 1 := by
      rw [← hsucc]
      exact BitVec.le_def.mp hlast
    have heq : pos.toNat + 1 = n.toNat := by omega
    rw [if_pos hlast, heq, Nat.mod_self]
    rfl
  have hno : pos.toNat + 1 < n.toNat := by
    rw [← hsucc]
    exact BitVec.lt_def.mp (BitVec.not_le.mp hlast)
  rw [if_neg hlast, hsucc, Nat.mod_eq_of_lt hno]

end

section

variable {n c : U32} {sent taken : List CommMsg} {next : Option CommMsg} {k : ℕ}
  {f : U32 → CommMsg} {q : List PostedWrite} {x m : CommMsg}

def frameAt (f : U32 → CommMsg) (i : ℕ) : CommMsg := f (BitVec.ofNat 32 i)

/-- What the writes under way do to the frames `f` of the receiver and the count `k` that it
sees.  `next` is a message whose frame is written and not yet counted. -/
inductive Arrives (n c : U32) (sent taken : List CommMsg) (next : Option CommMsg) :
    ℕ → (U32 → CommMsg) → List PostedWrite → Prop where
  | nil {f : U32 → CommMsg} (stored : Stored n.toNat (frameAt f) sent taken)
      (written : ∀ m, next = some m → frameAt f (sent.length % n.toNat) = m) :
      Arrives n c sent taken next sent.length f []
  | frame {k : ℕ} {f : U32 → CommMsg} {p : U32} {m : CommMsg} {q : List PostedWrite}
      (stored : Stored n.toNat (frameAt f) (sent.take k) taken) (pos : p.toNat = k % n.toNat)
      (room : k < taken.length + n.toNat)
      (rest : Arrives n c sent taken next k (update f p m) q) :
      Arrives n c sent taken next k f (.frame p m :: q)
  | count {k : ℕ} {f : U32 → CommMsg} {v : U32} {q : List PostedWrite}
      (stored : Stored n.toNat (frameAt f) (sent.take k) taken)
      (value : v = c + BitVec.ofNat 32 (k + 1)) (rest : Arrives n c sent taken next (k + 1) f q) :
      Arrives n c sent taken next k f (.wrCount v :: q)
  | notify {k : ℕ} {f : U32 → CommMsg} {q : List PostedWrite}
      (stored : Stored n.toNat (frameAt f) (sent.take k) taken)
      (rest : Arrives n c sent taken next k f q) :
      Arrives n c sent taken next k f (.notify :: q)

theorem Arrives.le (h : Arrives n c sent taken next k f q) : k ≤ sent.length := by
  induction h with
  | nil => exact le_rfl
  | frame _ _ _ _ ih => exact ih
  | count _ _ _ ih => omega
  | notify _ _ ih => exact ih

theorem Arrives.stored (h : Arrives n c sent taken next k f q) :
    Stored n.toNat (frameAt f) (sent.take k) taken := by
  cases h with
  | nil stored _ =>
    rw [List.take_length]
    exact stored
  | frame stored _ _ _ | count stored _ _ | notify stored _ => exact stored

theorem frameAt_update_self {p : U32} {i : ℕ} (hp : p.toNat = i) (m : CommMsg) :
    frameAt (update f p m) i = m := by
  have hi : BitVec.ofNat 32 i = p := by
    rw [← hp]
    exact BitVec.ofNat_toNat 32 p ▸ BitVec.setWidth_eq p
  unfold frameAt
  rw [hi]
  exact update_self ..

theorem frameAt_update_of_ne {p : U32} {i : ℕ} (hi : i < 2 ^ 32) (hp : i ≠ p.toNat) (m : CommMsg) :
    frameAt (update f p m) i = frameAt f i := by
  refine update_of_ne (fun heq => hp ?_) _ _
  rw [← heq, BitVec.toNat_ofNat, Nat.mod_eq_of_lt hi]

theorem Arrives.append_frame {p : U32} (h : Arrives n c sent taken none k f q)
    (hp : p.toNat = sent.length % n.toNat) (hroom : sent.length < taken.length + n.toNat) :
    Arrives n c sent taken (some m) k f (q ++ [.frame p m]) := by
  induction h with
  | @nil f stored _ =>
    refine .frame (by rw [List.take_length]; exact stored) hp hroom (.nil ?_ ?_)
    · apply stored.fill hroom
      intro j hj hne
      apply frameAt_update_of_ne
      · omega
      · rw [hp]
        exact hne
    · intro m' hm
      cases hm
      exact frameAt_update_self hp m
  | frame stored pos room _ ih => exact .frame stored pos room ih
  | count stored value _ ih => exact .count stored value ih
  | notify stored _ ih => exact .notify stored ih

theorem Arrives.append_count {v : U32} (h : Arrives n c sent taken (some m) k f q)
    (hv : v = c + BitVec.ofNat 32 (sent.length + 1)) (hroom : sent.length < taken.length + n.toNat) :
    Arrives n c (sent ++ [m]) taken none k f (q ++ [.wrCount v]) := by
  have hlength : (sent ++ [m]).length = sent.length + 1 := by simp
  induction h with
  | @nil f stored written =>
    have hsend := stored.send hroom
    rw [written m rfl] at hsend
    refine .count ?_ hv ?_
    · rw [List.take_left]
      exact stored
    · rw [← hlength]
      exact .nil hsend (fun m' hm => by cases hm)
  | frame stored pos room rest ih =>
    refine .frame ?_ pos room ih
    rw [List.take_append_of_le_length rest.le]
    exact stored
  | count stored value rest ih =>
    refine .count ?_ value ih
    rw [List.take_append_of_le_length (Nat.le_of_succ_le rest.le)]
    exact stored
  | notify stored rest ih =>
    refine .notify ?_ ih
    rw [List.take_append_of_le_length rest.le]
    exact stored

theorem Arrives.append_notify (h : Arrives n c sent taken next k f q) :
    Arrives n c sent taken next k f (q ++ [.notify]) := by
  induction h with
  | nil stored written =>
    exact .notify (by rw [List.take_length]; exact stored) (.nil stored written)
  | frame stored pos room _ ih => exact .frame stored pos room ih
  | count stored value _ ih => exact .count stored value ih
  | notify stored _ ih => exact .notify stored ih

theorem stored_receive {slot : ℕ → CommMsg} (h : Stored n.toNat slot (sent.take k) taken)
    (hk : taken.length < k) (hx : sent[taken.length]? = some x) :
    Stored n.toNat slot (sent.take k) (taken ++ [x]) := by
  have hlt : taken.length < sent.length := (List.getElem?_eq_some_iff.mp hx).1
  have hne : taken.length < (sent.take k).length := by
    rw [List.length_take]
    omega
  have hhead := h.head hne
  rw [List.getElem?_take_of_lt hk, hx, Option.some.injEq] at hhead
  rw [hhead]
  exact h.receive hne

theorem Arrives.receive (h : Arrives n c sent taken next k f q) (hk : taken.length < k)
    (hx : sent[taken.length]? = some x) : Arrives n c sent (taken ++ [x]) next k f q := by
  have hlength : (taken ++ [x]).length = taken.length + 1 := by simp
  induction h with
  | nil stored written =>
    refine .nil ?_ written
    have := stored_receive (k := sent.length) (by rw [List.take_length]; exact stored) hk hx
    rwa [List.take_length] at this
  | frame stored pos room _ ih =>
    exact .frame (stored_receive stored hk hx) pos (by omega) (ih hk)
  | count stored value _ ih => exact .count (stored_receive stored hk hx) value (ih (by omega))
  | notify stored _ ih => exact .notify (stored_receive stored hk hx) (ih hk)

/-- The counts on the way back, from the one that has arrived to the last. -/
inductive Returns (c : U32) (last : ℕ) : ℕ → List PostedWrite → Prop where
  | nil {k : ℕ} (le : k ≤ last) : Returns c last k []
  | cons {k j : ℕ} {v : U32} {q : List PostedWrite} (le : k ≤ j)
      (value : v = c + BitVec.ofNat 32 j) (rest : Returns c last j q) :
      Returns c last k (.rdCount v :: q)

theorem Returns.le {last : ℕ} (h : Returns c last k q) : k ≤ last := by
  induction h with
  | nil le => exact le
  | cons le _ _ ih => exact le.trans ih

theorem Returns.append {last : ℕ} (h : Returns c last k q) :
    Returns c (last + 1) k (q ++ [.rdCount (c + BitVec.ofNat 32 (last + 1))]) := by
  induction h with
  | nil le => exact .cons (Nat.le_succ_of_le le) rfl (.nil le_rfl)
  | cons le value _ ih => exact .cons le value ih

end

section

variable {c : U32} {s : Channel}

/-- The message whose frame is written and that is not yet counted. -/
def SendPc.written : SendPc → Option CommMsg
  | .count msg => some msg
  | _ => none

/-- The messages that `can_send` let in and that are not yet counted. -/
def SendPc.admitted : SendPc → ℕ
  | .frame _ => 1
  | .count _ => 1
  | _ => 0

/-- The messages that are counted and whose call has not returned. -/
def SendPc.counted : SendPc → List CommMsg
  | .notify msg => [msg]
  | .advance msg _ => [msg]
  | _ => []

/-- The messages that are taken and not yet counted, and those whose position is not left. -/
def RecvPc.uncounted : RecvPc → ℕ
  | .count => 1
  | _ => 0

def RecvPc.unmoved : RecvPc → ℕ
  | .count => 1
  | .advance => 1
  | _ => 0

/-- What the sender has and sees of the receiver's count. -/
structure SenderInv (c : U32) (s : Channel) (R : ℕ) : Prop where
  frames : s.sender.nframes = commChannelNframes
  wrCount : s.sender.localHdr.wrCount = c + BitVec.ofNat 32 s.published.length
  wrPos : ∃ W, s.published.length = W + (SendPc.counted s.sendPc).length ∧
    s.sender.wrPos.toNat = W % commChannelNframes.toNat
  rdCount : ∃ C, s.sender.recvHdr.rdCount = c + BitVec.ofNat 32 C ∧ Returns c R C s.toSender ∧
    s.published.length + SendPc.admitted s.sendPc ≤ C + commChannelNframes.toNat

/-- What the receiver has and sees of the frames and of the sender's count. -/
structure ReceiverInv (c : U32) (s : Channel) (R : ℕ) : Prop where
  frames : s.receiver.nframes = commChannelNframes
  rdCount : s.receiver.localHdr.rdCount = c + BitVec.ofNat 32 R
  counted : s.taken.length = R + RecvPc.uncounted s.recvPc
  rdPos : ∃ D, s.taken.length = D + RecvPc.unmoved s.recvPc ∧
    s.receiver.rdPos.toNat = D % commChannelNframes.toNat
  wrCount : ∃ K, s.receiver.recvHdr.wrCount = c + BitVec.ofNat 32 K ∧
    Arrives commChannelNframes c s.published s.taken (SendPc.written s.sendPc) K s.receiver.recv
      s.toReceiver
  seen : s.seen = s.taken.filter (hasCallback s.cbOps)

/-- The invariant of the channel; the receiver has counted `R` messages. -/
def ChannelInv (c : U32) (s : Channel) : Prop := ∃ R, SenderInv c s R ∧ ReceiverInv c s R

theorem nframes_pos : 0 < commChannelNframes.toNat := by decide

theorem channelInv_new (peerCpu : PeerCpu) (cbOps : U32 → Bool) (c : U32) (recv : U32 → CommMsg) :
    ChannelInv c (newChannel peerCpu cbOps c recv) := by
  have hc : c = c + BitVec.ofNat 32 0 := by simp
  refine ⟨0, ⟨rfl, hc, ⟨0, rfl, rfl⟩, ⟨0, hc, .nil le_rfl, ?_⟩⟩,
    ⟨rfl, hc, rfl, ⟨0, rfl, rfl⟩, ⟨0, hc, .nil (Stored.empty _ _) ?_⟩, rfl⟩⟩
  · exact Nat.zero_le _
  · nofun

theorem SenderInv.room {R : ℕ} (h : SenderInv c s R) (hr : ReceiverInv c s R) :
    s.published.length + SendPc.admitted s.sendPc ≤ s.taken.length + commChannelNframes.toNat := by
  obtain ⟨C, _, hreturns, hle⟩ := h.rdCount
  have hcr := hreturns.le
  have hcounted := hr.counted
  omega

theorem canSend_eq {C : ℕ} (fifo : CommFifo) (P : ℕ) (hn : fifo.nframes = commChannelNframes)
    (hw : fifo.localHdr.wrCount = c + BitVec.ofNat 32 P)
    (hr : fifo.recvHdr.rdCount = c + BitVec.ofNat 32 C) (hle : C ≤ P) (hout : P ≤ C + commChannelNframes.toNat) :
    canSend fifo = if P < C + commChannelNframes.toNat then (true, 0) else (false, -eAGAIN) := by
  have hsub := toNat_count_sub (c := c) hle hout
  unfold canSend
  simp only [hw, hr, hn]
  by_cases hlt : P < C + commChannelNframes.toNat
  · rw [if_pos hlt, if_pos]
    rw [BitVec.lt_def, hsub]
    omega
  rw [if_neg hlt, if_neg, if_pos]
  · apply BitVec.eq_of_toNat_eq
    omega
  · rw [BitVec.lt_def, hsub]
    omega

theorem canRecv_eq {K R : ℕ} (fifo : CommFifo) (hn : fifo.nframes = commChannelNframes)
    (hw : fifo.recvHdr.wrCount = c + BitVec.ofNat 32 K)
    (hr : fifo.localHdr.rdCount = c + BitVec.ofNat 32 R) (hle : R ≤ K) (hout : K ≤ R + commChannelNframes.toNat) :
    canRecv fifo = if R < K then (true, 0) else (false, -eNODATA) := by
  have hsub := toNat_count_sub (c := c) hle hout
  unfold canRecv
  simp only [hw, hr, hn]
  by_cases hlt : R < K
  · rw [if_pos hlt, if_neg, if_pos]
    · rw [BitVec.le_def, hsub]
      omega
    · intro hzero
      rw [hzero] at hsub
      change 0 = K - R at hsub
      omega
  rw [if_neg hlt, if_pos]
  apply BitVec.eq_of_toNat_eq
  rw [hsub]
  change K - R = 0
  omega

end

section

variable {c : U32} {s s' : Channel} {R : ℕ}

theorem ReceiverInv.taken_le (h : ReceiverInv c s R) : s.taken.length ≤ s.published.length := by
  obtain ⟨K, _, harrives⟩ := h.wrCount
  have hle := harrives.stored.isPrefix.length_le
  rw [List.length_take] at hle
  exact hle.trans (Nat.min_le_right _ _)

theorem callStep_inv {entry : SendEntry} {linkUp : Bool} {msg : CommMsg} (h : ChannelInv c s)
    (hstep : callStep s entry linkUp msg = some s') : ChannelInv c s' := by
  obtain ⟨R, hs, hr⟩ := h
  unfold callStep at hstep
  by_cases hcheck : sendCheck entry linkUp msg ≠ 0
  · rw [if_pos hcheck, Option.some.injEq] at hstep
    rw [← hstep]
    exact ⟨R, ⟨hs.frames, hs.wrCount, hs.wrPos, hs.rdCount⟩,
      ⟨hr.frames, hr.rdCount, hr.counted, hr.rdPos, hr.wrCount, hr.seen⟩⟩
  rw [if_neg hcheck] at hstep
  by_cases hfree : s.sendPc = .free
  · rw [if_pos hfree, Option.some.injEq] at hstep
    obtain ⟨C, hrd, hreturns, hle⟩ := hs.rdCount
    have hwrPos := hs.wrPos
    have hwrCount := hr.wrCount
    rw [hfree] at hle hwrPos hwrCount
    have hC : C ≤ s.published.length := by
      have := hreturns.le
      have := hr.counted
      have := hr.taken_le
      omega
    rw [canSend_eq s.sender s.published.length hs.frames hs.wrCount hrd hC hle] at hstep
    by_cases hroom : s.published.length < C + commChannelNframes.toNat
    · rw [if_pos hroom, if_pos rfl] at hstep
      rw [← hstep]
      exact ⟨R, ⟨hs.frames, hs.wrCount, hwrPos, ⟨C, hrd, hreturns, hroom⟩⟩,
        ⟨hr.frames, hr.rdCount, hr.counted, hr.rdPos, hwrCount, hr.seen⟩⟩
    rw [if_neg hroom, if_neg Bool.false_ne_true] at hstep
    rw [← hstep]
    exact ⟨R, ⟨hs.frames, hs.wrCount, hwrPos, ⟨C, hrd, hreturns, hle⟩⟩,
      ⟨hr.frames, hr.rdCount, hr.counted, hr.rdPos, hwrCount, hr.seen⟩⟩
  · rw [if_neg hfree] at hstep
    cases hstep

theorem sendStep_inv {irq : ℤ} (h : ChannelInv c s) (hstep : sendStep s irq = some s') : ChannelInv c s' := by
  obtain ⟨R, hs, hr⟩ := h
  have hroom := hs.room hr
  obtain ⟨W, hW, hpos⟩ := hs.wrPos
  obtain ⟨C, hrd, hreturns, hle⟩ := hs.rdCount
  obtain ⟨K, hK, harrives⟩ := hr.wrCount
  unfold sendStep at hstep
  cases hpc : s.sendPc with
  | free =>
    rw [hpc] at hstep
    cases hstep
  | frame msg =>
    rw [hpc] at hstep hroom hW hle harrives
    cases hstep
    have hwrite : s.sender.wrPos.toNat = s.published.length % commChannelNframes.toNat := by
      rw [hW]
      exact hpos
    exact ⟨R, ⟨hs.frames, hs.wrCount, ⟨W, hW, hpos⟩, ⟨C, hrd, hreturns, hle⟩⟩,
      ⟨hr.frames, hr.rdCount, hr.counted, hr.rdPos,
        ⟨K, hK, harrives.append_frame hwrite (Nat.lt_of_succ_le hroom)⟩, hr.seen⟩⟩
  | count msg =>
    rw [hpc] at hstep hroom hW hle harrives
    cases hstep
    have hlength : (s.published ++ [msg]).length = s.published.length + 1 := by simp
    have hwr : s.sender.localHdr.wrCount + 1 =
        c + BitVec.ofNat 32 (s.published.length + 1) := by
      rw [hs.wrCount, count_succ]
    refine ⟨R, ⟨hs.frames, ?_, ⟨W, ?_, hpos⟩, ⟨C, hrd, hreturns, ?_⟩⟩,
      ⟨hr.frames, hr.rdCount, hr.counted, hr.rdPos,
        ⟨K, hK, harrives.append_count hwr (Nat.lt_of_succ_le hroom)⟩, hr.seen⟩⟩
    · rw [hlength]
      exact hwr
    · rw [hlength, hW]
      rfl
    · rw [hlength]
      exact hle
  | notify msg =>
    rw [hpc] at hstep hroom hW hle harrives
    cases hstep
    have hnotify : Arrives commChannelNframes c s.published s.taken none K s.receiver.recv
        (s.toReceiver ++ (sendNotify s.peerCpu irq).2) := by
      unfold sendNotify
      cases s.peerCpu with
      | nvcpuOrin => exact harrives.append_notify
      | nvcpuX86_64 =>
        by_cases hirq : irq = 0
        · simp only [if_pos hirq]
          exact harrives.append_notify
        · simp only [if_neg hirq, List.append_nil]
          exact harrives
    exact ⟨R, ⟨hs.frames, hs.wrCount, ⟨W, hW, hpos⟩, ⟨C, hrd, hreturns, hle⟩⟩,
      ⟨hr.frames, hr.rdCount, hr.counted, hr.rdPos, ⟨K, hK, hnotify⟩, hr.seen⟩⟩
  | advance msg ret =>
    rw [hpc] at hstep hroom hW hle harrives
    cases hstep
    refine ⟨R, ⟨hs.frames, hs.wrCount, ⟨W + 1, hW, ?_⟩, ⟨C, hrd, hreturns, hle⟩⟩,
      ⟨hr.frames, hr.rdCount, hr.counted, hr.rdPos, ⟨K, hK, harrives⟩, hr.seen⟩⟩
    have hnext := toNat_nextFrame nframes_pos hpos
    rw [← hs.frames] at hnext ⊢
    exact hnext

theorem arriveStep_inv (h : ChannelInv c s) (hstep : arriveStep s = some s') : ChannelInv c s' := by
  obtain ⟨R, hs, hr⟩ := h
  obtain ⟨K, hK, harrives⟩ := hr.wrCount
  unfold arriveStep at hstep
  cases hq : s.toReceiver with
  | nil =>
    rw [hq] at hstep
    cases hstep
  | cons w rest =>
    rw [hq] at hstep harrives
    cases hstep
    cases harrives with
    | frame _ _ _ harrives | notify _ harrives =>
      exact ⟨R, ⟨hs.frames, hs.wrCount, hs.wrPos, hs.rdCount⟩,
        ⟨hr.frames, hr.rdCount, hr.counted, hr.rdPos, ⟨K, hK, harrives⟩, hr.seen⟩⟩
    | count _ hvalue harrives =>
      exact ⟨R, ⟨hs.frames, hs.wrCount, hs.wrPos, hs.rdCount⟩,
        ⟨hr.frames, hr.rdCount, hr.counted, hr.rdPos, ⟨K + 1, hvalue, harrives⟩, hr.seen⟩⟩

theorem arriveBackStep_inv (h : ChannelInv c s) (hstep : arriveBackStep s = some s') : ChannelInv c s' := by
  obtain ⟨R, hs, hr⟩ := h
  obtain ⟨C, hrd, hreturns, hle⟩ := hs.rdCount
  unfold arriveBackStep at hstep
  cases hq : s.toSender with
  | nil =>
    rw [hq] at hstep
    cases hstep
  | cons w rest =>
    rw [hq] at hstep hreturns
    cases hstep
    cases hreturns with
    | @cons _ j _ _ hj hvalue hreturns =>
      have hle' := hle.trans (Nat.add_le_add_right hj _)
      exact ⟨R, ⟨hs.frames, hs.wrCount, hs.wrPos, ⟨j, hvalue, hreturns, hle'⟩⟩,
        ⟨hr.frames, hr.rdCount, hr.counted, hr.rdPos, hr.wrCount, hr.seen⟩⟩

theorem recvHead_eq {K : ℕ} (hr : ReceiverInv c s R) (hread : s.recvPc = .read)
    (harrives : Arrives commChannelNframes c s.published s.taken (SendPc.written s.sendPc) K
      s.receiver.recv s.toReceiver) (hlt : s.taken.length < K) :
    s.published[s.taken.length]? = some (recvHead s.receiver) := by
  obtain ⟨D, hD, hpos⟩ := hr.rdPos
  rw [hread] at hD
  have hle := harrives.le
  have hhead := harrives.stored.head (by rw [List.length_take]; omega)
  rw [List.getElem?_take_of_lt hlt, show s.taken.length = D from hD, ← hpos] at hhead
  rw [show s.taken.length = D from hD, hhead]
  unfold frameAt recvHead
  rw [BitVec.ofNat_toNat, BitVec.setWidth_eq]

theorem receiveStep_inv (h : ChannelInv c s) (hstep : receiveStep s = some s') : ChannelInv c s' := by
  obtain ⟨R, hs, hr⟩ := h
  have hroom := hs.room hr
  obtain ⟨D, hD, hpos⟩ := hr.rdPos
  obtain ⟨K, hK, harrives⟩ := hr.wrCount
  have hcounted := hr.counted
  unfold receiveStep at hstep
  cases hpc : s.recvPc with
  | stopped =>
    rw [hpc] at hstep
    cases hstep
  | wait =>
    rw [hpc] at hstep hcounted hD
    have hsame : ∀ pc, RecvPc.uncounted pc = 0 → RecvPc.unmoved pc = 0 → ∀ n,
        ChannelInv c { s with recvCount := n, recvPc := pc } := by
      intro pc hu hm n
      refine ⟨R, ⟨hs.frames, hs.wrCount, hs.wrPos, hs.rdCount⟩,
        ⟨hr.frames, hr.rdCount, ?_, ⟨D, ?_, hpos⟩, ⟨K, hK, harrives⟩, hr.seen⟩⟩
      · rw [hu]
        exact hcounted
      · rw [hm]
        exact hD
    by_cases hdown : s.shutdown = true
    · rw [if_pos hdown, Option.some.injEq] at hstep
      rw [← hstep]
      exact hsame .stopped rfl rfl s.recvCount
    rw [if_neg hdown] at hstep
    by_cases hzero : s.recvCount = 0
    · rw [if_pos hzero] at hstep
      cases hstep
    · rw [if_neg hzero, Option.some.injEq] at hstep
      rw [← hstep]
      exact hsame .read rfl rfl (s.recvCount - 1)
  | read =>
    rw [hpc] at hstep hcounted hD
    have hRK : R ≤ K := by
      have hle := harrives.stored.isPrefix.length_le
      rw [List.length_take, hcounted] at hle
      exact hle.trans (Nat.min_le_left _ _)
    have hKn : K ≤ R + commChannelNframes.toNat := by
      have hle := harrives.le
      change s.taken.length = R at hcounted
      omega
    rw [canRecv_eq s.receiver hr.frames hK hr.rdCount hRK hKn] at hstep
    by_cases hlt : R < K
    · rw [if_pos hlt, if_pos rfl, Option.some.injEq] at hstep
      rw [← hstep]
      have htaken : s.taken.length < K := by
        rw [hcounted]
        exact hlt
      have hhead := recvHead_eq hr hpc harrives htaken
      refine ⟨R, ⟨hs.frames, hs.wrCount, hs.wrPos, hs.rdCount⟩,
        ⟨hr.frames, hr.rdCount, ?_, ⟨D, ?_, hpos⟩, ⟨K, hK, harrives.receive htaken hhead⟩, ?_⟩⟩
      · rw [List.length_append, hcounted]
        rfl
      · rw [List.length_append, hD]
        rfl
      · rw [List.filter_append, ← hr.seen]
        by_cases hcb : hasCallback s.cbOps (recvHead s.receiver) = true
        · rw [List.filter_cons_of_pos hcb, if_pos hcb]
          rfl
        · rw [List.filter_cons_of_neg hcb, if_neg hcb, List.filter_nil, List.append_nil]
    · rw [if_neg hlt, if_neg Bool.false_ne_true, Option.some.injEq] at hstep
      rw [← hstep]
      exact ⟨R, ⟨hs.frames, hs.wrCount, hs.wrPos, hs.rdCount⟩,
        ⟨hr.frames, hr.rdCount, hcounted, ⟨D, hD, hpos⟩, ⟨K, hK, harrives⟩, hr.seen⟩⟩
  | count =>
    rw [hpc] at hstep hcounted hD
    cases hstep
    obtain ⟨C, hrd, hreturns, hle⟩ := hs.rdCount
    have hcount : s.receiver.localHdr.rdCount + 1 = c + BitVec.ofNat 32 (R + 1) := by
      rw [hr.rdCount, count_succ]
    have hback : Returns c (R + 1) C (s.toSender ++ [(Program.recvCount s.receiver).2]) := by
      unfold Program.recvCount
      rw [hcount]
      exact hreturns.append
    exact ⟨R + 1, ⟨hs.frames, hs.wrCount, hs.wrPos, ⟨C, hrd, hback, hle⟩⟩,
      ⟨hr.frames, hcount, hcounted, ⟨D, hD, hpos⟩, ⟨K, hK, harrives⟩, hr.seen⟩⟩
  | advance =>
    rw [hpc] at hstep hcounted hD
    cases hstep
    have hnext := toNat_nextFrame nframes_pos hpos
    refine ⟨R, ⟨hs.frames, hs.wrCount, hs.wrPos, hs.rdCount⟩,
      ⟨hr.frames, hr.rdCount, hcounted, ⟨D + 1, hD, ?_⟩, ⟨K, hK, harrives⟩, hr.seen⟩⟩
    rw [← hr.frames] at hnext ⊢
    exact hnext

/-- **Every step keeps the invariant.** -/
theorem channelStep_inv (op : ChannelOp) (h : ChannelInv c s) (hstep : channelStep s op = some s') :
    ChannelInv c s' := by
  cases op with
  | call entry linkUp msg => exact callStep_inv h hstep
  | send irq => exact sendStep_inv h hstep
  | arrive => exact arriveStep_inv h hstep
  | arriveBack => exact arriveBackStep_inv h hstep
  | receive => exact receiveStep_inv h hstep
  | kick | stop =>
    obtain ⟨R, hs, hr⟩ := h
    have heq := Option.some.inj hstep
    rw [← heq]
    exact ⟨R, ⟨hs.frames, hs.wrCount, hs.wrPos, hs.rdCount⟩,
      ⟨hr.frames, hr.rdCount, hr.counted, hr.rdPos, hr.wrCount, hr.seen⟩⟩

theorem ChannelInv.inOrder (h : ChannelInv c s) : InOrder s := by
  obtain ⟨R, hs, hr⟩ := h
  obtain ⟨K, hK, harrives⟩ := hr.wrCount
  refine ⟨?_, hr.seen, ?_, ?_, ?_, ?_⟩
  · exact harrives.stored.isPrefix.trans (List.take_prefix _ _)
  · have := hs.room hr
    omega
  · intro hempty hread
    have hcounted := hr.counted
    have hle := hr.taken_le
    have hroom := hs.room hr
    rw [hread] at hcounted
    change s.taken.length = R at hcounted
    rw [hempty] at harrives
    cases harrives with
    | nil _ _ =>
      rw [hK, hr.rdCount, toNat_count_sub (n := commChannelNframes) (by omega) (by omega)]
      omega
  · intro hfree
    obtain ⟨W, hW, hpos⟩ := hs.wrPos
    rw [hfree] at hW
    rw [hW]
    exact hpos
  · intro hrest
    obtain ⟨D, hD, hpos⟩ := hr.rdPos
    have hunmoved : RecvPc.unmoved s.recvPc = 0 := by
      rcases hrest with hwait | hread
      · rw [hwait]
        rfl
      · rw [hread]
        rfl
    rw [hunmoved] at hD
    rw [hD]
    exact hpos

end

section

variable {s s' : Channel}

/-- The messages that were published by calls that have returned 0, or by the one under way. -/
def CallsInv (s : Channel) : Prop :=
  s.published = succeeded s.calls ++ SendPc.counted s.sendPc ∧
    ∀ msg ret, s.sendPc = .advance msg ret → ret = 0

theorem succeeded_zero (calls : List SendCall) (msg : CommMsg) :
    succeeded (calls ++ [⟨msg, 0⟩]) = succeeded calls ++ [msg] := by
  simp [succeeded]

theorem succeeded_error {ret : ℤ} (hret : ret ≠ 0) (calls : List SendCall) (msg : CommMsg) :
    succeeded (calls ++ [⟨msg, ret⟩]) = succeeded calls := by
  simp [succeeded, hret]

theorem canSend_error {fifo : CommFifo} (h : (canSend fifo).1 ≠ true) : (canSend fifo).2 ≠ 0 := by
  unfold canSend at h ⊢
  dsimp only at h ⊢
  split at h
  · exact absurd rfl h
  rename_i hlt
  rw [if_neg hlt]
  split
  · decide
  · decide

theorem callStep_calls {entry : SendEntry} {linkUp : Bool} {msg : CommMsg} (h : CallsInv s)
    (hstep : callStep s entry linkUp msg = some s') : CallsInv s' := by
  obtain ⟨hpub, hret⟩ := h
  unfold callStep at hstep
  by_cases hcheck : sendCheck entry linkUp msg ≠ 0
  · rw [if_pos hcheck, Option.some.injEq] at hstep
    rw [← hstep]
    refine ⟨?_, hret⟩
    rw [succeeded_error hcheck]
    exact hpub
  rw [if_neg hcheck] at hstep
  by_cases hfree : s.sendPc = .free
  · rw [if_pos hfree, Option.some.injEq] at hstep
    rw [hfree] at hpub
    by_cases hsend : (canSend s.sender).1 = true
    · rw [if_pos hsend] at hstep
      rw [← hstep]
      exact ⟨hpub, fun _ _ hpc => by cases hpc⟩
    rw [if_neg hsend] at hstep
    rw [← hstep]
    refine ⟨?_, fun _ _ hpc => by cases hpc⟩
    unfold Channel.return
    rw [succeeded_error (canSend_error hsend)]
    exact hpub
  · rw [if_neg hfree] at hstep
    cases hstep

theorem sendStep_calls {irq : ℤ} (h : CallsInv s) (hirq : IrqWorks s (.send irq))
    (hstep : sendStep s irq = some s') : CallsInv s' := by
  obtain ⟨hpub, hret⟩ := h
  unfold sendStep at hstep
  cases hpc : s.sendPc with
  | free =>
    rw [hpc] at hstep
    cases hstep
  | frame msg =>
    rw [hpc] at hstep hpub
    cases hstep
    exact ⟨hpub, fun _ _ hpc => by cases hpc⟩
  | count msg =>
    rw [hpc] at hstep hpub
    cases hstep
    refine ⟨?_, fun _ _ hpc => by cases hpc⟩
    rw [hpub]
    exact congrArg (· ++ [msg]) (List.append_nil _)
  | notify msg =>
    have hnotify : s.sendPc.isNotify = true := by
      rw [hpc]
      rfl
    rw [hpc] at hstep hpub
    cases hstep
    refine ⟨hpub, ?_⟩
    intro msg' ret hadvance
    rw [SendPc.advance.injEq] at hadvance
    rw [← hadvance.2]
    cases hcpu : s.peerCpu with
    | nvcpuOrin => rfl
    | nvcpuX86_64 => exact hirq hnotify hcpu
  | advance msg ret =>
    rw [hpc] at hstep hpub
    cases hstep
    have hzero := hret msg ret hpc
    refine ⟨?_, fun _ _ hpc => by cases hpc⟩
    unfold Channel.return
    rw [hzero, succeeded_zero]
    exact hpub.trans (List.append_nil _).symm

/-- **Every step keeps the calls right**, when the interrupt is raised. -/
theorem channelStep_calls (op : ChannelOp) (h : CallsInv s) (hirq : IrqWorks s op)
    (hstep : channelStep s op = some s') : CallsInv s' := by
  cases op with
  | call entry linkUp msg => exact callStep_calls h hstep
  | send irq => exact sendStep_calls h hirq hstep
  | arrive =>
    change arriveStep s = some s' at hstep
    unfold arriveStep at hstep
    split at hstep
    · cases hstep
    · cases hstep
      exact h
  | arriveBack =>
    change arriveBackStep s = some s' at hstep
    unfold arriveBackStep at hstep
    split at hstep
    · cases hstep
    · cases hstep
      exact h
  | receive =>
    change receiveStep s = some s' at hstep
    unfold receiveStep at hstep
    split at hstep
    · cases hstep
    · split at hstep
      · cases hstep
        exact h
      · split at hstep
        · cases hstep
        · cases hstep
          exact h
    · split at hstep
      · cases hstep
        exact h
      · cases hstep
        exact h
    · cases hstep
      exact h
    · cases hstep
      exact h
  | kick | stop =>
    cases hstep
    exact h

end

section

variable {peerCpu : PeerCpu} {cbOps : U32 → Bool} {c : U32} {recv : U32 → CommMsg}
  {ops : List ChannelOp} {s : Channel}

/-- **The callbacks see the messages in order**, whatever the interrupts do. -/
theorem channel_inOrder (hrun : run channelStep (newChannel peerCpu cbOps c recv) ops = some s) : InOrder s :=
  (run_invariant (fun _ op _ => channelStep_inv op) (channelInv_new peerCpu cbOps c recv) hrun).inOrder

/-- **The channel while its interrupts are raised**: the messages arrive in order, and the calls
that have returned 0 are those that published one. -/
theorem channel_delivers (hirq : AllSteps channelStep IrqWorks (newChannel peerCpu cbOps c recv) ops)
    (hrun : run channelStep (newChannel peerCpu cbOps c recv) ops = some s) : InOrder s ∧ CallsTell s := by
  have hcalls : CallsInv s :=
    run_invariant_of_allSteps (fun _ op _ => channelStep_calls op)
      ⟨rfl, fun _ _ hpc => by cases hpc⟩ hirq hrun
  refine ⟨channel_inOrder hrun, ?_⟩
  intro hfree
  have hpub := hcalls.1
  rw [hfree] at hpub
  exact hpub.trans (List.append_nil _)

/-- A message that registers an object, and a side whose frames are empty. -/
def registerMsg : CommMsg := ⟨commMsgTypeRegister, 5, 0x1000, 64, 0⟩

def emptyFrames : U32 → CommMsg := fun _ => ⟨0, 0, 0, 0, 0⟩

/-- A message that is sent to a peer on x86, with what raising its interrupt returns, and that
the peer takes when the next notification comes. -/
def sendAndTake (irq : ℤ) : List ChannelOp :=
  [.call .app true registerMsg, .send 0, .send 0, .send irq, .send 0, .arrive, .arrive, .kick, .receive, .receive]

/-- The interrupt is raised, and the counters wrap at the message. -/
theorem channel_delivers_register : ∃ s, run channelStep (newChannel .nvcpuX86_64 (fun _ => true) (-1) emptyFrames)
        (sendAndTake 0) = some s ∧ InOrder s ∧ CallsTell s ∧ s.seen = [registerMsg] := by
  refine exists_of_map Channel.seen [registerMsg] (by decide) fun s hrun hseen => ?_
  have hirq : AllSteps channelStep IrqWorks
      (newChannel .nvcpuX86_64 (fun _ => true) (-1) emptyFrames) (sendAndTake 0) := by decide
  obtain ⟨horder, htell⟩ := channel_delivers hirq hrun
  exact ⟨horder, htell, hseen⟩

/-- The interrupt fails: the call reports it, and the peer sees the message all the same. -/
theorem failed_send_seen : ∃ s, run channelStep (newChannel .nvcpuX86_64 (fun _ => true) 0 emptyFrames)
        (sendAndTake (-eINVAL)) = some s ∧ s.sendPc = .free ∧
      s.calls = [⟨registerMsg, -eINVAL⟩] ∧ s.seen = [registerMsg] ∧ ¬ CallsTell s := by
  refine exists_of_map (fun s => (s.sendPc, s.calls, s.published, s.seen))
    (.free, [⟨registerMsg, -eINVAL⟩], [registerMsg], [registerMsg]) (by decide) fun s hrun heq => ?_
  simp only [Prod.mk.injEq] at heq
  obtain ⟨hfree, hcalls, hpub, hseen⟩ := heq
  refine ⟨hfree, hcalls, hseen, ?_⟩
  intro htell
  have hno := htell hfree
  rw [hpub, hcalls] at hno
  exact absurd hno (by decide)

end

end NvidiaOot.Analysis
