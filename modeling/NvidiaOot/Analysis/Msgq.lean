import NvidiaOot.Library.WordRing
import NvidiaOot.Model.Msgq

/-!
# The message queue is a queue

The ring of words represents a list of messages.  Each call does to the ring what `fifoStep`
does to the list and returns the same; so the runs agree.
-/

namespace NvidiaOot.Analysis

open Library Program Model Function

variable {r total w : ℕ}

section

variable {n : ℕ} {x : ℤ} {p len : ℕ}

theorem toI32_of_lt (h0 : 0 ≤ x) (h : x < 2 ^ 31) : toI32 x = x := by
  exact Int.bmod_eq_of_le (by omega) (by omega)

theorem msgqWmemcpy_natCast (dst : Words) (d : ℕ) (src : Words) (s words : ℕ) :
    msgqWmemcpy dst d src s words = some (blit dst d words fun i => src (s + i)) := by
  rfl

theorem toRing_of_le (q src : Words) (h : len ≤ n - p) : toRing n q p len src = blit q p len src := by
  unfold toRing
  rw [Nat.min_eq_left h, Nat.sub_eq_zero_of_le h, blit_zero]

theorem fromRing_of_le (q dst : Words) (h : len ≤ n - p) :
    fromRing n q p len dst = blit dst 0 len fun i => q (p + i) := by
  unfold fromRing
  rw [Nat.min_eq_left h, Nat.sub_eq_zero_of_le h, blit_zero]

theorem toRing_of_ge (q src : Words) (h : n - p ≤ len) : toRing n q p len src =
      blit (blit q p (n - p) src) 0 (len - (n - p)) fun i => src (n - p + i) := by
  unfold toRing
  rw [Nat.min_eq_right h]

theorem fromRing_of_ge (q dst : Words) (h : n - p ≤ len) :
    fromRing n q p len dst = blit (blit dst 0 (n - p) fun i => q (p + i)) (n - p) (len - (n - p)) q := by
  unfold fromRing
  rw [Nat.min_eq_right h]

end

section

variable {n : ℕ} {msgq : Msgq} {messages rest : List (List U32)} {m : List U32} {message : Words}

structure Indices (n : ℕ) (msgq : Msgq) (r w total : ℕ) : Prop where
  size : msgq.size = n
  read : msgq.readIndex = r
  write : msgq.writeIndex = w
  read_lt : r < n
  write_lt : w < n
  apart : w = r + total ∧ r + total < n ∨ w + n = r + total
  room : total < n

theorem Indices.eq {r' w' : ℕ} (h : Indices n msgq r w total)
    (h' : Indices n msgq r' w' total) : r = r' ∧ w = w' := by
  have hread := h.read.symm.trans h'.read
  have hwrite := h.write.symm.trans h'.write
  omega

theorem indices_of_represents (h : Represents n msgq messages) : ∃ r w, Indices n msgq r w messages.flatten.length ∧
      ringSlice n msgq.queue r messages.flatten.length = messages.flatten ∧
      w = (r + messages.flatten.length) % n := by
  obtain ⟨hr0, hrn⟩ := h.readIndex
  have hr : msgq.readIndex = msgq.readIndex.toNat := (Int.toNat_of_nonneg hr0).symm
  have hlt : msgq.readIndex.toNat < n := by omega
  refine ⟨_, _, ⟨h.size, hr, h.writeIndex, hlt, Nat.mod_lt _ (by omega), ?_, h.room⟩,
    h.contents, rfl⟩
  rcases ring_position hlt h.room with ⟨hmod, hend⟩ | ⟨hmod, hend⟩
  · exact Or.inl ⟨hmod, hend⟩
  · exact Or.inr (by omega)

theorem represents_of_indices (hsize : msgq.size = n) (hread : msgq.readIndex = r)
    (hr : r < n) (hwrite : msgq.writeIndex = w) (hw : w = (r + messages.flatten.length) % n)
    (hroom : messages.flatten.length < n)
    (hcontents : ringSlice n msgq.queue r messages.flatten.length = messages.flatten)
    (hsized : ∀ m ∈ messages, ∃ w payload, m = w :: payload ∧ w.toInt = payload.length) :
    Represents n msgq messages := by
  have htoNat : msgq.readIndex.toNat = r := by omega
  refine ⟨hsize, ⟨by omega, by omega⟩, ?_, hroom, ?_, hsized⟩
  · rw [hwrite, hw, htoNat]
  · rw [htoNat]
    exact hcontents

theorem length_wordsOf (message : Words) : (wordsOf message).length = 1 + (message 0).toInt.toNat := by
  simp [wordsOf]

theorem queue_room (hi : Indices n msgq r w total) : ∃ rem : ℕ, (if (r : ℤ) ≤ w then (n : ℤ) - w else r - w) = rem ∧
      (if (r : ℤ) ≤ w then (rem : ℤ) + r else rem) = (n - total : ℕ) ∧ rem ≤ n - w ∧
      (rem < n - total → rem = n - w) := by
  have hr := hi.read_lt
  have hroom := hi.room
  rcases hi.apart with ⟨heq, hlt⟩ | heq
  · refine ⟨n - w, ?_, ?_, le_rfl, fun _ => rfl⟩
    · omega
    · omega
  · refine ⟨r - w, ?_, ?_, by omega, fun hno => by omega⟩
    · omega
    · omega

/-- **Queueing a message**, with enough room or without. -/
theorem msgqQueueMessage_eq (hi : Indices n msgq r w total) (hn : n < 2 ^ 30)
    (h0 : 0 ≤ (message 0).toInt) (hmax : (message 0).toInt ≠ 2 ^ 31 - 1) : msgqQueueMessage msgq (some message) =
      if (wordsOf message).length < n - total then some (0, { msgq with
          queue := toRing n msgq.queue w (wordsOf message).length message
          writeIndex := ((w + (wordsOf message).length) % n : ℕ) })
      else some (-eNOSPC, msgq) := by
  obtain ⟨rem, hrem, hfree, hle, hend⟩ := queue_room hi
  have hlength := length_wordsOf message
  have hbound := BitVec.toInt_lt (x := message 0)
  generalize (wordsOf message).length = len at *
  have hmsize : toI32 (1 + (message 0).toInt) = len := by
    rw [toI32_of_lt (by omega) (by omega)]
    omega
  unfold msgqQueueMessage
  dsimp only
  rw [hmsize, hi.read, hi.write, hi.size, hrem, hfree]
  by_cases hfits : len < n - total
  case neg => rw [if_neg hfits, if_pos (by omega)]
  case pos =>
    rw [if_pos hfits, if_neg (by omega)]
    by_cases hshort : len < rem
    case pos =>
      have hindex : toI32 (w + 1 + (message 0).toInt) = ((w + len) % n : ℕ) := by
        rw [toI32_of_lt (by omega) (by omega), Nat.mod_eq_of_lt (by omega)]
        omega
      have hcopy : msgqWmemcpy msgq.queue w message 0 len = some (blit msgq.queue w len message) := by
        have hcast := msgqWmemcpy_natCast msgq.queue w message 0 len
        simpa using hcast
      rw [if_pos (by omega), hindex, hcopy, toRing_of_le _ _ (by omega)]
      rfl
    case neg =>
      have hrest : rem = n - w := hend (by omega)
      subst hrest
      have hindex : toI32 (w + 1 + (message 0).toInt - n) = ((w + len) % n : ℕ) := by
        rw [toI32_of_lt (by omega) (by omega), Nat.mod_eq_sub_mod (by omega),
          Nat.mod_eq_of_lt (by omega)]
        omega
      have hfirst : msgqWmemcpy msgq.queue w message 0 (n - w : ℕ) =
          some (blit msgq.queue w (n - w) message) := by
        have hcast := msgqWmemcpy_natCast msgq.queue w message 0 (n - w)
        simpa using hcast
      have hmore : (len : ℤ) - (n - w : ℕ) = (len - (n - w) : ℕ) := by omega
      have hsecond : msgqWmemcpy (blit msgq.queue w (n - w) message) 0 message (n - w : ℕ)
          (len - (n - w) : ℕ) = some (toRing n msgq.queue w len message) := by
        rw [toRing_of_ge _ _ (by omega)]
        exact msgqWmemcpy_natCast _ 0 message (n - w) (len - (n - w))
      rw [if_neg (by omega), hindex, hmore, hfirst, Option.bind_eq_bind, Option.bind_some, hsecond]
      rfl

theorem wordsOf_sized (h0 : 0 ≤ (message 0).toInt) :
    ∃ w payload, wordsOf message = w :: payload ∧ w.toInt = payload.length := by
  refine ⟨message 0, (List.range (message 0).toInt.toNat).map fun i => message (1 + i), ?_, ?_⟩
  · unfold wordsOf
    rw [List.range_add, List.map_append, List.map_map]
    rfl
  · rw [List.length_map, List.length_range]
    omega

/-- **A message that was accepted** comes after those in the ring. -/
theorem represents_accept (h : Represents n msgq messages)
    (hi : Indices n msgq r w messages.flatten.length) (h0 : 0 ≤ (message 0).toInt)
    (hroom : (wordsOf message).length < n - messages.flatten.length) : Represents n { msgq with
      queue := toRing n msgq.queue w (wordsOf message).length message
      writeIndex := ((w + (wordsOf message).length) % n : ℕ) } (messages ++ [wordsOf message]) := by
  obtain ⟨r', w', hi', hcontents, hw⟩ := indices_of_represents h
  obtain ⟨rfl, rfl⟩ := hi.eq hi'
  have hlength : (messages ++ [wordsOf message]).flatten.length =
      messages.flatten.length + (wordsOf message).length := by
    simp
  have hwlt := hi.write_lt
  refine represents_of_indices hi.size hi.read hi.read_lt rfl ?_ ?_ ?_ ?_
  · rw [hlength, hw, Nat.mod_add_mod, Nat.add_assoc]
  · omega
  · rw [hlength, ringSlice_add, List.flatten_append, List.flatten_singleton]
    congr 1
    · -- the messages that were there start `n - total` words after the write index
      have hback : r = (w + (n - messages.flatten.length)) % n := by
        rcases hi.apart with ⟨heq, hlt⟩ | heq
        · rw [show w + (n - messages.flatten.length) = r + n by omega, Nat.add_mod_right,
            Nat.mod_eq_of_lt hi.read_lt]
        · rw [show w + (n - messages.flatten.length) = r by omega, Nat.mod_eq_of_lt hi.read_lt]
      conv_lhs => rw [hback]
      rw [ringSlice_mod, ringSlice_toRing_of_le hwlt hroom.le (by omega), ← ringSlice_mod, ← hback]
      exact hcontents
    · rw [← ringSlice_mod, ← hw, ringSlice_toRing hwlt (by omega), length_wordsOf]
      rfl
  · intro m hm
    rcases List.mem_append.mp hm with hm | hm
    · exact h.sized m hm
    · rw [List.mem_singleton.mp hm]
      exact wordsOf_sized h0

theorem head_of_represents (h : Represents n msgq (m :: rest))
    (hi : Indices n msgq r w (m :: rest).flatten.length) :
    (msgq.queue r).toInt + 1 = m.length ∧ msgq.queue r = m.headD 0 ∧ ringSlice n msgq.queue r m.length = m ∧
      ringSlice n msgq.queue (r + m.length) rest.flatten.length = rest.flatten := by
  obtain ⟨r', w', hi', hcontents, -⟩ := indices_of_represents h
  obtain ⟨rfl, rfl⟩ := hi.eq hi'
  obtain ⟨word, payload, hm, hsized⟩ := h.sized m List.mem_cons_self
  rw [List.flatten_cons, List.length_append, ringSlice_add] at hcontents
  obtain ⟨hfirst, hrest⟩ := List.append_inj hcontents length_ringSlice
  have hword : msgq.queue r = word := by
    have hat := congrArg (fun l => l[0]?) hfirst
    rw [getElem?_ringSlice (by rw [hm]; exact Nat.succ_pos _), hm, Nat.add_zero,
      Nat.mod_eq_of_lt hi.read_lt] at hat
    exact Option.some.inj hat
  refine ⟨?_, ?_, hfirst, hrest⟩
  · rw [hword, hsized, hm, List.length_cons]
    omega
  · rw [hword, hm]
    rfl

/-- **The ring without its first message.** -/
theorem represents_take (h : Represents n msgq (m :: rest)) (hi : Indices n msgq r w (m :: rest).flatten.length) :
    Represents n { msgq with readIndex := ((r + m.length) % n : ℕ) } rest := by
  obtain ⟨r', w', hi', -, hw⟩ := indices_of_represents h
  obtain ⟨rfl, rfl⟩ := hi.eq hi'
  obtain ⟨-, -, -, hrest⟩ := head_of_represents h hi
  have hroom := hi.room
  have hlength : (m :: rest).flatten.length = m.length + rest.flatten.length := by simp
  refine represents_of_indices hi.size rfl (Nat.mod_lt _ (by omega)) hi'.write ?_ (by omega) ?_ ?_
  · rw [hw, hlength, Nat.mod_add_mod, Nat.add_assoc]
  · rw [ringSlice_mod]
    exact hrest
  · intro m' hm'
    exact h.sized m' (List.mem_cons_of_mem m hm')

theorem fromRing_eq_overwrite (hr : r < n) (hlen : m.length ≤ n)
    (hm : ringSlice n msgq.queue r m.length = m) (buffer : Words) :
    fromRing n msgq.queue r m.length buffer = overwrite buffer m := by
  funext i
  rw [fromRing_apply hr hlen]
  unfold overwrite
  by_cases hi : i < m.length
  · have hat : m[i]? = some (msgq.queue ((r + i) % n)) := by
      rw [← getElem?_ringSlice hi, hm]
    rw [if_pos hi, hat]
    rfl
  · rw [if_neg hi, List.getElem?_eq_none (by omega)]
    rfl

/-- **Dequeueing or discarding a message** of a queue that has one. -/
theorem msgqDequeueMessage_eq (hi : Indices n msgq r w total) (hn : n < 2 ^ 30)
    (hm : ringSlice n msgq.queue r m.length = m) (hsize : (msgq.queue r).toInt + 1 = m.length)
    (hhead : msgq.queue r = m.headD 0) (hlen : m.length ≤ total) (hpos : 0 < m.length) (buffer : Option Words) :
    msgqDequeueMessage msgq buffer = match buffer with
      | none => some (0, { msgq with readIndex := ((r + m.length) % n : ℕ) }, none)
      | some b =>
        if (b 0).toInt + 1 < m.length then
          some (-eNOSPC, msgq, some (update b 0 (m.headD 0)))
        else
          some (0, { msgq with readIndex := ((r + m.length) % n : ℕ) }, some (overwrite b m)) := by
  have hr := hi.read_lt
  have hroom := hi.room
  have hne : (r : ℤ) ≠ w := by
    rcases hi.apart with ⟨heq, -⟩ | heq <;> omega
  have hmsize : toI32 (1 + (msgq.queue r).toInt) = m.length := by
    rw [toI32_of_lt (by omega) (by omega)]
    omega
  unfold msgqDequeueMessage
  dsimp only
  rw [hi.read, hi.write, if_neg hne, Int.toNat_natCast, hmsize]
  cases buffer with
  | none =>
    rw [hi.size, toI32_of_lt (by omega) (by omega)]
    have hindex : (if (r : ℤ) + 1 + (msgq.queue r).toInt < n then (r : ℤ) + 1 + (msgq.queue r).toInt
        else (r : ℤ) + 1 + (msgq.queue r).toInt - n) = ((r + m.length) % n : ℕ) := by
      by_cases hend : r + m.length < n
      · rw [if_pos (by omega), Nat.mod_eq_of_lt hend]
        omega
      · rw [if_neg (by omega), Nat.mod_eq_sub_mod (by omega), Nat.mod_eq_of_lt (by omega)]
        omega
    rw [hindex]
  | some b =>
    dsimp only
    by_cases hsmall : (b 0).toInt + 1 < m.length
    case pos => rw [if_pos (by omega), if_pos hsmall, hhead]
    case neg =>
      rw [if_neg (by omega), if_neg hsmall, hi.size, ← fromRing_eq_overwrite hr (by omega) hm]
      by_cases hshort : r + m.length < n
      case pos =>
        have hindex : toI32 (r + 1 + (msgq.queue r).toInt) = ((r + m.length) % n : ℕ) := by
          rw [toI32_of_lt (by omega) (by omega), Nat.mod_eq_of_lt hshort]
          omega
        have hcopy : msgqWmemcpy b 0 msgq.queue r m.length =
            some (fromRing n msgq.queue r m.length b) := by
          rw [fromRing_of_le _ _ (by omega)]
          exact msgqWmemcpy_natCast b 0 msgq.queue r m.length
        rw [if_pos (by omega), hindex, hcopy]
        rfl
      case neg =>
        have hindex : toI32 (r + 1 + (msgq.queue r).toInt - n) = ((r + m.length) % n : ℕ) := by
          rw [toI32_of_lt (by omega) (by omega), Nat.mod_eq_sub_mod (by omega),
            Nat.mod_eq_of_lt (by omega)]
          omega
        have hrem : (n : ℤ) - r = (n - r : ℕ) := by omega
        have hmore : (m.length : ℤ) - (n - r : ℕ) = (m.length - (n - r) : ℕ) := by omega
        have hfirst : msgqWmemcpy b 0 msgq.queue r (n - r : ℕ) =
            some (blit b 0 (n - r) fun i => msgq.queue (r + i)) :=
          msgqWmemcpy_natCast b 0 msgq.queue r (n - r)
        have hsecond : msgqWmemcpy (blit b 0 (n - r) fun i => msgq.queue (r + i)) (n - r : ℕ)
            msgq.queue 0 (m.length - (n - r) : ℕ) = some (fromRing n msgq.queue r m.length b) := by
          rw [fromRing_of_ge _ _ (by omega)]
          have hcast := msgqWmemcpy_natCast (blit b 0 (n - r) fun i => msgq.queue (r + i)) (n - r)
            msgq.queue 0 (m.length - (n - r))
          simpa using hcast
        rw [if_neg (by omega), hindex, hrem, hmore, hfirst, Option.bind_eq_bind, Option.bind_some,
          hsecond]
        rfl

end

section

variable {n : ℕ} {s s' : MsgqRun} {f : Fifo} {op : MsgqOp}

/-- The ring and the list agree, also in what they have returned. -/
structure Agree (n : ℕ) (s : MsgqRun) (f : Fifo) : Prop where
  represents : Represents n s.msgq f.queue
  outcomes : s.outcomes = f.outcomes
  ledger : f.accepted = f.taken ++ f.queue

theorem agree_reject (h : Agree n s f) (code : ℤ) (buffer : Option Words) :
    Agree n ⟨s.msgq, s.outcomes ++ [⟨code, buffer⟩]⟩ (f.reject code buffer) :=
  ⟨h.represents, congrArg (· ++ _) h.outcomes, h.ledger⟩

/-- **One call** on both sides. -/
theorem agree_step (h : Agree n s f) (hn : n < 2 ^ 30) (hop : PayloadFits op) :
    ∃ s', msgqRunStep s op = some s' ∧ Agree n s' (fifoStep n f op) := by
  obtain ⟨r, w, hi, hcontents, hw⟩ := indices_of_represents h.represents
  cases op with
  | queue message =>
    cases message with
    | none => exact ⟨_, rfl, agree_reject h _ _⟩
    | some message =>
      have hrun := msgqQueueMessage_eq hi hn hop.1 hop.2
      unfold msgqRunStep msgqStep
      dsimp only
      rw [hrun]
      unfold fifoStep Fifo.words
      dsimp only
      split
      case isTrue hroom =>
        refine ⟨_, rfl, represents_accept h.represents hi hop.1 hroom,
          congrArg (· ++ _) h.outcomes, ?_⟩
        unfold Fifo.accept
        rw [h.ledger, List.append_assoc]
      case isFalse => exact ⟨_, rfl, agree_reject h _ _⟩
  | dequeue buffer =>
    unfold msgqRunStep msgqStep fifoStep
    dsimp only
    have hrep := h.represents
    cases hqueue : f.queue with
    | nil =>
      rw [hqueue] at hi
      have hempty : s.msgq.readIndex = s.msgq.writeIndex := by
        have hr := hi.read
        have hwr := hi.write
        rcases hi.apart with ⟨heq, -⟩ | heq
        · rw [hr, hwr, heq]
          rfl
        · have hrl := hi.read_lt
          have hzero : ([] : List (List U32)).flatten.length = 0 := rfl
          omega
      have hrun : msgqDequeueMessage s.msgq buffer =
          some (-eNOMSG, s.msgq, buffer.map fun b => update b 0 0) := by
        unfold msgqDequeueMessage
        rw [if_pos hempty]
      rw [hrun]
      exact ⟨_, rfl, agree_reject h _ _⟩
    | cons m rest =>
      rw [hqueue] at hi hrep
      obtain ⟨hsize, hhead, hm, -⟩ := head_of_represents hrep hi
      have hlen : m.length ≤ (m :: rest).flatten.length := by simp
      have hpos : 0 < m.length := by
        obtain ⟨word, payload, rfl, -⟩ := hrep.sized m List.mem_cons_self
        exact Nat.succ_pos _
      have htake (buffer : Option Words) : Agree n
          ⟨{ s.msgq with readIndex := ((r + m.length) % n : ℕ) }, s.outcomes ++ [⟨0, buffer⟩]⟩
          (f.take m rest buffer) := by
        refine ⟨represents_take hrep hi, congrArg (· ++ _) h.outcomes, ?_⟩
        unfold Fifo.take
        rw [h.ledger, hqueue, List.append_assoc]
        rfl
      rw [msgqDequeueMessage_eq hi hn hm hsize hhead hlen hpos buffer]
      cases buffer with
      | none => exact ⟨_, rfl, htake none⟩
      | some b =>
        dsimp only
        split
        case isTrue => exact ⟨_, rfl, agree_reject h _ _⟩
        case isFalse => exact ⟨_, rfl, htake _⟩

theorem agree_init (msgq : Msgq) (hn : 0 < n) (hmax : (n : ℤ) ≤ msgqMaxQueueWsize) :
    Agree n (newMsgq msgq n) emptyFifo := by
  unfold msgqMaxQueueWsize at hmax
  have hsize : (msgqInit msgq n).size = n := by
    unfold msgqInit msgqMaxQueueWsize
    exact if_neg (by omega)
  have hread : (newMsgq msgq n).msgq.readIndex < n := by
    change (0 : ℤ) < n
    omega
  refine ⟨⟨hsize, ⟨le_rfl, hread⟩, ?_, hn, rfl, fun m hm => absurd hm List.not_mem_nil⟩, rfl, rfl⟩
  exact congrArg Nat.cast (Nat.zero_mod n).symm

theorem agree_run {ops : List MsgqOp} (h : Agree n s f) (hn : n < 2 ^ 30) (hops : ∀ op ∈ ops, PayloadFits op) :
    ∃ s', run msgqRunStep s ops = some s' ∧ Agree n s' (ops.foldl (fifoStep n) f) := by
  induction ops generalizing s f with
  | nil => exact ⟨s, rfl, h⟩
  | cons op ops ih =>
    obtain ⟨hop, hrest⟩ := List.forall_mem_cons.mp hops
    obtain ⟨s1, hstep, hagree⟩ := agree_step h hn hop
    obtain ⟨s', hrun, hend⟩ := ih hagree hrest
    exact ⟨s', run_cons_eq_some.mpr ⟨s1, hstep, hrun⟩, hend⟩

theorem msgqStep_error {msgq msgq' : Msgq} {outcome : Outcome}
    (h : msgqStep msgq op = some (outcome, msgq')) (hcode : outcome.code ≠ 0) : msgq' = msgq := by
  cases op with
  | queue message =>
    obtain ⟨⟨code, after⟩, hcall, heq⟩ := Option.map_eq_some_iff.mp h
    cases heq
    cases message with
    | none =>
      exact (Prod.mk.inj (Option.some.inj hcall)).2.symm
    | some message =>
      unfold msgqQueueMessage at hcall
      dsimp only at hcall
      generalize (if msgq.readIndex ≤ msgq.writeIndex then msgq.size - msgq.writeIndex
        else msgq.readIndex - msgq.writeIndex) = qremainder at hcall
      generalize (if msgq.readIndex ≤ msgq.writeIndex then qremainder + msgq.readIndex
        else qremainder) = qsize at hcall
      split at hcall
      case isTrue => exact (Prod.mk.inj (Option.some.inj hcall)).2.symm
      case isFalse =>
        -- the other branches return 0
        exfalso
        apply hcode
        split at hcall
        all_goals simp only [Option.bind_eq_bind, Option.bind_eq_some_iff, Option.some.injEq,
          Prod.mk.injEq] at hcall
        · obtain ⟨_, _, hzero, _⟩ := hcall
          exact hzero.symm
        · obtain ⟨_, _, _, _, hzero, _⟩ := hcall
          exact hzero.symm
  | dequeue buffer =>
    obtain ⟨⟨code, after, buffer'⟩, hcall, heq⟩ := Option.map_eq_some_iff.mp h
    cases heq
    unfold msgqDequeueMessage at hcall
    dsimp only at hcall
    split at hcall
    case isTrue => exact (Prod.mk.inj (Prod.mk.inj (Option.some.inj hcall)).2).1.symm
    case isFalse =>
      cases buffer with
      | none => exact absurd (Prod.mk.inj (Option.some.inj hcall)).1.symm hcode
      | some b =>
        dsimp only at hcall
        split at hcall
        case isTrue => exact (Prod.mk.inj (Prod.mk.inj (Option.some.inj hcall)).2).1.symm
        case isFalse =>
          exfalso
          apply hcode
          split at hcall
          all_goals simp only [Option.bind_eq_bind, Option.bind_eq_some_iff, Option.some.injEq,
            Prod.mk.injEq] at hcall
          · obtain ⟨_, _, hzero, _⟩ := hcall
            exact hzero.symm
          · obtain ⟨_, _, _, _, hzero, _⟩ := hcall
            exact hzero.symm

/-- A message whose payload is as long as an `int32_t` can say is not refused: its number of
words is then negative. -/
theorem longest_message_faults {msgq : Msgq} {messages : List (List U32)} {message : Words}
    (h : Represents n msgq messages) (hmax : (message 0).toInt = 2 ^ 31 - 1) :
    msgqQueueMessage msgq (some message) = none := by
  obtain ⟨r, w, hi, -, -⟩ := indices_of_represents h
  obtain ⟨rem, hrem, hfree, -, -⟩ := queue_room hi
  have hmsize : toI32 (1 + (message 0).toInt) = -2 ^ 31 := by
    rw [hmax]
    decide
  unfold msgqQueueMessage
  dsimp only
  rw [hmsize, hi.read, hi.write, hi.size, hrem, hfree, if_neg (by omega), if_pos (by omega)]
  rfl

/--
**The message queue is a queue.**  For each size and each list of calls, no call faults, and
each returns what it returns for a list of messages: a message goes in if and only if its words
are fewer than the free ones, and the messages that were taken or discarded are the first of
those that went in.  The ring holds the others, its indices are within its size, and a call
that fails leaves it as it is.  The exception is a message whose payload has `2 ^ 31 - 1` words:
wherever a run has got to, queueing it faults.
-/
theorem msgq_is_fifo (msgq : Msgq) {n : ℕ} (hn : 1 ≤ n) (hmax : (n : ℤ) ≤ msgqMaxQueueWsize)
    {ops : List MsgqOp} (hops : ∀ op ∈ ops, PayloadFits op) : ∃ s, run msgqRunStep (newMsgq msgq n) ops = some s ∧
      let f := ops.foldl (fifoStep n) emptyFifo
      s.outcomes = f.outcomes ∧ f.accepted = f.taken ++ f.queue ∧
      Represents n s.msgq f.queue ∧
      (0 ≤ s.msgq.readIndex ∧ s.msgq.readIndex < n) ∧
      (0 ≤ s.msgq.writeIndex ∧ s.msgq.writeIndex < n) ∧
      (∀ op outcome msgq', msgqStep s.msgq op = some (outcome, msgq') → outcome.code ≠ 0 → msgq' = s.msgq) ∧
      ∀ message : Words, (message 0).toInt = 2 ^ 31 - 1 →
        msgqQueueMessage s.msgq (some message) = none := by
  have hsmall : n < 2 ^ 30 := by
    unfold msgqMaxQueueWsize at hmax
    omega
  obtain ⟨s, hrun, hagree⟩ := agree_run (agree_init msgq hn hmax) hsmall hops
  obtain ⟨r, w, hi, -, -⟩ := indices_of_represents hagree.represents
  have hwrite := hi.write
  have hlt := hi.write_lt
  refine ⟨s, hrun, hagree.outcomes, hagree.ledger, hagree.represents, hagree.represents.readIndex,
    ⟨by omega, by omega⟩, ?_, ?_⟩
  · intro op outcome msgq' hstep hcode
    exact msgqStep_error hstep hcode
  · intro message hlong
    exact longest_message_faults hagree.represents hlong

end

def shortMessage (word : U32) : Words := fun i => if i = 0 then 1 else word

/-- The second message goes over the end of a ring of three words. -/
def wrappedCalls : List MsgqOp :=
  [.queue (some (shortMessage 5)), .dequeue none, .queue (some (shortMessage 7)), .dequeue (some (shortMessage 0))]

theorem wrapped_message_returned : ∃ s, run msgqRunStep (newMsgq ⟨0, 0, 0, fun _ => 0⟩ 3) wrappedCalls = some s ∧
      s.outcomes.map Outcome.code = [0, 0, 0, 0] ∧ (∃ b, s.outcomes[3]? = some ⟨0, some b⟩ ∧ b 0 = 1 ∧ b 1 = 7) ∧
      0 ≤ s.msgq.readIndex ∧ s.msgq.readIndex < 3 := by
  have hops : ∀ op ∈ wrappedCalls, PayloadFits op := by
    unfold wrappedCalls PayloadFits
    simp [shortMessage]
  obtain ⟨s, hrun, houtcomes, -, -, hread, -⟩ := msgq_is_fifo ⟨0, 0, 0, fun _ => 0⟩ (show 1 ≤ 3 by decide)
    (by decide) hops
  refine ⟨s, hrun, ?_, ?_, hread⟩
  · rw [houtcomes]
    rfl
  · rw [houtcomes]
    exact ⟨_, rfl, rfl, rfl⟩

/-- A message whose size is the largest `int32_t` is copied and not refused. -/
theorem longest_message_not_refused : (run msgqRunStep (newMsgq ⟨0, 0, 0, fun _ => 0⟩ 16)
        [.queue (some fun _ => 0x7FFFFFFF)]).isNone = true ∧ 0 ≤ (0x7FFFFFFF : U32).toInt ∧
      fifoStep 16 emptyFifo (.queue (some fun _ => 0x7FFFFFFF)) = emptyFifo.reject (-eNOSPC) none := by
  have hlong : ¬ (wordsOf fun _ => (0x7FFFFFFF : U32)).length < 16 - emptyFifo.words := by
    rw [length_wordsOf]
    decide
  refine ⟨by decide, by decide, ?_⟩
  unfold fifoStep
  dsimp only
  rw [if_neg hlong]

end NvidiaOot.Analysis
