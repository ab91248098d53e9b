import NvidiaOot.Library.BitFields
import NvidiaOot.Model.HspMailbox

/-!
# Each request gets its own answer

When the echo of a `HELLO` arrives that nothing on its way could be mistaken for, everything that was
sent before has been answered and has arrived.  From then on the only response on its way is the one
to the request that the driver waits for, until a request times out.
-/

namespace NvidiaOot.Analysis

open Library Program Model

variable {s s' : HspRun} {hello m : HspMessage} {id param word : U32} {err : Option ℤ}

/-! ## Words -/

theorem toNat_msg (hid : id.toNat < 2 ^ 7) (param : U32) :
    (camrtcHspMsg id param).toNat = (param &&& 0xffffff).toNat ||| id.toNat <<< 24 := by
  unfold camrtcHspMsg
  have hshift : id.toNat <<< 24 < 2 ^ 32 := by
    omega
  rw [BitVec.toNat_or, BitVec.toNat_shiftLeft, Nat.mod_eq_of_lt hshift, Nat.or_comm]

theorem toNat_param_lt (param : U32) : (param &&& 0xffffff).toNat < 2 ^ 24 := by
  rw [toNat_and_low (k := 24) param (by decide)]
  exact Nat.mod_lt _ (by decide)

theorem msgId_lt (word : U32) : (camrtcHspMsgId word).toNat < 2 ^ 7 := by
  unfold camrtcHspMsgId
  rw [toNat_and_low (k := 7) _ (by decide)]
  exact Nat.mod_lt _ (by decide)

theorem msgId_msg (hid : id.toNat < 2 ^ 7) (param : U32) : camrtcHspMsgId (camrtcHspMsg id param) = id := by
  apply BitVec.eq_of_toNat_eq
  unfold camrtcHspMsgId
  rw [toNat_and_low (k := 7) _ (by decide), BitVec.toNat_ushiftRight, toNat_msg hid,
    or_shiftLeft_shiftRight (toNat_param_lt param), Nat.mod_eq_of_lt hid]

theorem recvCondition_msg (hid : id.toNat < 2 ^ 7) (param : U32) :
    camrtcHspRecvCondition (camrtcHspMsg id param) = true := by
  have hlow := toNat_param_lt param
  have hshift : id.toNat <<< 24 < 2 ^ 31 := by
    omega
  have hlt : (camrtcHspMsg id param).toNat < 2 ^ 31 := by
    rw [toNat_msg hid]
    exact Nat.or_lt_two_pow (hlow.trans (by decide)) hshift
  unfold camrtcHspRecvCondition
  rw [decide_eq_true_iff, BitVec.toInt_eq_toNat_of_lt (by omega)]
  exact Int.natCast_nonneg _

theorem msgId_answer (word param : U32) : camrtcHspMsgId (firmwareAnswer word param) = camrtcHspMsgId word := by
  unfold firmwareAnswer
  split
  · rfl
  · exact msgId_msg (msgId_lt word) param

theorem isHspResponse_congr {word' : U32} (h : camrtcHspMsgId word = camrtcHspMsgId word') :
    isHspResponse word = isHspResponse word' := by
  unfold isHspResponse camrtcHspRxFullNotify
  rw [h]
  split
  · rfl
  · split
    · rfl
    · rfl

theorem isHspResponse_irq (param : U32) : isHspResponse (camrtcHspMsg CAMRTC_HSP_IRQ param) = false := by
  have hid := @msgId_msg CAMRTC_HSP_IRQ (by decide) param
  unfold isHspResponse camrtcHspRxFullNotify
  rw [hid]
  rfl

theorem msgId_request (cookie : U32) (request : HspRequest) :
    ∃ id param, request.word cookie = camrtcHspMsg id param ∧ id.toNat < 2 ^ 7 ∧
      CAMRTC_HSP_HELLO.toNat < id.toNat := by
  cases request with
  | protocol | resume | suspend | bye | chSetup iova | ping data | fwHash index => exact ⟨_, _, rfl, by decide, by decide⟩

/-- A request other than `HELLO` is answered, and neither it nor the answer is negative. -/
structure GoodRequest (word : U32) : Prop where
  response : isHspResponse word = true
  taken : camrtcHspRecvCondition word = true
  notHello : camrtcHspMsgId word ≠ CAMRTC_HSP_HELLO

theorem goodRequest_word (cookie : U32) (request : HspRequest) : GoodRequest (request.word cookie) := by
  obtain ⟨id, param, heq, hid, hlt⟩ := msgId_request cookie request
  have hread := msgId_msg hid param
  have hne : id ≠ CAMRTC_HSP_HELLO := by
    rintro rfl
    omega
  rw [heq]
  constructor
  · unfold isHspResponse camrtcHspRxFullNotify
    rw [hread, if_neg, if_neg]
    · simp
    · rw [BitVec.lt_def]
      omega
    · rintro rfl
      exact absurd hlt (by decide)
  · apply recvCondition_msg hid
  · rw [hread]
    exact hne

theorem GoodRequest.answer (h : GoodRequest word) (param : U32) : GoodRequest (firmwareAnswer word param) := by
  constructor
  · rw [isHspResponse_congr (msgId_answer word param)]
    apply h.response
  · unfold firmwareAnswer
    rw [if_neg h.notHello]
    exact recvCondition_msg (msgId_lt word) param
  · rw [msgId_answer]
    apply h.notHello

theorem hello_word (schedClock : U64) : isHspResponse (camrtcHspVmHello schedClock) = true ∧
      camrtcHspRecvCondition (camrtcHspVmHello schedClock) = true ∧
      camrtcHspMsgId (camrtcHspVmHello schedClock) = CAMRTC_HSP_HELLO := by
  have hread := @msgId_msg CAMRTC_HSP_HELLO (by decide) (camrtcHspVmCookie schedClock)
  refine ⟨?_, recvCondition_msg (by decide) _, hread⟩
  unfold isHspResponse camrtcHspRxFullNotify camrtcHspVmHello
  rw [hread]
  rfl

/-! ## What is on its way -/

/-- The slot, then what is on its way to the driver, then what is on its way to the firmware: the
order in which the driver sees it or its answer. -/
def hspPipe (s : HspRun) : List HspMessage :=
  s.slot.toList ++ (s.rx ++ s.tx).filter fun m => isHspResponse m.word

/-- The `HELLO` comes last, and nothing before it has its word. -/
structure AwaitsHello (s : HspRun) (hello : HspMessage) : Prop where
  response : isHspResponse hello.word = true
  taken : camrtcHspRecvCondition hello.word = true
  isHello : camrtcHspMsgId hello.word = CAMRTC_HSP_HELLO
  last : ∃ stale, hspPipe s = stale ++ [hello] ∧ ∀ m ∈ stale, m.word ≠ hello.word

/-- The request, or the answer to it, is all there is. -/
def AwaitsAnswer (s : HspRun) (request : HspMessage) : Prop :=
  ∃ m, hspPipe s = [m] ∧ m.tag = request.tag ∧ camrtcHspMsgId m.word = camrtcHspMsgId request.word ∧
    GoodRequest m.word ∧ (m ∈ s.tx ∨ s.answers request.tag = some m.word)

/-- What the phase of the driver says about what is on its way. -/
def HspExpects (s : HspRun) : Prop :=
  match s.phase with
  | .idle | .helloDone => s.synced = true → hspPipe s = []
  | .hello m good => good = true → AwaitsHello s m
  | .request m => s.synced = true → AwaitsAnswer s m

theorem pipe_deliver {rx : List HspMessage} (hrx : s.rx = m :: rx) (h : hspStep s .deliver = some s') :
    hspPipe s = hspPipe s' ∨ ∃ old, hspPipe s = old :: hspPipe s' ∧ hspPipe s' ≠ [] := by
  simp only [hspStep, hrx, Option.some.injEq] at h
  subst h
  unfold hspPipe
  rw [hrx]
  cases hm : isHspResponse m.word with
  | false => simp [hm]
  | true =>
    cases hslot : s.slot with
    | none => simp [hm]
    | some old =>
      right
      exact ⟨old, by simp [hm], by simp⟩

theorem pipe_answer {tx : List HspMessage} (htx : s.tx = m :: tx) (hm : isHspResponse m.word = true)
    (h : hspStep s (.answer param) = some s') : ∃ before after, hspPipe s = before ++ m :: after ∧
      hspPipe s' = before ++ ⟨m.tag, firmwareAnswer m.word param⟩ :: after := by
  simp only [hspStep, htx, hm, if_true, Option.some.injEq] at h
  subst h
  refine ⟨s.slot.toList ++ s.rx.filter fun m => isHspResponse m.word,
    tx.filter fun m => isHspResponse m.word, ?_, ?_⟩
  · simp [hspPipe, htx, hm]
  · have hans : isHspResponse (firmwareAnswer m.word param) = true := by
      rw [isHspResponse_congr (msgId_answer m.word param)]
      exact hm
    simp [hspPipe, hans]

theorem split_last {before after stale : List HspMessage} {m last : HspMessage}
    (h : before ++ m :: after = stale ++ [last]) : after = [] ∧ before = stale ∧ m = last ∨
      ∃ rest, after = rest ++ [last] ∧ stale = before ++ m :: rest := by
  rcases List.eq_nil_or_concat after with rfl | ⟨rest, b, rfl⟩
  · left
    obtain ⟨hbefore, hlast⟩ := List.append_inj' h rfl
    exact ⟨rfl, hbefore, by simpa using hlast⟩
  right
  rw [List.concat_eq_append, ← List.cons_append, ← List.append_assoc] at h
  obtain ⟨hstale, hlast⟩ := List.append_inj' h rfl
  refine ⟨rest, ?_, hstale.symm⟩
  rw [List.concat_eq_append, hlast]

/-! ## Steps of the firmware and of the mailboxes -/

theorem AwaitsHello.tail {old : HspMessage} (h : AwaitsHello s hello)
    (hpipe : hspPipe s = old :: hspPipe s') (hne : hspPipe s' ≠ []) : AwaitsHello s' hello := by
  obtain ⟨stale, hstale, hwords⟩ := h.last
  rw [hpipe] at hstale
  refine ⟨h.response, h.taken, h.isHello, ?_⟩
  cases stale with
  | nil =>
    simp only [List.nil_append, List.cons.injEq] at hstale
    exact absurd hstale.2 hne
  | cons first rest =>
    simp only [List.cons_append, List.cons.injEq] at hstale
    exact ⟨rest, hstale.2, fun m hm => hwords m (List.mem_cons_of_mem _ hm)⟩

theorem AwaitsHello.congr (h : AwaitsHello s hello) (hpipe : hspPipe s = hspPipe s') : AwaitsHello s' hello :=
  ⟨h.response, h.taken, h.isHello, hpipe ▸ h.last⟩

/-- An answer is not the `HELLO` that the driver waits for, unless it answers that one. -/
theorem AwaitsHello.answer {before after : List HspMessage} (h : AwaitsHello s hello) (hpipe : hspPipe s = before ++ m :: after)
    (hpipe' : hspPipe s' = before ++ ⟨m.tag, firmwareAnswer m.word param⟩ :: after) : AwaitsHello s' hello := by
  obtain ⟨stale, hstale, hwords⟩ := h.last
  refine ⟨h.response, h.taken, h.isHello, ?_⟩
  rw [hpipe] at hstale
  rcases split_last hstale with ⟨rfl, rfl, rfl⟩ | ⟨rest, rfl, rfl⟩
  · refine ⟨before, ?_, hwords⟩
    rw [hpipe', firmwareAnswer, if_pos h.isHello]
  refine ⟨before ++ ⟨m.tag, firmwareAnswer m.word param⟩ :: rest, ?_, ?_⟩
  · simp [hpipe']
  · intro x hx
    have hmid : firmwareAnswer m.word param ≠ hello.word := by
      intro heq
      have hid : camrtcHspMsgId m.word = CAMRTC_HSP_HELLO := by
        rw [← msgId_answer m.word param, heq, h.isHello]
      rw [firmwareAnswer, if_pos hid] at heq
      exact hwords m (by simp) heq
    rcases List.mem_append.mp hx with hx | hx
    · exact hwords x (by simp [hx])
    · rcases List.mem_cons.mp hx with rfl | hx
      · exact hmid
      · exact hwords x (by simp [hx])

section

variable (h : HspExpects s)

include h

theorem HspExpects.of_pipe (hphase : s'.phase = s.phase)
    (hsynced : s'.synced = s.synced) (hpipe : hspPipe s' = hspPipe s) (hanswers : s'.answers = s.answers)
    (htx : ∀ m ∈ s.tx, isHspResponse m.word = true → m ∈ s'.tx) : HspExpects s' := by
  unfold HspExpects at h ⊢
  rw [hphase]
  cases hp : s.phase with
  | idle | helloDone => simpa only [hp, hpipe, hsynced] using h
  | hello hello good =>
    simp only [hp] at h ⊢
    exact fun hgood => (h hgood).congr hpipe.symm
  | request request =>
    simp only [hp, hsynced] at h ⊢
    intro hs
    obtain ⟨x, hx, htag, hid, hgood, hwhere⟩ := h hs
    refine ⟨x, by rw [hpipe, hx], htag, hid, hgood, ?_⟩
    rcases hwhere with hwhere | hwhere
    · exact Or.inl (htx x hwhere hgood.response)
    · exact Or.inr (by rw [hanswers, hwhere])

theorem expects_deliver (hstep : hspStep s .deliver = some s') : HspExpects s' := by
  cases hrx : s.rx with
  | nil => simp [hspStep, hrx] at hstep
  | cons m rx =>
    have hpipe := pipe_deliver hrx hstep
    simp only [hspStep, hrx, Option.some.injEq] at hstep
    have hphase : s'.phase = s.phase := by rw [← hstep]
    have hsynced : s'.synced = s.synced := by rw [← hstep]
    have htx : s'.tx = s.tx := by rw [← hstep]
    have hanswers : s'.answers = s.answers := by rw [← hstep]
    have hquiet : hspPipe s = [] → hspPipe s' = [] := by
      intro hnil
      rcases hpipe with heq | ⟨old, heq, -⟩
      · rw [← heq, hnil]
      · simp [hnil] at heq
    unfold HspExpects at h ⊢
    rw [hphase]
    cases hp : s.phase with
    | idle | helloDone =>
      simp only [hp, hsynced] at h ⊢
      exact fun hs => hquiet (h hs)
    | hello hello good =>
      simp only [hp] at h ⊢
      intro hgood
      rcases hpipe with heq | ⟨old, heq, hne⟩
      · exact (h hgood).congr heq
      · exact (h hgood).tail heq hne
    | request request =>
      simp only [hp, hsynced] at h ⊢
      intro hs
      obtain ⟨x, hx, hrest⟩ := h hs
      refine ⟨x, ?_, by rwa [htx, hanswers]⟩
      rcases hpipe with heq | ⟨old, heq, hne⟩
      · rw [← heq, hx]
      · rw [hx] at heq
        simp only [List.cons.injEq] at heq
        exact absurd heq.2.symm hne

theorem expects_answer (hstep : hspStep s (.answer param) = some s') : HspExpects s' := by
  cases htx : s.tx with
  | nil => simp [hspStep, htx] at hstep
  | cons m tx =>
    cases hm : isHspResponse m.word with
    | false =>
      simp only [hspStep, htx, hm, Bool.false_eq_true, if_false, Option.some.injEq] at hstep
      subst hstep
      refine h.of_pipe rfl rfl ?_ rfl ?_
      · simp [hspPipe, htx, hm]
      · intro x hx hresp
        rw [htx] at hx
        rcases List.mem_cons.mp hx with rfl | hx
        · simp [hm] at hresp
        · exact hx
    | true =>
      obtain ⟨before, after, hpipe, hpipe'⟩ := pipe_answer htx hm hstep
      simp only [hspStep, htx, hm, if_true, Option.some.injEq] at hstep
      have hphase : s'.phase = s.phase := by rw [← hstep]
      have hsynced : s'.synced = s.synced := by rw [← hstep]
      have hanswers : s'.answers m.tag = some (firmwareAnswer m.word param) := by simp [← hstep]
      unfold HspExpects at h ⊢
      rw [hphase]
      cases hp : s.phase with
      | idle | helloDone =>
        simp only [hp, hsynced] at h ⊢
        intro hs
        simp [h hs] at hpipe
      | hello hello good =>
        simp only [hp] at h ⊢
        exact fun hgood => (h hgood).answer hpipe hpipe'
      | request request =>
        simp only [hp, hsynced] at h ⊢
        intro hs
        obtain ⟨x, hx, htag, hid, hgood, -⟩ := h hs
        rw [hx] at hpipe
        obtain ⟨rfl, rfl, rfl⟩ | ⟨rest, -, hnil⟩ := @split_last before after [] m x hpipe.symm
        · refine ⟨⟨m.tag, firmwareAnswer m.word param⟩, hpipe', htag, ?_, ?_, ?_⟩
          · rw [msgId_answer, hid]
          · exact hgood.answer param
          · rw [← htag]
            exact Or.inr hanswers
        · simp at hnil

theorem expects_irqToDriver
    (hstep : hspStep s (.irqToDriver param) = some s') : HspExpects s' := by
  cases hstep
  refine h.of_pipe rfl rfl ?_ rfl (fun _ hm _ => hm)
  simp [hspPipe, isHspResponse_irq]

theorem expects_irqToFirmware (hstep : hspStep s .irqToFirmware = some s') : HspExpects s' := by
  cases hstep
  refine h.of_pipe rfl rfl ?_ rfl ?_
  · simp [hspPipe, isHspResponse_irq]
  · exact fun m hm _ => List.mem_append_left _ hm

end

/-! ## Steps of the driver -/

theorem pipe_send (hword : isHspResponse word = true) (phase : HspMessage → HspPhase) :
    hspPipe (s.send word phase) = ((s.rx ++ s.tx).filter fun m => isHspResponse m.word) ++ [⟨s.next, word⟩] := by
  simp [hspPipe, HspRun.send, hword]

theorem filter_eq_nil_of_pipe (h : hspPipe s = []) :
    ((s.rx ++ s.tx).filter fun m => isHspResponse m.word) = [] := by
  exact (List.append_eq_nil_iff.mp h).2

theorem expects_sync {schedClock : U64} (h : HspExpects s)
    (hstep : hspStep s (.sync schedClock err) = some s') : HspExpects s' := by
  simp only [hspStep] at hstep
  split at hstep
  · rename_i hidle
    simp only [HspExpects, hidle] at h
    obtain ⟨hresp, htaken, hid⟩ := hello_word schedClock
    cases err with
    | some err =>
      cases hstep
      simp only [HspExpects, hidle]
      intro hs
      simpa [hspPipe] using filter_eq_nil_of_pipe (h hs)
    | none =>
      cases hstep
      intro hgood
      refine ⟨hresp, htaken, hid, _, pipe_send hresp fun m => .hello m
        (s.synced || (s.tx ++ s.rx).all fun m => m.word ≠ camrtcHspVmHello schedClock), ?_⟩
      intro m hm
      rcases Bool.or_eq_true_iff.mp hgood with hs | hall
      · simp [filter_eq_nil_of_pipe (h hs)] at hm
      · have hmem := List.mem_append.mp (List.mem_filter.mp hm).1
        simpa using List.all_eq_true.mp hall m (List.mem_append.mpr hmem.symm)
  · simp at hstep

theorem expects_startRequest {request : HspRequest}
    (h : s.synced = true → hspPipe s = []) : HspExpects (s.startRequest request err) := by
  cases err with
  | some err =>
    simp only [HspRun.startRequest, HspRun.finish, HspExpects]
    intro hs
    simpa [hspPipe] using filter_eq_nil_of_pipe (h hs)
  | none =>
    have hgood := goodRequest_word s.cookie request
    have hpipe := pipe_send (s := s) hgood.response .request
    simp only [HspRun.startRequest, HspRun.send, HspExpects] at hpipe ⊢
    intro hs
    refine ⟨⟨s.next, request.word s.cookie⟩, ?_, rfl, rfl, hgood, ?_⟩
    · rw [filter_eq_nil_of_pipe (h hs)] at hpipe
      simpa [hspPipe] using hpipe
    · left
      simp

theorem pipe_of_slot (hslot : s.slot = some m) : hspPipe s = m :: hspPipe { s with slot := none } := by
  simp [hspPipe, hslot]

theorem AwaitsHello.drop (h : AwaitsHello s hello) (hslot : s.slot = some m) (hne : m.word ≠ hello.word) :
    AwaitsHello { s with slot := none } hello := by
  have hpipe := pipe_of_slot hslot
  apply h.tail hpipe
  intro hnil
  obtain ⟨stale, hstale, -⟩ := h.last
  rw [hpipe, hnil] at hstale
  cases stale with
  | nil =>
    simp only [List.nil_append, List.cons.injEq, and_true] at hstale
    exact hne (congrArg HspMessage.word hstale)
  | cons first rest => simp at hstale

theorem AwaitsHello.echo (h : AwaitsHello s hello)
    (hslot : s.slot = some m) (heq : m.word = hello.word) : hspPipe { s with slot := none } = [] := by
  obtain ⟨stale, hstale, hwords⟩ := h.last
  rw [pipe_of_slot hslot] at hstale
  cases stale with
  | nil =>
    simp only [List.nil_append, List.cons.injEq] at hstale
    exact hstale.2
  | cons first rest =>
    simp only [List.cons_append, List.cons.injEq] at hstale
    exact absurd heq (hwords m (by simp [hstale.1]))

theorem AwaitsAnswer.slot {request : HspMessage} (h : AwaitsAnswer s request) (hslot : s.slot = some m) :
    hspPipe { s with slot := none } = [] ∧ s.answers request.tag = some m.word ∧
      camrtcHspMsgId m.word = camrtcHspMsgId request.word ∧
      camrtcHspRecvCondition m.word = true := by
  obtain ⟨x, hx, -, hid, hgood, hwhere⟩ := h
  rw [pipe_of_slot hslot] at hx
  simp only [List.cons.injEq] at hx
  obtain ⟨rfl, hnil⟩ := hx
  refine ⟨hnil, ?_, hid, hgood.taken⟩
  rcases hwhere with hmem | hanswer
  · have hin : m ∈ (s.rx ++ s.tx).filter fun m => isHspResponse m.word := by
      simp [hmem, hgood.response]
    simp only [hspPipe, Option.toList_none, List.nil_append] at hnil
    simp [hnil] at hin
  · exact hanswer

theorem paired_of_answer {request response : U32} {answer : Option U32} (hanswer : answer = some response)
    (hid : camrtcHspMsgId response = camrtcHspMsgId request) :
    (HspReturn.returned (camrtcHspVmSendrecvResult request response) answer).Paired := by
  right
  refine ⟨response, hanswer, ?_⟩
  rw [camrtcHspVmSendrecvResult, if_neg (not_not.mpr hid.symm)]

/-- What is on its way is what the driver expects, and what has returned was its own. -/
structure HspSettled (s : HspRun) : Prop where
  expects : HspExpects s
  paired : ∀ ret ∈ s.returns, ret.Paired

theorem paired_finish {ret : HspReturn} (hs : ∀ r ∈ s.returns, r.Paired)
    (hret : s.synced = true → ret.Paired) : ∀ r ∈ (s.finish ret).returns, r.Paired := by
  intro r hr
  simp only [HspRun.finish] at hr
  split at hr
  · rename_i hsynced
    rcases List.mem_append.mp hr with hr | hr
    · exact hs r hr
    · rw [List.mem_singleton.mp hr]
      exact hret hsynced
  · exact hs r hr

theorem settled_startRequest {request : HspRequest} (h : HspSettled s) (hpipe : s.synced = true → hspPipe s = []) :
    HspSettled (s.startRequest request err) := by
  refine ⟨expects_startRequest hpipe, ?_⟩
  cases err with
  | some err => exact paired_finish h.paired fun _ => trivial
  | none => exact h.paired

theorem settled_take (h : HspSettled s) (hslot : s.slot = some m) : HspSettled (s.take m) := by
  have hexp := h.expects
  unfold HspExpects at hexp
  unfold HspRun.take
  cases hp : s.phase with
  | idle | helloDone => exact h
  | hello hello good =>
    simp only [hp] at hexp ⊢
    split
    · rename_i heq
      refine ⟨?_, h.paired⟩
      intro hgood
      exact (hexp hgood).echo hslot heq
    rename_i hne
    refine ⟨?_, h.paired⟩
    intro hgood
    exact ((hexp hgood).drop hslot hne).congr rfl
  | request request =>
    simp only [hp] at hexp ⊢
    constructor
    · intro hs
      exact ((hexp hs).slot hslot).1
    · apply paired_finish h.paired
      intro hs
      obtain ⟨-, hanswer, hid, -⟩ := (hexp hs).slot hslot
      exact paired_of_answer hanswer hid

theorem settled_recv (h : HspSettled s) (hstep : hspStep s .recv = some s') : HspSettled s' := by
  simp only [hspStep] at hstep
  split at hstep
  · simp at hstep
  rename_i hwaits
  cases hslot : s.slot with
  | none =>
    simp only [hslot, Option.some.injEq] at hstep
    exact hstep ▸ h
  | some m =>
    simp only [hslot] at hstep
    split at hstep
    · simp only [Option.some.injEq] at hstep
      exact hstep ▸ settled_take h hslot
    -- What is negative is lost, but it is not what the driver waits for.
    rename_i hready
    have hneg : camrtcHspRecvCondition m.word ≠ true := by
      simpa [HspRun.slotReady, hslot] using hready
    cases hstep
    refine ⟨?_, h.paired⟩
    have hexp := h.expects
    unfold HspExpects at hexp ⊢
    cases hp : s.phase with
    | idle | helloDone => simp [hp] at hwaits
    | hello hello good =>
      simp only [hp] at hexp ⊢
      intro hgood
      have htaken := (hexp hgood).taken
      have hne : m.word ≠ hello.word := fun heq => hneg (heq ▸ htaken)
      exact ((hexp hgood).drop hslot hne).congr rfl
    | request request =>
      simp only [hp] at hexp ⊢
      intro hs
      obtain ⟨-, -, -, htaken⟩ := (hexp hs).slot hslot
      exact absurd htaken hneg

theorem settled_timeout (h : HspSettled s) (hstep : hspStep s .timeout = some s') : HspSettled s' := by
  simp only [hspStep] at hstep
  split at hstep
  · simp at hstep
  cases hp : s.phase with
  | idle | helloDone => simp [hp] at hstep
  | hello hello good =>
    simp only [hp, Option.some.injEq] at hstep
    subst hstep
    exact ⟨by simp [HspExpects], h.paired⟩
  | request request =>
    simp only [hp, Option.some.injEq] at hstep
    subst hstep
    constructor
    · simp [HspExpects, HspRun.finish]
    · exact paired_finish h.paired fun _ => Or.inl rfl

theorem returns_others {op : HspOp} (hstep : hspStep s op = some s')
    (hop : op = .deliver ∨ (∃ param, op = .answer param) ∨ (∃ param, op = .irqToDriver param) ∨
      op = .irqToFirmware) : s'.returns = s.returns := by
  rcases hop with rfl | ⟨param, rfl⟩ | ⟨param, rfl⟩ | rfl
  · cases hrx : s.rx with
    | nil => simp [hspStep, hrx] at hstep
    | cons m rx =>
      simp only [hspStep, hrx, Option.some.injEq] at hstep
      simp [← hstep]
  · cases htx : s.tx with
    | nil => simp [hspStep, htx] at hstep
    | cons m tx =>
      simp only [hspStep, htx] at hstep
      split at hstep
      · simp only [Option.some.injEq] at hstep
        simp [← hstep]
      · simp only [Option.some.injEq] at hstep
        simp [← hstep]
  · simp only [hspStep, Option.some.injEq] at hstep
    simp [← hstep]
  · simp only [hspStep, Option.some.injEq] at hstep
    simp [← hstep]

/-- **Step.** -/
theorem settled_step (s : HspRun) (op : HspOp) (s' : HspRun) (h : HspSettled s)
    (hstep : hspStep s op = some s') : HspSettled s' := by
  have hothers := fun hop => returns_others hstep hop ▸ h.paired
  cases op with
  | sync schedClock err =>
    refine ⟨expects_sync h.expects hstep, ?_⟩
    simp only [hspStep] at hstep
    split at hstep
    · cases err with
      | some err | none =>
        simp only [Option.some.injEq] at hstep
        exact hstep ▸ h.paired
    · simp at hstep
  | protocol err =>
    simp only [hspStep] at hstep
    split at hstep
    · rename_i hdone
      have hexp := h.expects
      simp only [HspExpects, hdone] at hexp
      simp only [Option.some.injEq] at hstep
      exact hstep ▸ settled_startRequest h hexp
    · simp at hstep
  | call request err =>
    simp only [hspStep] at hstep
    split at hstep
    · rename_i hidle
      have hexp := h.expects
      simp only [HspExpects, hidle] at hexp
      simp only [Option.some.injEq] at hstep
      exact hstep ▸ settled_startRequest h hexp
    · simp at hstep
  | recv => exact settled_recv h hstep
  | timeout => exact settled_timeout h hstep
  | deliver => exact ⟨expects_deliver h.expects hstep, hothers (by simp)⟩
  | answer param => exact ⟨expects_answer h.expects hstep, hothers (by simp)⟩
  | irqToDriver param => exact ⟨expects_irqToDriver h.expects hstep, hothers (by simp)⟩
  | irqToFirmware => exact ⟨expects_irqToFirmware h.expects hstep, hothers (by simp)⟩

/-- **Requests and answers.**  Whatever is on its way and in the slot at the start, and in every order
of steps, what a request returns once a `HELLO` has come back that nothing could be mistaken for, and
until a request has timed out, is a timeout, an error of the mailbox or the parameter of the
firmware's answer to this request. -/
theorem hsp_requests_paired {cookie : U32} {slot : Option HspMessage} {tx rx : List HspMessage}
    {next : ℕ} {ops : List HspOp} {s : HspRun} (hrun : run hspStep (hspStart cookie slot tx rx next) ops = some s) :
    ∀ ret ∈ s.returns, ret.Paired := by
  have hstart : HspSettled (hspStart cookie slot tx rx next) := by
    constructor
    · simp [HspExpects, hspStart]
    · simp [hspStart]
  exact (run_invariant settled_step hstart hrun).paired

/-- Two answers to `PING` are on their way, and a `HELLO` is unanswered; then a session with two
`PING`s, the second of which is answered too late. -/
def hspPings : List HspOp :=
  [.sync 64 none, .answer 0, .irqToDriver 1, .deliver, .recv, .deliver, .answer 0, .deliver, .recv,
    .deliver, .deliver, .recv, .protocol none, .answer 6, .deliver, .recv,
    .call (.ping 7) none, .recv, .answer 8, .deliver, .recv, .call (.ping 9) none, .answer 10, .timeout]

def hspStale : HspRun :=
  hspStart 0 none [⟨2, camrtcHspVmHello 32⟩] [⟨0, camrtcHspMsg CAMRTC_HSP_PING 3⟩,
    ⟨1, camrtcHspMsg CAMRTC_HSP_PING 4⟩] 3

theorem hsp_requests_paired_pings : ∃ s, run hspStep hspStale hspPings = some s ∧
      s.returns = [.returned 6 (some (camrtcHspMsg CAMRTC_HSP_PROTOCOL 6)),
        .returned 8 (some (camrtcHspMsg CAMRTC_HSP_PING 8)),
        .returned (-eTIMEDOUT) (some (camrtcHspMsg CAMRTC_HSP_PING 10))] ∧ ∀ ret ∈ s.returns, ret.Paired := by
  refine exists_of_map HspRun.returns [.returned 6 (some (camrtcHspMsg CAMRTC_HSP_PROTOCOL 6)), .returned 8
      (some (camrtcHspMsg CAMRTC_HSP_PING 8)), .returned (-eTIMEDOUT) (some (camrtcHspMsg CAMRTC_HSP_PING 10))]
    (by decide +kernel) fun s hs hreturns => ?_
  exact ⟨hreturns, hsp_requests_paired hs⟩

end NvidiaOot.Analysis
