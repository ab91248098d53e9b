import NvidiaOot.Library.Positions
import NvidiaOot.Model.Capture

/-!
# Control requests get their own responses

Only one thread waits or compares, since it holds the lock of the control messages.  A completion is there
exactly while the response to the request of that thread lies in the buffer.
-/

namespace NvidiaOot.Analysis

open Library Program Model

variable {s s' : CaptureControlState} {u : CaptureUnit} {call : CaptureControlCall} {respId : U32}
  {header : CaptureMsgHeader} {msg : CaptureControlMsg} {before : CaptureControlStage} {req : CaptureFirmwareReq}
  {rest : List CaptureFirmwareReq} {i ticket : ℕ}

/-! ## Headers -/

theorem viControlIds_spec : viControlIds.all (fun ids =>
    ids.2 = captureRespId ids.1 && viCaptureIvcControlAccepts ids.2) = true := by
  decide +kernel

/-- A message of user space waits for the response that the firmware gives to it, and the callback takes
that response. -/
theorem viControlRespId_spec {msgId : U32} (h : viControlRespId msgId = some respId) :
    respId = captureRespId msgId ∧ viCaptureIvcControlAccepts respId = true := by
  obtain ⟨ids, hfind, rfl⟩ := Option.map_eq_some_iff.mp h
  have hid : ids.1 = msgId := by simpa using List.find?_some hfind
  have hall := List.all_eq_true.mp viControlIds_spec ids (List.mem_of_find?_eq_some hfind)
  rw [← hid]
  simpa using hall

theorem setupIds_spec (u : CaptureUnit) :
    u.setupIds.2 = captureRespId u.setupIds.1 ∧ u.accepts u.setupIds.2 = true := by
  cases u <;> decide

theorem resetIds_spec (u : CaptureUnit) :
    u.resetIds.2 = captureRespId u.resetIds.1 ∧ u.accepts u.resetIds.2 = true := by
  cases u <;> decide

theorem releaseIds_spec (u : CaptureUnit) :
    u.releaseIds.2 = captureRespId u.releaseIds.1 ∧ u.accepts u.releaseIds.2 = true := by
  cases u <;> decide

/-- A message waits for the response to it, and the callback takes that response. -/
def captureWaitsRight (u : CaptureUnit) (msg : CaptureControlMsg) (respId : U32) : Prop :=
  respId = captureRespId msg.header.msgId ∧ u.accepts respId = true

theorem captureChannelEntry_right {ids : U32 × U32}
    (hids : ids.2 = captureRespId ids.1 ∧ u.accepts ids.2 = true) {capture : CaptureControl} {flags : U32}
    (h : captureChannelEntry capture ids flags = .sends msg respId) : captureWaitsRight u msg respId := by
  unfold captureChannelEntry at h
  split at h
  · cases h
  · cases h
    exact hids

/-! ## The invariant -/

structure CaptureControlInv (u : CaptureUnit) (s : CaptureControlState) : Prop
    extends CaptureControlSound s where
  holder : ∀ (i : ℕ) stage, s.calls[i]? = some stage → stage.holds = true → s.lock = some i
  locking : ∀ (i : ℕ) call msg respId, s.calls[i]? = some (.locking call msg respId) →
    captureWaitsRight u msg respId
  waiting : ∀ (i : ℕ) call ticket header, s.calls[i]? = some (.waiting call ticket header) →
    ticket < s.sent ∧
      ∀ req ∈ s.atFirmware, req.ticket = ticket → captureRespHeader req.header = header
  pending : ∀ (i : ℕ) call ticket header, s.calls[i]? = some (.waiting call ticket header) →
    ticket ∈ s.arrived → s.copied = some ticket ∨ 0 < s.capture.controlResp
  comparing : ∀ (i : ℕ) call ticket header, s.calls[i]? = some (.comparing call ticket header) →
    ticket ∈ s.received ∧ s.respOf = some ticket ∧ s.capture.controlRespMsg.header = header ∧
      s.capture.controlResp = 0 ∧ s.copied = none
  copied : ∀ ticket, s.copied = some ticket → s.capture.controlResp = 0 ∧ ticket ∈ s.arrived ∧
    ∃ (i : ℕ) (call : CaptureControlCall) (header : CaptureMsgHeader),
      s.calls[i]? = some (.waiting call ticket header) ∧ s.respOf = some ticket ∧
        s.capture.controlRespMsg.header = header
  signalled : 0 < s.capture.controlResp → s.capture.controlResp = 1 ∧ s.copied = none ∧
    ∃ (i : ℕ) (call : CaptureControlCall) (ticket : ℕ) (header : CaptureMsgHeader),
      s.calls[i]? = some (.waiting call ticket header) ∧ ticket ∈ s.received ∧
        s.respOf = some ticket ∧ s.capture.controlRespMsg.header = header
  firmware : ∀ req ∈ s.atFirmware, req.ticket < s.sent ∧ req.ticket ∉ s.arrived ∧
    u.accepts (captureRespHeader req.header).msgId = true
  once : (s.atFirmware.map CaptureFirmwareReq.ticket).Nodup
  arrivedLt : ∀ ticket ∈ s.arrived, ticket < s.sent
  receivedArrived : ∀ ticket ∈ s.received, ticket ∈ s.arrived

theorem CaptureControlInv.unique (h : CaptureControlInv u s) {j : ℕ} {stage stage' : CaptureControlStage}
    (hi : s.calls[i]? = some stage) (hj : s.calls[j]? = some stage') (hstage : stage.holds = true)
    (hstage' : stage'.holds = true) : i = j :=
  Option.some.inj ((h.holder i stage hi hstage).symm.trans (h.holder j stage' hj hstage'))

/-- A step that leaves the requests under way and the buffer as they are. -/
structure CaptureSameBuffer (s s' : CaptureControlState) : Prop where
  controlResp : s'.capture.controlResp = s.capture.controlResp
  controlRespMsg : s'.capture.controlRespMsg = s.capture.controlRespMsg
  atFirmware : s'.atFirmware = s.atFirmware
  sent : s'.sent = s.sent
  respOf : s'.respOf = s.respOf
  copied : s'.copied = s.copied
  arrived : s'.arrived = s.arrived
  received : s'.received = s.received

theorem CaptureSameBuffer.refl (s : CaptureControlState) : CaptureSameBuffer s s :=
  ⟨rfl, rfl, rfl, rfl, rfl, rfl, rfl, rfl⟩

def captureResultRight (s : CaptureControlState) (r : CaptureControlResult) : Prop :=
  (r.err = 0 → ∃ ticket ∈ s.received, r.ticket = some ticket ∧ r.read = some ticket) ∧
    (r.err ≠ 0 → r.ticket.isSome = true → r.err = - eTIMEDOUT ∧ r.answered = false)

/-- A thread goes on to a stage in which it does not hold the lock, and the others stay. -/
theorem CaptureControlInv.quiet (h : CaptureControlInv u s) (hsame : CaptureSameBuffer s s')
    {stage : CaptureControlStage} (hcall : s.calls[i]? = some before)
    (hcalls : s'.calls = s.calls.set i stage) (hstage : stage.holds = false)
    (hreading : ∀ call ticket, stage = .reading call ticket → ticket ∈ s.received ∧ s.respOf = some ticket)
    (hlocking : ∀ call msg respId, stage = .locking call msg respId → captureWaitsRight u msg respId)
    (hbefore : before.holds = true → s.capture.controlResp = 0 ∧ s.copied = none)
    (hlock : s'.lock = if before.holds then none else s.lock)
    (hresults : ∀ r ∈ s'.results, r ∈ s.results ∨ captureResultRight s r) : CaptureControlInv u s' := by
  -- The other threads are where they were.
  have hold {j : ℕ} {st : CaptureControlStage} (hj : s'.calls[j]? = some st) (hne : st ≠ stage) :
      j ≠ i ∧ s.calls[j]? = some st := by
    rw [hcalls] at hj
    rcases getElem?_set_cases hj with ⟨-, rfl⟩ | hother
    · exact absurd rfl hne
    · exact hother
  have hkeep {j : ℕ} {st : CaptureControlStage} (hne : j ≠ i) (hj : s.calls[j]? = some st) :
      s'.calls[j]? = some st := by
    rw [hcalls, List.getElem?_set_ne (Ne.symm hne)]
    exact hj
  have hnot {st : CaptureControlStage} (hst : st.holds = true) : st ≠ stage := by
    rintro rfl
    rw [hstage] at hst
    cases hst
  -- A thread that holds the lock was not the one that goes on.
  have hnone (hempty : s.capture.controlResp ≠ 0 ∨ s.copied ≠ none) : before.holds = false := by
    by_contra hhold
    obtain ⟨hzero, hcopied⟩ := hbefore (by simpa using hhold)
    exact hempty.elim (fun hne => hne hzero) fun hne => hne hcopied
  have hwaits {j : ℕ} {st : CaptureControlStage} (hfree : before.holds = false)
      (hj : s.calls[j]? = some st) (hst : st.holds = true) : j ≠ i := by
    rintro rfl
    rw [Option.some.inj (hcall.symm.trans hj), hst] at hfree
    cases hfree
  refine ⟨⟨?_, ?_, ?_⟩, ?_, ?_, ?_, ?_, ?_, ?_, ?_, ?_, ?_, ?_, ?_⟩
  · intro j call ticket hj
    rw [hsame.received, hsame.respOf]
    by_cases heq : CaptureControlStage.reading call ticket = stage
    · exact hreading call ticket heq.symm
    · exact h.own j call ticket (hold hj heq).2
  · intro r hr herr
    rw [hsame.received]
    exact (hresults r hr).elim (fun hmem => h.success r hmem herr) fun hright => hright.1 herr
  · intro r hr herr hsome
    exact (hresults r hr).elim (fun hmem => h.failure r hmem herr hsome) fun hright =>
      hright.2 herr hsome
  · intro j st hj hst
    obtain ⟨hne, hj'⟩ := hold hj (hnot hst)
    have hlocked := h.holder j st hj' hst
    have hfree : before.holds = false := by
      by_contra hhold
      exact hne (h.unique hj' hcall hst (by simpa using hhold))
    rw [hlock, hfree]
    exact hlocked
  · intro j call msg respId hj
    by_cases heq : CaptureControlStage.locking call msg respId = stage
    · exact hlocking call msg respId heq.symm
    · exact h.locking j call msg respId (hold hj heq).2
  · intro j call ticket header hj
    rw [hsame.sent, hsame.atFirmware]
    exact h.waiting j call ticket header (hold hj (hnot rfl)).2
  · intro j call ticket header hj harrived
    rw [hsame.arrived] at harrived
    rw [hsame.copied, hsame.controlResp]
    exact h.pending j call ticket header (hold hj (hnot rfl)).2 harrived
  · intro j call ticket header hj
    rw [hsame.received, hsame.respOf, hsame.controlRespMsg, hsame.controlResp, hsame.copied]
    exact h.comparing j call ticket header (hold hj (hnot rfl)).2
  · intro ticket hcopied
    rw [hsame.copied] at hcopied
    rw [hsame.controlResp, hsame.respOf, hsame.controlRespMsg, hsame.arrived]
    obtain ⟨hzero, harrived, j, call, header, hj, hrest⟩ := h.copied ticket hcopied
    have hfree := hnone (Or.inr (by simp [hcopied]))
    exact ⟨hzero, harrived, j, call, header, hkeep (hwaits hfree hj rfl) hj, hrest⟩
  · intro hpos
    rw [hsame.controlResp] at hpos
    rw [hsame.controlResp, hsame.copied, hsame.received, hsame.respOf, hsame.controlRespMsg]
    obtain ⟨hone, hcopied, j, call, ticket, header, hj, hrest⟩ := h.signalled hpos
    have hfree := hnone (Or.inl (by omega))
    exact ⟨hone, hcopied, j, call, ticket, header, hkeep (hwaits hfree hj rfl) hj, hrest⟩
  · rw [hsame.atFirmware, hsame.sent, hsame.arrived]
    exact h.firmware
  · rw [hsame.atFirmware]
    exact h.once
  · rw [hsame.arrived, hsame.sent]
    exact h.arrivedLt
  · rw [hsame.received, hsame.arrived]
    exact h.receivedArrived

/-! ## The steps -/

theorem CaptureSameBuffer.trans {s'' : CaptureControlState} (h : CaptureSameBuffer s s')
    (h' : CaptureSameBuffer s' s'') : CaptureSameBuffer s s'' :=
  ⟨h'.controlResp.trans h.controlResp, h'.controlRespMsg.trans h.controlRespMsg,
    h'.atFirmware.trans h.atFirmware, h'.sent.trans h.sent, h'.respOf.trans h.respOf,
    h'.copied.trans h.copied, h'.arrived.trans h.arrived, h'.received.trans h.received⟩

/-- What a step may change besides the stage of its thread. -/
structure CaptureAside (s s' : CaptureControlState) : Prop extends CaptureSameBuffer s s' where
  calls : s'.calls = s.calls
  lock : s'.lock = s.lock
  results : s'.results = s.results

theorem CaptureAside.refl (s : CaptureControlState) : CaptureAside s s :=
  ⟨CaptureSameBuffer.refl s, rfl, rfl, rfl⟩

theorem captureReleased_resp (u : CaptureUnit) (capture : CaptureControl) :
    (captureReleased u capture).controlResp = capture.controlResp ∧
      (captureReleased u capture).controlRespMsg = capture.controlRespMsg := by
  cases u <;> exact ⟨rfl, rfl⟩

theorem failed_aside (u : CaptureUnit) (s : CaptureControlState) (call : CaptureControlCall) :
    CaptureAside s (s.failed u call) := by
  cases call with
  | setup transaction stream => exact ⟨⟨rfl, rfl, rfl, rfl, rfl, rfl, rfl, rfl⟩, rfl, rfl, rfl⟩
  | release flags =>
    cases u with
    | vi => exact ⟨⟨rfl, rfl, rfl, rfl, rfl, rfl, rfl, rfl⟩, rfl, rfl, rfl⟩
    | isp => exact CaptureAside.refl s
  | reset flags | message msg => exact CaptureAside.refl s

theorem viControlNote_resp (capture : CaptureControl) (msg : CaptureControlMsg) :
    (viControlNote capture msg).controlResp = capture.controlResp ∧
      (viControlNote capture msg).controlRespMsg = capture.controlRespMsg := by
  unfold viControlNote
  split
  · exact ⟨rfl, rfl⟩
  · split
    · exact ⟨rfl, rfl⟩
    · exact ⟨rfl, rfl⟩

theorem viControlSent_resp (capture : CaptureControl) (msgId : U32) :
    (viControlSent capture msgId).controlResp = capture.controlResp ∧
      (viControlSent capture msgId).controlRespMsg = capture.controlRespMsg := by
  unfold viControlSent
  split
  · exact ⟨rfl, rfl⟩
  · split
    · exact ⟨rfl, rfl⟩
    · exact ⟨rfl, rfl⟩

theorem CaptureControlInv.done (h : CaptureControlInv u s) (haside : CaptureAside s s')
    (hcall : s.calls[i]? = some before) (hbefore : before.holds = false) {r : CaptureControlResult}
    (hr : captureResultRight s r) : CaptureControlInv u (s'.done i r) := by
  have hsame : CaptureSameBuffer s (s'.done i r) :=
    haside.toCaptureSameBuffer.trans ⟨rfl, rfl, rfl, rfl, rfl, rfl, rfl, rfl⟩
  apply h.quiet hsame hcall
  · show s'.calls.set i .idle = s.calls.set i .idle
    rw [haside.calls]
  · rfl
  · nofun
  · nofun
  · intro hhold
    rw [hbefore] at hhold
    cases hhold
  · rw [hbefore]
    exact haside.lock
  · intro r' hr'
    rcases List.mem_cons.mp hr' with rfl | hmem
    · exact Or.inr hr
    · left
      rw [← haside.results]
      exact hmem

theorem CaptureControlInv.locks (h : CaptureControlInv u s) (haside : CaptureAside s s')
    (hcall : s.calls[i]? = some before) (hbefore : before.holds = false) (hright : captureWaitsRight u msg respId) :
    CaptureControlInv u (s'.goto i (.locking call msg respId)) := by
  have hsame : CaptureSameBuffer s (s'.goto i (.locking call msg respId)) :=
    haside.toCaptureSameBuffer.trans ⟨rfl, rfl, rfl, rfl, rfl, rfl, rfl, rfl⟩
  apply h.quiet hsame hcall
  · show s'.calls.set i _ = s.calls.set i _
    rw [haside.calls]
  · rfl
  · nofun
  · intro call' msg' respId' heq
    cases heq
    exact hright
  · intro hhold
    rw [hbefore] at hhold
    cases hhold
  · rw [hbefore]
    exact haside.lock
  · intro r hr
    left
    rw [← haside.results]
    exact hr

/-- A call that returns at once with an error is no result of a request that was sent. -/
theorem captureResultRight_unsent (s : CaptureControlState) {err : ℤ} (herr : err ≠ 0) (answered : Bool)
    (read : Option ℕ) : captureResultRight s ⟨err, none, answered, read⟩ := by
  refine ⟨fun hzero => absurd hzero herr, ?_⟩
  nofun

theorem captureChannelEntry_err {capture : CaptureControl} {ids : U32 × U32} {flags : U32} {err : ℤ}
    (hentry : captureChannelEntry capture ids flags = .returns err) : err ≠ 0 := by
  unfold captureChannelEntry at hentry
  split at hentry
  · cases hentry
    decide
  · cases hentry

section

variable (h : CaptureControlInv u s)

include h

theorem CaptureControlInv.enter (hcall : s.calls[i]? = some .idle)
    (hcareful : captureControlSkips s call = false) (henter : s.enter u i call = some s') :
    CaptureControlInv u s' := by
  cases call with
  | setup transaction stream =>
    simp only [CaptureControlState.enter, captureSetupEntry] at henter
    split at henter
    · cases henter
    simp only [Option.some.injEq] at henter
    by_cases hid : s.capture.channelId = CAPTURE_CHANNEL_INVALID_ID
    · simp only [hid, ne_eq, not_true_eq_false, if_false, if_true] at henter
      subst henter
      apply h.locks _ hcall rfl
      · exact setupIds_spec u
      · cases u
        · exact ⟨⟨rfl, rfl, rfl, rfl, rfl, rfl, rfl, rfl⟩, rfl, rfl, rfl⟩
        · exact ⟨⟨rfl, rfl, rfl, rfl, rfl, rfl, rfl, rfl⟩, rfl, rfl, rfl⟩
    · simp only [hid, ne_eq, not_false_eq_true, if_false, if_true] at henter
      subst henter
      exact h.done (CaptureAside.refl s) hcall rfl (captureResultRight_unsent s (by decide) _ _)
  | reset flags =>
    simp only [CaptureControlState.enter] at henter
    split at henter
    · cases henter
    simp only [Option.some.injEq] at henter
    have haside : CaptureAside s { s with resetLock := some i } :=
      ⟨⟨rfl, rfl, rfl, rfl, rfl, rfl, rfl, rfl⟩, rfl, rfl, rfl⟩
    cases hentry : captureChannelEntry s.capture u.resetIds flags with
    | returns err =>
      have herr := captureChannelEntry_err hentry
      rw [hentry] at henter
      subst henter
      exact h.done haside hcall rfl (captureResultRight_unsent s herr _ _)
    | sends msg respId =>
      rw [hentry] at henter
      subst henter
      exact h.locks haside hcall rfl (captureChannelEntry_right (resetIds_spec u) hentry)
  | release flags =>
    simp only [CaptureControlState.enter, Option.some.injEq] at henter
    cases hentry : captureChannelEntry s.capture u.releaseIds flags with
    | returns err =>
      have herr := captureChannelEntry_err hentry
      rw [hentry] at henter
      subst henter
      exact h.done (CaptureAside.refl s) hcall rfl (captureResultRight_unsent s herr _ _)
    | sends msg respId =>
      rw [hentry] at henter
      subst henter
      exact h.locks (CaptureAside.refl s) hcall rfl (captureChannelEntry_right (releaseIds_spec u) hentry)
  | message msg =>
    cases u with
    | isp => cases henter
    | vi =>
      simp only [CaptureControlState.enter, viCaptureControlSendMessage, Option.some.injEq] at henter
      cases hresp : viControlRespId msg.header.msgId with
      | none =>
        simp only [hresp] at henter
        subst henter
        exact h.done (CaptureAside.refl s) hcall rfl (captureResultRight_unsent s (by decide) _ _)
      | some respId =>
        have hskips : viControlSkips s.capture { msg with
            header := { msg.header with channelId := s.capture.channelId.setWidth 32 } } = false :=
          hcareful
        simp only [hresp, hskips, Bool.false_eq_true, if_false] at henter
        subst henter
        obtain ⟨hcount, hbuffer⟩ := viControlNote_resp s.capture { msg with
          header := { msg.header with channelId := s.capture.channelId.setWidth 32 } }
        apply h.locks _ hcall rfl
        · exact viControlRespId_spec hresp
        · exact ⟨⟨hcount, hbuffer, rfl, rfl, rfl, rfl, rfl, rfl⟩, rfl, rfl, rfl⟩

theorem CaptureControlInv.finish
    (hcall : s.calls[i]? = some (.reading call ticket)) (notifies registers : Bool) :
    CaptureControlInv u (s.finish u i ticket notifies registers call) := by
  obtain ⟨hreceived, hown⟩ := h.own i call ticket hcall
  have hr : captureResultRight s ⟨0, some ticket, ticket ∈ s.arrived, s.respOf⟩ :=
    ⟨fun _ => ⟨ticket, hreceived, rfl, hown⟩, fun hne => absurd rfl hne⟩
  have hdone {s' : CaptureControlState} (haside : CaptureAside s s') :
      CaptureControlInv u (s'.done i ⟨0, some ticket, ticket ∈ s.arrived, s.respOf⟩) :=
    h.done haside hcall rfl hr
  cases call with
  | setup transaction stream =>
    simp only [CaptureControlState.finish]
    split
    · exact hdone (failed_aside u s _)
    have haside (l : List U32) : CaptureAside s { s with
        capture := { s.capture with channelId := (s.capture.controlRespMsg.word 1).setWidth 16 }
        registered := l } :=
      ⟨⟨rfl, rfl, rfl, rfl, rfl, rfl, rfl, rfl⟩, rfl, rfl, rfl⟩
    split
    · exact hdone (haside _)
    cases u with
    | vi =>
      have hfailed := failed_aside .vi { s with
        capture := { s.capture with channelId := (s.capture.controlRespMsg.word 1).setWidth 16 }
        registered := if notifies = true then
          ((s.capture.controlRespMsg.word 1).setWidth 16).setWidth 32 :: s.registered.erase transaction
          else s.registered } (.setup transaction stream)
      apply hdone
      exact ⟨(haside _).toCaptureSameBuffer.trans hfailed.toCaptureSameBuffer, hfailed.calls,
        hfailed.lock, hfailed.results⟩
    | isp =>
      simp only
      split
      · exact hdone (haside _)
      rename_i msg respId hentry
      -- The channel is released before the setup returns.
      have hidle := hdone (haside (if notifies = true then
        ((s.capture.controlRespMsg.word 1).setWidth 16).setWidth 32 :: s.registered.erase transaction
        else s.registered))
      have hself := getElem?_set_self_of_getElem hcall CaptureControlStage.idle
      exact hidle.locks (CaptureAside.refl _) hself rfl
        (captureChannelEntry_right (releaseIds_spec .isp) hentry)
  | reset flags => exact hdone (CaptureAside.refl s)
  | release flags =>
    simp only [CaptureControlState.finish]
    split
    · exact hdone (CaptureAside.refl s)
    · obtain ⟨hcount, hbuffer⟩ := captureReleased_resp u s.capture
      apply hdone
      exact ⟨⟨hcount, hbuffer, rfl, rfl, rfl, rfl, rfl, rfl⟩, rfl, rfl, rfl⟩
  | message msg =>
    obtain ⟨hcount, hbuffer⟩ := viControlSent_resp s.capture msg.header.msgId
    apply hdone
    exact ⟨⟨hcount, hbuffer, rfl, rfl, rfl, rfl, rfl, rfl⟩, rfl, rfl, rfl⟩

theorem CaptureControlInv.timeout
    (hcall : s.calls[i]? = some (.waiting call ticket header)) (hzero : s.capture.controlResp = 0)
    (hcopied : s.copied = none) : CaptureControlInv u ({ (s.failed u call) with lock := none }.done i
      ⟨- eTIMEDOUT, some ticket, ticket ∈ s.arrived, none⟩) := by
  have haside := failed_aside u s call
  have harrived : ticket ∉ s.arrived := by
    intro hmem
    rcases h.pending i call ticket header hcall hmem with hsome | hpos
    · rw [hcopied] at hsome
      cases hsome
    · omega
  have hsame : CaptureSameBuffer s ({ (s.failed u call) with lock := none }.done i
      ⟨- eTIMEDOUT, some ticket, ticket ∈ s.arrived, none⟩) :=
    haside.toCaptureSameBuffer.trans ⟨rfl, rfl, rfl, rfl, rfl, rfl, rfl, rfl⟩
  apply h.quiet hsame hcall
  · show (s.failed u call).calls.set i .idle = s.calls.set i .idle
    rw [haside.calls]
  · rfl
  · nofun
  · nofun
  · exact fun _ => ⟨hzero, hcopied⟩
  · rfl
  · intro r hr
    rcases List.mem_cons.mp hr with rfl | hmem
    · right
      have hne : - eTIMEDOUT ≠ 0 := by decide
      refine ⟨fun herr => absurd herr hne, ?_⟩
      exact fun _ _ => ⟨rfl, decide_eq_false harrived⟩
    · left
      rw [← haside.results]
      exact hmem

theorem CaptureControlInv.compare
    (hcall : s.calls[i]? = some (.comparing call ticket header)) :
    CaptureControlInv u { (s.goto i (.reading call ticket)) with lock := none } := by
  obtain ⟨hreceived, hown, -, hzero, hcopied⟩ := h.comparing i call ticket header hcall
  have hsame : CaptureSameBuffer s { (s.goto i (.reading call ticket)) with lock := none } :=
    ⟨rfl, rfl, rfl, rfl, rfl, rfl, rfl, rfl⟩
  apply h.quiet hsame hcall
  · rfl
  · rfl
  · intro call' ticket' heq
    cases heq
    exact ⟨hreceived, hown⟩
  · nofun
  · exact fun _ => ⟨hzero, hcopied⟩
  · rfl
  · exact fun r hr => Or.inl hr

theorem CaptureControlInv.calm
    (hlock : s.lock = none) : s.capture.controlResp = 0 ∧ s.copied = none := by
  have hfree {i : ℕ} {stage : CaptureControlStage} (hi : s.calls[i]? = some stage)
      (hstage : stage.holds = true) : False := by
    have hholder := h.holder i stage hi hstage
    rw [hlock] at hholder
    cases hholder
  constructor
  · by_contra hne
    obtain ⟨-, -, i, call, ticket, header, hi, -⟩ := h.signalled (Nat.pos_of_ne_zero hne)
    exact hfree hi rfl
  · by_contra hne
    obtain ⟨ticket, hsome⟩ := Option.ne_none_iff_exists'.mp hne
    obtain ⟨-, -, i, call, header, hi, -⟩ := h.copied ticket hsome
    exact hfree hi rfl

theorem CaptureControlInv.submit (hcall : s.calls[i]? = some (.locking call msg respId)) (hlock : s.lock = none)
    (hsize : CaptureControlMsg.HEADER_SIZE ≤ msg.size) (held : CaptureMsgHeader) : CaptureControlInv u
      { (s.goto i (.waiting call s.sent { msg.header with msgId := respId })) with
        lock := some i
        atFirmware := s.atFirmware ++ [⟨s.sent, captureReceivedHeader msg held⟩]
        sent := s.sent + 1 } := by
  obtain ⟨hresp, haccepts⟩ := h.locking i call msg respId hcall
  obtain ⟨hzero, hcopied⟩ := h.calm hlock
  have hheader : captureReceivedHeader msg held = msg.header := if_neg (Nat.not_lt.mpr hsize)
  have hfree {j : ℕ} {stage : CaptureControlStage} (hj : s.calls[j]? = some stage)
      (hstage : stage.holds = true) : False := by
    have hholder := h.holder j stage hj hstage
    rw [hlock] at hholder
    cases hholder
  have hset {j : ℕ} {stage : CaptureControlStage}
      (hj : (s.calls.set i (.waiting call s.sent { msg.header with msgId := respId }))[j]? = some stage) :
      (j = i ∧ stage = .waiting call s.sent { msg.header with msgId := respId }) ∨
        s.calls[j]? = some stage :=
    (getElem?_set_cases hj).imp_right And.right
  have hnew (req : CaptureFirmwareReq)
      (hreq : req ∈ s.atFirmware ++ [⟨s.sent, captureReceivedHeader msg held⟩]) :
      req ∈ s.atFirmware ∨ req = ⟨s.sent, msg.header⟩ := by
    rw [hheader] at hreq
    simpa using hreq
  refine ⟨⟨?_, h.success, h.failure⟩, ?_, ?_, ?_, ?_, ?_, ?_, ?_, ?_, ?_, ?_, h.receivedArrived⟩
  · intro j call' ticket hj
    rcases hset hj with ⟨-, heq⟩ | hold
    · cases heq
    · exact h.own j call' ticket hold
  · intro j stage hj hstage
    rcases hset hj with ⟨rfl, -⟩ | hold
    · rfl
    · exact (hfree hold hstage).elim
  · intro j call' msg' respId' hj
    rcases hset hj with ⟨-, heq⟩ | hold
    · cases heq
    · exact h.locking j call' msg' respId' hold
  · intro j call' ticket header hj
    rcases hset hj with ⟨-, heq⟩ | hold
    · cases heq
      refine ⟨Nat.lt_succ_self _, ?_⟩
      intro req hreq hticket
      rcases hnew req hreq with hold | rfl
      · exact absurd hticket (h.firmware req hold).1.ne
      · simp [captureRespHeader, hresp]
    · exact (hfree hold rfl).elim
  · intro j call' ticket header hj harrived
    rcases hset hj with ⟨-, heq⟩ | hold
    · cases heq
      exact absurd rfl (h.arrivedLt _ harrived).ne
    · exact (hfree hold rfl).elim
  · intro j call' ticket header hj
    rcases hset hj with ⟨-, heq⟩ | hold
    · cases heq
    · exact (hfree hold rfl).elim
  · intro ticket hsome
    have hsome' : s.copied = some ticket := hsome
    rw [hcopied] at hsome'
    cases hsome'
  · intro hpos
    exact absurd hzero (Nat.pos_iff_ne_zero.mp hpos)
  · intro req hreq
    rcases hnew req hreq with hold | rfl
    · obtain ⟨hlt, harrived, hacc⟩ := h.firmware req hold
      exact ⟨Nat.lt_succ_of_lt hlt, harrived, hacc⟩
    refine ⟨Nat.lt_succ_self _, ?_, ?_⟩
    · exact fun hmem => absurd rfl (h.arrivedLt _ hmem).ne
    · show u.accepts (captureRespId msg.header.msgId) = true
      rw [← hresp]
      exact haccepts
  · rw [List.map_append, List.nodup_append]
    refine ⟨h.once, by simp, ?_⟩
    intro a ha b hb
    obtain ⟨req, hreq, rfl⟩ := List.mem_map.mp ha
    have hb' : b = s.sent := by simpa using hb
    rw [hb']
    exact (h.firmware req hreq).1.ne
  · exact fun ticket hmem => Nat.lt_succ_of_lt (h.arrivedLt ticket hmem)

theorem CaptureControlInv.wake
    (hcall : s.calls[i]? = some (.waiting call ticket header)) (hpos : 0 < s.capture.controlResp) :
    CaptureControlInv u { (s.goto i (.comparing call ticket header)) with
      capture := { s.capture with controlResp := s.capture.controlResp - 1 } } := by
  obtain ⟨hone, hcopied, j, call', ticket', header', hj, hreceived, hown, hheader⟩ := h.signalled hpos
  obtain rfl := h.unique hcall hj rfl rfl
  obtain ⟨rfl, rfl, rfl⟩ : call = call' ∧ ticket = ticket' ∧ header = header' := by
    simpa using hcall.symm.trans hj
  have hset {j : ℕ} {stage : CaptureControlStage}
      (hj : (s.calls.set i (.comparing call ticket header))[j]? = some stage) :
      (j = i ∧ stage = .comparing call ticket header) ∨ (j ≠ i ∧ s.calls[j]? = some stage) :=
    getElem?_set_cases hj
  have hfree {j : ℕ} {stage : CaptureControlStage} (hne : j ≠ i) (hj : s.calls[j]? = some stage)
      (hstage : stage.holds = true) : False :=
    hne (h.unique hj hcall hstage rfl)
  have hzero : s.capture.controlResp - 1 = 0 := by omega
  refine ⟨⟨?_, h.success, h.failure⟩, ?_, ?_, ?_, ?_, ?_, ?_, ?_, h.firmware, h.once, h.arrivedLt,
    h.receivedArrived⟩
  · intro j call' ticket' hj
    rcases hset hj with ⟨-, heq⟩ | ⟨-, hold⟩
    · cases heq
    · exact h.own j call' ticket' hold
  · intro j stage hj hstage
    rcases hset hj with ⟨rfl, -⟩ | ⟨hne, hold⟩
    · exact h.holder _ _ hcall rfl
    · exact (hfree hne hold hstage).elim
  · intro j call' msg respId hj
    rcases hset hj with ⟨-, heq⟩ | ⟨-, hold⟩
    · cases heq
    · exact h.locking j call' msg respId hold
  · intro j call' ticket' header' hj
    rcases hset hj with ⟨-, heq⟩ | ⟨hne, hold⟩
    · cases heq
    · exact (hfree hne hold rfl).elim
  · intro j call' ticket' header' hj
    rcases hset hj with ⟨-, heq⟩ | ⟨hne, hold⟩
    · cases heq
    · exact (hfree hne hold rfl).elim
  · intro j call' ticket' header' hj
    rcases hset hj with ⟨-, heq⟩ | ⟨hne, hold⟩
    · cases heq
      exact ⟨hreceived, hown, hheader, hzero, hcopied⟩
    · exact (hfree hne hold rfl).elim
  · intro ticket' hsome
    have hsome' : s.copied = some ticket' := hsome
    rw [hcopied] at hsome'
    cases hsome'
  · intro hpos'
    exact absurd hzero (Nat.pos_iff_ne_zero.mp hpos')

/-- What is left when the firmware answers its first request. -/
theorem CaptureControlInv.take (hfirm : s.atFirmware = req :: rest) :
    req ∈ s.atFirmware ∧ (∀ r ∈ rest, r ∈ s.atFirmware) ∧ (rest.map CaptureFirmwareReq.ticket).Nodup ∧
      (∀ r ∈ rest, r.ticket < s.sent ∧ r.ticket ∉ req.ticket :: s.arrived ∧
        u.accepts (captureRespHeader r.header).msgId = true) ∧
      ∀ ticket ∈ req.ticket :: s.arrived, ticket < s.sent := by
  have honce := h.once
  rw [hfirm, List.map_cons, List.nodup_cons] at honce
  have hmem : ∀ r ∈ rest, r ∈ s.atFirmware := by
    intro r hr
    rw [hfirm]
    exact List.mem_cons_of_mem _ hr
  have hhead : req ∈ s.atFirmware := by
    rw [hfirm]
    exact List.mem_cons_self
  refine ⟨hhead, hmem, honce.2, ?_, ?_⟩
  · intro r hr
    obtain ⟨hlt, harrived, hacc⟩ := h.firmware r (hmem r hr)
    refine ⟨hlt, ?_, hacc⟩
    intro hin
    rcases List.mem_cons.mp hin with heq | hold
    · exact honce.1 (List.mem_map.mpr ⟨r, hr, heq⟩)
    · exact harrived hold
  · intro ticket hin
    rcases List.mem_cons.mp hin with rfl | hold
    · exact (h.firmware req hhead).1
    · exact h.arrivedLt ticket hold

theorem CaptureControlInv.drop (hfirm : s.atFirmware = req :: rest)
    (hnone : ∀ (i : ℕ) call header, s.calls[i]? ≠ some (.waiting call req.ticket header)) :
    CaptureControlInv u { s with atFirmware := rest, arrived := req.ticket :: s.arrived } := by
  obtain ⟨-, hmem, honce, hfirmware, harrivedLt⟩ := h.take hfirm
  refine { h with
    waiting := ?_
    pending := ?_
    copied := ?_
    firmware := hfirmware
    once := honce
    arrivedLt := harrivedLt
    receivedArrived := fun ticket hr => List.mem_cons_of_mem _ (h.receivedArrived ticket hr) }
  · intro i call ticket header hi
    obtain ⟨hlt, hreqs⟩ := h.waiting i call ticket header hi
    exact ⟨hlt, fun r hr => hreqs r (hmem r hr)⟩
  · intro i call ticket header hi harrived
    rcases List.mem_cons.mp harrived with rfl | hold
    · exact absurd hi (hnone i call header)
    · exact h.pending i call ticket header hi hold
  · intro ticket hsome
    obtain ⟨hzero, harrived, hrest⟩ := h.copied ticket hsome
    exact ⟨hzero, List.mem_cons_of_mem _ harrived, hrest⟩

theorem CaptureControlInv.copy (hfirm : s.atFirmware = req :: rest)
    (hcall : s.calls[i]? = some (.waiting call req.ticket header))
    (hreading : ∀ (j : ℕ) call ticket, s.calls[j]? ≠ some (.reading call ticket))
    {resp : CaptureControlMsg} (hresp : resp.header = captureRespHeader req.header) : CaptureControlInv u { s with
      capture := { s.capture with controlRespMsg := resp }
      atFirmware := rest
      respOf := some req.ticket
      copied := some req.ticket
      arrived := req.ticket :: s.arrived } := by
  obtain ⟨hhead, hmem, honce, hfirmware, harrivedLt⟩ := h.take hfirm
  have harrived := (h.firmware req hhead).2.1
  have hheader : captureRespHeader req.header = header := (h.waiting i call _ header hcall).2 req hhead rfl
  -- The completion is not there, since its thread would have received the response.
  have hzero : s.capture.controlResp = 0 := by
    by_contra hne
    obtain ⟨-, -, j, call', ticket', header', hj, hreceived, -, -⟩ :=
      h.signalled (Nat.pos_of_ne_zero hne)
    obtain rfl := h.unique hcall hj rfl rfl
    obtain ⟨-, rfl, -⟩ : call = call' ∧ req.ticket = ticket' ∧ header = header' := by
      simpa using hcall.symm.trans hj
    exact harrived (h.receivedArrived _ hreceived)
  refine ⟨⟨?_, h.success, h.failure⟩, h.holder, h.locking, ?_, ?_, ?_, ?_, ?_, hfirmware, honce, harrivedLt, ?_⟩
  · exact fun j call' ticket' hj => absurd hj (hreading j call' ticket')
  · intro j call' ticket' header' hj
    obtain ⟨hlt', hreqs⟩ := h.waiting j call' ticket' header' hj
    exact ⟨hlt', fun r hr => hreqs r (hmem r hr)⟩
  · intro j call' ticket' header' hj _
    obtain rfl := h.unique hcall hj rfl rfl
    obtain ⟨-, rfl, -⟩ : call = call' ∧ req.ticket = ticket' ∧ header = header' := by
      simpa using hcall.symm.trans hj
    exact Or.inl rfl
  · intro j call' ticket' header' hj
    obtain rfl := h.unique hcall hj rfl rfl
    cases hcall.symm.trans hj
  · intro ticket hsome
    cases hsome
    exact ⟨hzero, List.mem_cons_self, i, call, header, hcall, rfl, hresp.trans hheader⟩
  · exact fun hpos => absurd hzero (Nat.pos_iff_ne_zero.mp hpos)
  · exact fun ticket hr => List.mem_cons_of_mem _ (h.receivedArrived ticket hr)

theorem CaptureControlInv.signal (hcopied : s.copied = some ticket) :
    CaptureControlInv u { s with
      capture := { s.capture with controlResp := s.capture.controlResp + 1 }
      copied := none
      received := ticket :: s.received } := by
  obtain ⟨hzero, harrived, i, call, header, hcall, hown, hheader⟩ := h.copied ticket hcopied
  refine ⟨⟨?_, ?_, h.failure⟩, h.holder, h.locking, h.waiting, ?_, ?_, ?_, ?_, h.firmware, h.once,
    h.arrivedLt, ?_⟩
  · intro j call' ticket' hj
    obtain ⟨hreceived, hresp⟩ := h.own j call' ticket' hj
    exact ⟨List.mem_cons_of_mem _ hreceived, hresp⟩
  · intro r hr herr
    obtain ⟨ticket', hmem, hrest⟩ := h.success r hr herr
    exact ⟨ticket', List.mem_cons_of_mem _ hmem, hrest⟩
  · exact fun _ _ _ _ _ _ => Or.inr (Nat.succ_pos _)
  · intro j call' ticket' header' hj
    obtain rfl := h.unique hcall hj rfl rfl
    cases hcall.symm.trans hj
  · nofun
  · intro _
    refine ⟨by simp [hzero], rfl, i, call, ticket, header, hcall, List.mem_cons_self, hown, hheader⟩
  · intro ticket' hin
    rcases List.mem_cons.mp hin with rfl | hold
    · exact harrived
    · exact h.receivedArrived ticket' hold

end

theorem captureAnswer_careful (hfirm : s.atFirmware = req :: rest) {words : List U32}
    (h : captureControlCareful s (.answer words)) : (req.header.channelId ∈ s.registered →
      (∃ (i : ℕ) (call : CaptureControlCall) (header : CaptureMsgHeader),
        s.calls[i]? = some (.waiting call req.ticket header)) ∧
        ∀ (j : ℕ) call ticket, s.calls[j]? ≠ some (.reading call ticket)) ∧
      (req.header.channelId ∉ s.registered →
        ∀ (i : ℕ) call header, s.calls[i]? ≠ some (.waiting call req.ticket header)) := by
  simp only [captureControlCareful, hfirm, List.head?_cons, Option.all_some] at h
  constructor
  · intro hreg
    rw [if_pos hreg, Bool.and_eq_true] at h
    obtain ⟨hany, hall⟩ := h
    constructor
    · obtain ⟨stage, hmem, hwaits⟩ := List.any_eq_true.mp hany
      obtain ⟨i, hi⟩ := List.mem_iff_getElem?.mp hmem
      cases stage with
      | waiting call ticket header =>
        have hticket : ticket = req.ticket := by simpa [CaptureControlStage.waitsFor] using hwaits
        subst hticket
        exact ⟨i, call, header, hi⟩
      | idle | locking call msg respId | comparing call ticket header | reading call ticket => cases hwaits
    · intro j call ticket hj
      have hread := List.all_eq_true.mp hall _ (List.mem_of_getElem? hj)
      cases hread
  · intro hreg i call header hi
    rw [if_neg hreg, Bool.not_eq_true', List.any_eq_false] at h
    exact h _ (List.mem_of_getElem? hi) (by simp [CaptureControlStage.waitsFor])

/-- **A careful step keeps the invariant.** -/
theorem captureControlInv_step (u : CaptureUnit) (s : CaptureControlState) (op : CaptureControlOp)
    (s' : CaptureControlState) (h : CaptureControlInv u s) (hcareful : captureControlCareful s op)
    (hstep : captureControlStep u s op = some s') : CaptureControlInv u s' := by
  cases op with
  | call i call =>
    simp only [captureControlStep] at hstep
    split at hstep
    · rename_i hidle
      exact h.enter hidle hcareful hstep
    · cases hstep
  | submit i err held =>
    simp only [captureControlStep] at hstep
    split at hstep
    · rename_i call msg respId hcall
      split at hstep
      · cases hstep
      rename_i hlock
      split at hstep
      · rename_i herr
        cases hstep
        exact h.done (failed_aside u s call) hcall rfl (captureResultRight_unsent s herr.ne _ _)
      cases hstep
      have hsize : CaptureControlMsg.HEADER_SIZE ≤ msg.size := by
        simpa [captureControlCareful, hcall] using hcareful
      exact h.submit hcall (by simpa using hlock) hsize held
    · cases hstep
  | wake i =>
    simp only [captureControlStep] at hstep
    split at hstep
    · rename_i call ticket header hcall
      split at hstep
      · cases hstep
      · rename_i hpos
        cases hstep
        exact h.wake hcall (Nat.pos_of_ne_zero hpos)
    · cases hstep
  | timeout i =>
    simp only [captureControlStep] at hstep
    split at hstep
    · rename_i call ticket header hcall
      obtain ⟨hzero, rfl⟩ := Option.ite_some_none_eq_some.mp hstep
      exact h.timeout hcall hzero hcareful
    · cases hstep
  | compare i =>
    simp only [captureControlStep] at hstep
    split at hstep
    · rename_i call ticket header hcall
      have hheader := (h.comparing i call ticket header hcall).2.2.1
      rw [if_pos hheader.symm, Option.some.injEq] at hstep
      subst hstep
      exact h.compare hcall
    · cases hstep
  | read i notifies registers =>
    simp only [captureControlStep] at hstep
    split at hstep
    · rename_i call ticket hcall
      cases hstep
      exact h.finish hcall notifies registers
    · cases hstep
  | answer words =>
    simp only [captureControlStep] at hstep
    split at hstep
    · rename_i req rest hcopied hfirm
      obtain ⟨hreg, hdrop⟩ := captureAnswer_careful hfirm hcareful
      obtain ⟨-, -, haccepts⟩ := h.firmware req (by rw [hfirm]; exact List.mem_cons_self)
      split at hstep
      · rename_i hgo
        have hin : req.header.channelId ∈ s.registered :=
          of_decide_eq_true (Bool.and_eq_true_iff.mp hgo).1
        cases hstep
        obtain ⟨⟨i, call, header, hcall⟩, hreading⟩ := hreg hin
        exact h.copy hfirm hcall hreading rfl
      rename_i hno
      cases hstep
      apply h.drop hfirm
      apply hdrop
      intro hin
      apply hno
      exact Bool.and_eq_true_iff.mpr ⟨decide_eq_true hin, haccepts⟩
    · cases hstep
  | signal =>
    obtain ⟨ticket, hcopied, rfl⟩ := Option.map_eq_some_iff.mp hstep
    exact h.signal hcopied

theorem captureControlInv_start (u : CaptureUnit) (threads : ℕ) :
    CaptureControlInv u (captureControlStart threads) := by
  have hidle {i : ℕ} {stage : CaptureControlStage}
      (hi : (captureControlStart threads).calls[i]? = some stage) : stage = .idle :=
    List.eq_of_mem_replicate (List.mem_of_getElem? hi)
  refine ⟨⟨?_, ?_, ?_⟩, ?_, ?_, ?_, ?_, ?_, ?_, ?_, ?_, ?_, ?_, ?_⟩
  · exact fun i call ticket hi => absurd (hidle hi) (by simp)
  · exact fun r hr => absurd hr (by simp [captureControlStart])
  · exact fun r hr => absurd hr (by simp [captureControlStart])
  · intro i stage hi hstage
    rw [hidle hi] at hstage
    cases hstage
  · exact fun i call msg respId hi => absurd (hidle hi) (by simp)
  · exact fun i call ticket header hi => absurd (hidle hi) (by simp)
  · exact fun i call ticket header hi => absurd (hidle hi) (by simp)
  · exact fun i call ticket header hi => absurd (hidle hi) (by simp)
  · exact fun ticket hsome => absurd hsome (by simp [captureControlStart])
  · exact fun hpos => absurd hpos (by simp [captureControlStart])
  · exact fun req hreq => absurd hreq (by simp [captureControlStart])
  · simp [captureControlStart]
  · exact fun ticket hmem => absurd hmem (by simp [captureControlStart])
  · exact fun ticket hmem => absurd hmem (by simp [captureControlStart])

/-- **Control requests get their own responses** in every run whose responses come while their own thread
waits, and no other caller has still to read one. -/
theorem capture_control_own_response (u : CaptureUnit) {threads : ℕ} {ops : List CaptureControlOp}
    {s : CaptureControlState}
    (hcareful : AllSteps (captureControlStep u) captureControlCareful (captureControlStart threads) ops)
    (hrun : run (captureControlStep u) (captureControlStart threads) ops = some s) : CaptureControlSound s :=
  (run_invariant_of_allSteps (captureControlInv_step u) (captureControlInv_start u threads) hcareful
    hrun).toCaptureControlSound

/-- A channel is set up and reset, and the reset is answered late. -/
def captureSetupOps : List CaptureControlOp :=
  [.call 0 (.setup 88 (0, 0, 0)), .submit 0 0 ⟨0, 0⟩, .answer [0, 3], .signal, .wake 0, .compare 0,
    .read 0 true true, .call 0 (.reset 0), .submit 0 0 ⟨0, 0⟩]

theorem capture_control_own_response_reset : ∃ s, run (captureControlStep .vi) (captureControlStart 2)
        (captureSetupOps ++ [.answer [0], .signal, .wake 0, .compare 0, .read 0 true true]) = some s ∧
      CaptureControlSound s := by
  have hrun : (run (captureControlStep .vi) (captureControlStart 2)
      (captureSetupOps ++ [.answer [0], .signal, .wake 0, .compare 0, .read 0 true true])).isSome =
        true := by
    decide +kernel
  obtain ⟨s, hs⟩ := Option.isSome_iff_exists.mp hrun
  exact ⟨s, hs, capture_control_own_response .vi (by decide +kernel) hs⟩

/-- The second of a reset is over before its response comes, and the next reset takes that response for its
own. -/
theorem capture_control_late_response : ∃ s, run (captureControlStep .vi) (captureControlStart 2)
        (captureSetupOps ++ [.timeout 0, .call 0 (.reset 0), .submit 0 0 ⟨0, 0⟩, .answer [0], .signal,
          .wake 0, .compare 0]) = some s ∧
      s.calls[0]? = some (.reading (.reset 0) 2) ∧ 2 ∉ s.received ∧ ¬ CaptureControlSound s := by
  refine exists_of_map (fun s => (s.calls[0]?, s.received)) (some (.reading (.reset 0) 2), [1, 0])
    (by decide +kernel) fun s hs hend => ?_
  obtain ⟨hcall, hreceived⟩ := Prod.mk.inj hend
  have hnot : 2 ∉ s.received := by
    rw [hreceived]
    simp
  exact ⟨hcall, hnot, fun h => hnot (h.own 0 _ 2 hcall).1⟩

end NvidiaOot.Analysis
