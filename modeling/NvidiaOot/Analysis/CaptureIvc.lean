import NvidiaOot.Library.Positions
import NvidiaOot.Model.Capture

/-!
# What holds of callback contexts

For each transaction identifier there is one ticket: it is on the list of available contexts, a call
under way holds it, or a registration is in it.  In the same way each registration is in one context,
is being ended by one call, or is gone.
-/

namespace NvidiaOot.Analysis

open Library Program Model

variable {w : CivcWorker} {old : TegraCaptureIvcCbCtx} {gone : List ℕ} {chan : U32} {cbFunc privContext : ℕ}

/-! ## The contexts -/

structure CtxChanged (civc civc' : TegraCaptureIvc) (id : ℕ) (old new : Option TegraCaptureIvcCbCtx) :
    Prop where
  avl : civc'.avlCtxList = civc.avlCtxList
  refs : civc'.runtimeRefs = civc.runtimeRefs
  length : civc'.cbCtx.length = civc.cbCtx.length
  before : civc.ctx id = old
  after : ∀ j, civc'.ctx j = if j = id then new else civc.ctx j
  count : ∀ p : Option TegraCaptureIvcCbCtx → Bool,
    civc'.cbCtx.countP p + (p old).toNat = civc.cbCtx.countP p + (p new).toNat

variable {civc civc' : TegraCaptureIvc} {id chanId transId : ℕ}

theorem getElem?_of_ctx (hlt : id < civc.cbCtx.length) : civc.cbCtx[id]? = some (civc.ctx id) := by
  simp [TegraCaptureIvc.ctx, List.getElem?_eq_getElem hlt]

theorem lt_of_ctx (h : civc.ctx id = some old) : id < civc.cbCtx.length := by
  by_contra hge
  simp [TegraCaptureIvc.ctx, List.getElem?_eq_none (Nat.le_of_not_lt hge)] at h

theorem ctxChanged_set (hlt : id < civc.cbCtx.length) (new : Option TegraCaptureIvcCbCtx) :
    CtxChanged civc { civc with cbCtx := civc.cbCtx.set id new } id (civc.ctx id) new where
  avl := rfl
  refs := rfl
  length := List.length_set
  before := rfl
  after := by
    intro j
    by_cases hj : j = id
    · simp [TegraCaptureIvc.ctx, hj, hlt]
    · simp [TegraCaptureIvc.ctx, hj, List.getElem?_set_ne (Ne.symm hj)]
  count := fun p => countP_set_of_getElem p (getElem?_of_ctx hlt) new

theorem setCb_eq_some {new : TegraCaptureIvcCbCtx} (hlt : id < civc.cbCtx.length)
    (h : civc.setCb id new = some civc') : CtxChanged civc civc' id none (some new) := by
  simp only [TegraCaptureIvc.setCb] at h
  split at h
  · cases h
  rename_i hidle
  cases h
  have hchanged := ctxChanged_set hlt (some new)
  rwa [Option.not_isSome_iff_eq_none.mp hidle] at hchanged

theorem clearCb_eq_ok (h : civc.clearCb id = .ok (old, civc')) : CtxChanged civc civc' id (some old) none := by
  simp only [TegraCaptureIvc.clearCb] at h
  split at h
  · cases h
  rename_i old' hold
  obtain ⟨rfl, rfl⟩ := h
  have hchanged := ctxChanged_set (lt_of_ctx hold) none
  rwa [hold] at hchanged

theorem moveCb_eq_ok (hchan : chanId < civc.cbCtx.length) (hne : chanId ≠ transId)
    (h : civc.moveCb chanId transId = .ok civc') : ∃ (mid : TegraCaptureIvc) (old : TegraCaptureIvcCbCtx),
      CtxChanged civc mid chanId none (some old) ∧ CtxChanged mid civc' transId (some old) none := by
  simp only [TegraCaptureIvc.moveCb] at h
  split at h
  · cases h
  rename_i old hold
  split at h
  · cases h
  rename_i hidle
  cases h
  have hset := ctxChanged_set hchan (some old)
  rw [Option.not_isSome_iff_eq_none.mp hidle] at hset
  have hmid := hset.after transId
  rw [if_neg (Ne.symm hne), hold] at hmid
  have hclear := ctxChanged_set (lt_of_ctx hmid) none
  rw [hmid] at hclear
  exact ⟨_, old, hset, hclear⟩

/-! ## The invariant -/

/-- The context is a transaction context with no registration in it. -/
def isFree (civc : TegraCaptureIvc) (id : ℕ) : Bool := ctxIdIsTransaction id && (civc.ctx id).isNone

def carries (r : ℕ) (o : Option TegraCaptureIvcCbCtx) : Bool := o.any fun old => old.registration = r

def made (registrations r : ℕ) : ℕ := if r < registrations then 1 else 0

/-- What the worker has read is still registered, or its end has not returned. -/
def WorkerSound (civc : TegraCaptureIvc) (gone : List ℕ) : CivcWorker → Prop
  | .tested id => (civc.ctx id).isSome = true
  | .func id cbFunc => cbFunc.isSome = true ∧ civc.ctx id = cbFunc
  | .ready cbFunc privContext =>
    ∃ old, cbFunc = some old ∧ privContext = cbFunc ∧ old.registration ∉ gone
  | _ => True

/-- A call sets a capture context only in the range of these. -/
def CallInRange : CivcCall → Prop
  | .setCapture chanId _ _ => chanId < NUM_CAPTURE_CHANNELS
  | _ => True

structure CivcTracked (s : CivcRun) : Prop where
  length : s.civc.cbCtx.length = TOTAL_CHANNELS
  tickets : ∀ id, s.civc.avlCtxList.count id + s.calls.countP (CivcCall.holdsCtx id) =
    (isFree s.civc id).toNat
  refs : s.civc.runtimeRefs = s.owed
  registrations : ∀ r, s.civc.cbCtx.countP (carries r) + s.calls.countP (CivcCall.ends r) +
    s.gone.count r ≤ made s.registrations r
  worker : WorkerSound s.civc s.gone s.worker
  range : ∀ c ∈ s.calls, CallInRange c
  delivered : ∀ d ∈ s.delivered, d.cbFunc.isSome = true ∧ d.privContext = d.cbFunc ∧ d.late = false

theorem CivcTracked.sound {s : CivcRun} (h : CivcTracked s) : s.Sound where
  available := by
    intro id
    have ht := h.tickets id
    have hfree : ctxIdIsTransaction id = true ∧ s.inUse id = false ↔
        isFree s.civc id = true ∧ s.calls.countP (CivcCall.holdsCtx id) = 0 := by
      simp [isFree, CivcRun.inUse, and_assoc]
    split
    · rename_i hcond
      obtain ⟨hidle, hnone⟩ := hfree.mp hcond
      simpa [hidle, hnone] using ht
    rename_i hcond
    by_contra hlisted
    have hle := Bool.toNat_le (isFree s.civc id)
    refine hcond (hfree.mpr ⟨?_, by omega⟩)
    rw [← Bool.toNat_eq_one]
    omega
  refs := h.refs
  registered := fun d hd => ⟨(h.delivered d hd).1, (h.delivered d hd).2.1⟩
  notLate := fun d hd => (h.delivered d hd).2.2

theorem count_addCtx (id j : ℕ) :
    (civc.addCtx id).avlCtxList.count j = civc.avlCtxList.count j + (decide (id = j)).toNat := by
  rw [TegraCaptureIvc.addCtx, List.count_append, List.count_singleton]
  by_cases hj : id = j <;> simp [hj]

/-! ## What the worker has read -/

section

variable (h : WorkerSound civc gone w)

include h

theorem WorkerSound.isSome
    (hreads : w.reads id = true) : (civc.ctx id).isSome = true := by
  cases w with
  | tested id' =>
    have heq : id' = id := by simpa [CivcWorker.reads] using hreads
    exact heq ▸ h
  | func id' cbFunc =>
    have heq : id' = id := by simpa [CivcWorker.reads] using hreads
    rw [← heq, h.2]
    exact h.1
  | asleep | receiving | received id' | ready cbFunc privContext => simp [CivcWorker.reads] at hreads

theorem WorkerSound.reads_of_idle
    (hidle : civc.ctx id = none) : w.reads id = false := by
  by_contra hreads
  have hsome := h.isSome (Bool.eq_true_of_not_eq_false hreads)
  simp [hidle] at hsome

theorem WorkerSound.of_ctx
    (hctx : ∀ id, w.reads id = true → civc'.ctx id = civc.ctx id) : WorkerSound civc' gone w := by
  cases w with
  | tested id =>
    have heq := hctx id (by simp [CivcWorker.reads])
    rw [WorkerSound, heq]
    exact h
  | func id cbFunc =>
    have heq := hctx id (by simp [CivcWorker.reads])
    exact ⟨h.1, heq.trans h.2⟩
  | asleep | receiving | received id => trivial
  | ready cbFunc privContext => exact h

end

theorem WorkerSound.of_gone {r : ℕ} (h : WorkerSound civc gone w)
    (hstarts : w.starts r = false) : WorkerSound civc (gone ++ [r]) w := by
  cases w with
  | ready cbFunc privContext =>
    obtain ⟨old, rfl, hcontext, hnotGone⟩ := h
    have hne : old.registration ≠ r := by simpa [CivcWorker.starts] using hstarts
    exact ⟨old, rfl, hcontext, by simp [hnotGone, hne]⟩
  | asleep | receiving | received id => trivial
  | tested id | func id cbFunc => exact h

/-! ## Steps that keep the contexts, and steps that change one -/

variable {s s' : CivcRun} {i : ℕ} {call call' : CivcCall}

theorem countP_begin (p : CivcCall → Bool) :
    (s.begin civc call).calls.countP p = s.calls.countP p + (p call).toNat :=
  countP_concat p s.calls call

theorem countP_next (hc : s.calls[i]? = some call) (p : CivcCall → Bool) :
    (s.next i civc call').calls.countP p + (p call).toNat = s.calls.countP p + (p call').toNat :=
  countP_set_of_getElem p hc call'

theorem countP_finish (hc : s.calls[i]? = some call) (result : CivcResult) (p : CivcCall → Bool) :
    s.calls.countP p = (s.finish i civc result).calls.countP p + (p call).toNat :=
  countP_eraseIdx p hc

section

variable (h : ∀ c ∈ s.calls, CallInRange c)

include h

theorem range_begin (hcall : CallInRange call) :
    ∀ c ∈ (s.begin civc call).calls, CallInRange c := by
  intro c hc
  rcases List.mem_append.mp hc with hc | hc
  · exact h c hc
  · rw [List.mem_singleton.mp hc]
    exact hcall

theorem range_next (hcall : CallInRange call') :
    ∀ c ∈ (s.next i civc call').calls, CallInRange c := by
  intro c hc
  rcases List.mem_or_eq_of_mem_set hc with hc | rfl
  · exact h c hc
  · exact hcall

theorem range_finish (result : CivcResult) :
    ∀ c ∈ (s.finish i civc result).calls, CallInRange c :=
  fun c hc => h c (List.mem_of_mem_eraseIdx hc)

end

/-- A call moves a ticket or a reference, or passes on the end of a registration. -/
theorem CivcTracked.of_calls (h : CivcTracked s) (hctx : s'.civc.cbCtx = s.civc.cbCtx)
    (hsame : s'.worker = s.worker) (hdelivered : s'.delivered = s.delivered)
    (hnumber : s'.registrations = s.registrations)
    (htickets : ∀ id, s'.civc.avlCtxList.count id + s'.calls.countP (CivcCall.holdsCtx id) =
      s.civc.avlCtxList.count id + s.calls.countP (CivcCall.holdsCtx id))
    (hrefs : s'.civc.runtimeRefs + s.calls.countP CivcCall.holdsRef =
      s.civc.runtimeRefs + s'.calls.countP CivcCall.holdsRef)
    (hends : ∀ r, s'.calls.countP (CivcCall.ends r) + s'.gone.count r =
      s.calls.countP (CivcCall.ends r) + s.gone.count r)
    (hworker : WorkerSound s.civc s'.gone s.worker) (hrange : ∀ c ∈ s'.calls, CallInRange c) : CivcTracked s' := by
  have hget : ∀ id, s'.civc.ctx id = s.civc.ctx id := fun id => by
    rw [TegraCaptureIvc.ctx, TegraCaptureIvc.ctx, hctx]
  constructor
  · rw [hctx]
    exact h.length
  · intro id
    rw [htickets id, h.tickets id, isFree, isFree, hget id]
  · have hbefore := h.refs
    rw [CivcRun.owed] at hbefore ⊢
    rw [hctx, hsame]
    omega
  · intro r
    have hbefore := h.registrations r
    have hmoved := hends r
    rw [hctx, hnumber]
    omega
  · rw [hsame]
    exact hworker.of_ctx fun id _ => hget id
  · exact hrange
  · rw [hdelivered]
    exact h.delivered

theorem CtxChanged.isFree_eq {old new : Option TegraCaptureIvcCbCtx}
    (h : CtxChanged civc civc' id old new) (j : ℕ) :
    isFree civc' j = if j = id then ctxIdIsTransaction j && new.isNone else isFree civc j := by
  rw [isFree, h.after j]
  split <;> rfl

/-- A registration comes into a context, or leaves it, in exchange for a ticket. -/
theorem CivcTracked.of_changed {old new : Option TegraCaptureIvcCbCtx} (h : CivcTracked s)
    (hchanged : CtxChanged s.civc s'.civc id old new) (hsame : s'.worker = s.worker)
    (hdelivered : s'.delivered = s.delivered) (hgone : s'.gone = s.gone)
    (htickets : ∀ j, s'.calls.countP (CivcCall.holdsCtx j) + (isFree s.civc j).toNat =
      s.calls.countP (CivcCall.holdsCtx j) + (isFree s'.civc j).toNat)
    (hrefs : s'.calls.countP CivcCall.holdsRef + new.isSome.toNat =
      s.calls.countP CivcCall.holdsRef + old.isSome.toNat)
    (hends : ∀ r, s'.calls.countP (CivcCall.ends r) + (carries r new).toNat + made s.registrations r ≤
      s.calls.countP (CivcCall.ends r) + (carries r old).toNat + made s'.registrations r)
    (hreads : s.worker.reads id = false) (hrange : ∀ c ∈ s'.calls, CallInRange c) : CivcTracked s' := by
  constructor
  · rw [hchanged.length]
    exact h.length
  · intro j
    have hbefore := h.tickets j
    have hmoved := htickets j
    rw [hchanged.avl]
    omega
  · have hbefore := h.refs
    have hcount := hchanged.count Option.isSome
    rw [CivcRun.owed] at hbefore ⊢
    rw [hchanged.refs, hsame]
    omega
  · intro r
    have hbefore := h.registrations r
    have hmoved := hends r
    have hcount := hchanged.count (carries r)
    rw [hgone]
    omega
  · rw [hsame, hgone]
    apply h.worker.of_ctx
    intro j hj
    rw [hchanged.after j, if_neg]
    rintro rfl
    rw [hreads] at hj
    cases hj
  · exact hrange
  · rw [hdelivered]
    exact h.delivered

/-! ## Calls that start -/

theorem CivcTracked.ret (h : CivcTracked s) (result : ℤ) : CivcTracked (s.ret result) :=
  ⟨h.length, h.tickets, h.refs, h.registrations, h.worker, h.range, h.delivered⟩

theorem CivcTracked.registers (h : CivcTracked s) (hholds : ∀ id, call.holdsCtx id = false)
    (href : call.holdsRef = true) (hends : ∀ r, call.ends r = false) (hcall : CallInRange call) :
    CivcTracked (s.begin s.civc.runtimeGet call) := by
  refine @CivcTracked.of_calls s (s.begin s.civc.runtimeGet call) h rfl rfl rfl rfl ?_ ?_ ?_ ?_ ?_
  · intro id
    rw [countP_begin, hholds id]
    simp [CivcRun.begin, TegraCaptureIvc.runtimeGet]
  · rw [countP_begin, href]
    simp only [CivcRun.begin, TegraCaptureIvc.runtimeGet, Bool.toNat_true]
    omega
  · intro r
    rw [countP_begin, hends r]
    simp [CivcRun.begin]
  · exact h.worker
  · exact range_begin h.range hcall

theorem civc_registerControlCb {cbFunc : Option ℕ} {transId : Bool} {pm : ℤ} (h : CivcTracked s)
    (hcareful : civcCareful s (.registerControlCb cbFunc transId privContext pm))
    (hstep : civcStep s (.registerControlCb cbFunc transId privContext pm) = some s') : CivcTracked s' := by
  simp only [civcStep] at hstep
  split at hstep
  · rename_i result hcheck
    exact (Option.some.inj hstep) ▸ h.ret result
  rename_i f hcheck
  have hpm := hcareful (by rw [hcheck]; rfl)
  rw [if_neg (by omega)] at hstep
  cases hstep
  apply h.registers <;> simp [CivcCall.holdsCtx, CivcCall.holdsRef, CivcCall.ends, CallInRange]

theorem civc_registerCaptureCb {cbFunc : Option ℕ} {pm : ℤ}
    (h : CivcTracked s) (hcareful : civcCareful s (.registerCaptureCb cbFunc chan privContext pm))
    (hstep : civcStep s (.registerCaptureCb cbFunc chan privContext pm) = some s') : CivcTracked s' := by
  simp only [civcStep] at hstep
  split at hstep
  · rename_i result hcheck
    exact (Option.some.inj hstep) ▸ h.ret result
  rename_i f hcheck
  have hpm := hcareful (by rw [hcheck]; rfl)
  have hrange : chan.toNat < NUM_CAPTURE_CHANNELS := by
    simp only [registerCaptureCbCheck] at hcheck
    split at hcheck
    · cases hcheck
    · split at hcheck
      · assumption
      · cases hcheck
  rw [if_neg (by omega)] at hstep
  cases hstep
  apply h.registers <;> simp [CivcCall.holdsCtx, CivcCall.holdsRef, CivcCall.ends, CallInRange, hrange]

theorem civc_notifyChanId {trans : U32} (h : CivcTracked s) (hcareful : civcCareful s (.notifyChanId chan trans))
    (hstep : civcStep s (.notifyChanId chan trans) = some s') : CivcTracked s' := by
  simp only [civcStep] at hstep
  split at hstep
  · rename_i hcheck
    split at hstep
    · rename_i result hmove
      exact (Option.some.inj hstep) ▸ h.ret result
    rename_i civc' hmove
    have hreads := hcareful hcheck (by rw [hmove]; rfl)
    simp only [notifyChanIdCheck, Bool.and_eq_true, decide_eq_true_iff] at hcheck
    obtain ⟨⟨hchan, htrans⟩, hlt⟩ := hcheck
    have hstart : TRANS_ID_START_IDX = NUM_CAPTURE_CHANNELS := rfl
    obtain ⟨mid, old, hset, hclear⟩ :=
      moveCb_eq_ok (by rw [h.length]; omega) (by omega) hmove
    cases hstep
    have hidle := h.worker.reads_of_idle hset.before
    constructor
    · exact (hclear.length.trans hset.length).trans h.length
    · intro id
      have hbefore := h.tickets id
      have hfree : isFree s.civc trans.toNat = false := by
        have hmid := hset.after trans.toNat
        rw [hclear.before, if_neg (by omega)] at hmid
        simp [isFree, ← hmid]
      have hchannel : ctxIdIsTransaction chan.toNat = false := by
        rw [ctxIdIsTransaction, decide_eq_false (by omega), Bool.false_and]
      have htransaction : ctxIdIsTransaction trans.toNat = true := by
        rw [ctxIdIsTransaction, decide_eq_true htrans, decide_eq_true hlt, Bool.true_and]
      rw [countP_begin]
      simp only [CivcRun.begin, hclear.avl, hset.avl, hclear.isFree_eq id, hset.isFree_eq id, CivcCall.holdsCtx]
      by_cases heq : id = trans.toNat
      · subst heq
        rw [hfree, Bool.toNat_false] at hbefore
        rw [if_pos rfl, decide_eq_true rfl, htransaction, Option.isNone_none, Bool.and_self, Bool.toNat_true]
        omega
      rw [if_neg heq, decide_eq_false (Ne.symm heq)]
      by_cases hchanEq : id = chan.toNat
      · subst hchanEq
        simpa [isFree, hchannel] using hbefore
      · simpa [hchanEq] using hbefore
    · have hbefore := h.refs
      have hcount := hclear.count Option.isSome
      have hcount' := hset.count Option.isSome
      rw [CivcRun.owed] at hbefore ⊢
      rw [countP_begin]
      simp only [CivcRun.begin, hclear.refs, hset.refs, CivcCall.holdsRef, Option.isSome_some,
        Option.isSome_none, Bool.toNat_true, Bool.toNat_false] at hcount hcount' ⊢
      omega
    · intro r
      have hbefore := h.registrations r
      have hcount := hclear.count (carries r)
      have hcount' := hset.count (carries r)
      rw [countP_begin]
      simp only [CivcRun.begin, CivcCall.ends, Bool.toNat_false]
      omega
    · apply h.worker.of_ctx
      intro id hid
      have hneTrans : id ≠ trans.toNat := by
        rintro rfl
        rw [hreads] at hid
        cases hid
      have hneChan : id ≠ chan.toNat := by
        rintro rfl
        rw [hidle] at hid
        cases hid
      change civc'.ctx id = s.civc.ctx id
      rw [hclear.after, if_neg hneTrans, hset.after, if_neg hneChan]
    · exact range_begin h.range trivial
    · exact h.delivered
  · exact (Option.some.inj hstep) ▸ h.ret _

/-- A registration that ends leaves its ticket, its reference and its number to the call. -/
theorem CivcTracked.clears (h : CivcTracked s)
    (hclear : s.civc.clearCb id = .ok (old, civc')) (hreads : s.worker.reads id = false)
    (hholds : ∀ j, call.holdsCtx j = (ctxIdIsTransaction id && decide (j = id)))
    (href : call.holdsRef = true) (hends : ∀ r, call.ends r = decide (old.registration = r))
    (hcall : CallInRange call) : CivcTracked (s.begin civc' call) := by
  have hchanged := clearCb_eq_ok hclear
  refine @CivcTracked.of_changed id s (s.begin civc' call) _ _ h hchanged rfl rfl rfl ?_ ?_ ?_ hreads
    (range_begin h.range hcall)
  · intro j
    have hfree := hchanged.isFree_eq j
    rw [countP_begin, hholds j]
    change _ = _ + (isFree civc' j).toNat
    rw [hfree]
    by_cases hj : j = id
    · subst hj
      simp [isFree, hchanged.before]
    · simp [hj]
  · rw [countP_begin, href]
    rfl
  · intro r
    rw [countP_begin, hends r]
    exact Nat.le_refl _

theorem civc_unregisterControlCb {u : U32} (h : CivcTracked s) (hcareful : civcCareful s (.unregisterControlCb u))
    (hstep : civcStep s (.unregisterControlCb u) = some s') : CivcTracked s' := by
  simp only [civcStep] at hstep
  split at hstep
  · rename_i hcheck
    have hlt : u.toNat < TOTAL_CHANNELS := by simpa [idIsChannel] using hcheck
    split at hstep
    · exact (Option.some.inj hstep) ▸ h.ret _
    rename_i old civc' hclear
    split at hstep
    · rename_i htrans
      cases hstep
      apply h.clears hclear hcareful
      · intro j
        simp [ctxIdIsTransaction, htrans, hlt, CivcCall.holdsCtx, eq_comm]
      · rfl
      · exact fun r => rfl
      · trivial
    rename_i hchannel
    cases hstep
    apply h.clears hclear hcareful
    · intro j
      simp [ctxIdIsTransaction, hchannel, CivcCall.holdsCtx]
    · rfl
    · exact fun r => rfl
    · trivial
  · exact (Option.some.inj hstep) ▸ h.ret _

section

variable (h : CivcTracked s)

include h

theorem civc_unregisterCaptureCb (hcareful : civcCareful s (.unregisterCaptureCb chan))
    (hstep : civcStep s (.unregisterCaptureCb chan) = some s') : CivcTracked s' := by
  simp only [civcStep] at hstep
  split at hstep
  · rename_i hcheck
    have hlt : chan.toNat < TRANS_ID_START_IDX := by
      simpa [unregisterCaptureCbCheck, TRANS_ID_START_IDX] using hcheck
    split at hstep
    · exact (Option.some.inj hstep) ▸ h.ret _
    rename_i old civc' hclear
    cases hstep
    apply h.clears hclear (hcareful hcheck)
    · intro j
      simp [ctxIdIsTransaction, Nat.not_le_of_lt hlt, CivcCall.holdsCtx]
    · rfl
    · exact fun r => rfl
    · trivial
  · exact (Option.some.inj hstep) ▸ h.ret _

/-! ## Calls that go on -/

section

variable (hc : s.calls[i]? = some call)

include hc

theorem CivcTracked.next
    (hctx : civc'.cbCtx = s.civc.cbCtx) (hrefs : civc'.runtimeRefs = s.civc.runtimeRefs)
    (htickets : ∀ id, civc'.avlCtxList.count id + (call'.holdsCtx id).toNat =
      s.civc.avlCtxList.count id + (call.holdsCtx id).toNat)
    (href : call'.holdsRef = call.holdsRef) (hends : ∀ r, call'.ends r = call.ends r)
    (hcall : CallInRange call') : CivcTracked (s.next i civc' call') := by
  refine @CivcTracked.of_calls s (s.next i civc' call') h hctx rfl rfl rfl ?_ ?_ ?_ h.worker
    (range_next h.range hcall)
  · intro id
    have hcount := @countP_next civc' s i call call' hc (CivcCall.holdsCtx id)
    have hticket := htickets id
    change civc'.avlCtxList.count id + _ = _
    omega
  · have hcount := @countP_next civc' s i call call' hc CivcCall.holdsRef
    rw [href] at hcount
    change civc'.runtimeRefs + _ = _
    omega
  · intro r
    have hcount := @countP_next civc' s i call call' hc (CivcCall.ends r)
    rw [hends r] at hcount
    change _ + s.gone.count r = _
    omega

theorem CivcTracked.finish (hctx : civc'.cbCtx = s.civc.cbCtx)
    (hrefs : civc'.runtimeRefs + call.holdsRef.toNat = s.civc.runtimeRefs)
    (htickets : ∀ id, civc'.avlCtxList.count id = s.civc.avlCtxList.count id + (call.holdsCtx id).toNat)
    (hends : ∀ r, call.ends r = false) (result : CivcResult) : CivcTracked (s.finish i civc' result) := by
  refine @CivcTracked.of_calls s (s.finish i civc' result) h hctx rfl rfl rfl ?_ ?_ ?_ h.worker
    (range_finish h.range result)
  · intro id
    have hcount := @countP_finish civc' s i call hc result (CivcCall.holdsCtx id)
    have hticket := htickets id
    change civc'.avlCtxList.count id + _ = _
    omega
  · have hcount := @countP_finish civc' s i call hc result CivcCall.holdsRef
    change civc'.runtimeRefs + _ = _
    omega
  · intro r
    have hcount := @countP_finish civc' s i call hc result (CivcCall.ends r)
    rw [hends r, Bool.toNat_false] at hcount
    change _ + s.gone.count r = _
    omega

theorem CivcTracked.sets (hlt : id < s.civc.cbCtx.length)
    (hset : s.civc.setCb id (s.newCtx cbFunc privContext) = some civc')
    (hholds : ∀ j, call.holdsCtx j = (ctxIdIsTransaction id && decide (j = id)))
    (href : call.holdsRef = true) (result : CivcResult) :
    CivcTracked { s.finish i civc' result with registrations := s.registrations + 1 } := by
  have hchanged := setCb_eq_some hlt hset
  refine @CivcTracked.of_changed id s
    { s.finish i civc' result with registrations := s.registrations + 1 } _ _ h hchanged rfl rfl rfl
    ?_ ?_ ?_ (h.worker.reads_of_idle hchanged.before) (@range_finish civc' s i h.range result)
  · intro j
    have hcount := @countP_finish civc' s i call hc result (CivcCall.holdsCtx j)
    have hfree := hchanged.isFree_eq j
    rw [hholds j] at hcount
    change (s.finish i civc' result).calls.countP _ + _ = _ + (isFree civc' j).toNat
    rw [hfree]
    by_cases hj : j = id
    · subst hj
      simp [isFree, hchanged.before] at hcount ⊢
      omega
    · simp [hj] at hcount ⊢
      omega
  · have hcount := @countP_finish civc' s i call hc result CivcCall.holdsRef
    rw [href] at hcount
    exact hcount.symm
  · intro r
    have hcount := @countP_finish civc' s i call hc result (CivcCall.ends r)
    have hnew : (carries r (some (s.newCtx cbFunc privContext))).toNat + made s.registrations r ≤
        made (s.registrations + 1) r := by
      by_cases hr : s.registrations = r <;> simp [carries, CivcRun.newCtx, made, hr]
      split <;> split <;> omega
    dsimp only
    omega

theorem CivcTracked.free_of_holds
    (hholds : call.holdsCtx id = true) : isFree s.civc id = true := by
  have hpos := countP_pos_of_getElem hc hholds
  have hbefore := h.tickets id
  rw [← Bool.toNat_eq_one]
  have hle := Bool.toNat_le (isFree s.civc id)
  omega

end

theorem CivcTracked.free_of_mem (hmem : id ∈ s.civc.avlCtxList) : isFree s.civc id = true := by
  have hpos := List.count_pos_iff.mpr hmem
  have hbefore := h.tickets id
  rw [← Bool.toNat_eq_one]
  have hle := Bool.toNat_le (isFree s.civc id)
  omega

theorem civc_takeCtx (hc : s.calls[i]? = some (.takeCtx cbFunc privContext)) :
    CivcTracked (s.goOn i (.takeCtx cbFunc privContext)) := by
  simp only [CivcRun.goOn, TegraCaptureIvc.takeCtx]
  cases havl : s.civc.avlCtxList with
  | nil =>
    apply h.next hc <;> simp [CivcCall.holdsCtx, CivcCall.holdsRef, CivcCall.ends, CallInRange]
  | cons id avl =>
    have hfree := h.free_of_mem (havl ▸ List.mem_cons_self)
    rw [isFree, Bool.and_eq_true] at hfree
    simp only [hfree.1, if_true]
    apply h.next hc
    · rfl
    · rfl
    · intro j
      by_cases hj : id = j <;> simp [havl, CivcCall.holdsCtx, hj]
    · rfl
    · exact fun r => rfl
    · trivial

end

theorem civc_setTrans {id' : ℕ} (h : CivcTracked s) (hc : s.calls[i]? = some (.setTrans id' cbFunc privContext)) :
    CivcTracked (s.goOn i (.setTrans id' cbFunc privContext)) := by
  have hfree := @CivcTracked.free_of_holds id' s i _ h hc (by simp [CivcCall.holdsCtx])
  rw [isFree, Bool.and_eq_true, Option.isNone_iff_eq_none] at hfree
  obtain ⟨htrans, hidle⟩ := hfree
  have hlt : id' < s.civc.cbCtx.length := by
    rw [ctxIdIsTransaction, Bool.and_eq_true, decide_eq_true_iff, decide_eq_true_iff] at htrans
    rw [h.length]
    exact htrans.2
  rw [CivcRun.goOn]
  split
  · rename_i hbusy
    simp [TegraCaptureIvc.setCb, hidle] at hbusy
  rename_i civc' hset
  apply h.sets hc hlt hset
  · intro j
    simp [CivcCall.holdsCtx, htrans, eq_comm]
  · rfl

theorem civc_setCapture {chan : ℕ} (h : CivcTracked s)
    (hc : s.calls[i]? = some (.setCapture chan cbFunc privContext)) :
    CivcTracked (s.goOn i (.setCapture chan cbFunc privContext)) := by
  have hrange : chan < NUM_CAPTURE_CHANNELS := h.range _ (List.mem_of_getElem? hc)
  have hchannel : ctxIdIsTransaction chan = false := by
    rw [ctxIdIsTransaction, TRANS_ID_START_IDX, decide_eq_false (Nat.not_le_of_lt hrange), Bool.false_and]
  have hlt : chan < s.civc.cbCtx.length := by
    rw [h.length, TOTAL_CHANNELS]
    omega
  rw [CivcRun.goOn]
  split
  · apply h.next hc <;> simp [CivcCall.holdsCtx, CivcCall.holdsRef, CivcCall.ends, CallInRange]
  rename_i civc' hset
  apply h.sets hc hlt hset
  · intro j
    simp [CivcCall.holdsCtx, hchannel]
  · rfl

theorem civc_putUnregistered {r : ℕ} (h : CivcTracked s)
    (hc : s.calls[i]? = some (.putUnregistered r)) (hstarts : s.worker.starts r = false) :
    CivcTracked (s.goOn i (.putUnregistered r)) := by
  refine @CivcTracked.of_calls s (s.goOn i (.putUnregistered r)) h rfl rfl rfl rfl ?_ ?_ ?_
    (h.worker.of_gone hstarts) (@range_finish s.civc.runtimePut s i h.range ⟨0, none⟩)
  · intro id
    have hcount := @countP_finish s.civc.runtimePut s i _ hc ⟨0, none⟩ (CivcCall.holdsCtx id)
    change s.civc.avlCtxList.count id + (s.finish i s.civc.runtimePut ⟨0, none⟩).calls.countP _ = _
    simp only [CivcCall.holdsCtx, Bool.toNat_false] at hcount
    omega
  · have hcount := @countP_finish s.civc.runtimePut s i _ hc ⟨0, none⟩ CivcCall.holdsRef
    change s.civc.runtimeRefs - 1 + _ =
      _ + ((s.finish i s.civc.runtimePut ⟨0, none⟩).calls.countP CivcCall.holdsRef : ℤ)
    simp only [CivcCall.holdsRef, Bool.toNat_true] at hcount
    omega
  · intro j
    have hcount := @countP_finish s.civc.runtimePut s i _ hc ⟨0, none⟩ (CivcCall.ends j)
    change (s.finish i s.civc.runtimePut ⟨0, none⟩).calls.countP _ + (s.gone ++ [r]).count j = _
    by_cases hj : r = j <;> simp [CivcCall.ends, hj] at hcount ⊢ <;> omega

section

variable (h : CivcTracked s)

include h

theorem civc_goOn (hcareful : civcCareful s (.goOn i))
    (hstep : civcStep s (.goOn i) = some s') : CivcTracked s' := by
  simp only [civcStep, Option.map_eq_some_iff] at hstep
  obtain ⟨call, hc, rfl⟩ := hstep
  cases call with
  | takeCtx cbFunc privContext => exact civc_takeCtx h hc
  | setTrans id cbFunc privContext => exact civc_setTrans h hc
  | setCapture chan cbFunc privContext => exact civc_setCapture h hc
  | putFail result =>
    apply h.finish hc <;> simp [TegraCaptureIvc.runtimePut, CivcCall.holdsRef, CivcCall.holdsCtx, CivcCall.ends]
  | addCtx id =>
    apply h.finish hc
    · rfl
    · simp [TegraCaptureIvc.addCtx, CivcCall.holdsRef]
    · exact count_addCtx id
    · exact fun r => rfl
  | addCtxPut id r =>
    apply h.next hc
    · rfl
    · rfl
    · exact count_addCtx id
    · rfl
    · exact fun r => rfl
    · trivial
  | putUnregistered r =>
    apply civc_putUnregistered h hc
    simpa [civcCareful, hc, CivcWorker.isOutrun] using hcareful

/-! ## The worker -/

theorem CivcTracked.of_worker (hrefs : w.refs = s.worker.refs)
    (hworker : WorkerSound s.civc s.gone w) : CivcTracked { s with worker := w } where
  length := h.length
  tickets := h.tickets
  refs := by
    have hbefore := h.refs
    rw [CivcRun.owed] at hbefore ⊢
    rw [hrefs]
    exact hbefore
  registrations := h.registrations
  worker := hworker
  range := h.range
  delivered := h.delivered

theorem civc_wake (hstep : civcStep s .wake = some s') : CivcTracked s' := by
  obtain ⟨hasleep, rfl⟩ := Option.ite_some_none_eq_some.mp hstep
  have hbefore := h.refs
  rw [CivcRun.owed, hasleep.1] at hbefore
  refine ⟨h.length, h.tickets, ?_, h.registrations, trivial, h.range, h.delivered⟩
  change s.civc.runtimeRefs + 1 = _ + _ + 1
  rw [hbefore]
  simp [CivcWorker.refs, TegraCaptureIvc.runtimeGet]

theorem civc_sleep (hstep : civcStep s .sleep = some s') : CivcTracked s' := by
  obtain ⟨hreceiving, rfl⟩ := Option.ite_some_none_eq_some.mp hstep
  have hbefore := h.refs
  rw [CivcRun.owed, hreceiving] at hbefore
  refine ⟨h.length, h.tickets, ?_, h.registrations, trivial, h.range, h.delivered⟩
  change s.civc.runtimeRefs - 1 = _ + _ + 0
  rw [hbefore]
  simp [CivcWorker.refs, TegraCaptureIvc.runtimePut]

end

theorem civc_receive {u : U32} (h : CivcTracked s) (hstep : civcStep s (.receive u) = some s') :
    CivcTracked s' := by
  obtain ⟨hreceiving, rfl⟩ := Option.ite_some_none_eq_some.mp hstep
  split
  · apply h.of_worker
    · rw [hreceiving]
      rfl
    · trivial
  · exact h

theorem CivcTracked.notMem_gone (h : CivcTracked s)
    (hctx : s.civc.ctx id = some old) : old.registration ∉ s.gone := by
  intro hmem
  have hbefore := h.registrations old.registration
  have hgone := List.count_pos_iff.mpr hmem
  have hget := getElem?_of_ctx (lt_of_ctx hctx)
  rw [hctx] at hget
  have hcarried : 0 < s.civc.cbCtx.countP (carries old.registration) :=
    countP_pos_of_getElem hget (by simp [carries])
  have hmade : made s.registrations old.registration ≤ 1 := by
    rw [made]
    split <;> omega
  omega

theorem civc_work (h : CivcTracked s) (hstep : civcStep s .work = some s') : CivcTracked s' := by
  simp only [civcStep, CivcRun.work] at hstep
  have hworker := h.worker
  split at hstep
  · cases hstep
  · cases hstep
  · rename_i id hphase
    cases hstep
    split
    · rename_i hsome
      apply h.of_worker
      · rw [hphase]
        rfl
      · exact hsome
    apply h.of_worker
    · rw [hphase]
      rfl
    · trivial
  · rename_i id hphase
    cases hstep
    rw [hphase] at hworker
    apply h.of_worker
    · rw [hphase]
      rfl
    · exact ⟨hworker, rfl⟩
  · rename_i id cbFunc hphase
    cases hstep
    rw [hphase] at hworker
    obtain ⟨hsome, hctx⟩ := hworker
    obtain ⟨old, rfl⟩ := Option.isSome_iff_exists.mp hsome
    apply h.of_worker
    · rw [hphase]
      rfl
    · exact ⟨old, rfl, hctx, h.notMem_gone hctx⟩
  · rename_i cbFunc privContext hphase
    cases hstep
    rw [hphase] at hworker
    obtain ⟨old, rfl, rfl, hnotGone⟩ := hworker
    have hnext : CivcTracked { s with worker := .receiving } := by
      apply h.of_worker
      · rw [hphase]
        rfl
      · trivial
    refine ⟨hnext.length, hnext.tickets, hnext.refs, hnext.registrations, trivial, hnext.range, ?_⟩
    intro d hd
    rcases List.mem_append.mp hd with hd | hd
    · exact h.delivered d hd
    · rw [List.mem_singleton.mp hd]
      simp [hnotGone]

/-! ## Runs -/

theorem civc_step {op : CivcOp} (h : CivcTracked s) (hcareful : civcCareful s op)
    (hstep : civcStep s op = some s') : CivcTracked s' := by
  cases op with
  | registerControlCb cbFunc transId privContext pm =>
    exact civc_registerControlCb h hcareful hstep
  | notifyChanId chan trans => exact civc_notifyChanId h hcareful hstep
  | registerCaptureCb cbFunc chan privContext pm => exact civc_registerCaptureCb h hcareful hstep
  | unregisterControlCb id => exact civc_unregisterControlCb h hcareful hstep
  | unregisterCaptureCb chan => exact civc_unregisterCaptureCb h hcareful hstep
  | goOn i => exact civc_goOn h hcareful hstep
  | wake => exact civc_wake h hstep
  | sleep => exact civc_sleep h hstep
  | receive id => exact civc_receive h hstep
  | work => exact civc_work h hstep

theorem civc_start : CivcTracked civcStart := by
  have hctx : ∀ id, tegraCaptureIvcProbe.ctx id = none := by
    intro id
    simp only [TegraCaptureIvc.ctx, tegraCaptureIvcProbe, List.getElem?_replicate]
    split <;> rfl
  constructor
  · exact List.length_replicate
  · intro id
    have hmem : id ∈ tegraCaptureIvcProbe.avlCtxList ↔ ctxIdIsTransaction id = true := by
      rw [ctxIdIsTransaction, Bool.and_eq_true, decide_eq_true_iff, decide_eq_true_iff]
      simp [tegraCaptureIvcProbe, TOTAL_CHANNELS, TRANS_ID_START_IDX, NUM_CAPTURE_CHANNELS]
    have hcount : tegraCaptureIvcProbe.avlCtxList.count id = (ctxIdIsTransaction id).toNat := by
      have hnodup : tegraCaptureIvcProbe.avlCtxList.Nodup := List.nodup_range'
      rw [hnodup.count]
      by_cases htrans : ctxIdIsTransaction id = true
      · rw [if_pos (hmem.mpr htrans), htrans, Bool.toNat_true]
      · rw [if_neg (mt hmem.mp htrans), Bool.eq_false_of_not_eq_true htrans, Bool.toNat_false]
    simp [isFree, civcStart, hctx id, hcount]
  · rfl
  · intro r
    simp [civcStart, tegraCaptureIvcProbe, List.countP_replicate, carries]
  · trivial
  · simp [civcStart]
  · simp [civcStart]

theorem captureDriver_get_set (d : CaptureIvcDriver) (s : CivcRun) (service service' : CaptureService) :
    (d.set s service).get service' = if service' = service then some s else d.get service' := by
  cases service <;> cases service' <;> rfl

/-- Each service that is there keeps its invariant. -/
def DriverTracked (d : CaptureIvcDriver) : Prop := ∀ service s, d.get service = some s → CivcTracked s

theorem driverTracked_step {d d' : CaptureIvcDriver} {op : CaptureService × CivcOp}
    (h : DriverTracked d) (hcareful : captureIvcCareful d op)
    (hstep : captureIvcStep d op = some d') : DriverTracked d' := by
  simp only [captureIvcStep] at hstep
  split at hstep
  · split at hstep
    · exact (Option.some.inj hstep) ▸ h
    · rename_i s hget
      obtain ⟨s', hs', rfl⟩ := Option.map_eq_some_iff.mp hstep
      rw [captureIvcCareful, hget] at hcareful
      have hnew := civc_step (h op.1 s hget) hcareful hs'
      intro service t ht
      rw [captureDriver_get_set] at ht
      split at ht
      · exact (Option.some.inj ht) ▸ hnew
      · exact h service t ht
  · cases hstep

/-- **Contexts of the capture channels.**  While devices resume, no context is cleared under the
worker and no call overtakes a callback, the available contexts are those not in use, each once, the
references are those of registrations and of what is under way, and each callback is called with the
context of its registration and before the end of the registration has returned. -/
theorem capture_contexts_sound {ops : List (CaptureService × CivcOp)} {d d' : CaptureIvcDriver}
    (hstart : ∀ service s, d.get service = some s → s = civcStart)
    (hcareful : AllSteps captureIvcStep captureIvcCareful d ops)
    (hrun : run captureIvcStep d ops = some d') : d'.Sound := by
  have htracked : DriverTracked d := fun service s hs => hstart service s hs ▸ civc_start
  have hend : DriverTracked d' :=
    run_invariant_of_allSteps (fun _ _ _ => driverTracked_step) htracked hcareful hrun
  exact fun service s hs => (hend service s hs).sound

/-- A registration, its message under both of its identifiers, and its end. -/
def captureRegistration : List (CaptureService × CivcOp) :=
  [(.control, .registerControlCb (some 7) true 9 0), (.control, .goOn 0), (.control, .goOn 0),
    (.control, .wake), (.control, .receive 88), (.control, .work), (.control, .work), (.control, .work),
    (.control, .notifyChanId 3 88), (.control, .work), (.control, .receive 3), (.control, .goOn 0),
    (.control, .work), (.control, .work), (.control, .work), (.control, .work),
    (.control, .unregisterControlCb 3), (.control, .goOn 0), (.control, .receive 3), (.control, .work),
    (.control, .sleep)]

def controlDeliveries (d : CaptureIvcDriver) : List CivcDelivery := (d.control.map CivcRun.delivered).getD []

theorem capture_contexts_sound_run :
    ∃ d, run captureIvcStep ⟨some civcStart, some civcStart⟩ captureRegistration = some d ∧ controlDeliveries d =
        [⟨some ⟨7, 9, 0⟩, some ⟨7, 9, 0⟩, false⟩, ⟨some ⟨7, 9, 0⟩, some ⟨7, 9, 0⟩, false⟩] ∧ d.Sound := by
  refine exists_of_map controlDeliveries
    [⟨some ⟨7, 9, 0⟩, some ⟨7, 9, 0⟩, false⟩, ⟨some ⟨7, 9, 0⟩, some ⟨7, 9, 0⟩, false⟩] (by decide +kernel)
    fun d hd hdelivered => ?_
  refine ⟨hdelivered, capture_contexts_sound ?_ (by decide +kernel) hd⟩
  intro service s hs
  cases service <;> exact (Option.some.inj hs).symm

/-- The registration ends between the test of its function and the call: `NULL` is called. -/
theorem capture_contexts_unregistered : ∃ d, run captureIvcStep ⟨some civcStart, some civcStart⟩
        [(.control, .registerControlCb (some 7) true 9 0), (.control, .goOn 0), (.control, .goOn 0),
          (.control, .wake), (.control, .receive 88), (.control, .work),
          (.control, .unregisterControlCb 88), (.control, .work), (.control, .work), (.control, .work)] = some d ∧
      ¬ d.Sound := by
  refine exists_of_map controlDeliveries [⟨none, none, false⟩] (by decide +kernel) fun d hd hdelivered => ?_
  intro hsound
  cases hcontrol : d.control with
  | none => simp [controlDeliveries, hcontrol] at hdelivered
  | some s =>
    simp only [controlDeliveries, hcontrol, Option.map_some, Option.getD_some] at hdelivered
    have hregistered := (hsound .control s hcontrol).registered ⟨none, none, false⟩ (by simp [hdelivered])
    simp at hregistered

end NvidiaOot.Analysis
