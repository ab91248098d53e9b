import Mathlib.Algebra.Order.BigOperators.Group.List
import NvidiaOot.Library.Positions
import NvidiaOot.Model.CaptureBuffers

/-!
# The reference counts of the buffer table

Three balances hold of each mapping: its count is that of its references, it has reached zero as often as a
call is about to unmap it or it was unmapped, and it is in the table, about to be unmapped, or unmapped.
A step changes each of them by what it changes of one call and of one mapping.
-/

namespace NvidiaOot.Analysis

open Library Program Model

variable {s : CaptureTableState} {changes : List CaptureChange} {c : CaptureCall} {purpose : CapturePurpose}
  {x : U32} {tab : CaptureBufferTable} {buf : DmaBuf} {next : CaptureNext} {i m map slot : ℕ}

/-! ## The flags of a mapping -/

theorem preserved_setPreserved (pin : CaptureMapping) (val : Bool) :
    (pin.setPreserved val).mappingPreserved = val := by
  cases val with
  | true =>
    have hadd : (pin.flag ||| BUFFER_ADD) &&& BUFFER_ADD = BUFFER_ADD := by
      ext i hi
      simp only [BitVec.getElem_and, BitVec.getElem_or]
      cases pin.flag[i] <;> simp
    simp only [CaptureMapping.mappingPreserved, CaptureMapping.setPreserved, if_true, hadd]
    decide
  | false =>
    have hclear : ~~~BUFFER_ADD &&& BUFFER_ADD = 0 := by decide
    simp [CaptureMapping.mappingPreserved, CaptureMapping.setPreserved, BitVec.and_assoc, hclear]

theorem preserved_of_compatible {flag : U32} (h : flagCompatible flag BUFFER_ADD = true) :
    flag &&& BUFFER_ADD ≠ 0 := by
  simp only [flagCompatible, decide_eq_true_eq] at h
  rw [h]
  decide

theorem accessMode_not_preserved (flag : U32) : flagAccessMode flag &&& BUFFER_ADD = 0 := by
  have hclear : BUFFER_RDWR &&& BUFFER_ADD = 0 := by decide
  simp [flagAccessMode, BitVec.and_assoc, hclear]

/-! ## The table -/

section

variable (tab : CaptureBufferTable)

@[simp]
theorem setMapping_self (pin : ℕ) (map : CaptureMapping) :
    (tab.setMapping pin map).mapping pin = map := by
  simp [CaptureBufferTable.setMapping]

theorem setMapping_of_ne {pin : ℕ} (map : CaptureMapping) (h : m ≠ pin) :
    (tab.setMapping pin map).mapping m = tab.mapping m := by
  simp [CaptureBufferTable.setMapping, h]

theorem setRefcnt_preserved (pin m : ℕ) (refcnt : U32) :
    ((tab.setRefcnt pin refcnt).mapping m).mappingPreserved = (tab.mapping m).mappingPreserved := by
  by_cases hm : m = pin
  · subst hm
    simp [CaptureBufferTable.setRefcnt, CaptureMapping.mappingPreserved]
  · rw [CaptureBufferTable.setRefcnt, setMapping_of_ne tab _ hm]

theorem setRefcnt_refcnt (pin m : ℕ) (refcnt : U32) :
    ((tab.setRefcnt pin refcnt).mapping m).refcnt = if m = pin then refcnt else (tab.mapping m).refcnt := by
  by_cases hm : m = pin
  · subst hm
    simp [CaptureBufferTable.setRefcnt]
  · rw [CaptureBufferTable.setRefcnt, setMapping_of_ne tab _ hm, if_neg hm]

theorem setPreserved_refcnt (pin m : ℕ) (val : Bool) :
    ((tab.setPreserved pin val).mapping m).refcnt = (tab.mapping m).refcnt := by
  by_cases hm : m = pin
  · subst hm
    simp [CaptureBufferTable.setPreserved, CaptureMapping.setPreserved]
  · rw [CaptureBufferTable.setPreserved, setMapping_of_ne tab _ hm]

theorem setPreserved_preserved (pin m : ℕ) (val : Bool) :
    ((tab.setPreserved pin val).mapping m).mappingPreserved =
      if m = pin then val else (tab.mapping m).mappingPreserved := by
  by_cases hm : m = pin
  · subst hm
    simp [CaptureBufferTable.setPreserved, preserved_setPreserved]
  · rw [CaptureBufferTable.setPreserved, setMapping_of_ne tab _ hm, if_neg hm]

end

theorem toNat_add_one (h : x ≠ 0xFFFFFFFF) : (x + 1).toNat = x.toNat + 1 := by
  bv_omega

theorem toNat_sub_one (h : 0 < x.toNat) : (x - 1).toNat = x.toNat - 1 := by
  bv_omega

/-! ## The stages of a call -/

/-- The call has taken the mapping out of the table, and unmaps it next. -/
def captureLeaves (m : ℕ) : CaptureStage → ℕ
  | .unmapping map _ => if map = m then 1 else 0
  | _ => 0

def captureNextStage : CaptureNext → CaptureStage
  | .unpin slot (map :: rest) => .putting map (.unpin slot rest)
  | _ => .idle

def CaptureFlagFits (tab : CaptureBufferTable) : CaptureStage → Prop
  | .got .remove map => (tab.mapping map).mappingPreserved = true
  | .preserving val map => (tab.mapping map).mappingPreserved = val
  | _ => True

/-- What a call has changed when it may still return an error. -/
def CaptureChangesFit : CaptureStage → List CaptureChange → Prop
  | .got _ map, changes => changes = [.taken map]
  | .putting map (.ret err), changes => err = 0 ∨ changes = [.taken map]
  | .zero map (.ret err), changes | .unmapping map (.ret err), changes =>
    err = 0 ∨ changes = [.taken map, .dropped map]
  | _, _ => True

/-- A call pins for one of the lists, and a removal inserts no mapping. -/
def CaptureSlotFits (slots : ℕ) : CaptureStage → Prop
  | .finding purpose _ | .got purpose _ => ∀ slot, purpose.slot = some slot → slot < slots
  | .inserting purpose _ => purpose ≠ .remove ∧ ∀ slot, purpose.slot = some slot → slot < slots
  | _ => True

def CaptureNet (changes : List CaptureChange) : Prop :=
  ∀ m, changes.count (.taken m) = changes.count (.dropped m) ∧ .flagged m ∉ changes

def captureZero (tab : CaptureBufferTable) (m : ℕ) : ℕ :=
  if m < tab.next ∧ (tab.mapping m).refcnt = 0 then 1 else 0

structure CaptureTableInv (s : CaptureTableState) : Prop where
  counted : ∀ m, (s.tab.mapping m).refcnt.toNat =
    (s.tab.mapping m).mappingPreserved.toNat + s.entries m + s.refs m
  ends : ∀ m, s.unmapped.count m + (s.calls.map fun call => call.stage.ending m).sum = captureZero s.tab m
  placed : ∀ m, s.tab.hhead.count m + s.unmapped.count m +
    (s.calls.map fun call => captureLeaves m call.stage).sum = if m < s.tab.next then 1 else 0
  fresh : ∀ m, s.tab.next ≤ m → (s.tab.mapping m).refcnt = 0
  reqLock : ∀ (i j : ℕ) a b, s.calls[i]? = some a → s.calls[j]? = some b → i ≠ j →
    a.stage.holdsReqLock = true → b.stage.holdsReqLock = false
  flags : ∀ call ∈ s.calls, CaptureFlagFits s.tab call.stage
  changes : ∀ call ∈ s.calls, CaptureChangesFit call.stage call.changes
  slots : ∀ call ∈ s.calls, CaptureSlotFits s.unpins.length call.stage
  failed : ∀ changes ∈ s.failures, CaptureNet changes
  expected : s.unexpected = false

theorem mem_calls_cases {l : List CaptureCall} {a b : CaptureCall} (h : a ∈ l.set i b) :
    a = b ∨ ∃ j, j ≠ i ∧ l[j]? = some a := by
  obtain ⟨j, hj⟩ := List.mem_iff_getElem?.mp h
  rcases getElem?_set_cases hj with ⟨-, heq⟩ | ⟨hne, hold⟩
  · exact Or.inl heq
  · exact Or.inr ⟨j, hne, hold⟩

/-- The flags fit other calls when the one that changed them holds the lock of the requests. -/
theorem flagFits_of_unlocked {stage : CaptureStage}
    (h : stage.holdsReqLock = false) : CaptureFlagFits tab stage := by
  cases stage with
  | got purpose map =>
    cases purpose with
    | remove => cases h
    | add flag | pin slot offset => trivial
  | preserving val map => cases h
  | _ => trivial

theorem flagFits_congr {tab' : CaptureBufferTable} {stage : CaptureStage}
    (heq : ∀ m, (tab'.mapping m).mappingPreserved = (tab.mapping m).mappingPreserved)
    (h : CaptureFlagFits tab stage) : CaptureFlagFits tab' stage := by
  cases stage with
  | got purpose map =>
    cases purpose with
    | remove => exact (heq map).trans h
    | add flag | pin slot offset => trivial
  | preserving val map => exact (heq map).trans h
  | _ => trivial

theorem CaptureTableInv.advance {s' : CaptureTableState} (h : CaptureTableInv s) (hcall : s.calls[i]? = some c) (c' : CaptureCall)
    (hcalls : s'.calls = s.calls.set i c') (hcount : ∀ m, (s'.tab.mapping m).refcnt.toNat +
        ((s.tab.mapping m).mappingPreserved.toNat + s.entries m + c.stage.refs m) = (s.tab.mapping m).refcnt.toNat +
        ((s'.tab.mapping m).mappingPreserved.toNat + s'.entries m + c'.stage.refs m))
    (hends : ∀ m, s'.unmapped.count m + c'.stage.ending m + captureZero s.tab m =
      s.unmapped.count m + c.stage.ending m + captureZero s'.tab m)
    (hplaced : ∀ m, s'.tab.hhead.count m + s'.unmapped.count m + captureLeaves m c'.stage +
        (if m < s.tab.next then 1 else 0) = s.tab.hhead.count m + s.unmapped.count m + captureLeaves m c.stage +
        (if m < s'.tab.next then 1 else 0)) (hfresh : ∀ m, s'.tab.next ≤ m → (s'.tab.mapping m).refcnt = 0)
    (hlock : c'.stage.holdsReqLock = true → c.stage.holdsReqLock = true ∨ s.reqLockFree = true)
    (hflags : c.stage.holdsReqLock = true ∨
      ∀ m, (s'.tab.mapping m).mappingPreserved = (s.tab.mapping m).mappingPreserved)
    (hflagFits : CaptureFlagFits s'.tab c'.stage) (hchanges : CaptureChangesFit c'.stage c'.changes)
    (hlength : s'.unpins.length = s.unpins.length) (hslots : CaptureSlotFits s.unpins.length c'.stage)
    (hfailed : ∀ changes ∈ s'.failures, changes ∈ s.failures ∨ CaptureNet changes)
    (hexpected : s'.unexpected = s.unexpected) : CaptureTableInv s' := by
  constructor
  · intro m
    have hsum := sum_map_set (fun call : CaptureCall => call.stage.refs m) hcall c'
    have hold := h.counted m
    have hstep := hcount m
    simp only [CaptureTableState.refs, hcalls] at hold ⊢
    omega
  · intro m
    have hsum := sum_map_set (fun call : CaptureCall => call.stage.ending m) hcall c'
    have hold := h.ends m
    have hstep := hends m
    rw [hcalls]
    omega
  · intro m
    have hsum := sum_map_set (fun call : CaptureCall => captureLeaves m call.stage) hcall c'
    have hold := h.placed m
    have hstep := hplaced m
    rw [hcalls]
    omega
  · exact hfresh
  · intro j k a b hj hk hne ha
    rw [hcalls] at hj hk
    -- The thread that went on holds the lock if it did so before, or if it was free.
    have hother {l : ℕ} {d : CaptureCall} (hl : s.calls[l]? = some d) (hli : l ≠ i)
        (hc' : c'.stage.holdsReqLock = true) : d.stage.holdsReqLock = false := by
      rcases hlock hc' with hheld | hfree
      · exact h.reqLock i l c d hcall hl (Ne.symm hli) hheld
      · simp only [CaptureTableState.reqLockFree, List.all_eq_true, Bool.not_eq_true'] at hfree
        exact hfree d (List.mem_of_getElem? hl)
    rcases getElem?_set_cases hj with ⟨rfl, rfl⟩ | ⟨hji, hj'⟩
    · rcases getElem?_set_cases hk with ⟨hkj, -⟩ | ⟨hki, hk'⟩
      · exact absurd hkj.symm hne
      · exact hother hk' hki ha
    rcases getElem?_set_cases hk with ⟨rfl, rfl⟩ | ⟨-, hk'⟩
    · by_contra hb
      rw [hother hj' hji (by simpa using hb)] at ha
      cases ha
    · exact h.reqLock j k a b hj' hk' hne ha
  · intro call hmem
    rw [hcalls] at hmem
    rcases mem_calls_cases hmem with rfl | ⟨j, hne, hj⟩
    · exact hflagFits
    · rcases hflags with hheld | hsame
      · exact flagFits_of_unlocked (h.reqLock i j c call hcall hj hne.symm hheld)
      · exact flagFits_congr hsame (h.flags call (List.mem_of_getElem? hj))
  · intro call hmem
    rw [hcalls] at hmem
    rcases mem_calls_cases hmem with rfl | ⟨j, hne, hj⟩
    · exact hchanges
    · exact h.changes call (List.mem_of_getElem? hj)
  · intro call hmem
    rw [hcalls] at hmem
    rw [hlength]
    rcases mem_calls_cases hmem with rfl | ⟨j, hne, hj⟩
    · exact hslots
    · exact h.slots call (List.mem_of_getElem? hj)
  · intro changes hmem
    rcases hfailed changes hmem with hold | hnet
    · exact h.failed changes hold
    · exact hnet
  · exact hexpected.trans h.expected

theorem CaptureTableInv.move (h : CaptureTableInv s) {failures : List (List CaptureChange)} (hcall : s.calls[i]? = some c)
    (c' : CaptureCall) (hrefs : ∀ m, c'.stage.refs m = c.stage.refs m)
    (hending : ∀ m, c'.stage.ending m = c.stage.ending m)
    (hleaves : ∀ m, captureLeaves m c'.stage = captureLeaves m c.stage)
    (hlock : c'.stage.holdsReqLock = true → c.stage.holdsReqLock = true ∨ s.reqLockFree = true)
    (hflagFits : CaptureFlagFits s.tab c'.stage) (hchanges : CaptureChangesFit c'.stage c'.changes)
    (hslots : CaptureSlotFits s.unpins.length c'.stage)
    (hfailed : ∀ changes ∈ failures, changes ∈ s.failures ∨ CaptureNet changes) :
    CaptureTableInv { s with calls := s.calls.set i c', failures := failures } := by
  apply h.advance hcall _ rfl
  · intro m
    rw [hrefs]
    rfl
  · intro m
    rw [hending]
  · intro m
    rw [hleaves]
  · exact h.fresh
  · exact hlock
  · exact Or.inr fun m => rfl
  · exact hflagFits
  · exact hchanges
  · rfl
  · exact hslots
  · exact hfailed
  · rfl

theorem CaptureTableInv.recount (h : CaptureTableInv s) {v : U32} {failures : List (List CaptureChange)} (hcall : s.calls[i]? = some c) (map : ℕ)
    (c' : CaptureCall) (hmap : map < s.tab.next)
    (hv : v.toNat + c.stage.refs map = (s.tab.mapping map).refcnt.toNat + c'.stage.refs map)
    (hrefs : ∀ m, m ≠ map → c'.stage.refs m = c.stage.refs m)
    (hzero : c'.stage.ending map + (if (s.tab.mapping map).refcnt = 0 then 1 else 0) =
      c.stage.ending map + (if v = 0 then 1 else 0)) (hending : ∀ m, m ≠ map → c'.stage.ending m = c.stage.ending m)
    (hleaves : ∀ m, captureLeaves m c'.stage = captureLeaves m c.stage)
    (hlock : c'.stage.holdsReqLock = true → c.stage.holdsReqLock = true)
    (hflagFits : CaptureFlagFits s.tab c'.stage) (hchanges : CaptureChangesFit c'.stage c'.changes)
    (hslots : CaptureSlotFits s.unpins.length c'.stage)
    (hfailed : ∀ changes ∈ failures, changes ∈ s.failures ∨ CaptureNet changes) : CaptureTableInv { s with
      tab := s.tab.setRefcnt map v
      calls := s.calls.set i c'
      failures := failures } := by
  apply h.advance hcall _ rfl
  · intro m
    show ((s.tab.setRefcnt map v).mapping m).refcnt.toNat + _ = _ +
      (((s.tab.setRefcnt map v).mapping m).mappingPreserved.toNat + s.entries m + _)
    rw [setRefcnt_preserved, setRefcnt_refcnt]
    by_cases hm : m = map
    · subst hm
      rw [if_pos rfl]
      omega
    · rw [if_neg hm, hrefs m hm]
  · intro m
    have hnext : (s.tab.setRefcnt map v).next = s.tab.next := rfl
    simp only [captureZero, setRefcnt_refcnt, hnext]
    by_cases hm : m = map
    · subst hm
      simp only [hmap, true_and, if_true]
      omega
    · simp only [if_neg hm, hending m hm]
  · intro m
    rw [hleaves]
    rfl
  · intro m hm
    have hne : m ≠ map := by
      have hle : s.tab.next ≤ m := hm
      omega
    rw [setRefcnt_refcnt, if_neg hne]
    exact h.fresh m hm
  · intro hc'
    exact Or.inl (hlock hc')
  · exact Or.inr (setRefcnt_preserved s.tab map · v)
  · exact flagFits_congr (setRefcnt_preserved s.tab map · v) hflagFits
  · exact hchanges
  · rfl
  · exact hslots
  · exact hfailed
  · rfl

/-! ## What the invariant says of a mapping -/

theorem refs_le_refs (hcall : s.calls[i]? = some c) (m : ℕ) : c.stage.refs m ≤ s.refs m := by
  have hsum := sum_map_eraseIdx (fun call : CaptureCall => call.stage.refs m) hcall
  simp only [CaptureTableState.refs]
  omega

theorem CaptureTableInv.lt_next (h : CaptureTableInv s) (hm : (s.tab.mapping m).refcnt ≠ 0) : m < s.tab.next := by
  by_contra hge
  exact hm (h.fresh m (by omega))

theorem refcnt_ne_zero (h : 0 < x.toNat) : x ≠ 0 := by
  rintro rfl
  cases h

theorem CaptureTableInv.refs_le (h : CaptureTableInv s) (hcall : s.calls[i]? = some c) (m : ℕ) :
    (s.tab.mapping m).mappingPreserved.toNat + c.stage.refs m ≤ (s.tab.mapping m).refcnt.toNat := by
  have hcount := h.counted m
  have hle := refs_le_refs hcall m
  omega

theorem findMapping_spec {flag : U32} (h : tab.findMapping buf flag = some map) :
    flagCompatible (tab.mapping map).flag flag = true ∧ (tab.mapping map).refcnt ≠ 0 := by
  have hp := List.find?_some h
  simp only [Bool.and_eq_true, decide_eq_true_eq] at hp
  exact ⟨hp.1.2, hp.2⟩

/-! ## The rest of a put -/

@[simp]
theorem idle_refs (m : ℕ) : CaptureStage.idle.refs m = 0 := rfl

@[simp]
theorem idle_ending (m : ℕ) : CaptureStage.idle.ending m = 0 := rfl

@[simp]
theorem idle_leaves (m : ℕ) : captureLeaves m .idle = 0 := rfl

@[simp]
theorem nextStage_refs (m : ℕ) (next : CaptureNext) : (captureNextStage next).refs m = next.refs m := by
  cases next with
  | ret err => rfl
  | unpin slot rest =>
    cases rest with
    | nil => rfl
    | cons map rest =>
      simp only [captureNextStage, CaptureStage.refs, CaptureNext.refs, List.count_cons, beq_iff_eq]
      exact Nat.add_comm _ _

@[simp]
theorem nextStage_ending (m : ℕ) (next : CaptureNext) : (captureNextStage next).ending m = 0 := by
  cases next with
  | ret err => rfl
  | unpin slot rest => cases rest <;> rfl

@[simp]
theorem nextStage_leaves (m : ℕ) (next : CaptureNext) : captureLeaves m (captureNextStage next) = 0 := by
  cases next with
  | ret err => rfl
  | unpin slot rest => cases rest <;> rfl

@[simp]
theorem nextStage_unlocked (next : CaptureNext) : (captureNextStage next).holdsReqLock = false := by
  cases next with
  | ret err => rfl
  | unpin slot rest => cases rest <;> rfl

theorem nextStage_changesFit (next : CaptureNext) (changes : List CaptureChange) :
    CaptureChangesFit (captureNextStage next) changes := by
  cases next with
  | ret err => trivial
  | unpin slot rest => cases rest <;> trivial

theorem nextStage_slotFits (next : CaptureNext) (slots : ℕ) : CaptureSlotFits slots (captureNextStage next) := by
  cases next with
  | ret err => trivial
  | unpin slot rest => cases rest <;> trivial

theorem captureNet_dropped (map : ℕ) : CaptureNet [.taken map, .dropped map] := by
  intro m
  by_cases hm : map = m
  · simp [hm]
  · simp [hm]

theorem captureNet_nil : CaptureNet [] := by
  intro m
  simp

theorem ret_failures {err : ℤ} (h : err = 0 ∨ CaptureNet changes) :
    ∀ x ∈ (if err = 0 then s.failures else s.failures ++ [changes]), x ∈ s.failures ∨ CaptureNet x := by
  intro x hx
  split at hx
  · exact Or.inl hx
  rename_i hne
  rcases List.mem_append.mp hx with hold | hnew
  · exact Or.inl hold
  · rw [List.mem_singleton.mp hnew]
    exact Or.inr (h.resolve_left hne)

theorem proceed_spec (s : CaptureTableState) (i : ℕ) (next : CaptureNext) (changes : List CaptureChange)
    (hnet : ∀ err, next = .ret err → err = 0 ∨ CaptureNet changes) : ∃ rest failures, s.proceed i next changes =
        { s with calls := s.calls.set i ⟨captureNextStage next, rest⟩, failures := failures } ∧
      ∀ x ∈ failures, x ∈ s.failures ∨ CaptureNet x := by
  cases next with
  | ret err => exact ⟨[], _, rfl, ret_failures (hnet err rfl)⟩
  | unpin slot rest =>
    cases rest with
    | nil => exact ⟨[], s.failures, rfl, fun x hx => Or.inl hx⟩
    | cons map rest => exact ⟨changes, s.failures, rfl, fun x hx => Or.inl hx⟩

/-! ## Steps -/

section

variable (h : CaptureTableInv s)

include h

theorem CaptureTableInv.ret {err : ℤ} (hcall : s.calls[i]? = some c)
    (hrefs : ∀ m, c.stage.refs m = 0) (hending : ∀ m, c.stage.ending m = 0)
    (hleaves : ∀ m, captureLeaves m c.stage = 0) (hnet : err = 0 ∨ CaptureNet changes) :
    CaptureTableInv (s.ret i err changes) := by
  apply h.move hcall ⟨.idle, []⟩
  · intro m
    rw [hrefs]
    rfl
  · intro m
    rw [hending]
    rfl
  · intro m
    rw [hleaves]
    rfl
  · nofun
  · trivial
  · trivial
  · trivial
  · exact ret_failures hnet

theorem CaptureTableInv.startFind (hcall : s.calls[i]? = some ⟨.idle, changes⟩) (buf : DmaBuf)
    (hlock : purpose.isRequest = true → s.reqLockFree = true)
    (hslots : ∀ slot, purpose.slot = some slot → slot < s.unpins.length) :
    CaptureTableInv (s.goto i (.finding purpose buf) []) := by
  apply h.move hcall ⟨.finding purpose buf, []⟩
  · simp [CaptureStage.refs]
  · simp [CaptureStage.ending]
  · simp [captureLeaves]
  · intro hc
    exact Or.inr (hlock hc)
  · trivial
  · trivial
  · exact hslots
  · exact fun x hx => Or.inl hx

theorem CaptureTableInv.startRequest (hcall : s.calls[i]? = some ⟨.idle, changes⟩)
    (hfree : s.reqLockFree = true) (flag : U32) (buf : Except ℤ DmaBuf) :
    CaptureTableInv (s.startRequest i flag buf) := by
  cases buf with
  | error err =>
    apply h.ret hcall
    · simp [CaptureStage.refs]
    · simp [CaptureStage.ending]
    · simp [captureLeaves]
    · exact Or.inr captureNet_nil
  | ok buf =>
    apply h.startFind hcall buf fun _ => hfree
    intro slot hslot
    split at hslot <;> cases hslot

theorem CaptureTableInv.startPin {unpins : List ℕ} (hcall : s.calls[i]? = some ⟨.idle, changes⟩)
    (hslot : s.unpins[slot]? = some unpins) (memHandle : U32) (memOffset : U64) (buf : Except ℤ DmaBuf) :
    CaptureTableInv (s.startPin i slot memHandle memOffset buf unpins) := by
  have hfail {err : ℤ} : CaptureTableInv (s.ret i err []) := by
    apply h.ret hcall
    · simp [CaptureStage.refs]
    · simp [CaptureStage.ending]
    · simp [captureLeaves]
    · exact Or.inr captureNet_nil
  unfold CaptureTableState.startPin
  split
  · exact h
  split
  · exact hfail
  cases buf with
  | error err => exact hfail
  | ok buf =>
    apply h.startFind hcall buf
    · nofun
    · intro slot' hslot'
      cases hslot'
      exact lt_of_getElem hslot

theorem CaptureTableInv.startUnpin {unpins : List ℕ} (hcall : s.calls[i]? = some ⟨.idle, changes⟩)
    (hslot : s.unpins[slot]? = some unpins) : CaptureTableInv
      ({ s with unpins := s.unpins.set slot [] }.proceed i (.unpin slot unpins) []) := by
  obtain ⟨rest, failures, heq, hfailures⟩ :=
    proceed_spec { s with unpins := s.unpins.set slot [] } i (.unpin slot unpins) [] (by simp)
  rw [heq]
  apply h.advance hcall _ rfl
  · intro m
    have hset := sum_map_set (fun list : List ℕ => list.count m) hslot []
    rw [nextStage_refs, idle_refs]
    simp only [CaptureNext.refs, CaptureTableState.entries]
    simp only [List.count_nil] at hset
    omega
  · simp
  · simp
  · exact h.fresh
  · simp
  · exact Or.inr fun m => rfl
  · exact flagFits_of_unlocked (nextStage_unlocked _)
  · exact nextStage_changesFit _ _
  · simp
  · exact nextStage_slotFits _ _
  · exact hfailures
  · rfl

theorem CaptureTableInv.find (hcall : s.calls[i]? = some ⟨.finding purpose buf, changes⟩)
    (hmax : ∀ map, s.tab.findMapping buf purpose.flag = some map →
      (s.tab.mapping map).refcnt ≠ 0xFFFFFFFF) : CaptureTableInv (s.find i purpose buf) := by
  have hslots := h.slots _ (List.mem_of_getElem? hcall)
  unfold CaptureTableState.find
  cases hfind : s.tab.findMapping buf purpose.flag with
  | some map =>
    obtain ⟨hflag, hne⟩ := findMapping_spec hfind
    have hadd := toNat_add_one (hmax map hfind)
    have hv : (s.tab.mapping map).refcnt + 1 ≠ 0 := refcnt_ne_zero (by omega)
    apply h.recount hcall map ⟨.got purpose map, [.taken map]⟩ (h.lt_next hne)
    · simp only [CaptureStage.refs, if_true]
      omega
    · intro m hm
      simp [CaptureStage.refs, Ne.symm hm]
    · rw [if_neg hne, if_neg hv]
      rfl
    · simp [CaptureStage.ending]
    · simp [captureLeaves]
    · exact id
    · cases purpose with
      | remove =>
        simp only [CaptureFlagFits, CaptureMapping.mappingPreserved, decide_eq_true_eq]
        exact preserved_of_compatible hflag
      | add flag | pin slot offset => trivial
    · rfl
    · exact hslots
    · exact fun x hx => Or.inl hx
  | none =>
    have hinsert (hpurpose : purpose ≠ .remove) :
        CaptureTableInv (s.goto i (.inserting purpose buf) []) := by
      apply h.move hcall ⟨.inserting purpose buf, []⟩
      · simp [CaptureStage.refs]
      · simp [CaptureStage.ending]
      · simp [captureLeaves]
      · exact Or.inl
      · trivial
      · trivial
      · exact ⟨hpurpose, hslots⟩
      · exact fun x hx => Or.inl hx
    cases purpose with
    | remove =>
      apply h.ret hcall
      · simp [CaptureStage.refs]
      · simp [CaptureStage.ending]
      · simp [captureLeaves]
      · exact Or.inr captureNet_nil
    | add flag | pin slot offset => exact hinsert (by simp)

theorem CaptureTableInv.not_made
    (hm : s.tab.next ≤ m) : (s.tab.mapping m).mappingPreserved = false ∧ s.entries m = 0 ∧ s.refs m = 0 := by
  have hcount := h.counted m
  have hzero : (s.tab.mapping m).refcnt.toNat = 0 := by simp [h.fresh m hm]
  refine ⟨?_, by omega, by omega⟩
  rw [← Bool.toNat_eq_zero]
  omega

theorem CaptureTableInv.insert
    (hcall : s.calls[i]? = some ⟨.inserting purpose buf, changes⟩) (sgt : Except ℤ (List SgEntry)) :
    CaptureTableInv (s.insert i purpose buf sgt) := by
  obtain ⟨hpurpose, hslots⟩ : purpose ≠ .remove ∧
    ∀ slot, purpose.slot = some slot → slot < s.unpins.length := h.slots _ (List.mem_of_getElem? hcall)
  cases sgt with
  | error err =>
    apply h.ret hcall
    · simp [CaptureStage.refs]
    · simp [CaptureStage.ending]
    · simp [captureLeaves]
    · exact Or.inr captureNet_nil
  | ok sgt =>
    have hother {m : ℕ} (hm : m ≠ s.tab.next) :
        (s.tab.addMapping buf purpose.flag sgt).mapping m = s.tab.mapping m :=
      setMapping_of_ne s.tab _ hm
    have hself : (s.tab.addMapping buf purpose.flag sgt).mapping s.tab.next = ⟨1, buf, sgt, purpose.flag⟩ :=
      setMapping_self s.tab _ _
    have hnext : (s.tab.addMapping buf purpose.flag sgt).next = s.tab.next + 1 := rfl
    have hflag : (⟨1, buf, sgt, purpose.flag⟩ : CaptureMapping).mappingPreserved = false := by
      cases purpose with
      | remove => exact absurd rfl hpurpose
      | add flag => simp [CaptureMapping.mappingPreserved, CapturePurpose.flag, accessMode_not_preserved]
      | pin slot offset =>
        show decide (BUFFER_RDWR &&& BUFFER_ADD ≠ 0) = false
        decide
    have hsame (m : ℕ) : ((s.tab.addMapping buf purpose.flag sgt).mapping m).mappingPreserved =
        (s.tab.mapping m).mappingPreserved := by
      by_cases hm : m = s.tab.next
      · subst hm
        rw [hself, hflag, (h.not_made (Nat.le_refl _)).1]
      · rw [hother hm]
    apply h.advance hcall ⟨.got purpose s.tab.next, [.taken s.tab.next]⟩ rfl
    · intro m
      show ((s.tab.addMapping buf purpose.flag sgt).mapping m).refcnt.toNat + _ = _ +
        (((s.tab.addMapping buf purpose.flag sgt).mapping m).mappingPreserved.toNat + s.entries m + _)
      rw [hsame]
      by_cases hm : m = s.tab.next
      · subst hm
        simp [hself, h.fresh s.tab.next (Nat.le_refl _), CaptureStage.refs]
        omega
      · simp [hother hm, CaptureStage.refs, Ne.symm hm]
    · intro m
      show s.unmapped.count m + 0 + captureZero s.tab m =
        s.unmapped.count m + 0 + captureZero (s.tab.addMapping buf purpose.flag sgt) m
      simp only [captureZero, hnext]
      by_cases hm : m = s.tab.next
      · subst hm
        simp [hself]
      · rw [hother hm]
        have hlt : m < s.tab.next + 1 ↔ m < s.tab.next := by omega
        simp only [hlt]
    · intro m
      show (s.tab.next :: s.tab.hhead).count m + s.unmapped.count m + 0 + _ =
        s.tab.hhead.count m + s.unmapped.count m + 0 + if m < s.tab.next + 1 then 1 else 0
      by_cases hm : m = s.tab.next
      · subst hm
        simp
        omega
      · have hlt : m < s.tab.next + 1 ↔ m < s.tab.next := by omega
        simp only [hlt, List.count_cons_of_ne (Ne.symm hm)]
    · intro m hm
      have hle : s.tab.next + 1 ≤ m := hm
      show ((s.tab.addMapping buf purpose.flag sgt).mapping m).refcnt = 0
      rw [hother (by omega)]
      exact h.fresh m (by omega)
    · exact Or.inl
    · exact Or.inr hsame
    · cases purpose with
      | remove => exact absurd rfl hpurpose
      | add flag | pin slot offset => trivial
    · rfl
    · rfl
    · exact hslots
    · exact fun x hx => Or.inl hx
    · rfl

end

theorem captureZero_setPreserved (tab : CaptureBufferTable) (pin m : ℕ) (val : Bool) :
    captureZero (tab.setPreserved pin val) m = captureZero tab m := by
  simp only [captureZero, setPreserved_refcnt]
  rfl

section

variable (h : CaptureTableInv s)

include h

theorem CaptureTableInv.writeFlags {changes' : List CaptureChange} {val : Bool}
    (hcall : s.calls[i]? = some ⟨.got purpose map, changes⟩) (hreq : purpose.isRequest = true)
    (hbefore : (s.tab.mapping map).mappingPreserved = !val) :
    CaptureTableInv ((s.setTab (s.tab.setPreserved map val)).goto i (.preserving val map) changes') := by
  apply h.advance hcall ⟨.preserving val map, changes'⟩ rfl
  · intro m
    show ((s.tab.setPreserved map val).mapping m).refcnt.toNat + _ = _ +
      (((s.tab.setPreserved map val).mapping m).mappingPreserved.toNat + s.entries m + _)
    rw [setPreserved_refcnt, setPreserved_preserved]
    by_cases hm : m = map
    · subst hm
      simp only [hbefore, CaptureStage.refs, if_true]
      cases val <;> simp <;> omega
    · simp [CaptureStage.refs, hm, Ne.symm hm]
  · intro m
    show s.unmapped.count m + 0 + captureZero s.tab m =
      s.unmapped.count m + 0 + captureZero (s.tab.setPreserved map val) m
    rw [captureZero_setPreserved]
  · intro m
    rfl
  · intro m hm
    exact (setPreserved_refcnt s.tab map m val).trans (h.fresh m hm)
  · intro hc
    exact Or.inl hreq
  · exact Or.inl hreq
  · show ((s.tab.setPreserved map val).mapping map).mappingPreserved = val
    rw [setPreserved_preserved, if_pos rfl]
  · trivial
  · rfl
  · trivial
  · exact fun x hx => Or.inl hx
  · rfl

theorem CaptureTableInv.record {offset : U64}
    (hcall : s.calls[i]? = some ⟨.got (.pin slot offset) map, changes⟩) :
    CaptureTableInv { s.ret i 0 changes with unpins := s.unpins.modify slot (· ++ [map]) } := by
  have hlt : slot < s.unpins.length := h.slots _ (List.mem_of_getElem? hcall) slot rfl
  have hslot : s.unpins[slot]? = some s.unpins[slot] := List.getElem?_eq_getElem hlt
  have hmodify : s.unpins.modify slot (· ++ [map]) = s.unpins.set slot (s.unpins[slot] ++ [map]) := by
    rw [List.modify_eq_set_getElem?, hslot]
    rfl
  rw [hmodify]
  apply h.advance hcall ⟨.idle, []⟩ rfl
  · intro m
    have hset := sum_map_set (fun list : List ℕ => list.count m) hslot (s.unpins[slot] ++ [map])
    have htab : (s.ret i 0 changes).tab = s.tab := rfl
    simp only [CaptureStage.refs, CaptureTableState.entries, htab]
    simp only [List.count_append, List.count_singleton, beq_iff_eq] at hset
    omega
  · intro m
    rfl
  · intro m
    rfl
  · exact h.fresh
  · nofun
  · exact Or.inr fun m => rfl
  · trivial
  · trivial
  · simp
  · trivial
  · exact fun x hx => Or.inl hx
  · rfl

theorem CaptureTableInv.useMapping (hcall : s.calls[i]? = some ⟨.got purpose map, changes⟩)
    (hpin : ∀ slot offset, purpose = .pin slot offset →
      ((s.tab.mapping map).surface offset).isOk = true) : CaptureTableInv (s.useMapping i purpose map changes) := by
  cases purpose with
  | add flag =>
    have hchanges := h.changes _ (List.mem_of_getElem? hcall)
    simp only [CaptureTableState.useMapping]
    split
    · apply h.move hcall ⟨.putting map (.ret (- eEXIST)), changes⟩
      · intro m
        rfl
      · intro m
        rfl
      · intro m
        rfl
      · exact Or.inl
      · trivial
      · exact Or.inr hchanges
      · trivial
      · exact fun x hx => Or.inl hx
    · rename_i hpreserved
      exact h.writeFlags hcall rfl (by simpa using hpreserved)
  | remove => exact h.writeFlags hcall rfl (h.flags _ (List.mem_of_getElem? hcall))
  | pin slot offset =>
    have hok := hpin slot offset rfl
    simp only [CaptureTableState.useMapping]
    cases hsurface : (s.tab.mapping map).surface offset with
    | error err =>
      rw [hsurface] at hok
      cases hok
    | ok surface => exact h.record hcall

theorem CaptureTableInv.preserve {val : Bool}
    (hcall : s.calls[i]? = some ⟨.preserving val map, changes⟩)
    (hmax : val = true → (s.tab.mapping map).refcnt ≠ 0xFFFFFFFF) (change : CaptureChange) :
    CaptureTableInv ((s.setTab (s.tab.setRefcnt map
        (if val then (s.tab.mapping map).refcnt + 1 else (s.tab.mapping map).refcnt - 1))).goto i
      (.putting map (.ret 0)) (changes ++ [change])) := by
  have hflag : (s.tab.mapping map).mappingPreserved = val := h.flags _ (List.mem_of_getElem? hcall)
  have hle := h.refs_le hcall map
  simp only [hflag, CaptureStage.refs, if_true] at hle
  have hpos : 0 < (s.tab.mapping map).refcnt.toNat := by
    cases val <;> simp at hle <;> omega
  have hv : (if val then (s.tab.mapping map).refcnt + 1 else (s.tab.mapping map).refcnt - 1).toNat +
      (if val then 0 else 2) = (s.tab.mapping map).refcnt.toNat + 1 := by
    cases val with
    | true =>
      have hadd := toNat_add_one (hmax rfl)
      simp only [if_true]
      omega
    | false =>
      have hsub := toNat_sub_one hpos
      simp only [Bool.false_eq_true, if_false]
      omega
  have hne : (if val then (s.tab.mapping map).refcnt + 1 else (s.tab.mapping map).refcnt - 1) ≠ 0 := by
    apply refcnt_ne_zero
    cases val with
    | true | false =>
      omega
  apply h.recount hcall map ⟨.putting map (.ret 0), changes ++ [change]⟩
    (h.lt_next (refcnt_ne_zero hpos))
  · simpa [CaptureStage.refs, CaptureNext.refs] using hv
  · intro m hm
    simp [CaptureStage.refs, CaptureNext.refs, Ne.symm hm]
  · rw [if_neg (refcnt_ne_zero hpos), if_neg hne]
    rfl
  · intro m hm
    rfl
  · intro m
    rfl
  · intro hc
    rfl
  · trivial
  · exact Or.inl rfl
  · trivial
  · exact fun x hx => Or.inl hx

theorem CaptureTableInv.put (hcall : s.calls[i]? = some ⟨.putting map next, changes⟩) :
    CaptureTableInv (s.put i map next changes) := by
  have hfit := h.changes _ (List.mem_of_getElem? hcall)
  have hle := h.refs_le hcall map
  simp only [CaptureStage.refs, if_true] at hle
  have hsub : ((s.tab.mapping map).refcnt - 1).toNat = (s.tab.mapping map).refcnt.toNat - 1 :=
    toNat_sub_one (by omega)
  have hne : (s.tab.mapping map).refcnt ≠ 0 := refcnt_ne_zero (by omega)
  have hself : ((s.tab.atomicDec map).mapping map).refcnt = (s.tab.mapping map).refcnt - 1 := by
    rw [CaptureBufferTable.atomicDec, setRefcnt_refcnt, if_pos rfl]
  have htab : (s.setTab (s.tab.atomicDec map)).tab = s.tab.atomicDec map := rfl
  simp only [CaptureTableState.put, htab, hself]
  split_ifs with hzero
  · apply h.recount hcall map ⟨.zero map next, changes ++ [CaptureChange.dropped map]⟩ (h.lt_next hne)
    · simp only [CaptureStage.refs, if_true]
      omega
    · intro m hm
      simp [CaptureStage.refs, Ne.symm hm]
    · rw [if_neg hne, if_pos hzero]
      simp [CaptureStage.ending]
    · intro m hm
      simp [CaptureStage.ending, Ne.symm hm]
    · intro m
      rfl
    · cases next with
      | ret err | unpin slot rest => exact id
    · trivial
    · cases next with
      | ret err =>
        apply Or.imp_right _ hfit
        rintro rfl
        rfl
      | unpin slot rest => trivial
    · trivial
    · exact fun x hx => Or.inl hx
  have hnet (err : ℤ) (hnext : next = .ret err) :
      err = 0 ∨ CaptureNet (changes ++ [.dropped map]) := by
    subst hnext
    apply Or.imp_right _ hfit
    rintro rfl
    exact captureNet_dropped map
  obtain ⟨rest, failures, heq, hfailures⟩ :=
    proceed_spec (s.setTab (s.tab.atomicDec map)) i next _ hnet
  rw [heq]
  apply h.recount hcall map ⟨captureNextStage next, rest⟩ (h.lt_next hne)
  · rw [nextStage_refs]
    simp only [CaptureStage.refs, if_true]
    omega
  · intro m hm
    rw [nextStage_refs]
    simp [CaptureStage.refs, Ne.symm hm]
  · rw [if_neg hne, if_neg hzero, nextStage_ending]
    rfl
  · intro m hm
    exact nextStage_ending m next
  · intro m
    exact nextStage_leaves m next
  · simp
  · exact flagFits_of_unlocked (nextStage_unlocked next)
  · exact nextStage_changesFit next rest
  · exact nextStage_slotFits next _
  · exact hfailures

end

theorem captureLeaves_le (m : ℕ) (stage : CaptureStage) : captureLeaves m stage ≤ stage.ending m := by
  cases stage <;> simp [captureLeaves, CaptureStage.ending]

theorem sum_leaves_le (m : ℕ) (calls : List CaptureCall) : (calls.map fun call => captureLeaves m call.stage).sum ≤
      (calls.map fun call => call.stage.ending m).sum := by
  apply List.sum_le_sum
  intro call hcall
  exact captureLeaves_le m call.stage

/-- A call that is about to unmap a mapping is the only one, and the mapping has no references. -/
theorem CaptureTableInv.ending (h : CaptureTableInv s)
    (hcall : s.calls[i]? = some c) (hending : c.stage.ending m = 1) :
    m < s.tab.next ∧ (s.tab.mapping m).refcnt = 0 ∧ s.unmapped.count m = 0 ∧
      ((s.calls.eraseIdx i).map fun call => call.stage.ending m).sum = 0 := by
  have hsum := sum_map_eraseIdx (fun call : CaptureCall => call.stage.ending m) hcall
  have hends := h.ends m
  simp only [captureZero] at hends
  split at hends
  · rename_i hzero
    exact ⟨hzero.1, hzero.2, by omega, by omega⟩
  · omega

theorem CaptureTableInv.removeMapping (h : CaptureTableInv s)
    (hcall : s.calls[i]? = some ⟨.zero map next, changes⟩) :
    CaptureTableInv (s.removeMapping i map next changes) := by
  have hself : (CaptureStage.zero map next).ending map = 1 := by simp [CaptureStage.ending]
  obtain ⟨hlt, hzero, hcount, hothers⟩ := h.ending hcall hself
  have hfit := h.changes _ (List.mem_of_getElem? hcall)
  have hpreserved : (s.tab.mapping map).mappingPreserved = false := by
    have hle := h.refs_le hcall map
    rw [hzero] at hle
    rw [← Bool.toNat_eq_zero]
    simp only [BitVec.ofNat_eq_ofNat, BitVec.toNat_zero] at hle
    omega
  -- Nobody else has taken the mapping out of the table.
  have hhead : s.tab.hhead.count map = 1 := by
    have hplaced := h.placed map
    have hsum : (s.calls.map fun call => captureLeaves map call.stage).sum =
        ((s.calls.eraseIdx i).map fun call => captureLeaves map call.stage).sum + 0 :=
      sum_map_eraseIdx (fun call : CaptureCall => captureLeaves map call.stage) hcall
    have hle := sum_leaves_le map (s.calls.eraseIdx i)
    rw [if_pos hlt] at hplaced
    omega
  simp only [CaptureTableState.removeMapping, hpreserved, Bool.false_eq_true, if_false]
  apply h.advance hcall ⟨.unmapping map next, changes⟩ rfl
  · intro m
    rfl
  · intro m
    rfl
  · intro m
    show (s.tab.hhead.erase map).count m + s.unmapped.count m + _ + (if m < s.tab.next then 1 else 0) =
      s.tab.hhead.count m + s.unmapped.count m + _ + if m < s.tab.next then 1 else 0
    by_cases hm : m = map
    · subst hm
      simp only [List.count_erase_self, captureLeaves, if_true]
      omega
    · rw [List.count_erase_of_ne hm]
      simp [captureLeaves, Ne.symm hm]
  · exact h.fresh
  · cases next with
    | ret err | unpin slot rest => exact Or.inl
  · exact Or.inr fun m => rfl
  · trivial
  · cases next with
    | ret err => exact hfit
    | unpin slot rest => trivial
  · rfl
  · trivial
  · exact fun x hx => Or.inl hx
  · rfl

theorem CaptureTableInv.unmap (h : CaptureTableInv s) (hcall : s.calls[i]? = some ⟨.unmapping map next, changes⟩) :
    CaptureTableInv ({ s with unmapped := s.unmapped ++ [map] }.proceed i next changes) := by
  have hfit := h.changes _ (List.mem_of_getElem? hcall)
  have hnet (err : ℤ) (hnext : next = .ret err) : err = 0 ∨ CaptureNet changes := by
    subst hnext
    apply Or.imp_right _ hfit
    rintro rfl
    exact captureNet_dropped map
  obtain ⟨rest, failures, heq, hfailures⟩ :=
    proceed_spec { s with unmapped := s.unmapped ++ [map] } i next changes hnet
  have hcount (m : ℕ) : (s.unmapped ++ [map]).count m = s.unmapped.count m + if map = m then 1 else 0 := by
    simp [List.count_append, List.count_singleton]
  rw [heq]
  apply h.advance hcall ⟨captureNextStage next, rest⟩ rfl
  · intro m
    rw [nextStage_refs]
    rfl
  · intro m
    rw [nextStage_ending, hcount]
    simp [CaptureStage.ending]
  · intro m
    rw [nextStage_leaves, hcount]
    simp only [captureLeaves]
    omega
  · exact h.fresh
  · simp
  · exact Or.inr fun m => rfl
  · exact flagFits_of_unlocked (nextStage_unlocked next)
  · exact nextStage_changesFit next rest
  · rfl
  · exact nextStage_slotFits next _
  · exact hfailures
  · rfl

theorem CaptureTableInv.step {s' : CaptureTableState} {op : CaptureTableOp} (h : CaptureTableInv s)
    (hcareful : captureTableCareful s op) (hstep : captureTableStep s op = some s') : CaptureTableInv s' := by
  cases op with
  | request i flag buf =>
    simp only [captureTableStep] at hstep
    split at hstep
    · rename_i hcall
      split at hstep
      · rename_i hfree
        cases hstep
        exact h.startRequest hcall hfree flag buf
      · cases hstep
    · cases hstep
  | pin i slot memHandle memOffset buf =>
    simp only [captureTableStep] at hstep
    split at hstep
    · rename_i hcall hslot
      split at hstep
      · cases hstep
        exact h.startPin hcall hslot memHandle memOffset buf
      · cases hstep
    · cases hstep
  | unpin i slot =>
    simp only [captureTableStep] at hstep
    split at hstep
    · rename_i hcall hslot
      split at hstep
      · cases hstep
        exact h.startUnpin hcall hslot
      · cases hstep
    · cases hstep
  | insert i sgt =>
    simp only [captureTableStep] at hstep
    split at hstep
    · rename_i hcall
      cases hstep
      exact h.insert hcall sgt
    · cases hstep
  | go i =>
    simp only [captureTableStep] at hstep
    split at hstep
    · rename_i purpose buf changes hcall
      cases hstep
      apply h.find hcall
      intro map hmap
      simpa [captureTableCareful, hcall, hmap] using hcareful
    · rename_i purpose map changes hcall
      cases hstep
      apply h.useMapping hcall
      rintro slot offset rfl
      simpa [captureTableCareful, hcall] using hcareful
    · rename_i map changes hcall
      cases hstep
      apply h.preserve hcall
      intro htrue
      simpa [captureTableCareful, hcall] using hcareful
    · rename_i map changes hcall
      cases hstep
      apply h.preserve hcall
      nofun
    · rename_i map next changes hcall
      cases hstep
      exact h.put hcall
    · rename_i map next changes hcall
      cases hstep
      exact h.removeMapping hcall
    · rename_i map next changes hcall
      cases hstep
      exact h.unmap hcall
    · cases hstep

theorem capture_table_inv_start (threads slots : ℕ) : CaptureTableInv (captureTableStart threads slots) := by
  have hidle {call : CaptureCall} (hcall : call ∈ (captureTableStart threads slots).calls) :
      call = ⟨.idle, []⟩ := List.eq_of_mem_replicate hcall
  constructor
  · intro m
    simp [captureTableStart, CaptureBufferTable.empty, CaptureMapping.mappingPreserved,
      CaptureTableState.entries, CaptureTableState.refs]
  · intro m
    simp [captureTableStart, CaptureBufferTable.empty, captureZero]
  · intro m
    simp [captureTableStart, CaptureBufferTable.empty]
  · intro m hm
    rfl
  · intro i j a b ha hb hne hlock
    rw [hidle (List.mem_of_getElem? ha)] at hlock
    cases hlock
  · intro call hcall
    rw [hidle hcall]
    trivial
  · intro call hcall
    rw [hidle hcall]
    trivial
  · intro call hcall
    rw [hidle hcall]
    trivial
  · nofun
  · rfl

/-! ## Runs -/

/-- A call uses a mapping only while it has a reference, or is about to unmap it. -/
theorem CaptureTableInv.uses_spec (h : CaptureTableInv s) (hcall : s.calls[i]? = some c) (huses : c.stage.uses m = true) :
    (s.tab.mapping m).refcnt ≠ 0 ∨ 0 < c.stage.ending m := by
  have hle := h.refs_le hcall m
  have hflag := h.flags _ (List.mem_of_getElem? hcall)
  simp only [CaptureStage.uses, Bool.or_eq_true, decide_eq_true_eq] at huses
  rcases huses with (hrefs | hending) | hpreserving
  · exact Or.inl (refcnt_ne_zero (by omega))
  · exact Or.inr hending
  · left
    apply refcnt_ne_zero
    split at hpreserving
    · rename_i val map hstage
      simp only [decide_eq_true_eq] at hpreserving
      subst hpreserving
      rw [hstage] at hle hflag
      have hval : (s.tab.mapping map).mappingPreserved = val := hflag
      -- The flags have the reference, or the call has taken it over.
      cases val <;> simp [CaptureStage.refs, hval] at hle <;> omega
    · cases hpreserving

theorem CaptureTableInv.sound (h : CaptureTableInv s) : CaptureTableSound s := by
  have hdone {m : ℕ} (hm : m ∈ s.unmapped) : m < s.tab.next ∧ (s.tab.mapping m).refcnt = 0 ∧
      s.unmapped.count m = 1 ∧ (s.calls.map fun call => call.stage.ending m).sum = 0 := by
    have hpos := List.count_pos_iff.mpr hm
    have hends := h.ends m
    simp only [captureZero] at hends
    split at hends
    · rename_i hzero
      exact ⟨hzero.1, hzero.2, by omega, by omega⟩
    · omega
  have hnone {m : ℕ} (hzero : (s.tab.mapping m).refcnt = 0) :
      (s.tab.mapping m).mappingPreserved = false ∧ s.entries m = 0 := by
    have hcount := h.counted m
    rw [hzero, BitVec.ofNat_eq_ofNat, BitVec.toNat_zero] at hcount
    refine ⟨?_, by omega⟩
    rw [← Bool.toNat_eq_zero]
    omega
  constructor
  · exact h.counted
  · rw [List.nodup_iff_count_le_one]
    intro m
    by_cases hm : m ∈ s.unmapped
    · rw [(hdone hm).2.2.1]
    · rw [List.count_eq_zero_of_not_mem hm]
      exact Nat.zero_le 1
  · intro m hm
    obtain ⟨-, hzero, -⟩ := hdone hm
    exact ⟨hzero, (hnone hzero).1⟩
  · intro m hlt hzero
    by_contra hnot
    obtain ⟨hnotin, hnobody⟩ := not_or.mp hnot
    have hends := h.ends m
    have hsum : (s.calls.map fun call => call.stage.ending m).sum = 0 := by
      rw [List.sum_eq_zero_iff]
      intro x hx
      obtain ⟨call, hcall, rfl⟩ := List.mem_map.mp hx
      by_contra hne
      exact hnobody ⟨call, hcall, Nat.pos_of_ne_zero hne⟩
    rw [List.count_eq_zero_of_not_mem hnotin, hsum, captureZero, if_pos ⟨hlt, hzero⟩] at hends
    cases hends
  · intro m hm
    obtain ⟨hlt, hzero, hcount, hsum⟩ := hdone hm
    refine ⟨?_, (hnone hzero).2, ?_⟩
    · intro hin
      have hplaced := h.placed m
      have hpos := List.count_pos_iff.mpr hin
      rw [if_pos hlt] at hplaced
      omega
    · intro call hcall
      obtain ⟨i, hi⟩ := List.mem_iff_getElem?.mp hcall
      by_contra huses
      rcases h.uses_spec hi (by simpa using huses) with hne | hending
      · exact hne hzero
      · have hpart := sum_map_eraseIdx (fun call : CaptureCall => call.stage.ending m) hi
        omega
  · exact h.failed
  · exact h.expected

/-- The counts are those of the references, and each mapping is unmapped once, in every run in which a call
that has got a mapping accepts its offset and no count is incremented at its maximum. -/
theorem capture_table_counted {threads slots : ℕ} {ops : List CaptureTableOp} {s : CaptureTableState}
    (hcareful : AllSteps captureTableStep captureTableCareful (captureTableStart threads slots) ops)
    (hrun : run captureTableStep (captureTableStart threads slots) ops = some s) : CaptureTableSound s := by
  have hstep (s : CaptureTableState) (op : CaptureTableOp) (s' : CaptureTableState)
      (h : CaptureTableInv s) (hop : captureTableCareful s op) (hs : captureTableStep s op = some s') :
      CaptureTableInv s' := h.step hop hs
  have hinv := run_invariant_of_allSteps hstep (capture_table_inv_start threads slots) hcareful hrun
  exact hinv.sound

def captureTablePage (iova : U64) : Except ℤ (List SgEntry) := .ok [⟨iova, 0, 4096⟩]

/-- Two threads find a buffer unmapped at once; it is added, added again, pinned and removed, and the
mappings are put. -/
def captureTableOps : List CaptureTableOp :=
  let buf : DmaBuf := ⟨1, 4096⟩
  [.request 0 7 (.ok buf), .pin 1 0 5 16 (.ok buf), .go 0, .go 1, .insert 0 (captureTablePage 0x1000),
    .insert 1 (captureTablePage 0x2000), .go 0, .go 1, .go 0, .go 0, .unpin 1 0, .go 1, .go 1, .go 1,
    .request 0 4 (.ok buf), .go 0, .go 0, .go 0, .request 0 0 (.ok buf), .go 0, .go 0, .go 0, .go 0, .go 0, .go 0]

theorem capture_table_counted_two :
    ∃ s, run captureTableStep (captureTableStart 2 1) captureTableOps = some s ∧ CaptureTableSound s := by
  have hcareful : AllSteps captureTableStep captureTableCareful (captureTableStart 2 1) captureTableOps := by
    decide +kernel
  exact exists_of_map (fun _ => ()) () (by decide +kernel) fun s hs _ => capture_table_counted hcareful hs

/-- A buffer of a page is pinned at the offset of its end. -/
def captureTableEndOps : List CaptureTableOp :=
  [.pin 0 0 5 4096 (.ok ⟨1, 4096⟩), .go 0, .insert 0 (captureTablePage 0x1000), .go 0]

/-- The pin fails, and its reference stays. -/
theorem capture_table_leaked : ∃ s, run captureTableStep (captureTableStart 1 1) captureTableEndOps = some s ∧
      s.calls = [⟨.idle, []⟩] ∧ s.unpins = [[]] ∧ (s.tab.mapping 0).refcnt = 1 ∧
      (s.tab.mapping 0).mappingPreserved = false ∧ s.failures = [[.taken 0]] ∧ ¬ CaptureTableSound s := by
  have hrun : (run captureTableStep (captureTableStart 1 1) captureTableEndOps).any (fun s =>
      s.calls = [⟨.idle, []⟩] ∧ s.unpins = [[]] ∧ (s.tab.mapping 0).refcnt = 1 ∧
        (s.tab.mapping 0).mappingPreserved = false ∧ s.failures = [[.taken 0]]) = true := by
    decide +kernel
  obtain ⟨s, hs, hend⟩ := Option.any_eq_true _ _ |>.mp hrun
  simp only [decide_eq_true_eq] at hend
  obtain ⟨hcalls, hunpins, hrefcnt, hpreserved, hfailures⟩ := hend
  refine ⟨s, hs, hcalls, hunpins, hrefcnt, hpreserved, hfailures, ?_⟩
  intro h
  have hcounted := h.counted 0
  simp [hrefcnt, hpreserved, CaptureTableState.entries, CaptureTableState.refs, hcalls, hunpins,
    CaptureStage.refs] at hcounted

end NvidiaOot.Analysis
