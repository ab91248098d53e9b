import NvidiaOot.Library.Positions
import NvidiaOot.Model.CaptureBuffers

/-!
# Buffers of an ISP request stay pinned while the firmware may use them

The list of a slot belongs to one request at most: to a call that has filled it, or to the firmware.  Other
calls may be about to unpin the slot only while its list is empty.
-/

namespace NvidiaOot.Analysis

open Library Program Model

variable {s s' : IspUnpinsState} {q q' : IspQueue} {stage : IspStage} {program : Option IspHeld} {held : IspHeld}
  {i slot slot' : ℕ}

def ispAims : IspStage → Option (IspQueue × ℕ)
  | .fences slot _ | .pinning slot _ => some (.capture, slot)
  | .preparing slot _ => some (.program, slot)
  | .unpinning _ q slot => some (q, slot)
  | _ => none

structure IspPinsInv (s : IspUnpinsState) : Prop extends IspPinsSound s where
  firm : ∀ q, ∀ stage ∈ s.calls, ∀ c, IspStage.claim stage q = some c → c.failed = false →
    (s.ctx q).unpinsList c.slot = c.pins
  alone : ∀ q (i j : ℕ) a b c d, s.calls[i]? = some a → s.calls[j]? = some b → i ≠ j →
    IspStage.claim a q = some c → IspStage.claim b q = some d → c.slot = d.slot →
    (s.ctx q).unpinsList c.slot = [] ∧ (c.failed = true ∨ d.failed = true)
  away : ∀ q slot, (s.atFirmware q slot).isSome = true → ∀ stage ∈ s.calls, ∀ c,
    IspStage.claim stage q = some c → c.slot = slot → (s.ctx q).unpinsList slot = []
  claimLt : ∀ q, ∀ stage ∈ s.calls, ∀ c, IspStage.claim stage q = some c →
    c.slot < (s.ctx q).queueDepth.toNat
  aimLt : ∀ stage ∈ s.calls, ∀ q slot, ispAims stage = some (q, slot) →
    slot < (s.ctx q).queueDepth.toNat
  alive : (∀ q, (s.ctx q).allocated = true) ∨ ∀ stage ∈ s.calls, stage = .idle
  together : ∀ q q', (s.ctx q).allocated = (s.ctx q').allocated
  nodup : ∀ q slot, ((s.ctx q).unpinsList slot).Nodup
  pinLt : ∀ q slot, ∀ pin ∈ (s.ctx q).unpinsList slot, pin < s.nextPin
  undoneLt : ∀ pin ∈ s.undone, pin < s.nextPin
  apart : ∀ q q' slot slot' pin, pin ∈ (s.ctx q).unpinsList slot → pin ∈ (s.ctx q').unpinsList slot' →
    q = q' ∧ slot = slot'

/-! ## The stage of a thread -/

theorem mem_set_cases {l : List IspStage} {a b : IspStage} (h : a ∈ l.set i b) : a = b ∨ a ∈ l := by
  obtain ⟨j, hj⟩ := List.mem_iff_getElem?.mp h
  rcases getElem?_set_cases hj with ⟨-, heq⟩ | ⟨-, hold⟩
  · exact Or.inl heq
  · exact Or.inr (List.mem_of_getElem? hold)

theorem IspPinsInv.live (h : IspPinsInv s)
    (hcall : s.calls[i]? = some stage) (hstage : stage ≠ .idle) (q : IspQueue) : (s.ctx q).allocated = true := by
  rcases h.alive with hlive | hidle
  · exact hlive q
  · exact absurd (hidle stage (List.mem_of_getElem? hcall)) hstage

/-- The thread may have the claim in a slot of the queue. -/
structure IspClaimFits (s : IspUnpinsState) (i : ℕ) (q : IspQueue) (c : IspClaim) : Prop where
  exclusive : (s.atFirmware q c.slot).isSome = true → c.failed = true
  own : ∀ pin ∈ (s.ctx q).unpinsList c.slot, pin ∈ c.pins
  firm : c.failed = false → (s.ctx q).unpinsList c.slot = c.pins
  alone : ∀ (j : ℕ) b d, s.calls[j]? = some b → j ≠ i → IspStage.claim b q = some d → c.slot = d.slot →
    (s.ctx q).unpinsList c.slot = [] ∧ (c.failed = true ∨ d.failed = true)
  away : (s.atFirmware q c.slot).isSome = true → (s.ctx q).unpinsList c.slot = []
  lt : c.slot < (s.ctx q).queueDepth.toNat

theorem IspPinsInv.fits (h : IspPinsInv s)
    (hcall : s.calls[i]? = some stage) {c : IspClaim} (hc : stage.claim q = some c) : IspClaimFits s i q c := by
  have hmem := List.mem_of_getElem? hcall
  constructor
  · intro hfw
    exact h.exclusive q c.slot hfw stage hmem c hc rfl
  · exact h.own q stage hmem c hc
  · exact h.firm q stage hmem c hc
  · intro j b d hb hne hd hslot
    exact h.alone q i j stage b c d hcall hb hne.symm hc hd hslot
  · intro hfw
    exact h.away q c.slot hfw stage hmem c hc rfl
  · exact h.claimLt q stage hmem c hc

theorem IspClaimFits.fail (h : IspClaimFits s i q (held.claim false)) : IspClaimFits s i q (held.claim true) := by
  constructor
  · simp [IspHeld.claim]
  · exact h.own
  · simp [IspHeld.claim]
  · intro j b d hb hne hd hslot
    obtain ⟨hempty, -⟩ := h.alone j b d hb hne hd hslot
    exact ⟨hempty, Or.inl rfl⟩
  · exact h.away
  · exact h.lt

theorem fits_of_empty (hempty : (s.ctx q).unpinsList slot = []) (hlt : slot < (s.ctx q).queueDepth.toNat) :
    IspClaimFits s i q ⟨slot, [], true⟩ := by
  constructor
  · simp
  · simp [hempty]
  · simp
  · intro j b d hb hne hd hslot
    exact ⟨hempty, Or.inl rfl⟩
  · intro hfw
    exact hempty
  · exact hlt

theorem fits_of_filled {pins : List ℕ} {failed : Bool} (hlist : (s.ctx q).unpinsList slot = pins)
    (hun : ∀ stage ∈ s.calls, ∀ d, IspStage.claim stage q = some d → d.slot ≠ slot)
    (hfw : s.atFirmware q slot = none) (hlt : slot < (s.ctx q).queueDepth.toNat) :
    IspClaimFits s i q ⟨slot, pins, failed⟩ := by
  constructor
  · simp [hfw]
  · simp [hlist]
  · simp [hlist]
  · intro j b d hb hne hd hslot
    exact absurd hslot.symm (hun b (List.mem_of_getElem? hb) d hd)
  · simp [hfw]
  · exact hlt

theorem IspPinsInv.goto (h : IspPinsInv s) (hclaim : ∀ q c, stage.claim q = some c → IspClaimFits s i q c)
    (haim : ∀ q slot, ispAims stage = some (q, slot) → slot < (s.ctx q).queueDepth.toNat)
    (halive : stage = .idle ∨ ∀ q, (s.ctx q).allocated = true) : IspPinsInv (s.goto i stage) := by
  have hmem {st : IspStage} (hst : st ∈ (s.goto i stage).calls) : st = stage ∨ st ∈ s.calls :=
    mem_set_cases hst
  refine ⟨⟨h.pinned, ?_, ?_, h.once, h.undone, h.accounted, h.inside⟩, ?_, ?_, ?_, ?_, ?_, ?_,
    h.together, h.nodup, h.pinLt, h.undoneLt, h.apart⟩
  · intro q slot hfw st hst c hc hslot
    rcases hmem hst with rfl | hold
    · apply (hclaim q c hc).exclusive
      rw [hslot]
      exact hfw
    · exact h.exclusive q slot hfw st hold c hc hslot
  · intro q st hst c hc
    rcases hmem hst with rfl | hold
    · exact (hclaim q c hc).own
    · exact h.own q st hold c hc
  · intro q st hst c hc
    rcases hmem hst with rfl | hold
    · exact (hclaim q c hc).firm
    · exact h.firm q st hold c hc
  · intro q j k a b c d hj hk hne hc hd hslot
    rcases getElem?_set_cases hj with ⟨rfl, rfl⟩ | ⟨hji, hj'⟩
    · rcases getElem?_set_cases hk with ⟨hkj, -⟩ | ⟨hkj, hk'⟩
      · exact absurd hkj.symm hne
      · exact (hclaim q c hc).alone k b d hk' hkj hd hslot
    rcases getElem?_set_cases hk with ⟨rfl, rfl⟩ | ⟨-, hk'⟩
    · obtain ⟨hempty, hor⟩ := (hclaim q d hd).alone j a c hj' hji hc hslot.symm
      rw [← hslot] at hempty
      exact ⟨hempty, hor.symm⟩
    · exact h.alone q j k a b c d hj' hk' hne hc hd hslot
  · intro q slot hfw st hst c hc hslot
    rcases hmem hst with rfl | hold
    · rw [← hslot] at hfw ⊢
      exact (hclaim q c hc).away hfw
    · exact h.away q slot hfw st hold c hc hslot
  · intro q st hst c hc
    rcases hmem hst with rfl | hold
    · exact (hclaim q c hc).lt
    · exact h.claimLt q st hold c hc
  · intro st hst q slot hst'
    rcases hmem hst with rfl | hold
    · exact haim q slot hst'
    · exact h.aimLt st hold q slot hst'
  · rcases halive with rfl | hlive
    · apply Or.imp_right _ h.alive
      intro hidle st hst
      rcases hmem hst with rfl | hold
      · rfl
      · exact hidle st hold
    · exact Or.inl hlive

/-! ## The lists of the slots -/

@[simp]
theorem setUnpins_queueDepth (ctx : IspDescRec) (slot : ℕ) (pins : List ℕ) :
    (ctx.setUnpins slot pins).queueDepth = ctx.queueDepth := rfl

@[simp]
theorem setUnpins_allocated (ctx : IspDescRec) (slot : ℕ) (pins : List ℕ) :
    (ctx.setUnpins slot pins).allocated = ctx.allocated := rfl

def withPins (s : IspUnpinsState) (q : IspQueue) (slot : ℕ) (pins : List ℕ) : IspUnpinsState :=
  s.setCtx q ((s.ctx q).setUnpins slot pins)

section

variable (s : IspUnpinsState)

@[simp]
theorem withPins_queueDepth (q q' : IspQueue) (slot : ℕ) (pins : List ℕ) :
    ((withPins s q slot pins).ctx q').queueDepth = (s.ctx q').queueDepth := by
  by_cases hq : q' = q
  · subst hq
    simp [withPins, IspUnpinsState.setCtx]
  · simp [withPins, IspUnpinsState.setCtx, hq]

@[simp]
theorem withPins_allocated (q q' : IspQueue) (slot : ℕ) (pins : List ℕ) :
    ((withPins s q slot pins).ctx q').allocated = (s.ctx q').allocated := by
  by_cases hq : q' = q
  · subst hq
    simp [withPins, IspUnpinsState.setCtx]
  · simp [withPins, IspUnpinsState.setCtx, hq]

@[simp]
theorem withPins_calls (q : IspQueue) (slot : ℕ) (pins : List ℕ) :
    (withPins s q slot pins).calls = s.calls := rfl

theorem withPins_self (q : IspQueue) (slot : ℕ) (pins : List ℕ) :
    ((withPins s q slot pins).ctx q).unpinsList slot = pins := by
  simp [withPins, IspUnpinsState.setCtx, IspDescRec.setUnpins]

theorem withPins_other (pins : List ℕ) (hne : ¬ (q' = q ∧ slot' = slot)) :
    ((withPins s q slot pins).ctx q').unpinsList slot' = (s.ctx q').unpinsList slot' := by
  by_cases hq : q' = q
  · subst hq
    have hslot : slot' ≠ slot := fun heq => hne ⟨rfl, heq⟩
    simp [withPins, IspUnpinsState.setCtx, IspDescRec.setUnpins, hslot]
  · simp [withPins, IspUnpinsState.setCtx, hq]

end

theorem mem_of_emptied {pin : ℕ} (h : pin ∈ ((withPins s q slot []).ctx q').unpinsList slot') :
    pin ∈ (s.ctx q').unpinsList slot' ∧ ¬ (q' = q ∧ slot' = slot) := by
  by_cases hself : q' = q ∧ slot' = slot
  · obtain ⟨rfl, rfl⟩ := hself
    rw [withPins_self] at h
    cases h
  · rw [withPins_other s _ hself] at h
    exact ⟨h, hself⟩

theorem unpin_of_has (hhas : (s.ctx q).has slot = true) : s.unpin q slot =
      { withPins s q slot [] with undone := (s.ctx q).unpinsList slot ++ s.undone } := by
  simp [IspUnpinsState.unpin, hhas, IspDescRec.requestUnpin, withPins]

/-- A slot is unpinned that no call has filled to submit its request, and that the firmware does not have,
or that is empty. -/
theorem IspPinsInv.unpin (h : IspPinsInv s) (hhas : (s.ctx q).has slot = true)
    (hclear : (s.ctx q).unpinsList slot ≠ [] →
      (∀ stage ∈ s.calls, ∀ c, IspStage.claim stage q = some c → c.slot = slot → c.failed = true) ∧
        s.atFirmware q slot = none) : IspPinsInv (s.unpin q slot) := by
  rw [unpin_of_has hhas]
  -- The list of a slot is as before, or it is the emptied one.
  have hlist (q' : IspQueue) (slot' : ℕ) :
      ((withPins s q slot []).ctx q').unpinsList slot' = (s.ctx q').unpinsList slot' ∨
        q' = q ∧ slot' = slot ∧ ((withPins s q slot []).ctx q').unpinsList slot' = [] ∧
          (∀ stage ∈ s.calls, ∀ c, IspStage.claim stage q = some c → c.slot = slot →
            c.failed = true) ∧ s.atFirmware q slot = none := by
    by_cases hself : q' = q ∧ slot' = slot
    · obtain ⟨rfl, rfl⟩ := hself
      rw [withPins_self]
      by_cases hempty : (s.ctx q').unpinsList slot' = []
      · exact Or.inl hempty.symm
      · obtain ⟨hfailed, hfw⟩ := hclear hempty
        exact Or.inr ⟨rfl, rfl, rfl, hfailed, hfw⟩
    · exact Or.inl (withPins_other s _ hself)
  have hkeep {q' : IspQueue} {slot' : ℕ} (hempty : (s.ctx q').unpinsList slot' = []) :
      ((withPins s q slot []).ctx q').unpinsList slot' = [] := by
    rcases hlist q' slot' with hsame | ⟨-, -, hnil, -⟩
    · rw [hsame]
      exact hempty
    · exact hnil
  constructor
  · constructor
    · intro q' slot' pins hfw
      rcases hlist q' slot' with hsame | ⟨rfl, rfl, -, -, hnone⟩
      · exact hsame.trans (h.pinned q' slot' pins hfw)
      · have hfw' : s.atFirmware q' slot' = some pins := hfw
        rw [hnone] at hfw'
        cases hfw'
    · exact h.exclusive
    · intro q' stage hstage c hc pin hpin
      exact h.own q' stage hstage c hc pin (mem_of_emptied hpin).1
    · apply (h.nodup q slot).append h.once
      intro pin hpin hundone
      exact h.undone pin hundone q slot hpin
    · intro pin hpin q' slot' hin
      obtain ⟨hold, hother⟩ := mem_of_emptied hin
      rcases List.mem_append.mp hpin with hslot | hundone
      · exact hother (h.apart q' q slot' slot pin hold hslot)
      · exact h.undone pin hundone q' slot' hold
    · intro pin hpin
      rcases h.accounted pin hpin with hundone | ⟨q', slot', hin⟩
      · exact Or.inl (List.mem_append_right _ hundone)
      by_cases hself : q' = q ∧ slot' = slot
      · obtain ⟨rfl, rfl⟩ := hself
        exact Or.inl (List.mem_append_left _ hin)
      · refine Or.inr ⟨q', slot', ?_⟩
        rw [withPins_other s _ hself]
        exact hin
    · exact h.inside
  · intro q' stage hstage c hc hfirm
    rcases hlist q' c.slot with hsame | ⟨rfl, hslot, -, hfailed, -⟩
    · exact hsame.trans (h.firm q' stage hstage c hc hfirm)
    · rw [hfailed stage hstage c hc hslot] at hfirm
      cases hfirm
  · intro q' i j a b c d hi hj hne hc hd hslot
    obtain ⟨hempty, hor⟩ := h.alone q' i j a b c d hi hj hne hc hd hslot
    exact ⟨hkeep hempty, hor⟩
  · intro q' slot' hfw stage hstage c hc hslot
    exact hkeep (h.away q' slot' hfw stage hstage c hc hslot)
  · intro q' stage hstage c hc
    simpa using h.claimLt q' stage hstage c hc
  · intro stage hstage q' slot' haim
    simpa using h.aimLt stage hstage q' slot' haim
  · simpa using h.alive
  · simpa using h.together
  · intro q' slot'
    rcases hlist q' slot' with hsame | ⟨-, -, hnil, -⟩
    · rw [hsame]
      exact h.nodup q' slot'
    · rw [hnil]
      exact List.nodup_nil
  · intro q' slot' pin hpin
    exact h.pinLt q' slot' pin (mem_of_emptied hpin).1
  · intro pin hpin
    rcases List.mem_append.mp hpin with hslot | hundone
    · exact h.pinLt q slot pin hslot
    · exact h.undoneLt pin hundone
  · intro q' q'' slot' slot'' pin hpin hpin'
    exact h.apart q' q'' slot' slot'' pin (mem_of_emptied hpin).1 (mem_of_emptied hpin').1

/-- The firmware has fewer requests, or also the request of a slot that nobody else may unpin. -/
theorem IspPinsInv.firmware (h : IspPinsInv s) {atFirmware : IspQueue → ℕ → Option (List ℕ)}
    (hfw : ∀ q slot pins, atFirmware q slot = some pins → s.atFirmware q slot = some pins ∨
      ((s.ctx q).unpinsList slot = pins ∧ ∀ stage ∈ s.calls, ∀ c, IspStage.claim stage q = some c →
        c.slot = slot → c.failed = true ∧ (s.ctx q).unpinsList slot = [])) :
    IspPinsInv { s with atFirmware := atFirmware } := by
  have hsome {q : IspQueue} {slot : ℕ} (hs : (atFirmware q slot).isSome = true) :
      (s.atFirmware q slot).isSome = true ∨ ∀ stage ∈ s.calls, ∀ c,
        IspStage.claim stage q = some c → c.slot = slot →
          c.failed = true ∧ (s.ctx q).unpinsList slot = [] := by
    obtain ⟨pins, hpins⟩ := Option.isSome_iff_exists.mp hs
    rcases hfw q slot pins hpins with hold | ⟨-, hnew⟩
    · exact Or.inl (Option.isSome_iff_exists.mpr ⟨pins, hold⟩)
    · exact Or.inr hnew
  refine ⟨⟨?_, ?_, h.own, h.once, h.undone, h.accounted, h.inside⟩, h.firm, h.alone, ?_, h.claimLt,
    h.aimLt, h.alive, h.together, h.nodup, h.pinLt, h.undoneLt, h.apart⟩
  · intro q slot pins hs
    rcases hfw q slot pins hs with hold | ⟨hlist, -⟩
    · exact h.pinned q slot pins hold
    · exact hlist
  · intro q slot hs stage hstage c hc hslot
    rcases hsome hs with hold | hnew
    · exact h.exclusive q slot hold stage hstage c hc hslot
    · exact (hnew stage hstage c hc hslot).1
  · intro q slot hs stage hstage c hc hslot
    rcases hsome hs with hold | hnew
    · exact h.away q slot hold stage hstage c hc hslot
    · exact (hnew stage hstage c hc hslot).2

theorem IspPinsInv.fill (h : IspPinsInv s) (count : ℕ) (hempty : (s.ctx q).unpinsList slot = [])
    (hun : ∀ stage ∈ s.calls, ∀ c, IspStage.claim stage q = some c → c.slot ≠ slot)
    (hnone : s.atFirmware q slot = none) :
    IspPinsInv { withPins s q slot (List.range' s.nextPin count) with nextPin := s.nextPin + count } := by
  -- A pin of a list was there before, or it is one of the new ones.
  have hmem {q' : IspQueue} {slot' pin : ℕ}
      (hpin : pin ∈ ((withPins s q slot (List.range' s.nextPin count)).ctx q').unpinsList slot') :
      pin ∈ (s.ctx q').unpinsList slot' ∨
        (q' = q ∧ slot' = slot) ∧ s.nextPin ≤ pin ∧ pin < s.nextPin + count := by
    by_cases hself : q' = q ∧ slot' = slot
    · obtain ⟨rfl, rfl⟩ := hself
      rw [withPins_self, List.mem_range'_1] at hpin
      exact Or.inr ⟨⟨rfl, rfl⟩, hpin⟩
    · rw [withPins_other s _ hself] at hpin
      exact Or.inl hpin
  have hold {q' : IspQueue} {slot' pin : ℕ} (hpin : pin ∈ (s.ctx q').unpinsList slot') :
      pin ∈ ((withPins s q slot (List.range' s.nextPin count)).ctx q').unpinsList slot' := by
    by_cases hself : q' = q ∧ slot' = slot
    · obtain ⟨rfl, rfl⟩ := hself
      rw [hempty] at hpin
      cases hpin
    · rw [withPins_other s _ hself]
      exact hpin
  have hclaim {q' : IspQueue} {stage : IspStage} (hstage : stage ∈ s.calls) {c : IspClaim}
      (hc : stage.claim q' = some c) :
      ((withPins s q slot (List.range' s.nextPin count)).ctx q').unpinsList c.slot =
        (s.ctx q').unpinsList c.slot := by
    apply withPins_other
    rintro ⟨rfl, hslot⟩
    exact hun stage hstage c hc hslot
  constructor
  · constructor
    · intro q' slot' pins hfw
      have hother : ¬ (q' = q ∧ slot' = slot) := by
        rintro ⟨rfl, rfl⟩
        have hfw' : s.atFirmware q' slot' = some pins := hfw
        rw [hnone] at hfw'
        cases hfw'
      exact (withPins_other s _ hother).trans (h.pinned q' slot' pins hfw)
    · exact h.exclusive
    · intro q' stage hstage c hc pin hpin
      apply h.own q' stage hstage c hc pin
      rw [← hclaim hstage hc]
      exact hpin
    · exact h.once
    · intro pin hpin q' slot' hin
      rcases hmem hin with hbefore | ⟨-, hle, -⟩
      · exact h.undone pin hpin q' slot' hbefore
      · have hlt := h.undoneLt pin hpin
        omega
    · intro pin hpin
      by_cases hlt : pin < s.nextPin
      · apply (h.accounted pin hlt).imp_right
        rintro ⟨q', slot', hin⟩
        exact ⟨q', slot', hold hin⟩
      refine Or.inr ⟨q, slot, ?_⟩
      have hpin' : pin < s.nextPin + count := hpin
      rw [withPins_self, List.mem_range'_1]
      omega
    · exact h.inside
  · intro q' stage hstage c hc hfirm
    exact (hclaim hstage hc).trans (h.firm q' stage hstage c hc hfirm)
  · intro q' i j a b c d hi hj hne hc hd hslot
    obtain ⟨hnil, hor⟩ := h.alone q' i j a b c d hi hj hne hc hd hslot
    exact ⟨(hclaim (List.mem_of_getElem? hi) hc).trans hnil, hor⟩
  · intro q' slot' hfw stage hstage c hc hslot
    have hnil := h.away q' slot' hfw stage hstage c hc hslot
    subst hslot
    exact (hclaim hstage hc).trans hnil
  · intro q' stage hstage c hc
    simpa using h.claimLt q' stage hstage c hc
  · intro stage hstage q' slot' haim
    simpa using h.aimLt stage hstage q' slot' haim
  · simpa using h.alive
  · simpa using h.together
  · intro q' slot'
    by_cases hself : q' = q ∧ slot' = slot
    · obtain ⟨rfl, rfl⟩ := hself
      rw [withPins_self]
      exact List.nodup_range'
    · rw [withPins_other s _ hself]
      exact h.nodup q' slot'
  · intro q' slot' pin hpin
    show pin < s.nextPin + count
    rcases hmem hpin with hbefore | ⟨-, -, hlt⟩
    · have hlt := h.pinLt q' slot' pin hbefore
      omega
    · exact hlt
  · intro pin hpin
    show pin < s.nextPin + count
    have hlt := h.undoneLt pin hpin
    omega
  · intro q' q'' slot' slot'' pin hpin hpin'
    rcases hmem hpin with hbefore | ⟨⟨rfl, rfl⟩, hle, -⟩
    · rcases hmem hpin' with hbefore' | ⟨-, hle, -⟩
      · exact h.apart q' q'' slot' slot'' pin hbefore hbefore'
      · have hlt := h.pinLt q' slot' pin hbefore
        omega
    rcases hmem hpin' with hbefore' | ⟨⟨rfl, rfl⟩, -⟩
    · have hlt := h.pinLt q'' slot'' pin hbefore'
      omega
    · exact ⟨rfl, rfl⟩

/-! ## Steps -/

theorem isp_pins_inv_start (captureDepth programDepth : U32) (threads : ℕ) :
    IspPinsInv (ispUnpinsStart captureDepth programDepth threads) := by
  have hlist (q : IspQueue) (slot : ℕ) :
      ((ispUnpinsStart captureDepth programDepth threads).ctx q).unpinsList slot = [] := by
    cases q <;> rfl
  have hidle {stage : IspStage}
      (hstage : stage ∈ (ispUnpinsStart captureDepth programDepth threads).calls) : stage = .idle :=
    List.eq_of_mem_replicate hstage
  have hclaim {q : IspQueue} {stage : IspStage}
      (hstage : stage ∈ (ispUnpinsStart captureDepth programDepth threads).calls) {c : IspClaim} :
      stage.claim q ≠ some c := by
    rw [hidle hstage]
    simp [IspStage.claim]
  constructor
  · constructor
    · nofun
    · nofun
    · intro q stage hstage c hc
      exact absurd hc (hclaim hstage)
    · exact List.nodup_nil
    · nofun
    · nofun
    · rfl
  · intro q stage hstage c hc
    exact absurd hc (hclaim hstage)
  · intro q i j a b c d hi hj hne hc
    exact absurd hc (hclaim (List.mem_of_getElem? hi))
  · nofun
  · intro q stage hstage c hc
    exact absurd hc (hclaim hstage)
  · intro stage hstage q slot haim
    rw [hidle hstage] at haim
    cases haim
  · right
    intro stage hstage
    exact hidle hstage
  · intro q q'
    cases q <;> cases q' <;> rfl
  · intro q slot
    rw [hlist]
    exact List.nodup_nil
  · intro q slot pin hpin
    rw [hlist] at hpin
    cases hpin
  · nofun
  · intro q q' slot slot' pin hpin
    rw [hlist] at hpin
    cases hpin

theorem IspPinsInv.goto_unclaimed (h : IspPinsInv s) (i : ℕ) (hclaim : ∀ q, stage.claim q = none)
    (haim : ∀ q slot, ispAims stage = some (q, slot) → slot < (s.ctx q).queueDepth.toNat)
    (halive : stage = .idle ∨ ∀ q, (s.ctx q).allocated = true) : IspPinsInv (s.goto i stage) := by
  apply h.goto _ haim halive
  intro q c hc
  rw [hclaim q] at hc
  cases hc

theorem IspPinsInv.goto_idle (h : IspPinsInv s) (i : ℕ) : IspPinsInv (s.goto i .idle) := by
  apply h.goto_unclaimed i
  · simp [IspStage.claim]
  · simp [ispAims]
  · exact Or.inl rfl

/-- A program that was prepared with a process request goes with it. -/
def IspProgramFits (s : IspUnpinsState) (i : ℕ) (program : Option IspHeld) : Prop :=
  ∀ held, program = some held →
    IspClaimFits s i .program (held.claim false) ∧ ∀ q, (s.ctx q).allocated = true

theorem ispProgramFits_none (s : IspUnpinsState) (i : ℕ) : IspProgramFits s i none := by
  nofun

theorem IspPinsInv.programFits (h : IspPinsInv s) (hcall : s.calls[i]? = some stage) (hstage : stage ≠ .idle)
    (hclaim : stage.claim .program = program.map (·.claim false)) : IspProgramFits s i program := by
  rintro held rfl
  exact ⟨h.fits hcall hclaim, h.live hcall hstage⟩

theorem IspProgramFits.claim
    (h : IspProgramFits s i program) {c : IspClaim} (hc : program.map (·.claim false) = some c) :
    IspClaimFits s i .program c := by
  obtain ⟨held, hheld, rfl⟩ := Option.map_eq_some_iff.mp hc
  exact (h held hheld).1

theorem IspPinsInv.afterFail (h : IspPinsInv s) (hprogram : IspProgramFits s i program) :
    IspPinsInv (s.goto i (IspUnpinsState.afterFail program)) := by
  cases program with
  | none => exact h.goto_idle i
  | some held =>
    obtain ⟨hfits, hlive⟩ := hprogram held rfl
    apply h.goto
    · intro q c hc
      cases q with
      | capture => cases hc
      | program =>
        cases hc
        exact hfits.fail
    · nofun
    · exact Or.inr hlive

theorem requestCheck_ok {ctx : IspDescRec} {slot : U32} {u : Unit} (h : ctx.requestCheck slot = .ok u) :
    ctx.allocated = true ∧ slot.toNat < ctx.queueDepth.toNat := by
  unfold IspDescRec.requestCheck at h
  split at h
  · cases h
  rename_i hallocated
  split at h
  · cases h
  · rename_i hlt
    exact ⟨by simpa using hallocated, by simpa [BitVec.le_def] using hlt⟩

section

variable (h : IspPinsInv s)

include h

theorem IspPinsInv.allocated
    (hq : (s.ctx q).allocated = true) (q' : IspQueue) : (s.ctx q').allocated = true :=
  (h.together q' q).trans hq

theorem IspPinsInv.startCapture (slot : U32) (hprogram : IspProgramFits s i program) :
    IspPinsInv (s.startCapture i slot program) := by
  unfold IspUnpinsState.startCapture
  split
  · exact h.afterFail hprogram
  rename_i u hcheck
  obtain ⟨hallocated, hlt⟩ := requestCheck_ok hcheck
  apply h.goto
  · intro q c hc
    cases q with
    | capture => cases hc
    | program => exact hprogram.claim hc
  · intro q slot' haim
    cases haim
    exact hlt
  · exact Or.inr (h.allocated hallocated)

theorem IspPinsInv.startProgram (i : ℕ) (slot : U32)
    (capture : Option U32) : IspPinsInv (s.startProgram i slot capture) := by
  unfold IspUnpinsState.startProgram
  split
  · exact h
  rename_i u hcheck
  obtain ⟨hallocated, hlt⟩ := requestCheck_ok hcheck
  apply h.goto_unclaimed i
  · simp [IspStage.claim]
  · intro q slot' haim
    cases haim
    exact hlt
  · exact Or.inr (h.allocated hallocated)

theorem IspPinsInv.startControl {release : Bool}
    (hstep : s.startControl i release = some s') : IspPinsInv s' := by
  obtain ⟨-, rfl⟩ := Option.ite_some_none_eq_some.mp hstep
  split
  · rename_i hallocated
    apply h.goto_unclaimed i
    · simp [IspStage.claim]
    · simp [ispAims]
    · exact Or.inr (h.allocated hallocated)
  · exact h

end

theorem nextSlot_cases (s : IspUnpinsState) (release : Bool) (q : IspQueue) (slot : ℕ) :
    s.nextSlot release q slot = .idle ∨ s.nextSlot release q slot = .freeing ∨
      ∃ q' slot', s.nextSlot release q slot = .unpinning release q' slot' ∧
        slot' < (s.ctx q').queueDepth.toNat := by
  unfold IspUnpinsState.nextSlot
  split
  · rename_i hlt
    exact Or.inr (Or.inr ⟨q, slot, rfl, hlt⟩)
  cases q with
  | program =>
    by_cases hcapture : 0 < (s.ctx .capture).queueDepth.toNat
    · rw [if_pos hcapture]
      exact Or.inr (Or.inr ⟨.capture, 0, rfl, hcapture⟩)
    · rw [if_neg hcapture]
      cases release <;> simp
  | capture => cases release <;> simp

theorem IspPinsInv.nextSlot (h : IspPinsInv s) (i : ℕ) (hlive : ∀ q, (s.ctx q).allocated = true)
    (hdepth : ∀ q, (s'.ctx q).queueDepth = (s.ctx q).queueDepth) (release : Bool) (q : IspQueue)
    (slot : ℕ) : IspPinsInv (s.goto i (s'.nextSlot release q slot)) := by
  rcases nextSlot_cases s' release q slot with hnext | hnext | ⟨q', slot', hnext, hlt⟩ <;> rw [hnext]
  · exact h.goto_idle i
  · apply h.goto_unclaimed i
    · simp [IspStage.claim]
    · simp [ispAims]
    · exact Or.inr hlive
  · apply h.goto_unclaimed i
    · simp [IspStage.claim]
    · intro q'' slot'' haim
      cases haim
      rw [← hdepth]
      exact hlt
    · exact Or.inr hlive

theorem has_of_lt {ctx : IspDescRec} (hallocated : ctx.allocated = true)
    (hlt : slot < ctx.queueDepth.toNat) : ctx.has slot = true := by
  simp [IspDescRec.has, hallocated, hlt]

theorem touch_of_has (hhas : (s.ctx q).has slot = true) : s.touch q slot = s := by
  simp [IspUnpinsState.touch, hhas]

theorem unclaimed_iff : s.unclaimed q slot = true ↔
      ∀ stage ∈ s.calls, ∀ c, IspStage.claim stage q = some c → c.slot ≠ slot := by
  simp [IspUnpinsState.unclaimed, Option.all_eq_true]

theorem unfilled_iff : s.unfilled q slot = true ↔
      ∀ stage ∈ s.calls, ∀ c, IspStage.claim stage q = some c → c.slot = slot → c.failed = true := by
  simp [IspUnpinsState.unfilled, Option.all_eq_true, imp_iff_or_not]

theorem freeIfEmpty_free (h : s.freeIfEmpty q slot = true) (hempty : (s.ctx q).unpinsList slot = []) :
    (∀ stage ∈ s.calls, ∀ c, IspStage.claim stage q = some c → c.slot ≠ slot) ∧ s.atFirmware q slot = none := by
  simp only [IspUnpinsState.freeIfEmpty, hempty, List.isEmpty_nil, Bool.not_true, Bool.false_or,
    Bool.and_eq_true, Option.isNone_iff_eq_none, unclaimed_iff] at h
  exact h

theorem fits_of_fill (count : ℕ) (failed : Bool)
    (hun : ∀ stage ∈ s.calls, ∀ c, IspStage.claim stage q = some c → c.slot ≠ slot)
    (hnone : s.atFirmware q slot = none) (hlt : slot < (s.ctx q).queueDepth.toNat) :
    IspClaimFits { withPins s q slot (List.range' s.nextPin count) with nextPin := s.nextPin + count } i q
      ⟨slot, List.range' s.nextPin count, failed⟩ := by
  apply fits_of_filled
  · exact withPins_self s q slot _
  · exact hun
  · exact hnone
  · simpa using hlt

theorem IspPinsInv.fillCapture (h : IspPinsInv s) (hcall : s.calls[i]? = some (.pinning slot program))
    (hfree : s.freeIfEmpty .capture slot = true)
    (hempty : (s.ctx .capture).unpinsList slot = []) (count : ℕ) (stage : IspStage) (failed : Bool)
    (hcapture : stage.claim .capture = some ⟨slot, List.range' s.nextPin count, failed⟩)
    (hprogram : stage.claim .program = program.map (·.claim false)) (haim : ispAims stage = none) :
    IspPinsInv ({ withPins s .capture slot (List.range' s.nextPin count) with
      nextPin := s.nextPin + count }.goto i stage) := by
  obtain ⟨hun, hnone⟩ := freeIfEmpty_free hfree hempty
  have hlt := h.aimLt _ (List.mem_of_getElem? hcall) _ _ rfl
  have hfill := h.fill count hempty hun hnone
  have hlive (q : IspQueue) : ((withPins s .capture slot (List.range' s.nextPin count)).ctx q).allocated
      = true := by
    rw [withPins_allocated]
    exact h.live hcall (by simp) q
  apply hfill.goto
  · intro q c hc
    cases q with
    | capture =>
      rw [hcapture] at hc
      cases hc
      exact fits_of_fill count failed hun hnone hlt
    | program =>
      rw [hprogram] at hc
      have hcall' : (withPins s .capture slot (List.range' s.nextPin count)).calls[i]? =
        some (.pinning slot program) := hcall
      exact hfill.fits hcall' hc
  · intro q slot' haim'
    rw [haim] at haim'
    cases haim'
  · exact Or.inr hlive

theorem IspPinsInv.pinCapture (h : IspPinsInv s) (hcall : s.calls[i]? = some (.pinning slot program))
    (hfree : s.freeIfEmpty .capture slot = true) (count : ℕ) (ok : Bool) :
    IspPinsInv (s.pinCapture i slot program count ok) := by
  have hhas : (s.ctx .capture).has slot = true :=
    has_of_lt (h.live hcall (by simp) _) (h.aimLt _ (List.mem_of_getElem? hcall) _ _ rfl)
  unfold IspUnpinsState.pinCapture
  simp only [touch_of_has hhas, pinIspCaptureRequestBuffers]
  by_cases hempty : (s.ctx .capture).unpinsList slot = []
  · rw [if_neg (not_not.mpr hempty)]
    cases hdone : ok && decide (count ≤ MAX_PIN_BUFFER_PER_REQUEST) with
    | false =>
      simp only [Bool.false_eq_true, if_false, List.length_range']
      exact h.fillCapture hcall hfree hempty _ (.failing _ program) true rfl rfl rfl
    | true =>
      simp only [if_true, List.length_range']
      exact h.fillCapture hcall hfree hempty _ (.submitting _ program) false rfl rfl rfl
  · rw [if_pos hempty]
    exact h.afterFail (h.programFits hcall (by simp) rfl)

theorem IspPinsInv.pinProgram (h : IspPinsInv s)
    {capture : Option U32} (hcall : s.calls[i]? = some (.preparing slot capture))
    (hfree : s.freeIfEmpty .program slot = true) (count : ℕ) (ok : Bool) :
    IspPinsInv (s.pinProgram i slot capture count ok) := by
  have hlt := h.aimLt _ (List.mem_of_getElem? hcall) _ _ rfl
  have hlive := h.live hcall (by simp)
  unfold IspUnpinsState.pinProgram
  simp only [touch_of_has (has_of_lt (hlive _) hlt), pinIspProgram]
  by_cases hempty : (s.ctx .program).unpinsList slot = []
  · rw [if_neg (not_not.mpr hempty)]
    cases ok with
    | false => exact h.goto_idle i
    | true =>
      obtain ⟨hun, hnone⟩ := freeIfEmpty_free hfree hempty
      have hfill := h.fill (min count 1) hempty hun hnone
      have hfits := fits_of_fill (i := i) (min count 1) false hun hnone hlt
      have hlive' (q : IspQueue) :
          ((withPins s .program slot (List.range' s.nextPin (min count 1))).ctx q).allocated = true := by
        rw [withPins_allocated]
        exact hlive q
      simp only [Bool.not_true, Bool.false_eq_true, if_false, List.length_range']
      cases capture with
      | none =>
        apply hfill.goto
        · intro q c hc
          cases q with
          | capture => cases hc
          | program =>
            cases hc
            exact hfits
        · nofun
        · exact Or.inr hlive'
      | some capture =>
        apply hfill.startCapture
        intro held hheld
        cases hheld
        exact ⟨hfits, hlive'⟩
  · rw [if_pos hempty]
    exact h.goto_idle i

/-! ## The requests at the firmware -/

@[simp]
theorem setFirmware_self (s : IspUnpinsState) (q : IspQueue) (slot : ℕ) (pins : Option (List ℕ)) :
    (s.setFirmware q slot pins).atFirmware q slot = pins := by
  simp [IspUnpinsState.setFirmware]

theorem setFirmware_other (s : IspUnpinsState) (pins : Option (List ℕ)) (hne : ¬ (q' = q ∧ slot' = slot)) :
    (s.setFirmware q slot pins).atFirmware q' slot' = s.atFirmware q' slot' := by
  by_cases hq : q' = q
  · subst hq
    have hslot : slot' ≠ slot := fun heq => hne ⟨rfl, heq⟩
    simp [IspUnpinsState.setFirmware, hslot]
  · simp [IspUnpinsState.setFirmware, hq]

section

variable (h : IspPinsInv s)

include h

theorem IspPinsInv.done (q : IspQueue) (slot : ℕ) : IspPinsInv (s.setFirmware q slot none) := by
  apply h.firmware
  intro q' slot' pins hfw
  left
  have hfw' : (s.setFirmware q slot none).atFirmware q' slot' = some pins := hfw
  by_cases hself : q' = q ∧ slot' = slot
  · obtain ⟨rfl, rfl⟩ := hself
    rw [setFirmware_self] at hfw'
    cases hfw'
  · rw [setFirmware_other s _ hself] at hfw'
    exact hfw'

/-- The firmware has the request of a slot that no other call has filled or may unpin. -/
theorem IspPinsInv.sent (hlist : (s.ctx q).unpinsList held.slot = held.pins)
    (hothers : ∀ stage ∈ s.calls, ∀ c, IspStage.claim stage q = some c → c.slot = held.slot →
      c.failed = true ∧ (s.ctx q).unpinsList held.slot = []) : IspPinsInv (s.sent q held) := by
  apply h.firmware
  intro q' slot pins hfw
  have hfw' : (s.setFirmware q held.slot (some held.pins)).atFirmware q' slot = some pins := hfw
  by_cases hself : q' = q ∧ slot = held.slot
  · obtain ⟨rfl, rfl⟩ := hself
    rw [setFirmware_self] at hfw'
    cases hfw'
    exact Or.inr ⟨hlist, hothers⟩
  · rw [setFirmware_other s _ hself] at hfw'
    exact Or.inl hfw'

theorem IspPinsInv.othersFailed (hcall : s.calls[i]? = some stage)
    (hclaim : stage.claim q = some (held.claim false)) :
    (s.ctx q).unpinsList held.slot = held.pins ∧ ∀ stage' ∈ (s.goto i .idle).calls, ∀ c,
      IspStage.claim stage' q = some c → c.slot = held.slot →
        c.failed = true ∧ (s.ctx q).unpinsList held.slot = [] := by
  have hfits := h.fits hcall hclaim
  refine ⟨hfits.firm rfl, ?_⟩
  intro stage' hstage' c hc hslot
  obtain ⟨j, hj⟩ := List.mem_iff_getElem?.mp hstage'
  rcases getElem?_set_cases hj with ⟨-, rfl⟩ | ⟨hne, hold⟩
  · cases q <;> cases hc
  obtain ⟨hempty, hor⟩ := hfits.alone j stage' c hold hne hc hslot.symm
  refine ⟨?_, hempty⟩
  rcases hor with hfalse | hfailed
  · cases hfalse
  · exact hfailed

theorem IspPinsInv.submit (hcall : s.calls[i]? = some (.submitting held program)) :
    IspPinsInv (((program.elim s fun p => s.sent .program p).sent .capture held).goto i .idle) := by
  obtain ⟨hlist, hothers⟩ := h.othersFailed hcall (q := .capture) rfl
  cases program with
  | none => exact (h.goto_idle i).sent hlist hothers
  | some p =>
    obtain ⟨hlist', hothers'⟩ := h.othersFailed hcall (q := .program) rfl
    have hprogram : IspPinsInv ((s.goto i .idle).sent .program p) := (h.goto_idle i).sent hlist' hothers'
    exact hprogram.sent hlist hothers

end

@[simp]
theorem unpin_calls (s : IspUnpinsState) (q : IspQueue) (slot : ℕ) : (s.unpin q slot).calls = s.calls := by
  unfold IspUnpinsState.unpin
  split <;> rfl

@[simp]
theorem unpin_queueDepth (s : IspUnpinsState) (q q' : IspQueue) (slot : ℕ) :
    ((s.unpin q slot).ctx q').queueDepth = (s.ctx q').queueDepth := by
  by_cases hhas : (s.ctx q).has slot = true
  · rw [unpin_of_has hhas]
    exact withPins_queueDepth s q q' slot []
  · simp [IspUnpinsState.unpin, hhas]

@[simp]
theorem unpin_allocated (s : IspUnpinsState) (q q' : IspQueue) (slot : ℕ) :
    ((s.unpin q slot).ctx q').allocated = (s.ctx q').allocated := by
  by_cases hhas : (s.ctx q).has slot = true
  · rw [unpin_of_has hhas]
    exact withPins_allocated s q q' slot []
  · simp [IspUnpinsState.unpin, hhas]

theorem IspPinsInv.unpinFailed (h : IspPinsInv s) (hcall : s.calls[i]? = some stage)
    (hclaim : stage.claim q = some (held.claim true)) (hlive : (s.ctx q).allocated = true) :
    IspPinsInv (s.unpin q held.slot) := by
  have hfits := h.fits hcall hclaim
  apply h.unpin (has_of_lt hlive hfits.lt)
  intro hne
  constructor
  · intro stage' hstage' c hc hslot
    obtain ⟨j, hj⟩ := List.mem_iff_getElem?.mp hstage'
    by_cases hji : j = i
    · subst hji
      rw [hcall] at hj
      cases hj
      rw [hclaim] at hc
      cases hc
      rfl
    · exact absurd (hfits.alone j stage' c hj hji hc hslot.symm).1 hne
  · rw [← Option.not_isSome_iff_eq_none]
    intro hfw
    exact hne (hfits.away hfw)

theorem IspPinsInv.free (h : IspPinsInv s) (hidle : ∀ stage ∈ s.calls, stage = .idle) :
    IspPinsInv { s with ctx := fun q => { s.ctx q with allocated := false } } := by
  refine ⟨⟨h.pinned, h.exclusive, h.own, h.once, h.undone, h.accounted, h.inside⟩, h.firm, h.alone,
    h.away, h.claimLt, h.aimLt, Or.inr hidle, ?_, h.nodup, h.pinLt, h.undoneLt, h.apart⟩
  intro q q'
  rfl

theorem IspPinsInv.indicate (h : IspPinsInv s) {slot : U32}
    (hin : s.indicated q slot = true) : IspPinsInv (s.indicate q slot) := by
  simp only [IspUnpinsState.indicated, Bool.and_eq_true, unfilled_iff] at hin
  obtain ⟨hhas, hfailed⟩ := hin
  apply (h.done q slot.toNat).unpin hhas
  intro hne
  exact ⟨hfailed, setFirmware_self s q slot.toNat none⟩

theorem indicated_indicate (s : IspUnpinsState) (q q' : IspQueue) (slot slot' : U32) :
    (s.indicate q slot).indicated q' slot' = s.indicated q' slot' := by
  simp [IspUnpinsState.indicated, IspUnpinsState.unfilled, IspUnpinsState.indicate, IspDescRec.has,
    IspUnpinsState.setFirmware]

theorem IspPinsInv.step {op : IspUnpinsOp} (h : IspPinsInv s)
    (hstep : ispUnpinsStep s op = some s') (hcareful : ispUnpinsCareful s op) : IspPinsInv s' := by
  cases op with
  | request i slot =>
    obtain ⟨-, rfl⟩ := Option.ite_some_none_eq_some.mp hstep
    exact h.startCapture slot (ispProgramFits_none s i)
  | program i slot =>
    obtain ⟨-, rfl⟩ := Option.ite_some_none_eq_some.mp hstep
    exact h.startProgram i slot none
  | requestEx i programSlot slot =>
    simp only [ispUnpinsStep] at hstep
    split at hstep
    · split at hstep
      · cases hstep
        exact h.startCapture slot (ispProgramFits_none s i)
      · cases hstep
        exact h.startProgram i programSlot (some slot)
    · cases hstep
  | reset i | release i => exact h.startControl hstep
  | fences i ok =>
    simp only [ispUnpinsStep] at hstep
    split at hstep
    · rename_i slot program hcall
      cases hstep
      have hlt := h.aimLt _ (List.mem_of_getElem? hcall) _ _ rfl
      have hprogram : IspProgramFits s i program := h.programFits hcall (by simp) rfl
      apply h.goto
      · intro q c hc
        cases q with
        | capture =>
          cases ok with
          | true => cases hc
          | false =>
            cases hc
            apply fits_of_empty _ hlt
            simpa [ispUnpinsCareful, hcall] using hcareful
        | program => cases ok <;> exact hprogram.claim hc
      · intro q slot' haim
        cases ok with
        | true =>
          cases haim
          exact hlt
        | false => cases haim
      · exact Or.inr (h.live hcall (by simp))
    · cases hstep
  | pin i count ok =>
    simp only [ispUnpinsStep] at hstep
    split at hstep
    · rename_i slot program hcall
      cases hstep
      apply h.pinCapture hcall
      simpa [ispUnpinsCareful, hcall] using hcareful
    · rename_i slot capture hcall
      cases hstep
      apply h.pinProgram hcall
      simpa [ispUnpinsCareful, hcall] using hcareful
    · cases hstep
  | submit i ok =>
    simp only [ispUnpinsStep] at hstep
    split at hstep
    · rename_i held program hcall
      cases ok with
      | true =>
        cases hstep
        exact h.submit hcall
      | false =>
        cases hstep
        apply h.goto
        · intro q c hc
          cases q with
          | capture =>
            cases hc
            exact (h.fits hcall rfl).fail
          | program => exact h.fits hcall hc
        · nofun
        · exact Or.inr (h.live hcall (by simp))
    · rename_i held hcall
      cases ok with
      | true =>
        cases hstep
        obtain ⟨hlist, hothers⟩ := h.othersFailed hcall (q := .program) rfl
        exact (h.goto_idle i).sent hlist hothers
      | false =>
        cases hstep
        apply h.goto
        · intro q c hc
          cases q with
          | capture => cases hc
          | program =>
            cases hc
            exact (h.fits hcall rfl).fail
        · nofun
        · exact Or.inr (h.live hcall (by simp))
    · cases hstep
  | unpin i =>
    simp only [ispUnpinsStep] at hstep
    split at hstep
    · rename_i held program hcall
      cases hstep
      have hlive := h.live hcall (by simp)
      have hunpin := h.unpinFailed hcall (q := .capture) rfl (hlive _)
      apply hunpin.afterFail
      have hcall' : (s.unpin .capture held.slot).calls[i]? = some (.failing held program) := by
        simpa using hcall
      exact hunpin.programFits hcall' (by simp) rfl
    · rename_i held hcall
      cases hstep
      exact (h.unpinFailed hcall (q := .program) rfl (h.live hcall (by simp) _)).goto_idle i
    · rename_i release q slot hcall
      cases hstep
      have hlive := h.live hcall (by simp)
      have hlt := h.aimLt _ (List.mem_of_getElem? hcall) _ _ rfl
      have hclear : s.unfilled q slot = true ∧ s.atFirmware q slot = none := by
        simpa [ispUnpinsCareful, hcall] using hcareful
      have hunpin := h.unpin (has_of_lt (hlive q) hlt) (fun _ => ⟨unfilled_iff.mp hclear.1, hclear.2⟩)
      apply hunpin.nextSlot i
      · simpa using hlive
      · simp
    · rename_i hcall
      cases hstep
      have hidle : ∀ stage ∈ (s.goto i .idle).calls, stage = .idle := by
        simpa [ispUnpinsCareful, hcall, IspUnpinsState.goto] using hcareful
      exact (h.goto_idle i).free hidle
    · cases hstep
  | controlled i ok =>
    simp only [ispUnpinsStep] at hstep
    split at hstep
    · rename_i release hcall
      cases ok with
      | true =>
        cases hstep
        have hnone : IspPinsInv { s with atFirmware := fun _ _ => none } := by
          apply h.firmware
          nofun
        exact hnone.nextSlot i (h.live hcall (by simp)) (fun q => rfl) release .program 0
      | false =>
        cases hstep
        exact h.goto_idle i
    · cases hstep
  | status slot | programStatus slot =>
    cases hstep
    exact h.indicate hcareful
  | exStatus programSlot slot =>
    cases hstep
    obtain ⟨hprogram, hcapture⟩ : s.indicated .program programSlot = true ∧
        s.indicated .capture slot = true := by
      simpa [ispUnpinsCareful] using hcareful
    apply (h.indicate hprogram).indicate
    rw [indicated_indicate]
    exact hcapture

/-! ## Runs -/

/-- Buffers stay pinned while the firmware may use them, in every run in which the setup of the fences fails
only while the slot is empty, a request that finds its slot empty has it for itself, a reset or a release
unpins no request submitted after its own response, a release frees the lists while no other call is under
way, and an indication is for a slot of its queue that no call is about to submit. -/
theorem isp_pins_held {captureDepth programDepth : U32} {threads : ℕ} {ops : List IspUnpinsOp} {s : IspUnpinsState}
    (hcareful : AllSteps ispUnpinsStep ispUnpinsCareful (ispUnpinsStart captureDepth programDepth threads) ops)
    (hrun : run ispUnpinsStep (ispUnpinsStart captureDepth programDepth threads) ops = some s) :
    IspPinsSound s := by
  have hstep (s : IspUnpinsState) (op : IspUnpinsOp) (s' : IspUnpinsState) (h : IspPinsInv s)
      (hop : ispUnpinsCareful s op) (hs : ispUnpinsStep s op = some s') : IspPinsInv s' :=
    h.step hs hop
  have hinv := run_invariant_of_allSteps hstep (isp_pins_inv_start captureDepth programDepth threads)
    hcareful hrun
  exact hinv.toIspPinsSound

/-- A process request goes with a program, another one fails, and a reset follows the status. -/
def ispPinsOps : List IspUnpinsOp :=
  [.requestEx 0 0 1, .pin 0 1 true, .fences 0 true, .pin 0 2 true, .submit 0 true,
    .request 1 0, .fences 1 true, .pin 1 3 false, .unpin 1, .status 1, .request 1 1, .fences 1 true,
    .pin 1 1 true, .submit 1 true, .reset 0, .controlled 0 true, .unpin 0, .unpin 0, .unpin 0]

theorem isp_pins_held_requests :
    ∃ s, run ispUnpinsStep (ispUnpinsStart 2 1 2) ispPinsOps = some s ∧ IspPinsSound s := by
  have hcareful : AllSteps ispUnpinsStep ispUnpinsCareful (ispUnpinsStart 2 1 2) ispPinsOps := by
    decide +kernel
  exact exists_of_map (fun _ => ()) () (by decide +kernel) fun s hs _ => isp_pins_held hcareful hs

/-- Two requests for one slot, and the fences of the second cannot be set up. -/
def ispSameSlotOps : List IspUnpinsOp :=
  [.request 0 0, .fences 0 true, .pin 0 1 true, .submit 0 true, .request 1 0, .fences 1 false, .unpin 1]

/-- The second request unpins the buffer of the first, which the firmware has. -/
theorem isp_pins_lost : ∃ s, run ispUnpinsStep (ispUnpinsStart 2 1 2) ispSameSlotOps = some s ∧
      s.atFirmware .capture 0 = some [0] ∧ (s.ctx .capture).unpinsList 0 = [] ∧ s.undone = [0] ∧
      ¬ IspPinsSound s := by
  refine exists_of_map (fun s => (s.atFirmware .capture 0, (s.ctx .capture).unpinsList 0, s.undone))
    (some [0], [], [0]) (by decide +kernel) fun s hs hend => ?_
  obtain ⟨hfw, hlist, hundone⟩ : s.atFirmware .capture 0 = some [0] ∧
      (s.ctx .capture).unpinsList 0 = [] ∧ s.undone = [0] := by
    simpa using hend
  refine ⟨hfw, hlist, hundone, ?_⟩
  intro h
  have hpinned := h.pinned .capture 0 [0] hfw
  rw [hlist] at hpinned
  cases hpinned

end NvidiaOot.Analysis
