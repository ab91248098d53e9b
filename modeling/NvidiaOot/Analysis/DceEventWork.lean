import NvidiaOot.Library.Positions
import NvidiaOot.Model.Dce

/-!
# No event is lost

Once something is active for an event that is not read, something stays active until the event is read.
A handler that finds two items in use one after the other has seen something active: only an item whose
last check is over is in use without it, and there is one worker.
-/

namespace NvidiaOot.Analysis

open Library Program Model

variable {s s' : DceEventRun} {op : DceEventOp} {h : DceEventHandler} {c i j : ℕ}

/-! ## Work items -/

theorem used_setInUse (info : DceAsyncIpcInfo) (i k : ℕ) (value : Bool) (hlt : i < info.inUse.length) :
    (info.setInUse i value).used k = if k = i then value else info.used k := by
  by_cases hk : k = i
  · simp [DceAsyncIpcInfo.used, DceAsyncIpcInfo.setInUse, hk, hlt]
  · simp [DceAsyncIpcInfo.used, DceAsyncIpcInfo.setInUse, hk, List.getElem?_set_ne (Ne.symm hk)]

theorem used_setInUse_false {info : DceAsyncIpcInfo} {i k : ℕ}
    (h : (info.setInUse i false).used k = true) : k ≠ i ∧ info.used k = true := by
  by_cases hlt : i < info.inUse.length
  · rw [used_setInUse info i k false hlt] at h
    split at h
    · cases h
    · rename_i hk
      exact ⟨hk, h⟩
  rw [DceAsyncIpcInfo.setInUse, List.set_eq_of_length_le (Nat.le_of_not_lt hlt)] at h
  refine ⟨?_, h⟩
  rintro rfl
  simp [DceAsyncIpcInfo.used, List.getElem?_eq_none (Nat.le_of_not_lt hlt)] at h

theorem mem_queueWork (info : DceAsyncIpcInfo) (i : ℕ) :
    i ∈ (info.queueWork i).eventWq ∧ ∀ k ∈ info.eventWq, k ∈ (info.queueWork i).eventWq := by
  rw [DceAsyncIpcInfo.queueWork]
  split
  · rename_i hmem
    exact ⟨hmem, fun k hk => hk⟩
  · simp only [List.mem_append, List.mem_singleton, or_true, true_and]
    exact fun k hk => Or.inl hk

@[simp] theorem used_queueWork (info : DceAsyncIpcInfo) (i k : ℕ) : (info.queueWork i).used k = info.used k := by
  rw [DceAsyncIpcInfo.queueWork]
  split <;> rfl

@[simp] theorem inUse_queueWork (info : DceAsyncIpcInfo) (i : ℕ) : (info.queueWork i).inUse = info.inUse := by
  rw [DceAsyncIpcInfo.queueWork]
  split <;> rfl

/-! ## Handlers -/

theorem mem_handlers_of_ne {h' : DceEventHandler} (hj : s.handlers[j]? = some h) (hne : h' ≠ h)
    (hmem : h' ∈ s.handlers) : h' ∈ s.handlers.eraseIdx j := by
  have hperm := (perm_of_getElem hj).mem_iff.mpr hmem
  rcases List.mem_cons.mp hperm with heq | hrest
  · exact absurd heq hne
  · exact hrest

theorem mem_next_iff {h' : DceEventHandler} {phase : DceEventHandlerPhase} (hj : s.handlers[j]? = some h) :
    h' ∈ (s.next j h phase).handlers ↔ h' = { h with phase := phase } ∨ h' ∈ s.handlers.eraseIdx j := by
  rw [DceEventRun.next, (set_perm_of_getElem hj { h with phase := phase }).mem_iff, List.mem_cons]

theorem mem_of_mem_finish {h' : DceEventHandler} (hmem : h' ∈ (s.finish j h).handlers) :
    h' ∈ s.handlers := List.mem_of_mem_eraseIdx hmem

/-! ## Something is active -/

theorem active_of_handlers (hactive : s.Active) (hj : s.handlers[j]? = some h)
    (hnot : h.willQueue = false) (hqueue : s'.info.eventWq = s.info.eventWq)
    (hothers : ∀ h' ∈ s.handlers.eraseIdx j, h' ∈ s'.handlers) (hworker : s'.worker = s.worker) : s'.Active := by
  rcases hactive with hwq | ⟨h', hmem, hwill⟩ | hcheck
  · exact Or.inl (by rw [hqueue]; exact hwq)
  · refine Or.inr (Or.inl ⟨h', hothers h' (mem_handlers_of_ne hj ?_ hmem), hwill⟩)
    rintro rfl
    rw [hnot] at hwill
    cases hwill
  · exact Or.inr (Or.inr (by rw [hworker]; exact hcheck))

theorem active_step (hactive : s.Active) (hstep : dceEventStep s op = some s') : s'.Active ∨ s'.unread = [] := by
  cases op with
  | publish | raise =>
    cases hstep
    exact Or.inl hactive
  | interrupt =>
    obtain ⟨-, rfl⟩ := Option.ite_some_none_eq_some.mp hstep
    refine Or.inl ?_
    rcases hactive with hwq | ⟨h', hmem, hwill⟩ | hcheck
    · exact Or.inl hwq
    · exact Or.inr (Or.inl ⟨h', List.mem_append_left _ hmem, hwill⟩)
    · exact Or.inr (Or.inr hcheck)
  | handle j =>
    obtain ⟨h, hj, rfl⟩ := Option.map_eq_some_iff.mp hstep
    rw [DceEventRun.handle]
    split
    · rename_i hphase
      have hnot : h.willQueue = false := by simp [DceEventHandler.willQueue, hphase]
      split
      · exact Or.inl (active_of_handlers hactive hj hnot rfl (fun h' hmem => hmem) rfl)
      · exact Or.inl (active_of_handlers hactive hj hnot rfl
          (fun h' hmem => (mem_next_iff hj).mpr (Or.inr hmem)) rfl)
    · rename_i k hphase
      have hnot : h.willQueue = false := by simp [DceEventHandler.willQueue, hphase]
      split
      · split
        · exact Or.inl (active_of_handlers hactive hj hnot rfl
            (fun h' hmem => (mem_next_iff hj).mpr (Or.inr hmem)) rfl)
        · exact Or.inl (Or.inr (Or.inl ⟨_, (mem_next_iff hj).mpr (Or.inl rfl), rfl⟩))
      · exact Or.inl (active_of_handlers hactive hj hnot rfl (fun h' hmem => hmem) rfl)
    · rename_i k hphase
      exact Or.inl (Or.inl (List.ne_nil_of_mem (mem_queueWork s.info k).1))
  | work =>
    simp only [dceEventStep, DceEventRun.work] at hstep
    split at hstep
    · obtain ⟨result, hqueue, rfl⟩ := Option.map_eq_some_iff.mp hstep
      exact Or.inl (Or.inr (Or.inr rfl))
    · cases hstep
      cases hunread : s.unread with
      | nil => exact Or.inr rfl
      | cons event unread => exact Or.inl (Or.inr (Or.inr rfl))
    · split at hstep
      · rename_i hunread
        cases hstep
        exact Or.inr hunread
      · cases hstep
        exact Or.inl (Or.inr (Or.inr rfl))
    · cases hstep
      exact Or.inl (Or.inr (Or.inr rfl))
    · rename_i k hworker
      cases hstep
      refine Or.inl ?_
      rcases hactive with hwq | hwill | hcheck
      · exact Or.inl hwq
      · exact Or.inr (Or.inl hwill)
      · simp [hworker, DceEventWorker.willCheck] at hcheck

/-- Something is active as long as an event before the `c`-th is not read. -/
def Kept (c : ℕ) (s : DceEventRun) : Prop := (∃ event ∈ s.unread, event < c) → s.Active

theorem waiting_step (hc : c ≤ s.published) (hstep : dceEventStep s op = some s')
    (hwaiting : ∃ event ∈ s'.unread, event < c) : ∃ event ∈ s.unread, event < c := by
  obtain ⟨event, hmem, hlt⟩ := hwaiting
  refine ⟨event, ?_, hlt⟩
  cases op with
  | publish =>
    cases hstep
    rcases List.mem_append.mp hmem with hmem | hmem
    · exact hmem
    · rw [List.mem_singleton.mp hmem] at hlt
      omega
  | raise =>
    cases hstep
    exact hmem
  | interrupt =>
    obtain ⟨-, rfl⟩ := Option.ite_some_none_eq_some.mp hstep
    exact hmem
  | handle j =>
    obtain ⟨h, hj, rfl⟩ := Option.map_eq_some_iff.mp hstep
    have hsame : (s.handle j h).unread = s.unread := by
      rw [DceEventRun.handle]
      split
      · split <;> rfl
      · split
        · split <;> rfl
        · rfl
      · rfl
    rwa [hsame] at hmem
  | work =>
    simp only [dceEventStep, DceEventRun.work] at hstep
    split at hstep
    · obtain ⟨result, -, rfl⟩ := Option.map_eq_some_iff.mp hstep
      exact hmem
    · cases hstep
      exact hmem
    · split at hstep
      · cases hstep
        exact hmem
      · rename_i first unread hunread
        cases hstep
        rw [hunread]
        exact List.mem_cons_of_mem first hmem
    · cases hstep
      exact hmem
    · cases hstep
      exact hmem

theorem kept_step (hkept : Kept c s) (hc : c ≤ s.published) (hstep : dceEventStep s op = some s') : Kept c s' := by
  intro hwaiting
  rcases active_step (hkept (waiting_step hc hstep hwaiting)) hstep with hactive | hnone
  · exact hactive
  · obtain ⟨event, hmem, -⟩ := hwaiting
    rw [hnone] at hmem
    cases hmem

theorem Kept.max {d : ℕ} (hc : Kept c s) (hd : Kept d s) : Kept (max c d) s := by
  rintro ⟨event, hmem, hlt⟩
  rcases lt_max_iff.mp hlt with hlt | hlt
  · exact hc ⟨event, hmem, hlt⟩
  · exact hd ⟨event, hmem, hlt⟩

theorem kept_of_active (hactive : s.Active) : Kept c s := fun _ => hactive

theorem kept_of_read (hnone : s.unread = []) : Kept c s := by
  rintro ⟨event, hmem, -⟩
  rw [hnone] at hmem
  cases hmem

/-! ## The invariant -/

def workerItem : DceEventWorker → Option ℕ
  | .idle => none
  | .check i => some i
  | .read i => some i
  | .callback i _ => some i
  | .clear i => some i

/-- What is known once a handler has tried the items before the `i`-th. -/
def ScanKept (s : DceEventRun) (c : ℕ) (i : U8) : Prop :=
  i.toNat = 0 ∨ (i.toNat = 1 ∧ ∀ k, s.worker = .clear k → k = 0) ∨ Kept c s

def HandlerKept (s : DceEventRun) (h : DceEventHandler) : Prop :=
  ∀ i, h.phase = .scan i → ScanKept s h.covers i

structure EventTracked (s : DceEventRun) : Prop where
  count : 2 ≤ s.info.inUse.length
  places : ∀ i, s.info.used i = true →
    i ∈ s.info.eventWq ∨ (∃ h ∈ s.handlers, h.phase = .queue i) ∨ workerItem s.worker = some i
  raised : s.raised ≤ s.published
  covers : ∀ h ∈ s.handlers, h.covers ≤ s.published
  bound : s.handled ≤ s.published
  handled : Kept s.handled s
  scans : ∀ h ∈ s.handlers, HandlerKept s h
  inOrder : s.callbacks ++ s.worker.event ++ s.unread = List.range s.published

theorem EventTracked.used_of_not_active (ht : EventTracked s) (hnot : ¬ s.Active)
    (hused : s.info.used i = true) : s.worker = .clear i := by
  rcases ht.places i hused with hmem | ⟨h, hmem, hphase⟩ | hitem
  · exact absurd (Or.inl (List.ne_nil_of_mem hmem)) hnot
  · exact absurd (Or.inr (Or.inl ⟨h, hmem, by simp [DceEventHandler.willQueue, hphase]⟩)) hnot
  · have hcheck : s.worker.willCheck = false :=
      Bool.eq_false_of_not_eq_true fun hcheck => hnot (Or.inr (Or.inr hcheck))
    cases hworker : s.worker with
    | idle => simp [hworker, workerItem] at hitem
    | check k | read k | callback k event => simp [hworker, DceEventWorker.willCheck] at hcheck
    | clear k =>
      rw [hworker] at hitem
      rw [Option.some.inj hitem]

theorem worker_step (hstep : dceEventStep s op = some s') (hclear : s'.worker = .clear i) :
    s.worker = .clear i ∨ s'.unread = [] := by
  cases op with
  | publish | raise =>
    cases hstep
    exact Or.inl hclear
  | interrupt =>
    obtain ⟨-, rfl⟩ := Option.ite_some_none_eq_some.mp hstep
    exact Or.inl hclear
  | handle j =>
    obtain ⟨h, hj, rfl⟩ := Option.map_eq_some_iff.mp hstep
    have hsame : (s.handle j h).worker = s.worker := by
      rw [DceEventRun.handle]
      split
      · split <;> rfl
      · split
        · split <;> rfl
        · rfl
      · rfl
    exact Or.inl (hsame ▸ hclear)
  | work =>
    simp only [dceEventStep, DceEventRun.work] at hstep
    split at hstep
    · obtain ⟨result, -, rfl⟩ := Option.map_eq_some_iff.mp hstep
      cases hclear
    · cases hstep
      cases hunread : s.unread with
      | nil => exact Or.inr rfl
      | cons event unread => simp [hunread] at hclear
    · split at hstep
      · rename_i hunread
        cases hstep
        exact Or.inr hunread
      · cases hstep
        cases hclear
    · cases hstep
      cases hclear
    · cases hstep
      cases hclear

theorem handlerKept_step (hkept : HandlerKept s h) (hc : h.covers ≤ s.published)
    (hstep : dceEventStep s op = some s') : HandlerKept s' h := by
  intro i hphase
  rcases hkept i hphase with hzero | ⟨hone, hclear⟩ | hkept
  · exact Or.inl hzero
  · by_cases hread : s'.unread = []
    · exact Or.inr (Or.inr (kept_of_read hread))
    · refine Or.inr (Or.inl ⟨hone, ?_⟩)
      intro k hk
      exact hclear k ((worker_step hstep hk).resolve_right hread)
  · exact Or.inr (Or.inr (kept_step hkept hc hstep))

/-! ## Steps -/

section

variable (ht : EventTracked s)

include ht

theorem event_publish (hstep : dceEventStep s .publish = some s') : EventTracked s' := by
  have hscans : ∀ h ∈ s.handlers, HandlerKept s' h :=
    fun h hmem => handlerKept_step (ht.scans h hmem) (ht.covers h hmem) hstep
  have hhandled := kept_step ht.handled ht.bound hstep
  cases hstep
  constructor
  · exact ht.count
  · exact ht.places
  · exact ht.raised.trans (Nat.le_succ _)
  · exact fun h hmem => (ht.covers h hmem).trans (Nat.le_succ _)
  · exact ht.bound.trans (Nat.le_succ _)
  · exact hhandled
  · exact hscans
  · simp only [List.range_succ, ← List.append_assoc, ht.inOrder]

theorem event_raise (hstep : dceEventStep s .raise = some s') : EventTracked s' := by
  cases hstep
  exact { ht with raised := Nat.le_refl _ }

theorem event_interrupt (hstep : dceEventStep s .interrupt = some s') : EventTracked s' := by
  have hscans : ∀ h ∈ s.handlers, HandlerKept s' h :=
    fun h hmem => handlerKept_step (ht.scans h hmem) (ht.covers h hmem) hstep
  have hhandled := kept_step ht.handled ht.bound hstep
  obtain ⟨-, rfl⟩ := Option.ite_some_none_eq_some.mp hstep
  refine { ht with places := ?_, covers := ?_, handled := hhandled, scans := ?_ }
  · intro i hused
    rcases ht.places i hused with hmem | ⟨h, hmem, hphase⟩ | hitem
    · exact Or.inl hmem
    · exact Or.inr (Or.inl ⟨h, List.mem_append_left _ hmem, hphase⟩)
    · exact Or.inr (Or.inr hitem)
  · intro h hmem
    rcases List.mem_append.mp hmem with hmem | hmem
    · exact ht.covers h hmem
    · rw [List.mem_singleton.mp hmem]
      exact ht.raised
  · intro h hmem
    rcases List.mem_append.mp hmem with hmem | hmem
    · exact hscans h hmem
    · rw [List.mem_singleton.mp hmem]
      nofun

/-! ## Steps of a handler -/

theorem places_of_handlers (hj : s.handlers[j]? = some h)
    (hnot : ∀ i, h.phase ≠ .queue i) {handlers : List DceEventHandler}
    (hothers : ∀ h' ∈ s.handlers.eraseIdx j, h' ∈ handlers) (hused : s.info.used i = true) :
    i ∈ s.info.eventWq ∨ (∃ h' ∈ handlers, h'.phase = .queue i) ∨ workerItem s.worker = some i := by
  rcases ht.places i hused with hmem | ⟨h', hmem, hphase⟩ | hitem
  · exact Or.inl hmem
  · refine Or.inr (Or.inl ⟨h', hothers h' (mem_handlers_of_ne hj ?_ hmem), hphase⟩)
    rintro rfl
    exact hnot i hphase
  · exact Or.inr (Or.inr hitem)

theorem event_finish (hj : s.handlers[j]? = some h)
    (hstep : dceEventStep s (.handle j) = some (s.finish j h)) (hnot : ∀ i, h.phase ≠ .queue i)
    (hkept : Kept h.covers s) : EventTracked (s.finish j h) where
  count := ht.count
  places := fun _ => places_of_handlers ht hj hnot fun _ hmem => hmem
  raised := ht.raised
  covers := fun h' hmem => ht.covers h' (mem_of_mem_finish hmem)
  bound := max_le ht.bound (ht.covers h (List.mem_of_getElem? hj))
  handled := kept_step (ht.handled.max hkept)
    (max_le ht.bound (ht.covers h (List.mem_of_getElem? hj))) hstep
  scans := fun h' hmem =>
    handlerKept_step (ht.scans h' (mem_of_mem_finish hmem)) (ht.covers h' (mem_of_mem_finish hmem))
      hstep
  inOrder := ht.inOrder

end

theorem event_next_scan {k : U8} (ht : EventTracked s) (hj : s.handlers[j]? = some h)
    (hstep : dceEventStep s (.handle j) = some (s.next j h (.scan k))) (hnot : ∀ i, h.phase ≠ .queue i)
    (hscan : ScanKept (s.next j h (.scan k)) h.covers k) : EventTracked (s.next j h (.scan k)) where
  count := ht.count
  places := fun _ =>
    places_of_handlers ht hj hnot fun _ hmem => (mem_next_iff hj).mpr (Or.inr hmem)
  raised := ht.raised
  covers := by
    intro h' hmem
    rcases (mem_next_iff hj).mp hmem with rfl | hmem
    · exact ht.covers h (List.mem_of_getElem? hj)
    · exact ht.covers h' (List.mem_of_mem_eraseIdx hmem)
  bound := ht.bound
  handled := kept_step ht.handled ht.bound hstep
  scans := by
    intro h' hmem
    rcases (mem_next_iff hj).mp hmem with rfl | hmem
    · intro i hphase
      rw [← DceEventHandlerPhase.scan.inj hphase]
      exact hscan
    · have hold := List.mem_of_mem_eraseIdx hmem
      exact handlerKept_step (ht.scans h' hold) (ht.covers h' hold) hstep
  inOrder := ht.inOrder

theorem scanKept_next {k : U8} (ht : EventTracked s) (hscan : ScanKept s h.covers k)
    (hcovers : h.covers ≤ s.published) (hused : s.info.used k.toNat = true)
    (hstep : dceEventStep s (.handle j) = some s') (hworker : s'.worker = s.worker) :
    ScanKept s' h.covers (k + 1) := by
  by_cases hlast : k.toNat = 255
  · refine Or.inl ?_
    rw [BitVec.toNat_add, hlast]
    rfl
  have hsucc : (k + 1).toNat = k.toNat + 1 := by
    exact Nat.mod_eq_of_lt (by simp; omega)
  by_cases hactive : s.Active
  · exact Or.inr (Or.inr (kept_step (kept_of_active hactive) hcovers hstep))
  have hclear := ht.used_of_not_active hactive hused
  rcases hscan with hzero | ⟨hone, hfirst⟩ | hkept
  · refine Or.inr (Or.inl ⟨by omega, ?_⟩)
    intro i hi
    rw [hworker, hclear] at hi
    rw [← DceEventWorker.clear.inj hi]
    exact hzero
  · have hfirst := hfirst k.toNat hclear
    omega
  · exact Or.inr (Or.inr (kept_step hkept hcovers hstep))

theorem event_take {k : U8} {info : DceAsyncIpcInfo} (ht : EventTracked s)
    (hj : s.handlers[j]? = some h) (hnot : ∀ i, h.phase ≠ .queue i) (hlt : k.toNat < s.info.inUse.length)
    (htake : s.info.take k.toNat = some info)
    (hstep : dceEventStep s (.handle j) = some { s.next j h (.queue k.toNat) with info := info }) :
    EventTracked { s.next j h (.queue k.toNat) with info := info } := by
  rw [DceAsyncIpcInfo.take] at htake
  split at htake
  · cases htake
  rw [← Option.some.inj htake] at hstep ⊢
  constructor
  · simpa [DceAsyncIpcInfo.setInUse] using ht.count
  · intro i hused
    rw [used_setInUse s.info k.toNat i true hlt] at hused
    split at hused
    · rename_i heq
      refine Or.inr (Or.inl ⟨{ h with phase := .queue k.toNat }, ?_, by rw [heq]⟩)
      exact (mem_next_iff hj).mpr (Or.inl rfl)
    · exact places_of_handlers ht hj hnot (fun h' hmem => (mem_next_iff hj).mpr (Or.inr hmem)) hused
  · exact ht.raised
  · intro h' hmem
    rcases (mem_next_iff hj).mp hmem with rfl | hmem
    · exact ht.covers h (List.mem_of_getElem? hj)
    · exact ht.covers h' (List.mem_of_mem_eraseIdx hmem)
  · exact ht.bound
  · exact kept_step ht.handled ht.bound hstep
  · intro h' hmem
    rcases (mem_next_iff hj).mp hmem with rfl | hmem
    · nofun
    · have hold := List.mem_of_mem_eraseIdx hmem
      exact handlerKept_step (ht.scans h' hold) (ht.covers h' hold) hstep
  · exact ht.inOrder

theorem event_queue {k : ℕ} (ht : EventTracked s) (hj : s.handlers[j]? = some h) (hphase : h.phase = .queue k)
    (hstep : dceEventStep s (.handle j) = some { s.finish j h with info := s.info.queueWork k }) :
    EventTracked { s.finish j h with info := s.info.queueWork k } := by
  have hqueued := mem_queueWork s.info k
  constructor
  · rw [inUse_queueWork]
    exact ht.count
  · intro i hused
    rw [used_queueWork] at hused
    rcases ht.places i hused with hmem | ⟨h', hmem, hphase'⟩ | hitem
    · exact Or.inl (hqueued.2 i hmem)
    · by_cases heq : h' = h
      · rw [heq, hphase] at hphase'
        rw [← DceEventHandlerPhase.queue.inj hphase']
        exact Or.inl hqueued.1
      · exact Or.inr (Or.inl ⟨h', mem_handlers_of_ne hj heq hmem, hphase'⟩)
    · exact Or.inr (Or.inr hitem)
  · exact ht.raised
  · exact fun h' hmem => ht.covers h' (List.mem_of_mem_eraseIdx hmem)
  · exact max_le ht.bound (ht.covers h (List.mem_of_getElem? hj))
  · exact kept_of_active (Or.inl (List.ne_nil_of_mem hqueued.1))
  · intro h' hmem
    have hold : h' ∈ s.handlers := List.mem_of_mem_eraseIdx hmem
    exact handlerKept_step (ht.scans h' hold) (ht.covers h' hold) hstep
  · exact ht.inOrder

theorem event_handle (ht : EventTracked s) (hstep : dceEventStep s (.handle j) = some s') : EventTracked s' := by
  obtain ⟨h, hj, rfl⟩ := Option.map_eq_some_iff.mp hstep
  have hmem := List.mem_of_getElem? hj
  have hcovers := ht.covers h hmem
  cases hphase : h.phase with
  | look =>
    have hnot : ∀ i, h.phase ≠ .queue i := by simp [hphase]
    simp only [DceEventRun.handle, hphase] at hstep ⊢
    split
    · rename_i hempty
      rw [if_pos hempty] at hstep
      exact event_finish ht hj hstep hnot (kept_of_read (List.isEmpty_iff.mp hempty))
    · rename_i hempty
      rw [if_neg hempty] at hstep
      exact event_next_scan ht hj hstep hnot (Or.inl rfl)
  | scan k =>
    have hnot : ∀ i, h.phase ≠ .queue i := by simp [hphase]
    have hscan := ht.scans h hmem k hphase
    simp only [DceEventRun.handle, hphase] at hstep ⊢
    split
    · rename_i hlt
      rw [if_pos hlt] at hstep
      cases htake : s.info.take k.toNat with
      | none =>
        have hused : s.info.used k.toNat = true := by
          by_contra hfree
          simp [DceAsyncIpcInfo.take, hfree] at htake
        rw [htake] at hstep
        exact event_next_scan ht hj hstep hnot (scanKept_next ht hscan hcovers hused hstep rfl)
      | some info =>
        rw [htake] at hstep
        exact event_take ht hj hnot hlt htake hstep
    rename_i hge
    rw [if_neg hge] at hstep
    have hcount := ht.count
    have hkept : Kept h.covers s := by
      rcases hscan with hzero | ⟨hone, -⟩ | hkept
      · omega
      · omega
      · exact hkept
    exact event_finish ht hj hstep hnot hkept
  | queue k =>
    simp only [DceEventRun.handle, hphase] at hstep ⊢
    exact event_queue ht hj hphase hstep

/-! ## Steps of the worker -/

theorem event_work (ht : EventTracked s) (hstep : dceEventStep s .work = some s') : EventTracked s' := by
  have hhandled : Kept s.handled s' := kept_step ht.handled ht.bound hstep
  have hscans : ∀ h ∈ s.handlers, HandlerKept s' h :=
    fun h hmem => handlerKept_step (ht.scans h hmem) (ht.covers h hmem) hstep
  have hplaces := ht.places
  have horder := ht.inOrder
  simp only [dceEventStep, DceEventRun.work] at hstep
  split at hstep
  · rename_i hworker
    obtain ⟨⟨i, info⟩, hqueue, rfl⟩ := Option.map_eq_some_iff.mp hstep
    rw [DceAsyncIpcInfo.dequeue] at hqueue
    split at hqueue
    · cases hqueue
    rename_i first queue hwq
    obtain ⟨rfl, rfl⟩ := hqueue
    rw [hworker] at hplaces horder
    refine { ht with places := ?_, handled := hhandled, scans := hscans, inOrder := horder }
    intro k hused
    rcases hplaces k hused with hmem | hholds | hitem
    · rw [hwq] at hmem
      rcases List.mem_cons.mp hmem with rfl | hmem
      · exact Or.inr (Or.inr rfl)
      · exact Or.inl hmem
    · exact Or.inr (Or.inl hholds)
    · cases hitem
  · rename_i i hworker
    cases hstep
    rw [hworker] at hplaces horder
    refine { ht with places := ?_, handled := hhandled, scans := hscans, inOrder := ?_ }
    · intro k hused
      rcases hplaces k hused with hmem | hholds | hitem
      · exact Or.inl hmem
      · exact Or.inr (Or.inl hholds)
      · refine Or.inr (Or.inr ?_)
        split <;> exact hitem
    · split <;> exact horder
  · rename_i i hworker
    rw [hworker] at hplaces horder
    split at hstep
    · cases hstep
      exact { ht with places := hplaces, handled := hhandled, scans := hscans, inOrder := horder }
    rename_i event unread hunread
    cases hstep
    refine { ht with places := hplaces, handled := hhandled, scans := hscans, inOrder := ?_ }
    rw [hunread] at horder
    simpa [DceEventWorker.event] using horder
  · rename_i i event hworker
    cases hstep
    rw [hworker] at hplaces horder
    refine { ht with places := hplaces, handled := hhandled, scans := hscans, inOrder := ?_ }
    simpa [DceEventWorker.event] using horder
  · rename_i i hworker
    cases hstep
    rw [hworker] at hplaces horder
    refine { ht with count := ?_, places := ?_, handled := hhandled, scans := hscans, inOrder := horder }
    · simpa [DceAsyncIpcInfo.setInUse] using ht.count
    · intro k hused
      obtain ⟨hne, hold⟩ := used_setInUse_false hused
      rcases hplaces k hold with hmem | hholds | hitem
      · exact Or.inl hmem
      · exact Or.inr (Or.inl hholds)
      · exact absurd (Option.some.inj hitem).symm hne

/-! ## Runs -/

theorem eventTracked_step (ht : EventTracked s) (hstep : dceEventStep s op = some s') : EventTracked s' := by
  cases op with
  | publish => exact event_publish ht hstep
  | raise => exact event_raise ht hstep
  | interrupt => exact event_interrupt ht hstep
  | handle j => exact event_handle ht hstep
  | work => exact event_work ht hstep

theorem eventTracked_start {count : ℕ} (hcount : 2 ≤ count) : EventTracked (dceEventStart count) := by
  constructor
  · simpa [dceEventStart, DceAsyncIpcInfo.init] using hcount
  · intro i hused
    simp [dceEventStart, DceAsyncIpcInfo.init, DceAsyncIpcInfo.used, List.getElem?_replicate] at hused
    split at hused <;> cases hused
  · exact Nat.le_refl 0
  · simp [dceEventStart]
  · exact Nat.le_refl 0
  · exact kept_of_read rfl
  · simp [dceEventStart]
  · simp [dceEventStart, DceEventWorker.event]

/-- **No event is lost.**  With two work items or more, in every state with an event that is not read
and whose interrupt has been handled some item is queued, is about to be queued, or will check for data;
and the events are passed to the callback once and in order. -/
theorem dce_events_not_lost {count : ℕ} (hcount : 2 ≤ count) {ops : List DceEventOp}
    (hrun : run dceEventStep (dceEventStart count) ops = some s) : s.Sound := by
  have ht : EventTracked s :=
    run_invariant (fun _ _ _ => eventTracked_step) (eventTracked_start hcount) hrun
  exact ⟨ht.handled, ht.inOrder⟩

/-- Two items: the second event comes after the last check of the first item and is read by the
second. -/
theorem dce_events_not_lost_two : ∃ s, run dceEventStep (dceEventStart 2)
        [.publish, .raise, .interrupt, .handle 0, .handle 0, .handle 0, .work, .work, .work, .work,
          .work, .publish, .raise, .interrupt, .handle 0, .handle 0, .handle 0, .handle 0, .work,
          .work, .work, .work, .work] = some s ∧ s.callbacks = [0, 1] ∧ s.Sound := by
  refine exists_of_map DceEventRun.callbacks [0, 1] (by decide +kernel) fun s hs hcallbacks => ?_
  exact ⟨hcallbacks, dce_events_not_lost (Nat.le_refl 2) hs⟩

end NvidiaOot.Analysis
