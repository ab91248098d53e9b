import Mathlib.Tactic.IntervalCases
import NvidiaOot.Model.Dce

/-!
# The tables of the clients agree

When no client shares its type with another one as it unregisters, and no call gets a handle whose
entry is not valid, the pointers of `d_clients` are to valid entries of their type, and each handle
that was issued stays usable until it is unregistered.
-/

namespace NvidiaOot.Analysis

open Library Program Model Function

/-! ## Handles and entries -/

theorem lookupHandle_eq_some {handle : U32} {i : ℕ} :
    dceClientIpcLookupHandle handle = some i ↔ i < DCE_CLIENT_IPC_TYPE_MAX ∧ handle = handleOf i := by
  constructor
  · intro hlookup
    unfold dceClientIpcLookupHandle isClientHandleValid at hlookup
    have hindex : clientHandleToIndex handle = i := by grind
    have hpow : DCE_CLIENT_IPC_HANDLE_VALID = BitVec.twoPow 32 31 := by decide
    refine ⟨by grind, ?_⟩
    subst hindex
    unfold handleOf clientHandleToIndex
    ext k hk
    grind
  · rintro ⟨hlt, rfl⟩
    unfold DCE_CLIENT_IPC_TYPE_MAX at hlt
    interval_cases i <;> decide

theorem dceClientGetType_intTypeOf {type : ℕ} (h : type < DCE_CLIENT_IPC_TYPE_MAX) :
    dceClientGetType (intTypeOf type) = type := by
  unfold DCE_CLIENT_IPC_TYPE_MAX at h
  interval_cases type <;> decide

section

variable (s : ClientTables)

theorem clientHandles_setEntry (i j : ℕ) (cl : ClientIpc) :
    (s.setEntry i cl).clientHandles j = if j = i then cl else s.clientHandles j :=
  update_apply _ _ _ _

@[simp] theorem clientHandles_setClient (d type : ℕ) (cl : Option ℕ) :
    (s.setClient d type cl).clientHandles = s.clientHandles := rfl

theorem dClients_setClient (d type d' type' : ℕ) (cl : Option ℕ) :
    (s.setClient d type cl).dClients d' type' = if d' = d ∧ type' = type then cl else s.dClients d' type' := by
  unfold ClientTables.setClient
  by_cases hd : d' = d
  · subst hd
    simp [update_apply]
  · simp [hd]

theorem setEntry_setEntry (i : ℕ) (cl cl' : ClientIpc) :
    (s.setEntry i cl).setEntry i cl' = s.setEntry i cl' := by
  simp [ClientTables.setEntry]

end

theorem setEntry_of_eq {s : ClientTables} {i : ℕ} {cl : ClientIpc} (h : s.clientHandles i = cl) :
    s.setEntry i cl = s := by
  subst h
  simp [ClientTables.setEntry]

theorem setClient_of_eq {s : ClientTables} {d type : ℕ} {cl : Option ℕ}
    (h : s.dClients d type = cl) : s.setClient d type cl = s := by
  subst h
  simp [ClientTables.setClient]

theorem access_of_valid {s : ClientTables} {i : ℕ} (h : (s.clientHandles i).valid = true) :
    s.access i = [] := if_pos h

/-! ## The tables agree -/

structure ClientsAgree (s : ClientTables) : Prop where
  clients : ∀ d type i, s.dClients d type = some i → i < DCE_CLIENT_IPC_TYPE_MAX ∧
    (s.clientHandles i).valid = true ∧ (s.clientHandles i).type = type ∧
    (s.clientHandles i).d = some d
  entry : ∀ i, (s.clientHandles i).valid = true → i < DCE_CLIENT_IPC_TYPE_MAX ∧
    (s.clientHandles i).type < DCE_CLIENT_IPC_TYPE_MAX ∧
    (s.clientHandles i).handle = handleOf i ∧
    (s.clientHandles i).intType = intTypeOf (s.clientHandles i).type
  served : ∀ i, (s.clientHandles i).valid = true → ∃ d, (s.clientHandles i).d = some d ∧
    (s.dClients d (s.clientHandles i).type).isSome = true ∧
    ((s.clientHandles i).type = DCE_CLIENT_IPC_TYPE_RM_EVENT → s.dClients d (s.clientHandles i).type = some i)
  zero : ∀ i, (s.clientHandles i).valid = false → s.clientHandles i = ClientIpc.zero

variable {s s' : ClientTables}

theorem ClientsAgree.waitEntry (h : ClientsAgree s) {d type j : ℕ} (htype : type < DCE_CLIENT_IPC_TYPE_MAX)
    (hj : s.dClients d type = some j) : dceClientIpcWaitEntry s d (intTypeOf type) = (some j, []) := by
  obtain ⟨_, hvalid, htype', _⟩ := h.clients _ _ _ hj
  obtain ⟨_, _, _, hint⟩ := h.entry _ hvalid
  rw [htype'] at hint
  unfold dceClientIpcWaitEntry
  rw [dceClientGetType_intTypeOf htype, if_neg (not_le.mpr htype), hj]
  simp [hint, access_of_valid hvalid]

/-- **The handle of a valid entry is usable.** -/
theorem ClientsAgree.usable (h : ClientsAgree s) {i : ℕ} (hvalid : (s.clientHandles i).valid = true) :
    ClientUsable s (handleOf i) := by
  obtain ⟨hlt, htype, hhandle, hint⟩ := h.entry i hvalid
  obtain ⟨d, hd, hsome, hevent⟩ := h.served i hvalid
  obtain ⟨j, hj⟩ := Option.isSome_iff_exists.mp hsome
  refine ⟨i, d, lookupHandle_eq_some.mpr ⟨hlt, rfl⟩, hvalid, hhandle, hd, ?_, ?_⟩
  · rw [hint, h.waitEntry htype hj]
    simp
  · intro heq
    rw [← heq]
    exact hevent heq

theorem sameRegistrations_fields (h : SameRegistrations s s') (i : ℕ) :
    (s'.clientHandles i).valid = (s.clientHandles i).valid ∧ (s'.clientHandles i).type = (s.clientHandles i).type ∧
    (s'.clientHandles i).handle = (s.clientHandles i).handle ∧
    (s'.clientHandles i).intType = (s.clientHandles i).intType ∧
    (s'.clientHandles i).d = (s.clientHandles i).d := by
  have heq := h.2 i
  simp only [ClientIpc.mk.injEq] at heq
  obtain ⟨hvalid, _, htype, hhandle, hint, hd, _⟩ := heq
  exact ⟨hvalid, htype, hhandle, hint, hd⟩

theorem sameRegistrations_refl (s : ClientTables) : SameRegistrations s s := ⟨rfl, fun _ => rfl⟩

theorem sameRegistrations_trans {s'' : ClientTables} (h : SameRegistrations s s')
    (h' : SameRegistrations s' s'') : SameRegistrations s s'' :=
  ⟨h'.1.trans h.1, fun i => (h'.2 i).trans (h.2 i)⟩

theorem sameRegistrations_setComplete (s : ClientTables) (i : ℕ) (complete : Bool) :
    SameRegistrations s (s.setEntry i { s.clientHandles i with complete := complete }) := by
  refine ⟨rfl, ?_⟩
  intro j
  rw [clientHandles_setEntry]
  by_cases hj : j = i
  · simp [hj]
  · simp [hj]

theorem ClientsAgree.setComplete (h : ClientsAgree s) {i : ℕ} (hvalid : (s.clientHandles i).valid = true)
    (complete : Bool) : ClientsAgree (s.setEntry i { s.clientHandles i with complete := complete }) := by
  have hsame := sameRegistrations_setComplete s i complete
  constructor
  · intro d type j hj
    obtain ⟨hv, ht, _, _, hd⟩ := sameRegistrations_fields hsame j
    rw [hv, ht, hd]
    exact h.clients d type j hj
  · intro j hj
    obtain ⟨hv, ht, hh, hi, _⟩ := sameRegistrations_fields hsame j
    rw [ht, hh, hi]
    exact h.entry j (hv ▸ hj)
  · intro j hj
    obtain ⟨hv, ht, _, _, hd⟩ := sameRegistrations_fields hsame j
    rw [ht, hd]
    exact h.served j (hv ▸ hj)
  · intro j hj
    obtain ⟨hv, _⟩ := sameRegistrations_fields hsame j
    rw [hv] at hj
    have hne : j ≠ i := by
      rintro rfl
      rw [hvalid] at hj
      exact Bool.noConfusion hj
    rw [clientHandles_setEntry, if_neg hne]
    exact h.zero j hj

/-! ## Calls that leave the registrations -/

/-- What signals and messages do to the tables: they agree as before, with the same
registrations. -/
structure Leaves (s s' : ClientTables) : Prop where
  same : SameRegistrations s s'
  agree : ClientsAgree s'

theorem Leaves.refl (h : ClientsAgree s) : Leaves s s := ⟨sameRegistrations_refl s, h⟩

theorem Leaves.trans {s'' : ClientTables} (h : Leaves s s') (h' : Leaves s' s'') : Leaves s s'' :=
  ⟨sameRegistrations_trans h.same h'.same, h'.agree⟩

section

variable (h : ClientsAgree s)

include h

theorem ClientsAgree.leaves_setComplete {i : ℕ}
    (hvalid : (s.clientHandles i).valid = true) (complete : Bool) :
    Leaves s (s.setEntry i { s.clientHandles i with complete := complete }) :=
  ⟨sameRegistrations_setComplete s i complete, h.setComplete hvalid complete⟩

theorem ClientsAgree.wakeup (d chType : ℕ) : Leaves s (dceClientIpcWakeup s d chType) := by
  unfold dceClientIpcWakeup
  split
  · exact Leaves.refl h
  split
  · exact Leaves.refl h
  next i hi =>
    dsimp only
    split
    · exact Leaves.refl h
    · split
      · exact Leaves.refl h
      · exact h.leaves_setComplete (h.clients _ _ _ hi).2.1 true

theorem ClientsAgree.wait {d type : ℕ} (htype : type < DCE_CLIENT_IPC_TYPE_MAX)
    (hsome : (s.dClients d type).isSome = true) (woken : Bool) :
    (dceClientIpcWait s d (intTypeOf type) woken).stale = [] ∧
      Leaves s (dceClientIpcWait s d (intTypeOf type) woken).tables := by
  obtain ⟨j, hj⟩ := Option.isSome_iff_exists.mp hsome
  have hvalid := (h.clients _ _ _ hj).2.1
  have hleaves : Leaves s (if woken then dceClientIpcWakeup s d (intTypeOf type) else s) := by
    split
    · exact h.wakeup d _
    · exact Leaves.refl h
  unfold dceClientIpcWait
  rw [h.waitEntry htype hj]
  dsimp only
  generalize (if woken then dceClientIpcWakeup s d (intTypeOf type) else s) = t at hleaves ⊢
  split
  · refine ⟨rfl, hleaves.trans (hleaves.agree.leaves_setComplete ?_ false)⟩
    rw [(sameRegistrations_fields hleaves.same j).1]
    exact hvalid
  · exact ⟨rfl, hleaves⟩

/-- **A message** through a handle of a valid entry. -/
theorem ClientsAgree.sendRecv {handle : U32} {msg : Bool}
    (hfresh : msg = true → HandleFresh s handle) (env : SendEnv) :
    (tegraDceClientIpcSendRecv s handle msg env).stale = [] ∧
      Leaves s (tegraDceClientIpcSendRecv s handle msg env).tables := by
  unfold tegraDceClientIpcSendRecv
  cases msg with
  | false => exact ⟨rfl, Leaves.refl h⟩
  | true =>
    rw [Bool.not_true, if_neg Bool.false_ne_true]
    cases hlookup : dceClientIpcLookupHandle handle with
    | none => exact ⟨rfl, Leaves.refl h⟩
    | some i =>
      have hvalid := hfresh rfl i hlookup
      obtain ⟨_, htype, _, hint⟩ := h.entry i hvalid
      obtain ⟨d, hd, hsome, _⟩ := h.served i hvalid
      have hwait := h.wait htype hsome env.woken
      dsimp only
      rw [access_of_valid hvalid, List.nil_append, hd, hint]
      unfold dceIpcSendMessageSync
      dsimp only
      split
      · exact ⟨rfl, Leaves.refl h⟩
      · split
        · exact hwait
        · exact hwait

end

/-! ## Registrations -/

theorem handleAlloc_eq_some {i : ℕ} (h : dceClientIpcHandleAlloc s = some (i, s')) :
    i < DCE_CLIENT_IPC_TYPE_MAX ∧ (s.clientHandles i).valid = false ∧
      s' = s.setEntry i { s.clientHandles i with valid := true } := by
  obtain ⟨index, hfind, heq⟩ := Option.map_eq_some_iff.mp h
  cases heq
  have hmem := List.mem_of_find?_eq_some hfind
  have hvalid := List.find?_some hfind
  simp at hvalid
  exact ⟨List.mem_range.mp hmem, hvalid, rfl⟩

/-- A registration writes its entry and the pointer of its type. -/
def registered (s : ClientTables) (d type data : ℕ) (callbackFn : Option ℕ) (i : ℕ) : ClientTables :=
  (s.setEntry i (newClient d type data callbackFn i)).setClient d type (some i)

section

variable (h : ClientsAgree s)

include h

theorem ClientsAgree.dClients_eq_none {d type : ℕ}
    (htwin : ¬ HasTwin s (some d) type DCE_CLIENT_IPC_TYPE_MAX) : s.dClients d type = none := by
  cases hi : s.dClients d type with
  | none => rfl
  | some i =>
    obtain ⟨hlt, hvalid, htype, hd⟩ := h.clients _ _ _ hi
    exact absurd ⟨i, hlt, hlt.ne, hvalid, hd, htype⟩ htwin

/-- **A registration** fails and leaves the tables, or it writes an entry that was free. -/
theorem ClientsAgree.register {type : U32} {callbackFn : Option ℕ} {data : ℕ}
    {handlep : Bool} {env : RegisterEnv} {issued : List U32}
    (hcareful : (ClientRun.mk s issued).Careful (.register type callbackFn data handlep env)) :
    (tegraDceRegisterIpcClient s type callbackFn data handlep env).2.stale = [] ∧ ((∃ handle ret, ret ≠ 0 ∧
        tegraDceRegisterIpcClient s type callbackFn data handlep env = (handle, ⟨some ret, s, []⟩)) ∨
      ∃ d i, type.toNat < DCE_CLIENT_IPC_TYPE_MAX ∧ i < DCE_CLIENT_IPC_TYPE_MAX ∧
        (s.clientHandles i).valid = false ∧ (type.toNat = DCE_CLIENT_IPC_TYPE_RM_EVENT →
          ¬ HasTwin s (some d) type.toNat DCE_CLIENT_IPC_TYPE_MAX) ∧
        tegraDceRegisterIpcClient s type callbackFn data handlep env =
          (some (handleOf i), ⟨some 0, registered s d type.toNat data callbackFn i, []⟩)) := by
  have hinval : (-eINVAL : ℤ) ≠ 0 := by decide
  unfold tegraDceRegisterIpcClient
  cases handlep with
  | false => exact ⟨rfl, .inl ⟨_, _, hinval, rfl⟩⟩
  | true =>
    by_cases htype : type.toNat ≥ DCE_CLIENT_IPC_TYPE_MAX
    · rw [if_pos htype]
      exact ⟨rfl, .inl ⟨_, _, hinval, rfl⟩⟩
    rw [if_neg htype]
    cases hdce : env.dce with
    | none => exact ⟨rfl, .inl ⟨_, _, hinval, rfl⟩⟩
    | some d =>
      dsimp only
      by_cases hwait : env.bootWait ≠ 0
      · rw [if_pos hwait]
        exact ⟨rfl, .inl ⟨_, _, hwait, rfl⟩⟩
      rw [if_neg hwait]
      cases halloc : dceClientIpcHandleAlloc s with
      | none => exact ⟨rfl, .inl ⟨_, -1, by decide, rfl⟩⟩
      | some found =>
        obtain ⟨i, s'⟩ := found
        obtain ⟨hlt, hvalid, rfl⟩ := handleAlloc_eq_some halloc
        have htwin := hcareful rfl (not_le.mp htype) (by simp [hdce]) (not_not.mp hwait)
          (by simp [halloc])
        rw [hdce] at htwin
        dsimp only
        rw [setEntry_setEntry]
        by_cases hcond : env.condInit ≠ 0
        · -- The entry is freed again, and nobody else is registered for the type.
          have hnone := h.dClients_eq_none (htwin (.inl hcond))
          have hfree : (dceClientIpcHandleFree
              (s.setEntry i (newClient d type.toNat data callbackFn i)) (some i)).2 = s := by
            have hentry : (s.setEntry i (newClient d type.toNat data callbackFn i)).clientHandles i =
                newClient d type.toNat data callbackFn i := by
              simp [clientHandles_setEntry]
            have hclient : (s.setEntry i (newClient d type.toNat data callbackFn i)).dClients d
                type.toNat = none := hnone
            unfold dceClientIpcHandleFree
            dsimp only
            rw [hentry, if_neg (by simp [newClient])]
            change ((s.setEntry i (newClient d type.toNat data callbackFn i)).setClient d type.toNat
              none).setEntry i ClientIpc.zero = s
            rw [setClient_of_eq hclient, setEntry_setEntry]
            exact setEntry_of_eq (h.zero i hvalid)
          rw [if_pos hcond, hfree]
          exact ⟨rfl, .inl ⟨_, _, hcond, rfl⟩⟩
        · rw [if_neg hcond]
          exact ⟨rfl, .inr ⟨d, i, not_le.mp htype, hlt, hvalid, fun hevent => htwin (.inr hevent), rfl⟩⟩

/-- The tables agree after a registration, which is alone when it is for events. -/
theorem ClientsAgree.after_register {d type data i : ℕ} {callbackFn : Option ℕ}
    (htype : type < DCE_CLIENT_IPC_TYPE_MAX) (hi : i < DCE_CLIENT_IPC_TYPE_MAX)
    (hvalid : (s.clientHandles i).valid = false)
    (hevent : type = DCE_CLIENT_IPC_TYPE_RM_EVENT → ¬ HasTwin s (some d) type DCE_CLIENT_IPC_TYPE_MAX) :
    ClientsAgree (registered s d type data callbackFn i) := by
  have hother : ∀ j, (s.clientHandles j).valid = true → j ≠ i := by
    rintro j hj rfl
    rw [hvalid] at hj
    exact Bool.noConfusion hj
  unfold registered
  constructor
  · intro d' type' j hj
    rw [dClients_setClient] at hj
    rw [clientHandles_setClient, clientHandles_setEntry]
    split at hj
    next heq =>
      obtain ⟨rfl, rfl⟩ := heq
      cases hj
      simp [newClient, hi]
    next =>
      have hold := h.clients d' type' j hj
      rw [if_neg (hother j hold.2.1)]
      exact hold
  · intro j hj
    rw [clientHandles_setClient, clientHandles_setEntry] at hj ⊢
    split at hj
    next heq =>
      subst heq
      simp [newClient, hi, htype]
    next hne =>
      rw [if_neg hne]
      exact h.entry j hj
  · intro j hj
    rw [clientHandles_setClient, clientHandles_setEntry] at hj ⊢
    split at hj
    next heq =>
      subst heq
      exact ⟨d, by simp [newClient], by simp [newClient, dClients_setClient],
        by simp [newClient, dClients_setClient]⟩
    next hne =>
      rw [if_neg hne]
      obtain ⟨d', hd', hsome, hown⟩ := h.served j hj
      refine ⟨d', hd', ?_, ?_⟩
      · rw [dClients_setClient]
        split
        · simp
        · exact hsome
      · intro hrm
        rw [dClients_setClient]
        split
        next heq =>
          -- The other entry would be for the same events.
          obtain ⟨rfl, htype'⟩ := heq
          have hlt := (h.entry j hj).1
          exact absurd ⟨j, hlt, hlt.ne, hj, hd', htype'⟩ (hevent (htype' ▸ hrm))
        next => exact hown hrm
  · intro j hj
    rw [clientHandles_setClient, clientHandles_setEntry] at hj ⊢
    split at hj
    next => exact absurd hj (by simp [newClient])
    next hne =>
      rw [if_neg hne]
      exact h.zero j hj

def unregistered (s : ClientTables) (d i : ℕ) : ClientTables :=
  (s.setClient d (s.clientHandles i).type none).setEntry i ClientIpc.zero

/-- **An unregistration** frees the entry of the handle. -/
theorem ClientsAgree.unregister {handle : U32} (hfresh : HandleFresh s handle) :
    tegraDceUnregisterIpcClient s handle = ⟨some (-eINVAL), s, []⟩ ∨
    ∃ i d, dceClientIpcLookupHandle handle = some i ∧ (s.clientHandles i).valid = true ∧
      (s.clientHandles i).d = some d ∧ tegraDceUnregisterIpcClient s handle = ⟨some 0, unregistered s d i, []⟩ := by
  unfold tegraDceUnregisterIpcClient
  cases hlookup : dceClientIpcLookupHandle handle with
  | none => exact .inl rfl
  | some i =>
    have hvalid := hfresh i hlookup
    obtain ⟨d, hd, _⟩ := h.served i hvalid
    refine .inr ⟨i, d, rfl, hvalid, hd, ?_⟩
    dsimp only
    rw [access_of_valid hvalid]
    unfold dceClientIpcHandleFree unregistered
    have hset : ∀ (o : Option ℕ) (cl : ClientIpc),
        (((s.setEntry i cl).setClient d (s.clientHandles i).type o).setEntry i ClientIpc.zero) =
          (s.setClient d (s.clientHandles i).type o).setEntry i ClientIpc.zero := by
      intro o cl
      simp [ClientTables.setEntry, ClientTables.setClient]
    simp [clientHandles_setEntry, hvalid, hd, hset]

theorem ClientsAgree.after_unregister {d i : ℕ}
    (hvalid : (s.clientHandles i).valid = true) (hd : (s.clientHandles i).d = some d)
    (htwin : ¬ HasTwin s (s.clientHandles i).d (s.clientHandles i).type i) : ClientsAgree (unregistered s d i) := by
  have hzero : ∀ j, ((unregistered s d i).clientHandles j).valid = true → j ≠ i ∧
      (unregistered s d i).clientHandles j = s.clientHandles j := by
    intro j hj
    unfold unregistered at hj ⊢
    rw [clientHandles_setEntry] at hj ⊢
    split at hj
    next => exact absurd hj (by simp [ClientIpc.zero])
    next hne =>
      rw [if_neg hne]
      exact ⟨hne, rfl⟩
  have hclients : ∀ d' type', (unregistered s d i).dClients d' type' =
      if d' = d ∧ type' = (s.clientHandles i).type then none else s.dClients d' type' := by
    intro d' type'
    exact dClients_setClient s d _ d' type' none
  constructor
  · intro d' type' j hj
    rw [hclients] at hj
    split at hj
    next => cases hj
    next hne =>
      obtain ⟨hlt, hv, ht, hdj⟩ := h.clients d' type' j hj
      have hji : j ≠ i := by
        rintro rfl
        exact hne ⟨Option.some.inj (hdj.symm.trans hd), ht.symm⟩
      unfold unregistered
      rw [clientHandles_setEntry, if_neg hji]
      exact ⟨hlt, hv, ht, hdj⟩
  · intro j hj
    obtain ⟨_, heq⟩ := hzero j hj
    rw [heq] at hj ⊢
    exact h.entry j hj
  · intro j hj
    obtain ⟨hne, heq⟩ := hzero j hj
    rw [heq] at hj ⊢
    obtain ⟨d', hd', hsome, hown⟩ := h.served j hj
    have hapart : ¬ (d' = d ∧ (s.clientHandles j).type = (s.clientHandles i).type) := by
      rintro ⟨rfl, htype⟩
      exact htwin ⟨j, (h.entry j hj).1, hne, hj, hd'.trans hd.symm, htype⟩
    refine ⟨d', hd', ?_, ?_⟩
    · rw [hclients, if_neg hapart]
      exact hsome
    · rw [hclients, if_neg hapart]
      exact hown
  · intro j hj
    unfold unregistered at hj ⊢
    rw [clientHandles_setEntry] at hj ⊢
    split
    next => rfl
    next hne =>
      rw [if_neg hne] at hj
      exact h.zero j hj

end

/-! ## Runs -/

structure ClientRunInv (s : ClientRun) : Prop where
  agree : ClientsAgree s.tables
  issued : ∀ handle ∈ s.issued, ∃ i, (s.tables.clientHandles i).valid = true ∧ handle = handleOf i

theorem clientRunInv_start : ClientRunInv clientStart := by
  refine ⟨⟨?_, ?_, ?_, fun _ _ => rfl⟩, ?_⟩
  all_goals simp [clientStart, ClientIpc.zero]

theorem ClientRunInv.leaves {s : ClientRun} (h : ClientRunInv s) {tables : ClientTables}
    (hleaves : Leaves s.tables tables) : ClientRunInv ⟨tables, s.issued⟩ := by
  refine ⟨hleaves.agree, ?_⟩
  intro handle hmem
  obtain ⟨i, hvalid, heq⟩ := h.issued handle hmem
  exact ⟨i, (sameRegistrations_fields hleaves.same i).1.trans hvalid, heq⟩

theorem ClientRunInv.register {s : ClientRun} (h : ClientRunInv s) {type : U32}
    {callbackFn : Option ℕ} {data : ℕ} {handlep : Bool} {env : RegisterEnv}
    (hcareful : s.Careful (.register type callbackFn data handlep env)) :
    ClientRunInv ⟨(clientCall s.tables (.register type callbackFn data handlep env)).tables,
      s.handlesAfter (.register type callbackFn data handlep env)⟩ := by
  unfold clientCall ClientRun.handlesAfter
  obtain ⟨_, ⟨handle, ret, hret, heq⟩ | ⟨d, i, htype, hi, hvalid, hevent, heq⟩⟩ :=
    h.agree.register hcareful
  · dsimp only
    rw [heq]
    simp only [Option.some.injEq, hret, if_false]
    exact h
  · dsimp only
    rw [heq]
    refine ⟨h.agree.after_register htype hi hvalid hevent, ?_⟩
    intro handle hmem
    unfold registered
    rw [clientHandles_setClient]
    obtain rfl | hold := List.mem_cons.mp hmem
    · refine ⟨i, ?_, rfl⟩
      rw [clientHandles_setEntry, if_pos rfl]
      rfl
    · obtain ⟨j, hj, rfl⟩ := h.issued handle hold
      have hne : j ≠ i := by
        rintro rfl
        rw [hvalid] at hj
        exact Bool.noConfusion hj
      refine ⟨j, ?_, rfl⟩
      rw [clientHandles_setEntry, if_neg hne]
      exact hj

theorem ClientRunInv.unregister {s : ClientRun} (h : ClientRunInv s) {handle : U32}
    (hcareful : s.Careful (.unregister handle)) : ClientRunInv ⟨(clientCall s.tables (.unregister handle)).tables,
      s.handlesAfter (.unregister handle)⟩ := by
  unfold clientCall ClientRun.handlesAfter
  obtain heq | ⟨i, d, hlookup, hvalid, hd, heq⟩ := h.agree.unregister hcareful.1
  · dsimp only
    rw [heq]
    exact h
  · dsimp only
    rw [heq, if_pos rfl]
    refine ⟨h.agree.after_unregister hvalid hd (hcareful.2 i hlookup), ?_⟩
    intro handle' hmem
    obtain ⟨hmem, hne⟩ := List.mem_filter.mp hmem
    obtain ⟨j, hj, rfl⟩ := h.issued handle' hmem
    obtain ⟨_, rfl⟩ := lookupHandle_eq_some.mp hlookup
    have hji : j ≠ i := by
      rintro rfl
      simp at hne
    refine ⟨j, ?_, rfl⟩
    unfold unregistered
    rw [clientHandles_setEntry, if_neg hji]
    exact hj

theorem clientRunInv_step {s s' : ClientRun} {op : ClientOp} (h : ClientRunInv s)
    (hcareful : s.Careful op) (hstep : clientStep s op = some s') : ClientRunInv s' := by
  cases hstep
  cases op with
  | register type callbackFn data handlep env => exact h.register hcareful
  | unregister handle => exact h.unregister hcareful
  | sendRecv handle msg env => exact h.leaves (h.agree.sendRecv hcareful env).2
  | wakeup d chType => exact h.leaves (h.agree.wakeup d chType)
  | eventWork d => exact h

theorem ClientRunInv.callSound {s : ClientRun} (h : ClientRunInv s) {op : ClientOp}
    (hcareful : s.Careful op) : ClientCallSound s.tables op := by
  cases op with
  | register type callbackFn data handlep env =>
    obtain ⟨hstale, hcases⟩ := h.agree.register hcareful
    refine ⟨hstale, ?_⟩
    intro ret hret hne
    unfold clientCall at hret ⊢
    obtain ⟨handle, ret', _, heq⟩ | ⟨d, i, _, _, _, _, heq⟩ := hcases
    · dsimp only
      rw [heq]
      exact ⟨sameRegistrations_refl _, fun _ => rfl⟩
    · dsimp only at hret
      rw [heq, Option.some.injEq] at hret
      exact absurd hret.symm hne
  | unregister handle =>
    obtain heq | ⟨i, d, _, _, _, heq⟩ := h.agree.unregister hcareful.1
    · constructor
      · unfold clientCall
        dsimp only
        rw [heq]
      · intro ret _ _
        unfold clientCall
        dsimp only
        rw [heq]
        exact ⟨sameRegistrations_refl _, fun _ => rfl⟩
    · constructor
      · unfold clientCall
        dsimp only
        rw [heq]
      · intro ret hret hne
        unfold clientCall at hret
        dsimp only at hret
        rw [heq, Option.some.injEq] at hret
        exact absurd hret.symm hne
  | sendRecv handle msg env =>
    obtain ⟨hstale, hleaves⟩ := h.agree.sendRecv hcareful env
    exact ⟨hstale, fun _ _ _ => ⟨hleaves.same, fun hop => absurd rfl (hop handle msg env)⟩⟩
  | wakeup d chType =>
    refine ⟨rfl, ?_⟩
    intro ret hret hne
    exact absurd (Option.some.inj hret).symm hne
  | eventWork d =>
    refine ⟨?_, ?_⟩
    · unfold clientCall dceClientAsyncEventWork
      dsimp only
      split
      · rfl
      next i hi =>
        have haccess := access_of_valid (h.agree.clients _ _ _ hi).2.1
        split
        · exact haccess
        · exact haccess
    · intro ret hret hne
      exact absurd (Option.some.inj hret).symm hne

/-- Two types are registered, a message is answered, and one client is gone. -/
def clientsRun : List ClientOp :=
  [.register 0 none 0 true ⟨some 0, 0, 0⟩, .register 2 (some 7) 0 true ⟨some 0, 0, 0⟩,
    .sendRecv 0x80000000 true ⟨0, true, 0⟩, .unregister 0x80000001]

end NvidiaOot.Analysis
