import NvidiaOot.Model.Nvscic2cPcie

/-!
# References go over the channel and come back

What the exporter counts on a mapping is what its handles, the messages, the entries of the importer
and the imported handles add up to.  Each step moves one export from one of these places to the
next, and a mapping whose last reference is dropped is in none of them.
-/

namespace NvidiaOot.Analysis

open Library Program Model Function

section

variable {peer : NodeInfo} {epId : U32} {reserved2 : BitVec 4} {k : MapKind} {i : ℕ}

theorem descHandleType_genDesc : descHandleType (genDesc peer epId reserved2 k.type i) = k.type := by
  unfold descHandleType genDesc
  rw [BitVec.extractLsb'_append_eq_of_add_le (by omega), BitVec.extractLsb'_append_eq_left]
  cases k <;> rfl

theorem descHandleId_genDesc {type : U32} (h : i < 2048) :
    descHandleId (genDesc peer epId reserved2 type i) = i := by
  unfold descHandleId genDesc
  rw [BitVec.extractLsb'_append_eq_left, BitVec.toNat_ofNat]
  exact Nat.mod_eq_of_lt h

theorem names_genDesc (h : i < 2048) : Names (genDesc peer epId reserved2 k.type i) k i := by
  refine ⟨?_, descHandleId_genDesc h⟩
  unfold descKind
  rw [descHandleType_genDesc]
  cases k <;> rfl

end

section

variable {t t' : VmapTables} {k k' : MapKind} {i i' r : ℕ} {m : MapRef} {o : Option MapRef}
  {f : MapRef → MapRef}

theorem one_lt_krefSaturated : 1 < krefSaturated := by decide

theorem krefGet_of_lt (h : 0 < r) (hr : r + 1 < krefSaturated) : krefGet r = r + 1 := by
  unfold krefGet
  rw [if_neg (by omega)]

theorem krefPut_of_lt (hr : r < krefSaturated) : krefPut r = r - 1 := by
  unfold krefPut
  rw [if_neg (by omega)]

/-- A field of the mapping with a number, `0` if there is none. -/
def mapField (f : MapRef → ℕ) (t : VmapTables) (k : MapKind) (i : ℕ) : ℕ := ((t k).get i).elim 0 f

theorem get_setMap (h : (t k).get i = some m) (o : Option MapRef) (k' : MapKind) (i' : ℕ) :
    (setMap t k i o k').get i' = if k' = k ∧ i' = i then o else (t k').get i' := by
  unfold setMap
  by_cases hk : k' = k
  · rw [hk, update_self]
    by_cases hi : i' = i
    · rw [hi, if_pos ⟨rfl, rfl⟩]
      exact Slots.get_put_self h o
    · rw [if_neg (fun hc => hi hc.2)]
      exact Slots.get_put_of_ne hi _ _
  · rw [update_of_ne hk, if_neg (fun hc => hk hc.1)]

theorem addMapRef_spec {env : PinEnv} (h : addMapRef t k m env = some (i, t')) :
    i < 2048 ∧ (t k).get i = none ∧
      ∀ k' i', (t' k').get i' = if k' = k ∧ i' = i then some m else (t k').get i' := by
  obtain ⟨_, h⟩ := Option.ite_none_right_eq_some.mp h
  obtain ⟨⟨j, l⟩, halloc, heq⟩ := Option.map_eq_some_iff.mp h
  cases heq
  obtain ⟨hlast, hnone, hself, hother, _⟩ := Slots.alloc_spec halloc
  refine ⟨?_, hnone, ?_⟩
  · apply Nat.lt_trans hlast
    cases k <;> decide
  · intro k' i'
    by_cases hk : k' = k
    · rw [hk, update_self]
      by_cases hi : i' = j
      · rw [hi, if_pos ⟨rfl, rfl⟩]
        exact hself
      · rw [if_neg (fun hc => hi hc.2)]
        exact hother i' hi
    · rw [update_of_ne hk, if_neg (fun hc => hk hc.1)]

def MapRef.get (m : MapRef) : MapRef := { m with refcount := krefGet m.refcount }

/-- **An object is mapped**: its mapping is new, or it has one more reference. -/
theorem vmapObjMap_spec {object data : U64} {env : PinEnv} {type : ObjType}
    (h : vmapObjMap t object data env type = some (i, t')) :
    ∃ m, (∀ k' i', (t' k').get i' = if k' = objKind type ∧ i' = i then some m else (t k').get i') ∧
      ((∃ clientMngd, i < 2048 ∧ (t (objKind type)).get i = none ∧
          m = newMapRef object clientMngd env.attrib) ∨
        ∃ m₀, (t (objKind type)).get i = some m₀ ∧ m = MapRef.get m₀ ∧ objKind type = .mem ∧
          (t .mem).find (fun m => decide (m.object = data)) = some i) := by
  have hmem : ∀ clientMngd, memobjMap t object data clientMngd env = some (i, t') →
      ∃ m, (∀ k' i', (t' k').get i' = if k' = .mem ∧ i' = i then some m else (t k').get i') ∧
        ((∃ clientMngd, i < 2048 ∧ (t .mem).get i = none ∧
            m = newMapRef object clientMngd env.attrib) ∨
          ∃ m₀, (t .mem).get i = some m₀ ∧ m = MapRef.get m₀ ∧ MapKind.mem = .mem ∧
            (t .mem).find (fun m => decide (m.object = data)) = some i) := by
    intro clientMngd h
    unfold memobjMap at h
    cases hfind : (t .mem).find fun m => decide (m.object = data) with
    | none =>
      rw [hfind] at h
      obtain ⟨hlt, hnone, hget⟩ := addMapRef_spec h
      exact ⟨_, hget, Or.inl ⟨clientMngd, hlt, hnone, rfl⟩⟩
    | some j =>
      rw [hfind] at h
      obtain ⟨m₀, hm₀, h⟩ := Option.bind_eq_some_iff.mp h
      obtain ⟨_, heq⟩ := Option.ite_none_left_eq_some.mp h
      cases heq
      exact ⟨MapRef.get m₀, get_setMap hm₀ _, Or.inr ⟨m₀, hm₀, rfl, rfl, rfl⟩⟩
  have hsync : ∀ clientMngd, syncobjMap t object clientMngd env = some (i, t') →
      ∃ m, (∀ k' i', (t' k').get i' = if k' = .sync ∧ i' = i then some m else (t k').get i') ∧
        ∃ clientMngd, i < 2048 ∧ (t .sync).get i = none ∧
          m = newMapRef object clientMngd env.attrib := by
    intro clientMngd h
    unfold syncobjMap at h
    cases hfind : (t .sync).find fun m => decide (m.object = object) with
    | none =>
      rw [hfind] at h
      obtain ⟨hlt, hnone, hget⟩ := addMapRef_spec h
      exact ⟨_, hget, clientMngd, hlt, hnone, rfl⟩
    | some j =>
      rw [hfind] at h
      exact absurd h (by simp)
  cases type with
  | sourceMem | targetMem => exact hmem _ h
  | localSync | remoteSync =>
    obtain ⟨m, hget, hnew⟩ := hsync _ h
    exact ⟨m, hget, Or.inl hnew⟩
  | «import» => exact absurd h (by simp [vmapObjMap])

theorem get_vmapPutref (h : (t k).get i = some m) (hr : m.refcount < krefSaturated) (k' : MapKind)
    (i' : ℕ) :
    (vmapPutref f t k i k').get i' = if k' = k ∧ i' = i then
      (if m.refcount - 1 = 0 then none else some (f { m with refcount := m.refcount - 1 }))
      else (t k').get i' := by
  unfold vmapPutref
  rw [h]
  rw [get_setMap h, krefPut_of_lt hr]

end

section

variable {s s' : ExportShare} {k : MapKind} {i : ℕ} {m : MapRef} {e : ImportRef}

/-- The references of a mapping, and the places where an export of it can be. -/
structure MapBalanced (s : ExportShare) (k : MapKind) (i : ℕ) : Prop where
  references : mapField MapRef.refcount s.maps k i + mapField MapRef.unregs s.maps k i =
    s.handlesOn k i + mapField MapRef.exports s.maps k i
  once : mapField MapRef.exports s.maps k i =
    s.registering k i + s.available k i + mapField MapRef.imported s.maps k i
  opened : mapField MapRef.imported s.maps k i = s.openImports k i + mapField MapRef.freed s.maps k i
  released : mapField MapRef.freed s.maps k i =
    s.unregistering k i + mapField MapRef.unregs s.maps k i

/-- The mapping that a descriptor names has these attributes. -/
def SameAttrib (s : ExportShare) (k : MapKind) (i : ℕ) (a : VmapAttrib) : Prop :=
  ∀ m, (s.maps k).get i = some m → m.attrib = a

def handlesOf (s : ExportShare) (i : ℕ) : ℕ := s.importHandles.countP fun h => decide (h.id = i)

structure EntryOk (s : ExportShare) (i : ℕ) (e : ImportRef) : Prop where
  references : e.refcount + e.nrImport.toNat = e.nrExport.toNat + handlesOf s i
  opened : handlesOf s i ≤ e.nrImport.toNat
  bounded : e.nrImport.toNat ≤ e.nrExport.toNat
  alive : 0 < e.refcount ∧ e.refcount < krefSaturated

structure ExportsInv (s : ExportShare) : Prop where
  balanced : ∀ k i, MapBalanced s k i
  alive : ∀ (k : MapKind) (i : ℕ) (m : MapRef), (s.maps k).get i = some m →
    i < 2048 ∧ 0 < m.refcount ∧ m.refcount < krefSaturated
  entries : ∀ (i : ℕ) (e : ImportRef), s.imports.get i = some e → EntryOk s i e
  unique : ∀ (i j : ℕ) (e e' : ImportRef), s.imports.get i = some e → s.imports.get j = some e' →
    e.exportDesc = e'.exportDesc → i = j
  opened : ∀ h ∈ s.importHandles, ∃ e, s.imports.get h.id = some e ∧ e.exportDesc = h.desc ∧
    e.attrib = h.attrib
  known : ∀ (i : ℕ) (e : ImportRef), s.imports.get i = some e →
    SameAttrib s (descKind e.exportDesc) (descHandleId e.exportDesc) e.attrib
  sent : ∀ msg ∈ s.regs, SameAttrib s (descKind msg.exportDesc) (descHandleId msg.exportDesc)
    ⟨msg.iova, msg.size, msg.offsetof⟩
  mapped : ∀ o ∈ s.handles, SameAttrib s (objKind o.type) o.id o.attrib

theorem exportsInv_new : ExportsInv newExportShare where
  balanced := fun _ _ => ⟨rfl, rfl, rfl, rfl⟩
  alive := nofun
  entries := nofun
  unique := nofun
  opened := nofun
  known := nofun
  sent := nofun
  mapped := nofun

theorem mapField_of_get (f : MapRef → ℕ) (h : (s.maps k).get i = some m) :
    mapField f s.maps k i = f m := by
  unfold mapField
  rw [h]
  rfl

theorem mapField_of_none (f : MapRef → ℕ) (h : (s.maps k).get i = none) :
    mapField f s.maps k i = 0 := by
  unfold mapField
  rw [h]
  rfl

theorem le_available (h : s.imports.get i = some e) :
    e.nrExport.toNat - e.nrImport.toNat ≤
      s.available (descKind e.exportDesc) (descHandleId e.exportDesc) := by
  have hle := Slots.le_total (fun e' : ImportRef =>
    if Names e'.exportDesc (descKind e.exportDesc) (descHandleId e.exportDesc) then
      e'.nrExport.toNat - e'.nrImport.toNat else 0) h
  rw [if_pos ⟨rfl, rfl⟩] at hle
  exact hle

theorem openImports_pos {h : ImportObj} (hmem : h ∈ s.importHandles) :
    0 < s.openImports (descKind h.desc) (descHandleId h.desc) :=
  List.countP_pos_iff.mpr ⟨h, hmem, decide_eq_true ⟨rfl, rfl⟩⟩

section

variable (hinv : ExportsInv s)

include hinv

/-- **A mapping that the importer knows of is there.** -/
theorem ExportsInv.exists_of_entry (h : s.imports.get i = some e) :
    ∃ m, (s.maps (descKind e.exportDesc)).get (descHandleId e.exportDesc) = some m := by
  obtain ⟨href, _, hbounded, hpos, _⟩ := hinv.entries i e h
  cases hget : (s.maps (descKind e.exportDesc)).get (descHandleId e.exportDesc) with
  | some m => exact ⟨m, rfl⟩
  | none =>
    exfalso
    obtain ⟨_, honce, hopened, _⟩ := hinv.balanced (descKind e.exportDesc) (descHandleId e.exportDesc)
    rw [mapField_of_none _ hget, mapField_of_none _ hget] at honce hopened
    have hle := le_available h
    -- no export of it can be imported, so there is a handle on it
    have hhandles : 0 < handlesOf s i := by omega
    obtain ⟨o, ho, hid⟩ := List.countP_pos_iff.mp hhandles
    obtain ⟨e', he', hdesc, _⟩ := hinv.opened o ho
    rw [of_decide_eq_true hid, h, Option.some.injEq] at he'
    have hpos := openImports_pos ho
    rw [← hdesc, ← he'] at hpos
    omega

theorem ExportsInv.ok : ExportsOk s where
  references := by
    intro k i m h
    obtain ⟨hrefs, honce, hopened, hreleased⟩ := hinv.balanced k i
    simp only [mapField_of_get _ h] at hrefs honce hopened hreleased
    omega
  bounded := fun i e h => BitVec.le_def.mpr (hinv.entries i e h).bounded
  once := by
    intro k i m h
    have honce := (hinv.balanced k i).once
    simp only [mapField_of_get _ h] at honce
    exact honce
  importable := by
    intro i e h hne
    have hfind : findDesc s.imports e.exportDesc = some i := by
      cases hf : findDesc s.imports e.exportDesc with
      | none =>
        have hnot := List.findIdx?_eq_none_iff.mp hf (some e)
          (List.mem_of_getElem? (Slots.get_eq_some.mp h))
        exact absurd hnot (by simp)
      | some j =>
        obtain ⟨e', he', hdesc⟩ := Slots.find_spec hf
        rw [hinv.unique j i e' e he' h (of_decide_eq_true hdesc)]
    unfold importobjMap
    rw [hfind, Option.bind_some, h, Option.bind_some, if_neg hne]
  released := by
    intro k i m h
    obtain ⟨_, _, hopened, hreleased⟩ := hinv.balanced k i
    simp only [mapField_of_get _ h] at hopened hreleased
    exact ⟨hopened, hreleased⟩
  pinned := by
    intro h hmem
    obtain ⟨e, he, hdesc, hattrib⟩ := hinv.opened h hmem
    obtain ⟨m, hm⟩ := hinv.exists_of_entry he
    have hsame := hinv.known _ _ he m hm
    rw [← hdesc, ← hattrib]
    exact ⟨m, hm, (hinv.alive _ _ m hm).2.1, hsame⟩

/-- What refers to a mapping is there only with it. -/
theorem ExportsInv.exists_of_pos
    (hpos : 0 < s.handlesOn k i ∨ 0 < s.registering k i ∨ 0 < s.unregistering k i) :
    ∃ m, (s.maps k).get i = some m := by
  cases hget : (s.maps k).get i with
  | some m => exact ⟨m, rfl⟩
  | none =>
    obtain ⟨hrefs, honce, _, hreleased⟩ := hinv.balanced k i
    simp only [mapField_of_none _ hget] at hrefs honce hreleased
    omega

theorem ExportsInv.exists_of_reg {msg : CommMsg} (h : msg ∈ s.regs) :
    ∃ m, (s.maps (descKind msg.exportDesc)).get (descHandleId msg.exportDesc) = some m :=
  hinv.exists_of_pos (.inr (.inl (List.countP_pos_iff.mpr ⟨msg, h, decide_eq_true ⟨rfl, rfl⟩⟩)))

theorem ExportsInv.exists_of_unreg {msg : CommMsg} (h : msg ∈ s.unregs) :
    ∃ m, (s.maps (descKind msg.exportDesc)).get (descHandleId msg.exportDesc) = some m :=
  hinv.exists_of_pos (.inr (.inr (List.countP_pos_iff.mpr ⟨msg, h, decide_eq_true ⟨rfl, rfl⟩⟩)))

theorem ExportsInv.exists_of_handle {o : LocalObj} (h : o ∈ s.handles) :
    ∃ m, (s.maps (objKind o.type)).get o.id = some m :=
  hinv.exists_of_pos (.inl (List.countP_pos_iff.mpr ⟨o, h, decide_eq_true ⟨rfl, rfl⟩⟩))

end

theorem SameAttrib.mono {a : VmapAttrib} (h : SameAttrib s k i a) (hm : (s.maps k).get i = some m)
    (hattrib : ∀ k i m m', (s.maps k).get i = some m → (s'.maps k).get i = some m' →
      m'.attrib = m.attrib) : SameAttrib s' k i a := by
  intro m' hm'
  rw [hattrib k i m m' hm hm']
  exact h m hm

section

variable (hinv : ExportsInv s)
  (hsent : ∀ msg ∈ s'.regs, msg ∈ s.regs ∨ SameAttrib s' (descKind msg.exportDesc)
    (descHandleId msg.exportDesc) ⟨msg.iova, msg.size, msg.offsetof⟩)
  (hmapped : ∀ o ∈ s'.handles, o ∈ s.handles ∨ SameAttrib s' (objKind o.type) o.id o.attrib)

include hinv hsent hmapped

section

variable
  (hattrib : ∀ k i m m', (s.maps k).get i = some m → (s'.maps k).get i = some m' → m'.attrib = m.attrib)
  (hbalanced : ∀ k i, MapBalanced s' k i)
  (halive : ∀ (k : MapKind) (i : ℕ) (m : MapRef), (s'.maps k).get i = some m →
    i < 2048 ∧ 0 < m.refcount ∧ m.refcount < krefSaturated)

include hattrib hbalanced halive

theorem ExportsInv.frame
    (hentries : ∀ (i : ℕ) (e : ImportRef), s'.imports.get i = some e → EntryOk s' i e)
    (hunique : ∀ (i j : ℕ) (e e' : ImportRef), s'.imports.get i = some e →
      s'.imports.get j = some e' → e.exportDesc = e'.exportDesc → i = j)
    (hopened : ∀ h ∈ s'.importHandles, ∃ e, s'.imports.get h.id = some e ∧ e.exportDesc = h.desc ∧
      e.attrib = h.attrib)
    (hknown : ∀ (i : ℕ) (e : ImportRef), s'.imports.get i = some e →
      (∃ e₀, s.imports.get i = some e₀ ∧ e₀.exportDesc = e.exportDesc ∧ e₀.attrib = e.attrib) ∨
      ∃ msg ∈ s.regs, msg.exportDesc = e.exportDesc ∧ ⟨msg.iova, msg.size, msg.offsetof⟩ = e.attrib) :
    ExportsInv s' := by
  refine ⟨hbalanced, halive, hentries, hunique, hopened, ?_, ?_, ?_⟩
  · intro i e he
    rcases hknown i e he with ⟨e₀, he₀, hdesc, hsame⟩ | ⟨msg, hmsg, hdesc, hsame⟩
    · obtain ⟨m, hm⟩ := hinv.exists_of_entry he₀
      rw [← hdesc, ← hsame]
      exact (hinv.known i e₀ he₀).mono hm hattrib
    · obtain ⟨m, hm⟩ := hinv.exists_of_reg hmsg
      rw [← hdesc, ← hsame]
      exact (hinv.sent msg hmsg).mono hm hattrib
  · intro msg hmsg
    rcases hsent msg hmsg with hold | hnew
    · obtain ⟨m, hm⟩ := hinv.exists_of_reg hold
      exact (hinv.sent msg hold).mono hm hattrib
    · exact hnew
  · intro o ho
    rcases hmapped o ho with hold | hnew
    · obtain ⟨m, hm⟩ := hinv.exists_of_handle hold
      exact (hinv.mapped o hold).mono hm hattrib
    · exact hnew

theorem ExportsInv.exporter (himports : s'.imports = s.imports)
    (hopens : s'.importHandles = s.importHandles) : ExportsInv s' := by
  apply hinv.frame hsent hmapped hattrib hbalanced halive
  · rw [himports]
    intro i e he
    obtain ⟨href, hopened, hbounded, halive⟩ := hinv.entries i e he
    have hsame : handlesOf s' i = handlesOf s i := by
      unfold handlesOf
      rw [hopens]
    rw [← hsame] at href hopened
    exact ⟨href, hopened, hbounded, halive⟩
  · rw [himports]
    exact hinv.unique
  · rw [himports, hopens]
    exact hinv.opened
  · rw [himports]
    exact fun i e he => Or.inl ⟨e, he, rfl, rfl⟩

end

/-- **One mapping changes**, and what refers to it. -/
theorem ExportsInv.change {o : Option MapRef}
    (hget : ∀ k' i', (s'.maps k').get i' = if k' = k ∧ i' = i then o else (s.maps k').get i')
    (hnew : ∀ m', o = some m' → i < 2048 ∧ 0 < m'.refcount ∧ m'.refcount < krefSaturated)
    (hattrib : ∀ m m', (s.maps k).get i = some m → o = some m' → m'.attrib = m.attrib)
    (hbalanced : (∀ f, mapField f s'.maps k i = o.elim 0 f) → MapBalanced s' k i)
    (hother : ∀ k' i', ¬(k' = k ∧ i' = i) → s'.handlesOn k' i' = s.handlesOn k' i' ∧
      s'.registering k' i' = s.registering k' i' ∧ s'.unregistering k' i' = s.unregistering k' i')
    (himports : s'.imports = s.imports) (hopens : s'.importHandles = s.importHandles) : ExportsInv s' := by
  apply hinv.exporter hsent hmapped _ _ _ himports hopens
  · intro k' i' m₀ m' hm₀ hm'
    rw [hget] at hm'
    by_cases hki : k' = k ∧ i' = i
    · rw [if_pos hki] at hm'
      rw [hki.1, hki.2] at hm₀
      exact hattrib m₀ m' hm₀ hm'
    · rw [if_neg hki, hm₀, Option.some.injEq] at hm'
      rw [hm']
  · intro k' i'
    by_cases hki : k' = k ∧ i' = i
    · rw [hki.1, hki.2]
      apply hbalanced
      intro f
      unfold mapField
      rw [hget, if_pos ⟨rfl, rfl⟩]
    obtain ⟨hhandles, hregs, hunregs⟩ := hother k' i' hki
    have hfield : ∀ f, mapField f s'.maps k' i' = mapField f s.maps k' i' := by
      intro f
      unfold mapField
      rw [hget, if_neg hki]
    have havail : s'.available k' i' = s.available k' i' := by
      unfold ExportShare.available
      rw [himports]
    have hopen : s'.openImports k' i' = s.openImports k' i' := by
      unfold ExportShare.openImports
      rw [hopens]
    obtain ⟨h₁, h₂, h₃, h₄⟩ := hinv.balanced k' i'
    constructor
    · rw [hfield, hfield, hfield, hhandles]
      exact h₁
    · rw [hfield, hfield, hregs, havail]
      exact h₂
    · rw [hfield, hfield, hopen]
      exact h₃
    · rw [hfield, hfield, hunregs]
      exact h₄
  · intro k' i' m' hm'
    rw [hget] at hm'
    by_cases hki : k' = k ∧ i' = i
    · rw [if_pos hki] at hm'
      rw [hki.2]
      exact hnew m' hm'
    · rw [if_neg hki] at hm'
      exact hinv.alive k' i' m' hm'

end

end

section

variable {s s' : ExportShare} {k : MapKind} {i j : ℕ} {m : MapRef} {o : Option MapRef}

theorem ExportsInv.withMaps (hinv : ExportsInv s) {t : VmapTables}
    (hget : ∀ k i, (t k).get i = (s.maps k).get i) : ExportsInv { s with maps := t } := by
  refine hinv.exporter (fun _ h => Or.inl h) (fun _ h => Or.inl h) ?_ ?_ ?_ rfl rfl
  · intro k i m m' hm hm'
    rw [hget, hm, Option.some.injEq] at hm'
    rw [hm']
  · intro k i
    have hfield : ∀ f, mapField f t k i = mapField f s.maps k i := by
      intro f
      unfold mapField
      rw [hget]
    obtain ⟨h₁, h₂, h₃, h₄⟩ := hinv.balanced k i
    constructor <;> dsimp only <;> rw [hfield, hfield]
    · rw [hfield]
      exact h₁
    · exact h₂
    · exact h₃
    · exact h₄
  · intro k i m hm
    rw [hget] at hm
    exact hinv.alive k i m hm

theorem get_put_again {t t' : VmapTables} {m₀ : MapRef}
    (hget : ∀ k' i', (t' k').get i' = if k' = k ∧ i' = i then some (MapRef.get m₀) else (t k').get i')
    (hm₀ : (t k).get i = some m₀) (hpos : 0 < m₀.refcount) (hlt : m₀.refcount + 1 < krefSaturated)
    (k' : MapKind) (i' : ℕ) : (vmapPutref id t' k i k').get i' = (t k').get i' := by
  have hm : (t' k).get i = some (MapRef.get m₀) := by
    rw [hget, if_pos ⟨rfl, rfl⟩]
  have href : (MapRef.get m₀).refcount = m₀.refcount + 1 := krefGet_of_lt hpos hlt
  rw [get_vmapPutref hm (by omega)]
  by_cases hki : k' = k ∧ i' = i
  · rw [if_pos hki, if_neg (by omega), hki.1, hki.2, hm₀, href]
    rfl
  · rw [if_neg hki, hget, if_neg hki]

theorem handlesOn_concat (s : ExportShare) (maps : VmapTables) (o : LocalObj) (k : MapKind) (i : ℕ) :
    ({ s with maps := maps, handles := s.handles ++ [o] } : ExportShare).handlesOn k i =
      s.handlesOn k i + (decide (objKind o.type = k ∧ o.id = i)).toNat :=
  countP_concat _ _ _

theorem mapObjStep_inv {type : ObjType} {epId : U32} {object data : U64} {env : PinEnv}
    {objOk fdOk : Bool} (hinv : ExportsInv s)
    (hcare : objKind type = .mem → ∀ i ∈ (s.maps .mem).find fun m => decide (m.object = data),
      ∀ m ∈ (s.maps .mem).get i, m.refcount + 1 < krefSaturated) :
    ExportsInv (mapObjStep s type epId object data env objOk fdOk) := by
  unfold mapObjStep
  cases hmap : vmapObjMap s.maps object data env type with
  | none => exact hinv
  | some r =>
    obtain ⟨i, t⟩ := r
    obtain ⟨m, hget, hcases⟩ := vmapObjMap_spec hmap
    have hm : (t (objKind type)).get i = some m := by
      rw [hget, if_pos ⟨rfl, rfl⟩]
    dsimp only
    rw [hm]
    dsimp only
    split_ifs with hok
    · have hhandles := handlesOn_concat s t ⟨type, epId, i, m.attrib⟩
      have hat : (decide (objKind type = objKind type ∧ i = i)).toNat = 1 := by simp
      obtain ⟨h₁, h₂, h₃, h₄⟩ := hinv.balanced (objKind type) i
      refine hinv.change (fun _ h => Or.inl h) ?_ hget ?_ ?_ ?_ ?_ rfl rfl
      · intro o ho
        rcases List.mem_append.mp ho with hold | hnew
        · exact Or.inl hold
        rw [List.mem_singleton.mp hnew]
        refine Or.inr fun m' hm' => ?_
        rw [hm, Option.some.injEq] at hm'
        rw [hm']
      · intro m' hm'
        cases hm'
        rcases hcases with ⟨_, hlt, _, rfl⟩ | ⟨m₀, hm₀, rfl, hkind, hfind⟩
        · exact ⟨hlt, Nat.one_pos, one_lt_krefSaturated⟩
        obtain ⟨hlt, hpos, _⟩ := hinv.alive _ _ m₀ hm₀
        rw [hkind] at hm₀
        have hover := hcare hkind i hfind m₀ hm₀
        have href : (MapRef.get m₀).refcount = m₀.refcount + 1 := krefGet_of_lt hpos hover
        rw [href]
        exact ⟨hlt, Nat.succ_pos _, hover⟩
      · intro m₀ m' hm₀ hm'
        cases hm'
        rcases hcases with ⟨_, _, hnone, _⟩ | ⟨m₁, hm₁, rfl, _⟩
        · rw [hnone] at hm₀
          cases hm₀
        · rw [hm₁, Option.some.injEq] at hm₀
          rw [← hm₀]
          rfl
      · intro hfield
        have hnew : m.refcount + mapField MapRef.unregs s.maps (objKind type) i =
            s.handlesOn (objKind type) i + 1 + mapField MapRef.exports s.maps (objKind type) i ∧
            m.exports = mapField MapRef.exports s.maps (objKind type) i ∧
            m.unregs = mapField MapRef.unregs s.maps (objKind type) i ∧
            m.imported = mapField MapRef.imported s.maps (objKind type) i ∧
            m.freed = mapField MapRef.freed s.maps (objKind type) i := by
          rcases hcases with ⟨_, _, hnone, rfl⟩ | ⟨m₀, hm₀, rfl, hkind, hfind⟩
          · simp only [mapField_of_none _ hnone] at h₁ ⊢
            refine ⟨?_, rfl, rfl, rfl, rfl⟩
            change 1 + 0 = _
            omega
          simp only [mapField_of_get _ hm₀] at h₁ ⊢
          refine ⟨?_, rfl, rfl, rfl, rfl⟩
          obtain ⟨_, hpos, _⟩ := hinv.alive _ _ m₀ hm₀
          rw [hkind] at hm₀
          have href : (MapRef.get m₀).refcount = m₀.refcount + 1 :=
            krefGet_of_lt hpos (hcare hkind i hfind m₀ hm₀)
          omega
        obtain ⟨hrefs, hexports, hunregs, himported, hfreed⟩ := hnew
        constructor <;> simp only [hfield, Option.elim_some]
        · rw [hhandles, hunregs, hexports]
          rw [hat]
          exact hrefs
        · rw [hexports, himported]
          exact h₂
        · rw [himported, hfreed]
          exact h₃
        · rw [hfreed, hunregs]
          exact h₄
      · intro k' i' hki
        refine ⟨?_, rfl, rfl⟩
        rw [hhandles, decide_eq_false (fun hc => hki ⟨hc.1.symm, hc.2.symm⟩)]
        rfl
    apply hinv.withMaps
    rcases hcases with ⟨_, _, hnone, rfl⟩ | ⟨m₀, hm₀, rfl, hkind, hfind⟩
    · intro k' i'
      rw [get_vmapPutref hm one_lt_krefSaturated, hget]
      by_cases hki : k' = objKind type ∧ i' = i
      · rw [if_pos hki, hki.1, hki.2, hnone]
        rfl
      · rw [if_neg hki, if_neg hki]
    · obtain ⟨_, hpos, _⟩ := hinv.alive _ _ m₀ hm₀
      have hover := hcare hkind i hfind m₀ (hkind ▸ hm₀)
      exact get_put_again hget hm₀ hpos hover

theorem exported_inv {msg : CommMsg} {t : VmapTables} (hinv : ExportsInv s)
    (hm : (s.maps k).get i = some m) (hover : m.refcount + 1 < krefSaturated)
    (hnames : Names msg.exportDesc k i) (hmsg : ⟨msg.iova, msg.size, msg.offsetof⟩ = m.attrib)
    (hget : ∀ k' i', (t k').get i' =
      if k' = k ∧ i' = i then some (MapRef.addExport (MapRef.get m)) else (s.maps k').get i') :
    ExportsInv { s with maps := t, regs := s.regs ++ [msg] } := by
  obtain ⟨hlt, hpos, _⟩ := hinv.alive k i m hm
  have href : (MapRef.addExport (MapRef.get m)).refcount = m.refcount + 1 := krefGet_of_lt hpos hover
  have hregs : ∀ k' i', ({ s with maps := t, regs := s.regs ++ [msg] } : ExportShare).registering k' i' =
      s.registering k' i' + (decide (Names msg.exportDesc k' i')).toNat :=
    fun _ _ => countP_concat _ _ _
  refine hinv.change ?_ (fun _ h => Or.inl h) hget ?_ ?_ ?_ ?_ rfl rfl
  · intro msg' hmsg'
    rcases List.mem_append.mp hmsg' with hold | hnew
    · exact Or.inl hold
    rw [List.mem_singleton.mp hnew, hnames.1, hnames.2, hmsg]
    refine Or.inr fun m' hm' => ?_
    rw [hget, if_pos ⟨rfl, rfl⟩] at hm'
    cases hm'
    rfl
  · intro m' hm'
    rw [← Option.some.inj hm', href]
    exact ⟨hlt, Nat.succ_pos _, hover⟩
  · intro m₀ m' hm₀ hm'
    rw [hm, Option.some.injEq] at hm₀
    rw [← Option.some.inj hm', ← hm₀]
    rfl
  · intro hfield
    obtain ⟨h₁, h₂, h₃, h₄⟩ := hinv.balanced k i
    simp only [mapField_of_get _ hm] at h₁ h₂ h₃ h₄
    constructor <;> simp only [hfield, Option.elim_some]
    · rw [href]
      change m.refcount + 1 + m.unregs = s.handlesOn k i + (m.exports + 1)
      omega
    · rw [hregs, decide_eq_true hnames]
      change m.exports + 1 = s.registering k i + 1 + s.available k i + m.imported
      omega
    · exact h₃
    · exact h₄
  · intro k' i' hki
    refine ⟨rfl, ?_, rfl⟩
    rw [hregs, decide_eq_false (fun hc => hki ⟨hc.1.symm.trans hnames.1, hc.2.symm.trans hnames.2⟩)]
    rfl

theorem exportObjStep_inv {node : NodeInfo} {type : ObjType} {epId : U32} {reserved2 : BitVec 4}
    {sendOk : Bool} (hinv : ExportsInv s)
    (hcare : ∀ o ∈ s.handles[j]?, ∀ m ∈ (s.maps (objKind o.type)).get o.id, m.refcount + 1 < krefSaturated) :
    ExportsInv (exportObjStep node s j type epId reserved2 sendOk) := by
  unfold exportObjStep
  cases hj : s.handles[j]? with
  | none => exact hinv
  | some o =>
    dsimp only
    split
    case isFalse => exact hinv
    case isTrue hvalid =>
      obtain ⟨_, htype, _⟩ := hvalid
      have ho := List.mem_of_getElem? hj
      obtain ⟨m, hm⟩ := hinv.exists_of_handle ho
      obtain ⟨hlt, hpos, _⟩ := hinv.alive _ _ m hm
      have hover := hcare o hj m hm
      have hget := get_setMap hm (some (MapRef.get m))
      have hgetref : vmapGetref s.maps (objKind o.type) o.id =
          some (setMap s.maps (objKind o.type) o.id (some (MapRef.get m))) := by
        unfold vmapGetref
        rw [hm]
        rfl
      rw [hgetref]
      dsimp only
      split
      · have hnames : Names (genDesc node epId reserved2 (objKind type).type o.id) (objKind o.type) o.id := by
          rw [htype]
          exact names_genDesc hlt
        generalize genDesc node epId reserved2 (objKind type).type o.id = desc at hnames
        have hm' : (setMap s.maps (objKind o.type) o.id (some (MapRef.get m)) (objKind o.type)).get o.id =
            some (MapRef.get m) := by
          rw [hget, if_pos ⟨rfl, rfl⟩]
        unfold ExportShare.counted
        rw [hnames.1, hnames.2, hm']
        refine exported_inv hinv hm hover ?_ ?_ ?_
        · exact hnames
        · exact (hinv.mapped o ho m hm).symm
        · intro k' i'
          rw [get_setMap hm', hget]
          split <;> rfl
      · exact hinv.withMaps (get_put_again hget hm hpos hover)

/-- **A reference is dropped** with what it was for: a handle (`a = 1`), or an export whose
`UNREGISTER` was on its way (`b = 1`). -/
theorem dropped_inv {f : MapRef → MapRef} {a b : ℕ} (hinv : ExportsInv s)
    (hm : (s.maps k).get i = some m) (hf : ∀ m, f m = { m with unregs := m.unregs + b })
    (hmaps : s'.maps = vmapPutref f s.maps k i) (hone : a + b = 1)
    (hhandles : s'.handlesOn k i + a = s.handlesOn k i)
    (hunregs : s'.unregistering k i + b = s.unregistering k i)
    (hother : ∀ k' i', ¬(k' = k ∧ i' = i) → s'.handlesOn k' i' = s.handlesOn k' i' ∧
      s'.unregistering k' i' = s.unregistering k' i')
    (himports : s'.imports = s.imports) (hopens : s'.importHandles = s.importHandles)
    (hregs : s'.regs = s.regs) (hmapped : ∀ o ∈ s'.handles, o ∈ s.handles) : ExportsInv s' := by
  obtain ⟨hlt, hpos, hsat⟩ := hinv.alive k i m hm
  have hget := get_vmapPutref (f := f) hm hsat
  rw [← hmaps] at hget
  have hregistering : ∀ k i, s'.registering k i = s.registering k i := by
    intro k i
    unfold ExportShare.registering
    rw [hregs]
  refine hinv.change ?_ (fun o ho => Or.inl (hmapped o ho)) hget ?_ ?_ ?_ ?_ himports hopens
  · rw [hregs]
    exact fun _ h => Or.inl h
  · intro m' hm'
    obtain ⟨hne, heq⟩ := Option.ite_none_left_eq_some.mp hm'
    rw [← Option.some.inj heq, hf]
    dsimp only
    omega
  · intro m₀ m' hm₀ hm'
    obtain ⟨_, heq⟩ := Option.ite_none_left_eq_some.mp hm'
    rw [hm, Option.some.injEq] at hm₀
    rw [← Option.some.inj heq, hf, ← hm₀]
  · intro hfield
    obtain ⟨h₁, h₂, h₃, h₄⟩ := hinv.balanced k i
    simp only [mapField_of_get _ hm] at h₁ h₂ h₃ h₄
    have havail : s'.available k i = s.available k i := by
      unfold ExportShare.available
      rw [himports]
    have hopen : s'.openImports k i = s.openImports k i := by
      unfold ExportShare.openImports
      rw [hopens]
    by_cases hlast : m.refcount - 1 = 0
    · -- nothing refers to a mapping that is gone
      simp only [if_pos hlast, Option.elim_none] at hfield
      constructor <;> simp only [hfield, hregistering, havail, hopen] <;> omega
    · simp only [if_neg hlast, Option.elim_some, hf] at hfield
      constructor <;> simp only [hfield, hregistering, havail, hopen] <;> omega
  · intro k' i' hki
    obtain ⟨h₁, h₂⟩ := hother k' i' hki
    exact ⟨h₁, hregistering k' i', h₂⟩

theorem freeObjStep_inv (hinv : ExportsInv s) : ExportsInv (freeObjStep s j) := by
  unfold freeObjStep
  cases hj : s.handles[j]? with
  | none => exact hinv
  | some o =>
    obtain ⟨m, hm⟩ := hinv.exists_of_handle (List.mem_of_getElem? hj)
    have hhandles : ∀ k i, s.handlesOn k i = (s.handles.eraseIdx j).countP
        (fun o => decide (objKind o.type = k ∧ o.id = i)) +
        (decide (objKind o.type = k ∧ o.id = i)).toNat := fun _ _ => countP_eraseIdx _ hj
    refine @dropped_inv s _ (objKind o.type) o.id m id 1 0 hinv hm (fun _ => rfl) rfl rfl ?_ rfl ?_ rfl
      rfl rfl (fun _ h => List.mem_of_mem_eraseIdx h)
    · rw [hhandles, decide_eq_true ⟨rfl, rfl⟩]
      rfl
    · intro k' i' hki
      rw [hhandles, decide_eq_false (fun hc => hki ⟨hc.1.symm, hc.2.symm⟩)]
      exact ⟨rfl, rfl⟩

theorem unregisterStep_inv (hinv : ExportsInv s) (hstep : unregisterStep s = some s') :
    ExportsInv s' := by
  unfold unregisterStep at hstep
  cases hmsgs : s.unregs with
  | nil =>
    rw [hmsgs] at hstep
    cases hstep
  | cons msg unregs =>
    rw [hmsgs] at hstep
    cases hstep
    obtain ⟨m, hm⟩ := hinv.exists_of_unreg (hmsgs ▸ List.mem_cons_self)
    have hunregs : ∀ k i, s.unregistering k i =
        unregs.countP (fun msg => decide (Names msg.exportDesc k i)) +
        (decide (Names msg.exportDesc k i)).toNat := by
      intro k i
      unfold ExportShare.unregistering
      rw [hmsgs, List.countP_cons]
      by_cases h : Names msg.exportDesc k i <;> simp [h]
    refine @dropped_inv s _ (descKind msg.exportDesc) (descHandleId msg.exportDesc) m MapRef.addUnreg
      0 1 hinv hm (fun _ => rfl) rfl rfl rfl ?_ ?_ rfl rfl rfl (fun _ h => h)
    · rw [hunregs, decide_eq_true ⟨rfl, rfl⟩]
      rfl
    · intro k' i' hki
      rw [hunregs, decide_eq_false (fun hc => hki ⟨hc.1.symm, hc.2.symm⟩)]
      exact ⟨rfl, rfl⟩

end

section

variable {s s' : ExportShare} {k : MapKind} {i j : ℕ} {m : MapRef} {e : ImportRef}
  {o : Option ImportRef} {desc : U64}

/-- **One entry changes**, and the handles on it; what is counted on mappings may change. -/
theorem ExportsInv.entry (hinv : ExportsInv s)
    (hget : ∀ j, s'.imports.get j = if j = i then o else s.imports.get j)
    (hmaps : ∀ k i m', (s'.maps k).get i = some m' → ∃ m, (s.maps k).get i = some m ∧
      m'.refcount = m.refcount ∧ m'.attrib = m.attrib)
    (hbalanced : ∀ k i, MapBalanced s' k i) (hnew : ∀ e', o = some e' → EntryOk s' i e')
    (hknown : ∀ e', o = some e' →
      (∃ e, s.imports.get i = some e ∧ e.exportDesc = e'.exportDesc ∧ e.attrib = e'.attrib) ∨
      (∀ j e, s.imports.get j = some e → e.exportDesc ≠ e'.exportDesc) ∧
        ∃ msg ∈ s.regs, msg.exportDesc = e'.exportDesc ∧ ⟨msg.iova, msg.size, msg.offsetof⟩ = e'.attrib)
    (hhandles : ∀ j, j ≠ i → handlesOf s' j = handlesOf s j)
    (hopened : ∀ h ∈ s'.importHandles, ∃ e, s'.imports.get h.id = some e ∧ e.exportDesc = h.desc ∧
      e.attrib = h.attrib)
    (hregs : ∀ msg ∈ s'.regs, msg ∈ s.regs) (hlocal : s'.handles = s.handles) : ExportsInv s' := by
  refine hinv.frame ?_ ?_ ?_ hbalanced ?_ ?_ ?_ hopened ?_
  · exact fun msg hmsg => Or.inl (hregs msg hmsg)
  · rw [hlocal]
    exact fun _ h => Or.inl h
  · intro k i m m' hm hm'
    obtain ⟨m₀, hm₀, _, hattrib⟩ := hmaps k i m' hm'
    rw [hm, Option.some.injEq] at hm₀
    rw [hattrib, hm₀]
  · intro k i m' hm'
    obtain ⟨m, hm, href, _⟩ := hmaps k i m' hm'
    rw [href]
    exact hinv.alive k i m hm
  · intro j e' he'
    rw [hget] at he'
    by_cases hj : j = i
    · rw [if_pos hj] at he'
      rw [hj]
      exact hnew e' he'
    rw [if_neg hj] at he'
    obtain ⟨href, hopen, hbounded, halive⟩ := hinv.entries j e' he'
    rw [← hhandles j hj] at href hopen
    exact ⟨href, hopen, hbounded, halive⟩
  · -- an entry keeps its descriptor, and a new one has one that was not there
    have hone : ∀ j e e', j ≠ i → s.imports.get j = some e → o = some e' →
        e.exportDesc ≠ e'.exportDesc := by
      intro j e e' hj he he' hdesc
      rcases hknown e' he' with ⟨e₀, he₀, hdesc₀, _⟩ | ⟨hnot, _⟩
      · exact hj (hinv.unique j i e e₀ he he₀ (hdesc.trans hdesc₀.symm))
      · exact hnot j e he hdesc
    intro j j' e e' he he' hdesc
    rw [hget] at he he'
    by_cases hj : j = i
    · by_cases hj' : j' = i
      · rw [hj, hj']
      · rw [if_pos hj] at he
        rw [if_neg hj'] at he'
        exact absurd hdesc.symm (hone j' e' e hj' he' he)
    rw [if_neg hj] at he
    by_cases hj' : j' = i
    · rw [if_pos hj'] at he'
      exact absurd hdesc (hone j e e' hj he he')
    · rw [if_neg hj'] at he'
      exact hinv.unique j j' e e' he he' hdesc
  · intro j e' he'
    rw [hget] at he'
    by_cases hj : j = i
    · rw [if_pos hj] at he'
      rw [hj]
      rcases hknown e' he' with hold | ⟨_, hmsg⟩
      · exact Or.inl hold
      · exact Or.inr hmsg
    · rw [if_neg hj] at he'
      exact Or.inl ⟨e', he', rfl, rfl⟩

theorem available_put (hi : s.imports.get i = some e) (o : Option ImportRef) (k : MapKind) (j : ℕ) :
    (s.imports.put i o).total (fun e => if Names e.exportDesc k j then
      e.nrExport.toNat - e.nrImport.toNat else 0) +
        (if Names e.exportDesc k j then e.nrExport.toNat - e.nrImport.toNat else 0) =
      s.available k j + o.elim 0 fun e => if Names e.exportDesc k j then
        e.nrExport.toNat - e.nrImport.toNat else 0 :=
  Slots.total_put _ hi o

theorem get_put (hi : s.imports.get i = some e) (o : Option ImportRef) (j : ℕ) :
    (s.imports.put i o).get j = if j = i then o else s.imports.get j := by
  split_ifs with hj
  · rw [hj]
    exact Slots.get_put_self hi o
  · exact Slots.get_put_of_ne hj _ _

theorem registerStep_inv {memOk idrOk : Bool} (hinv : ExportsInv s)
    (hcare : ∀ msg ∈ s.regs.head?,
      (∀ i ∈ findDesc s.imports msg.exportDesc, ∀ e ∈ s.imports.get i,
        e.refcount + 1 < krefSaturated ∧ e.nrExport + 1 ≠ 0) ∧
      (findDesc s.imports msg.exportDesc = none →
        memOk = true ∧ idrOk = true ∧ s.imports.freeNumber importobjStart < importobjEnd))
    (hstep : registerStep s memOk idrOk = some s') : ExportsInv s' := by
  unfold registerStep at hstep
  cases hmsgs : s.regs with
  | nil =>
    rw [hmsgs] at hstep
    cases hstep
  | cons msg regs =>
    rw [hmsgs] at hstep hcare
    cases hstep
    obtain ⟨hover, hroom⟩ := hcare msg rfl
    have hmem : msg ∈ s.regs := hmsgs ▸ List.mem_cons_self
    have hregs : ∀ k i, s.registering k i =
        regs.countP (fun msg => decide (Names msg.exportDesc k i)) +
        (if Names msg.exportDesc k i then 1 else 0) := by
      intro k i
      unfold ExportShare.registering
      rw [hmsgs, List.countP_cons]
      by_cases h : Names msg.exportDesc k i <;> simp [h]
    -- one export goes from the channel to the entry
    have hbal : ∀ t : Slots ImportRef,
        (∀ k i, t.total (fun e => if Names e.exportDesc k i then
          e.nrExport.toNat - e.nrImport.toNat else 0) =
            s.available k i + if Names msg.exportDesc k i then 1 else 0) →
        ∀ k i, MapBalanced { s with regs := regs, imports := t } k i := by
      intro t ht k i
      obtain ⟨h₁, h₂, h₃, h₄⟩ := hinv.balanced k i
      refine ⟨h₁, ?_, h₃, h₄⟩
      rw [hregs] at h₂
      change mapField MapRef.exports s.maps k i =
        regs.countP _ + t.total _ + mapField MapRef.imported s.maps k i
      rw [ht]
      omega
    unfold importobjRegister
    cases hfind : findDesc s.imports msg.exportDesc with
    | some i =>
      obtain ⟨e, he, hdesc⟩ := Slots.find_spec hfind
      have hdesc : e.exportDesc = msg.exportDesc := of_decide_eq_true hdesc
      obtain ⟨hrefs, hwrap⟩ := hover i hfind e he
      obtain ⟨href, hopen, hbounded, hpos, _⟩ := hinv.entries i e he
      -- the descriptor was exported with the same attributes
      have hsame : ⟨msg.iova, msg.size, msg.offsetof⟩ = e.attrib := by
        obtain ⟨m, hm⟩ := hinv.exists_of_reg hmem
        have hm' := hm
        rw [← hdesc] at hm'
        rw [← hinv.sent msg hmem m hm, ← hinv.known i e he m hm']
      have hnr : (e.nrExport + 1).toNat = e.nrExport.toNat + 1 := by
        have := BitVec.toNat_ne.mp hwrap
        simp at *
        omega
      dsimp only
      rw [he]
      dsimp only
      rw [if_pos (by rw [← hsame]; exact ⟨rfl, rfl, rfl⟩), krefGet_of_lt hpos hrefs]
      refine hinv.entry (get_put he _) (fun _ _ m h => ⟨m, h, rfl, rfl⟩) ?_ ?_ ?_ (fun _ _ => rfl) ?_
        (fun _ h => hmsgs ▸ List.mem_cons_of_mem msg h) rfl
      · apply hbal
        intro k j
        have hput := available_put he (some { e with
          nrExport := e.nrExport + 1, refcount := e.refcount + 1 }) k j
        simp only [Option.elim_some, hnr] at hput
        rw [← hdesc]
        by_cases h : Names e.exportDesc k j
        · simp only [if_pos h] at hput ⊢
          omega
        · simp only [if_neg h] at hput ⊢
          exact hput
      · intro e' he'
        cases he'
        refine ⟨?_, hopen, ?_, Nat.succ_pos _, hrefs⟩
        · rw [hnr]
          change e.refcount + 1 + e.nrImport.toNat = e.nrExport.toNat + 1 + handlesOf s i
          omega
        · dsimp only
          omega
      · intro e' he'
        cases he'
        exact Or.inl ⟨e, he, rfl, rfl⟩
      · intro h hmem'
        obtain ⟨e₀, he₀, hd, ha⟩ := hinv.opened h hmem'
        rw [get_put he]
        by_cases hid : h.id = i
        · rw [hid, he, Option.some.injEq] at he₀
          rw [if_pos hid]
          exact ⟨_, rfl, he₀ ▸ hd, he₀ ▸ ha⟩
        · rw [if_neg hid]
          exact ⟨e₀, he₀, hd, ha⟩
    | none =>
      obtain ⟨hmemOk, hidrOk, hfree⟩ := hroom hfind
      obtain ⟨⟨i, t⟩, halloc⟩ : ∃ r, s.imports.alloc importobjStart importobjEnd
          ⟨1, msg.exportDesc, 1, 0, ⟨msg.iova, msg.size, msg.offsetof⟩⟩ = some r := ⟨_, if_pos hfree⟩
      obtain ⟨_, hnone, hself, hother, htotal⟩ := Slots.alloc_spec halloc
      have hunused : ∀ h ∈ s.importHandles, h.id ≠ i := by
        intro h hmem' hid
        obtain ⟨e, he, _⟩ := hinv.opened h hmem'
        rw [hid, hnone] at he
        cases he
      have hzero : handlesOf s i = 0 :=
        List.countP_eq_zero.mpr fun h hmem' hid => hunused h hmem' (of_decide_eq_true hid)
      have hget : ∀ j, t.get j = if j = i then
          some ⟨1, msg.exportDesc, 1, 0, ⟨msg.iova, msg.size, msg.offsetof⟩⟩ else s.imports.get j := by
        intro j
        split_ifs with hj
        · rw [hj]
          exact hself
        · exact hother j hj
      rw [hmemOk, hidrOk]
      rw [Bool.and_self, if_pos rfl, halloc]
      refine hinv.entry hget (fun _ _ m h => ⟨m, h, rfl, rfl⟩) ?_ ?_ ?_ (fun _ _ => rfl) ?_
        (fun _ h => hmsgs ▸ List.mem_cons_of_mem msg h) rfl
      · apply hbal
        intro k j
        exact htotal _
      · intro e' he'
        cases he'
        refine ⟨?_, ?_, (by decide : (0 : U32).toNat ≤ (1 : U32).toNat), Nat.one_pos, one_lt_krefSaturated⟩
        · change 1 + 0 = 1 + handlesOf s i
          rw [hzero]
        · exact Nat.le_of_eq hzero
      · intro e' he'
        cases he'
        refine Or.inr ⟨?_, msg, hmem, rfl, rfl⟩
        intro j e he hdesc
        have hnot := List.findIdx?_eq_none_iff.mp hfind (some e)
          (List.mem_of_getElem? (Slots.get_eq_some.mp he))
        exact absurd hnot (by simp [hdesc])
      · intro h hmem'
        rw [hget, if_neg (hunused h hmem')]
        exact hinv.opened h hmem'

theorem mapField_counted {f : MapRef → MapRef}
    (hm : (s.maps (descKind desc)).get (descHandleId desc) = some m) (g : MapRef → ℕ) {d : ℕ}
    (hg : g (f m) = g m + d) (k : MapKind) (i : ℕ) :
    mapField g (setMap s.maps (descKind desc) (descHandleId desc) (some (f m))) k i =
      mapField g s.maps k i + if Names desc k i then d else 0 := by
  unfold mapField
  rw [get_setMap hm]
  by_cases h : Names desc k i
  · rw [if_pos h, if_pos ⟨h.1.symm, h.2.symm⟩, ← h.1, ← h.2, hm]
    exact hg
  · rw [if_neg h, if_neg (fun hc => h ⟨hc.1.symm, hc.2.symm⟩)]
    rfl

theorem counted_maps {f : MapRef → MapRef}
    (hm : (s.maps (descKind desc)).get (descHandleId desc) = some m)
    (hf : (f m).refcount = m.refcount ∧ (f m).attrib = m.attrib) (k : MapKind) (i : ℕ) (m' : MapRef)
    (hm' : (setMap s.maps (descKind desc) (descHandleId desc) (some (f m)) k).get i = some m') :
    ∃ m, (s.maps k).get i = some m ∧ m'.refcount = m.refcount ∧ m'.attrib = m.attrib := by
  rw [get_setMap hm] at hm'
  by_cases h : k = descKind desc ∧ i = descHandleId desc
  · rw [if_pos h] at hm'
    rw [h.1, h.2, ← Option.some.inj hm']
    exact ⟨m, hm, hf⟩
  · rw [if_neg h] at hm'
    exact ⟨m', hm', rfl, rfl⟩

theorem importobjMap_spec {r : ℕ × VmapAttrib × Slots ImportRef}
    (h : importobjMap s.imports desc = some r) :
    ∃ e, s.imports.get r.1 = some e ∧ e.exportDesc = desc ∧ e.nrImport ≠ e.nrExport ∧
      r.2.1 = e.attrib ∧ r.2.2 = s.imports.put r.1 (some { e with nrImport := e.nrImport + 1 }) := by
  obtain ⟨i, hfind, h⟩ := Option.bind_eq_some_iff.mp h
  obtain ⟨e, he, h⟩ := Option.bind_eq_some_iff.mp h
  obtain ⟨hne, heq⟩ := Option.ite_none_left_eq_some.mp h
  obtain ⟨e', he', hdesc⟩ := Slots.find_spec hfind
  rw [he, Option.some.injEq] at he'
  cases heq
  exact ⟨e, he, he' ▸ of_decide_eq_true hdesc, hne, rfl, rfl⟩

/-- **An import**: one export that was available has a handle. -/
theorem imported_inv {r : ℕ × VmapAttrib × Slots ImportRef} (hinv : ExportsInv s)
    (h : importobjMap s.imports desc = some r) :
    ExportsInv (({ s with
      imports := r.2.2
      importHandles := s.importHandles ++ [⟨r.1, r.2.1, desc⟩] } : ExportShare).counted
        MapRef.addImport desc) := by
  obtain ⟨e, he, hdesc, hne, hattrib, htable⟩ := importobjMap_spec h
  obtain ⟨i, attrib, t⟩ := r
  dsimp only at he hattrib htable ⊢
  subst hattrib
  subst htable
  obtain ⟨m, hm⟩ := hinv.exists_of_entry he
  rw [hdesc] at hm
  obtain ⟨href, hopen, hbounded, hpos, hsat⟩ := hinv.entries i e he
  have hlt : e.nrImport.toNat < e.nrExport.toNat :=
    Nat.lt_of_le_of_ne hbounded (fun hc => hne (BitVec.eq_of_toNat_eq hc))
  have hnr : (e.nrImport + 1).toNat = e.nrImport.toNat + 1 := by
    simp
    omega
  have hhandles : ∀ j, (s.importHandles ++ [(⟨i, e.attrib, desc⟩ : ImportObj)]).countP
      (fun h => decide (h.id = j)) = handlesOf s j + (decide (i = j)).toNat :=
    fun _ => countP_concat _ _ _
  unfold ExportShare.counted
  rw [hm]
  refine hinv.entry (get_put he _) (counted_maps hm ⟨rfl, rfl⟩) ?_ ?_ ?_ ?_ ?_ (fun _ h => h) rfl
  · intro k j
    obtain ⟨h₁, h₂, h₃, h₄⟩ := hinv.balanced k j
    have hput := available_put he (some { e with nrImport := e.nrImport + 1 }) k j
    have hopens : (s.importHandles ++ [(⟨i, e.attrib, desc⟩ : ImportObj)]).countP
        (fun h => decide (Names h.desc k j)) =
        s.openImports k j + (decide (Names desc k j)).toNat := countP_concat _ _ _
    simp only [Option.elim_some, hnr] at hput
    have hnames : Names e.exportDesc k j ↔ Names desc k j := by rw [hdesc]
    constructor
    · rw [mapField_counted hm MapRef.refcount (rfl : _ = _ + 0),
        mapField_counted hm MapRef.unregs (rfl : _ = _ + 0),
        mapField_counted hm MapRef.exports (rfl : _ = _ + 0), ite_self]
      exact h₁
    · rw [mapField_counted hm MapRef.imported (rfl : _ = _ + 1),
        mapField_counted hm MapRef.exports (rfl : _ = _ + 0), ite_self]
      change mapField MapRef.exports s.maps k j = s.registering k j + Slots.total _ _ + _
      by_cases hn : Names desc k j
      · simp only [if_pos hn, if_pos (hnames.mpr hn)] at hput ⊢
        omega
      · simp only [if_neg hn, if_neg (mt hnames.mp hn)] at hput ⊢
        omega
    · rw [mapField_counted hm MapRef.imported (rfl : _ = _ + 1),
        mapField_counted hm MapRef.freed (rfl : _ = _ + 0), ite_self]
      change _ = List.countP _ _ + _
      rw [hopens]
      by_cases hn : Names desc k j
      · simp only [if_pos hn, decide_eq_true hn, Bool.toNat_true]
        omega
      · simp only [if_neg hn, decide_eq_false hn, Bool.toNat_false]
        omega
    · rw [mapField_counted hm MapRef.unregs (rfl : _ = _ + 0),
        mapField_counted hm MapRef.freed (rfl : _ = _ + 0), ite_self]
      exact h₄
  · intro e' he'
    cases he'
    have hat := hhandles i
    rw [decide_eq_true rfl, Bool.toNat_true] at hat
    refine ⟨?_, ?_, ?_, hpos, hsat⟩
    · dsimp only
      change e.refcount + _ = _ + List.countP _ _
      rw [hat]
      omega
    · rw [hnr]
      change List.countP _ _ ≤ _
      rw [hat]
      exact Nat.succ_le_succ hopen
    · rw [hnr]
      exact hlt
  · intro e' he'
    cases he'
    exact Or.inl ⟨e, he, rfl, rfl⟩
  · intro j hj
    have hat := hhandles j
    rw [decide_eq_false (Ne.symm hj)] at hat
    exact hat
  · intro h hmem
    rw [get_put he]
    split_ifs with hid
    · refine ⟨_, rfl, ?_⟩
      rcases List.mem_append.mp hmem with hold | hnew
      · obtain ⟨e₀, he₀, hd, ha⟩ := hinv.opened h hold
        rw [hid, he, Option.some.injEq] at he₀
        exact he₀ ▸ ⟨hd, ha⟩
      · rw [List.mem_singleton.mp hnew]
        exact ⟨hdesc, rfl⟩
    rcases List.mem_append.mp hmem with hold | hnew
    · exact hinv.opened h hold
    · rw [List.mem_singleton.mp hnew] at hid
      exact absurd rfl hid

/-- **A free of an imported handle** drops a reference of the entry and sends a message for it. -/
theorem freeImportStep_inv (hinv : ExportsInv s) : ExportsInv (freeImportStep s j true) := by
  unfold freeImportStep
  cases hj : s.importHandles[j]? with
  | none => exact hinv
  | some h =>
    obtain ⟨e, he, hdesc, hattrib⟩ := hinv.opened h (List.mem_of_getElem? hj)
    obtain ⟨m, hm⟩ := hinv.exists_of_entry he
    rw [hdesc] at hm
    obtain ⟨href, hopen, hbounded, hpos, hsat⟩ := hinv.entries h.id e he
    have hhandles : ∀ i, handlesOf s i = (s.importHandles.eraseIdx j).countP
        (fun h => decide (h.id = i)) + (decide (h.id = i)).toNat := fun _ => countP_eraseIdx _ hj
    have hat := hhandles h.id
    rw [decide_eq_true rfl, Bool.toNat_true] at hat
    have hne : e.nrImport ≠ 0 := by
      intro hzero
      rw [hzero] at hopen
      have : (0 : U32).toNat = 0 := rfl
      omega
    dsimp only
    unfold ExportShare.unmapImport importobjUnmap
    rw [he, Option.bind_some, if_neg hne, krefPut_of_lt hsat]
    unfold ExportShare.counted
    dsimp only
    rw [hm]
    rw [if_pos rfl]
    refine hinv.entry (get_put he _) (counted_maps hm ⟨rfl, rfl⟩) ?_ ?_ ?_ ?_ ?_ (fun _ h => h) rfl
    · intro k i
      obtain ⟨h₁, h₂, h₃, h₄⟩ := hinv.balanced k i
      have hput := available_put he
        (if e.refcount - 1 = 0 then none else some { e with refcount := e.refcount - 1 }) k i
      have hopens : s.openImports k i = (s.importHandles.eraseIdx j).countP
          (fun h => decide (Names h.desc k i)) + (decide (Names h.desc k i)).toNat :=
        countP_eraseIdx _ hj
      have hsent : (s.unregs ++ [(⟨commMsgTypeUnregister, e.exportDesc, e.attrib.iova, e.attrib.size,
          e.attrib.offsetof⟩ : CommMsg)]).countP (fun msg => decide (Names msg.exportDesc k i)) =
          s.unregistering k i + (decide (Names e.exportDesc k i)).toNat := countP_concat _ _ _
      rw [hdesc] at hsent
      constructor
      · rw [mapField_counted hm MapRef.refcount (rfl : _ = _ + 0),
          mapField_counted hm MapRef.unregs (rfl : _ = _ + 0),
          mapField_counted hm MapRef.exports (rfl : _ = _ + 0), ite_self]
        exact h₁
      · rw [mapField_counted hm MapRef.imported (rfl : _ = _ + 0),
          mapField_counted hm MapRef.exports (rfl : _ = _ + 0), ite_self]
        change mapField MapRef.exports s.maps k i = s.registering k i + Slots.total _ _ + _
        -- what is available stays, since an entry that is gone was imported as often as it was exported
        by_cases hlast : e.refcount - 1 = 0
        · simp only [if_pos hlast, Option.elim_none] at hput ⊢
          split at hput <;> omega
        · simp only [if_neg hlast, Option.elim_some] at hput ⊢
          omega
      · rw [mapField_counted hm MapRef.imported (rfl : _ = _ + 0),
          mapField_counted hm MapRef.freed (rfl : _ = _ + 1), ite_self]
        change _ = (s.importHandles.eraseIdx j).countP (fun h => decide (Names h.desc k i)) + _
        by_cases hn : Names h.desc k i
        · rw [decide_eq_true hn, Bool.toNat_true] at hopens
          rw [if_pos hn]
          omega
        · rw [decide_eq_false hn, Bool.toNat_false] at hopens
          rw [if_neg hn]
          omega
      · rw [mapField_counted hm MapRef.unregs (rfl : _ = _ + 0),
          mapField_counted hm MapRef.freed (rfl : _ = _ + 1), ite_self]
        change _ = List.countP _ _ + _
        rw [hdesc, hsent]
        split_ifs with hn
        · rw [decide_eq_true hn, Bool.toNat_true]
          omega
        · rw [decide_eq_false hn, Bool.toNat_false]
          omega
    · intro e' he'
      obtain ⟨hmore, heq⟩ := Option.ite_none_left_eq_some.mp he'
      cases heq
      refine ⟨?_, ?_, hbounded, Nat.pos_of_ne_zero hmore, ?_⟩
      · change e.refcount - 1 + e.nrImport.toNat = e.nrExport.toNat +
          (s.importHandles.eraseIdx j).countP fun o => decide (o.id = h.id)
        omega
      · change ((s.importHandles.eraseIdx j).countP fun o => decide (o.id = h.id)) ≤ e.nrImport.toNat
        omega
      · dsimp only
        omega
    · intro e' he'
      obtain ⟨_, heq⟩ := Option.ite_none_left_eq_some.mp he'
      cases heq
      exact Or.inl ⟨e, he, rfl, rfl⟩
    · intro i hi
      have hsame := hhandles i
      rw [decide_eq_false (Ne.symm hi)] at hsame
      exact hsame.symm
    · intro h' hmem
      have hmem' := List.mem_of_mem_eraseIdx hmem
      obtain ⟨e₀, he₀, hd, ha⟩ := hinv.opened h' hmem'
      rw [get_put he]
      by_cases hid : h'.id = h.id
      · rw [if_pos hid]
        rw [hid, he, Option.some.injEq] at he₀
        have hmore : 0 < (s.importHandles.eraseIdx j).countP fun o => decide (o.id = h.id) :=
          List.countP_pos_iff.mpr ⟨h', hmem, decide_eq_true hid⟩
        rw [if_neg (by omega)]
        exact ⟨_, rfl, he₀ ▸ hd, he₀ ▸ ha⟩
      · rw [if_neg hid]
        exact ⟨e₀, he₀, hd, ha⟩

theorem allocateImport_inv {env : StreamImportEnv} (hinv : ExportsInv s)
    (hcare : importobjMap s.imports desc ≠ none → env.objOk = true ∧ env.fdOk = true) :
    (s.allocateImport desc env = (s, false) ∧ importobjMap s.imports desc = none) ∨
      importobjMap s.imports desc ≠ none ∧ (s.allocateImport desc env).2 = true ∧
        ExportsInv ((s.allocateImport desc env).1.counted MapRef.addImport desc) := by
  unfold ExportShare.allocateImport
  cases hmap : importobjMap s.imports desc with
  | none => exact Or.inl ⟨rfl, rfl⟩
  | some r =>
    obtain ⟨hobj, hfd⟩ := hcare (by rw [hmap]; exact Option.some_ne_none r)
    dsimp only
    rw [hobj, hfd, Bool.and_self, if_pos rfl]
    exact Or.inr ⟨Option.some_ne_none r, rfl, imported_inv hinv hmap⟩

theorem importObjStep_inv {node : NodeInfo} {epId : U32} {env : StreamImportEnv} (hinv : ExportsInv s)
    (hcare : validateDesc desc node epId = true → importobjMap s.imports desc ≠ none →
      env.objOk = true ∧ env.fdOk = true ∧ env.aperture desc = true) :
    ExportsInv (importObjStep node s desc epId env) := by
  unfold importObjStep
  split
  case isFalse => exact hinv
  case isTrue hvalid =>
    have hboth := fun hne => (⟨(hcare hvalid hne).1, (hcare hvalid hne).2.1⟩ : _ ∧ _)
    dsimp only
    rcases allocateImport_inv hinv hboth with ⟨heq, _⟩ | ⟨hne, hok, hres⟩
    · rw [heq]
      exact hinv
    · rw [hok, (hcare hvalid hne).2.2, Bool.and_self, if_pos rfl]
      exact hres

theorem mapImportStep_inv {env : StreamImportEnv} (hinv : ExportsInv s)
    (hcare : importobjMap s.imports desc ≠ none → env.objOk = true ∧ env.fdOk = true) :
    ExportsInv (mapImportStep s desc env) := by
  unfold mapImportStep
  dsimp only
  rcases allocateImport_inv hinv hcare with ⟨heq, _⟩ | ⟨_, hok, hres⟩
  · rw [heq]
    exact hinv
  · rw [hok, if_pos rfl]
    exact hres

end

section

variable {node : NodeInfo} {s s' : ExportShare} {ops : List ExportOp}

theorem exportStep_inv {op : ExportOp} (hinv : ExportsInv s) (hcare : ExportCareful node s op)
    (hstep : exportStep node s op = some s') : ExportsInv s' := by
  cases op with
  | map type epId object data env objOk fdOk =>
    cases hstep
    exact mapObjStep_inv hinv hcare
  | exportObj j type epId reserved2 sendOk =>
    cases hstep
    exact exportObjStep_inv hinv hcare
  | freeObj j =>
    cases hstep
    exact freeObjStep_inv hinv
  | register memOk idrOk => exact registerStep_inv hinv hcare hstep
  | importObj desc epId env =>
    cases hstep
    exact importObjStep_inv hinv hcare
  | mapImport desc env =>
    cases hstep
    exact mapImportStep_inv hinv hcare
  | freeImport j sendOk =>
    cases hstep
    cases hj : s.importHandles[j]? with
    | none =>
      unfold freeImportStep
      rw [hj]
      exact hinv
    | some h =>
      rw [hcare (by rw [hj]; exact Option.some_ne_none h)]
      exact freeImportStep_inv hinv
  | unregister => exact unregisterStep_inv hinv hstep

/-- **References are accounted for**, in every run whose steps are careful. -/
theorem exports_ok (hcare : AllSteps (exportStep node) (ExportCareful node) newExportShare ops)
    (hrun : run (exportStep node) newExportShare ops = some s) : ExportsOk s :=
  (run_invariant_of_allSteps (fun _ _ _ h hc hs => exportStep_inv h hc hs) exportsInv_new hcare hrun).ok

/-- The importer, the descriptor of the first mapping of a buffer on endpoint 3, and that buffer. -/
def importerNode : NodeInfo := ⟨0, 1, 2⟩

def bufferDesc : U64 := genDesc importerNode 3 0 streamObjTypeMem 1

def bufferAttrib : VmapAttrib := ⟨0x10000, 0x1000, 0⟩

def goodPin : PinEnv := ⟨true, true, true, bufferAttrib⟩

def goodImport : StreamImportEnv := ⟨true, true, true, true, .nvcpuOrin, true⟩

/-- A buffer is mapped, exported, and known to the importer. -/
def bufferExported : List ExportOp :=
  [.map .targetMem 3 77 0 goodPin true true, .exportObj 0 .targetMem 3 0 true, .register true true]

/-- It is exported again, imported once, and freed on both sides. -/
def bufferShared : List ExportOp :=
  bufferExported ++ [.exportObj 0 .targetMem 3 0 true, .importObj bufferDesc 3 goodImport, .freeObj 0,
    .register true true, .freeImport 0 true, .unregister]

theorem exports_ok_shared :
    ∃ s, run (exportStep importerNode) newExportShare bufferShared = some s ∧ ExportsOk s ∧
      (s.maps .mem).get 1 = some ⟨1, 77, true, bufferAttrib, 2, 1, 1, 1⟩ := by
  refine exists_of_map (fun s => (s.maps .mem).get 1) (some ⟨1, 77, true, bufferAttrib, 2, 1, 1, 1⟩)
    (by decide +kernel) fun s hrun hget => ?_
  have hcare : AllSteps (exportStep importerNode) (ExportCareful importerNode) newExportShare
      bufferShared := by decide +kernel
  exact ⟨exports_ok hcare hrun, hget⟩

/-- **Exports are lost**: a free whose message the channel refuses leaves the reference of the
exporter; an import that finds no descriptor sends the message, so the export cannot be imported any
more; one that cannot map the aperture leaves its handle; and an export that the importer cannot
register is gone. -/
theorem exports_fail :
    (∃ s m, run (exportStep importerNode) newExportShare
        (bufferExported ++ [.importObj bufferDesc 3 goodImport, .freeObj 0, .freeImport 0 false]) =
          some s ∧
      (s.maps .mem).get 1 = some m ∧ m.refcount = 1 ∧ s.unregs = [] ∧ s.importHandles = [] ∧
      ¬ ExportsOk s) ∧
    (∃ s, run (exportStep importerNode) newExportShare
        (bufferExported ++ [.importObj bufferDesc 3 { goodImport with fdOk := false }]) = some s ∧
      importobjMap s.imports bufferDesc = none ∧ ¬ ExportsOk s) ∧
    (∃ s, run (exportStep importerNode) newExportShare
        (bufferExported ++ [.importObj bufferDesc 3 { goodImport with aperOk := false }]) = some s ∧
      s.importHandles.length = 1 ∧ importobjMap s.imports bufferDesc = none ∧ ¬ ExportsOk s) ∧
    ∃ s, run (exportStep importerNode) newExportShare
        [.map .targetMem 3 77 0 goodPin true true, .exportObj 0 .targetMem 3 0 true,
          .register false true] = some s ∧
      importobjMap s.imports bufferDesc = none ∧ ¬ ExportsOk s := by
  -- one export, which is neither on its way nor available nor imported
  have hgone {ops : List ExportOp} {n : ℕ} (h : (run (exportStep importerNode) newExportShare ops).map (fun s =>
      ((s.maps .mem).get 1, s.registering .mem 1, s.available .mem 1, s.importHandles.length,
        (importobjMap s.imports bufferDesc).isNone)) =
      some (some ⟨2, 77, true, bufferAttrib, 1, 0, 0, 0⟩, 0, 0, n, true)) :
      ∃ s, run (exportStep importerNode) newExportShare ops = some s ∧ s.importHandles.length = n ∧
        importobjMap s.imports bufferDesc = none ∧ ¬ ExportsOk s := by
    refine exists_of_map _ _ h fun s hrun hs => ?_
    simp only [Prod.mk.injEq, Option.isNone_iff_eq_none] at hs
    obtain ⟨hm, hregs, havail, hlen, hnone⟩ := hs
    refine ⟨hlen, hnone, fun hok => ?_⟩
    have honce := hok.once .mem 1 _ hm
    rw [hregs, havail] at honce
    exact absurd honce (by decide)
  refine ⟨?_, ?_, hgone (by decide +kernel), ?_⟩
  · have hsome : (run (exportStep importerNode) newExportShare
        (bufferExported ++ [.importObj bufferDesc 3 goodImport, .freeObj 0, .freeImport 0 false])).map
        (fun s => ((s.maps .mem).get 1, s.unregs, s.importHandles)) =
        some (some ⟨1, 77, true, bufferAttrib, 1, 0, 1, 1⟩, [], []) := by decide +kernel
    obtain ⟨s, hrun, hs⟩ := Option.map_eq_some_iff.mp hsome
    simp only [Prod.mk.injEq] at hs
    obtain ⟨hm, hunregs, hhandles⟩ := hs
    refine ⟨s, _, hrun, hm, rfl, hunregs, hhandles, fun hok => ?_⟩
    have hreleased := (hok.released .mem 1 _ hm).2
    unfold ExportShare.unregistering at hreleased
    rw [hunregs] at hreleased
    exact absurd hreleased (by decide)
  · refine (hgone (n := 0) ?_).imp fun s h => ⟨h.1, h.2.2⟩
    decide +kernel
  · refine (hgone (n := 0) ?_).imp fun s h => ⟨h.1, h.2.2⟩
    decide +kernel

end

end NvidiaOot.Analysis
