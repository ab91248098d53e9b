import NvidiaOot.Model.Nvmap

/-!
# The entries, the references and the history agree

Every call adds an entry, changes the count of one or takes one out; up to their order the
entries are then one entry and the others, and the others are not touched.  The ids that are
live or free are values that the counter has had, each of them once.
-/

namespace NvidiaOot.Analysis

open Library Program Model Function

variable {η : Type}

section

variable {entries entries' rest : List (SciIpcEntry η)} {e e' new : SciIpcEntry η}
  {uses : U64 → Uses} {refs : η → ℤ} {i : ℕ}

theorem insert_perm (new : SciIpcEntry η) (entries : List (SciIpcEntry η)) :
    (nvmapInsertSciIpcEntry new entries).Perm (new :: entries) := by
  induction entries with
  | nil => exact List.Perm.refl _
  | cons e rest ih =>
    unfold nvmapInsertSciIpcEntry
    split
    case isTrue => exact List.Perm.refl _
    case isFalse => exact (ih.cons e).trans (List.Perm.swap new e rest)

theorem fresh_of_nodup (hi : entries[i]? = some e) (hnodup : (entries.map SciIpcEntry.sciIpcId).Nodup) :
    e.sciIpcId ∉ (entries.eraseIdx i).map SciIpcEntry.sciIpcId := by
  have hp := ((perm_of_getElem hi).map SciIpcEntry.sciIpcId).nodup_iff.mpr hnodup
  exact (List.nodup_cons.mp hp).1

/-- The entry that the search for an id ends with has that id, or does not match. -/
theorem find_id {id : U64} (hi : nvmapFindEntryForId entries id = some i) (he : entries[i]? = some e) :
    e.sciIpcId = id ∨ id ∉ entries.map SciIpcEntry.sciIpcId ∧ entries.getLast? = some e := by
  unfold nvmapFindEntryForId at hi
  cases hfound : entries.findIdx? fun e => decide (e.sciIpcId = id) with
  | some j =>
    rw [hfound] at hi
    obtain rfl : j = i := Option.some.inj hi
    obtain ⟨hlt, hp, _⟩ := List.findIdx?_eq_some_iff_getElem.mp hfound
    rw [List.getElem?_eq_getElem hlt, Option.some.injEq] at he
    rw [he] at hp
    exact Or.inl (of_decide_eq_true hp)
  | none =>
    rw [hfound] at hi
    dsimp only at hi
    split at hi
    · cases hi
    rw [← Option.some.inj hi] at he
    refine Or.inr ⟨?_, ?_⟩
    · rw [List.findIdx?_eq_none_iff] at hfound
      intro hmem
      obtain ⟨b, hb, hid⟩ := List.mem_map.mp hmem
      exact absurd hid (of_decide_eq_false (hfound b hb))
    · rw [List.getLast?_eq_getElem?]
      exact he

theorem find_of_mem (hnodup : (entries.map SciIpcEntry.sciIpcId).Nodup) (he : e ∈ entries) :
    ∃ i, nvmapFindEntryForId entries e.sciIpcId = some i ∧ entries[i]? = some e := by
  have hsome : (entries.findIdx? fun b => decide (b.sciIpcId = e.sciIpcId)).isSome := by
    rw [List.findIdx?_isSome, List.any_eq_true]
    exact ⟨e, he, decide_eq_true rfl⟩
  obtain ⟨i, hi⟩ := Option.isSome_iff_exists.mp hsome
  obtain ⟨hlt, hp, _⟩ := List.findIdx?_eq_some_iff_getElem.mp hi
  have heq : entries[i] = e := by
    apply List.inj_on_of_nodup_map hnodup (List.getElem_mem hlt) he
    exact of_decide_eq_true hp
  refine ⟨i, ?_, ?_⟩
  · unfold nvmapFindEntryForId
    rw [hi]
  · rw [List.getElem?_eq_getElem hlt, heq]

variable [DecidableEq η]

/-- The entries agree with the references and with the history of their ids. -/
structure EntriesOk (entries : List (SciIpcEntry η)) (uses : U64 → Uses) (refs : η → ℤ) : Prop where
  live : ∀ e ∈ entries, 0 < e.refcount.toNat ∧
    (uses e.sciIpcId).imported + e.refcount.toNat = (uses e.sciIpcId).exported
  references : ∀ h, refs h = heldBy entries h

theorem heldBy_cons (e : SciIpcEntry η) (entries : List (SciIpcEntry η)) (h : η) :
    heldBy (e :: entries) h =
      (if e.handle = h then (e.refcount.toNat : ℤ) else 0) + heldBy entries h := by
  simp [heldBy]

theorem EntriesOk.perm (hp : entries.Perm entries') (h : EntriesOk entries uses refs) :
    EntriesOk entries' uses refs := by
  refine ⟨fun e he => h.live e (hp.mem_iff.mpr he), fun x => ?_⟩
  rw [h.references x]
  exact (hp.map _).sum_eq

theorem EntriesOk.change (d : ℤ) (e' : SciIpcEntry η) (u : Uses)
    (h : EntriesOk (e :: rest) uses refs)
    (hfresh : e.sciIpcId ∉ rest.map SciIpcEntry.sciIpcId) (hid : e'.sciIpcId = e.sciIpcId)
    (hhandle : e'.handle = e.handle) (hcount : (e'.refcount.toNat : ℤ) = e.refcount.toNat + d)
    (hpos : 0 < e'.refcount.toNat) (hu : u.imported + e'.refcount.toNat = u.exported) :
    EntriesOk (e' :: rest) (update uses e.sciIpcId u)
      (update refs e.handle (refs e.handle + d)) := by
  refine ⟨?_, fun x => ?_⟩
  · intro b hb
    rcases List.mem_cons.mp hb with rfl | hrest
    · rw [hid, update_self]
      exact ⟨hpos, hu⟩
    have hne : b.sciIpcId ≠ e.sciIpcId := by
      intro heq
      exact hfresh (heq ▸ List.mem_map_of_mem hrest)
    rw [update_of_ne hne]
    exact h.live b (List.mem_cons_of_mem _ hrest)
  · have href := h.references
    simp only [heldBy_cons] at href ⊢
    rw [hhandle]
    by_cases hx : e.handle = x
    · rw [← hx, update_self, href e.handle, if_pos rfl, if_pos rfl, hcount]
      omega
    · rw [update_of_ne (Ne.symm hx), href x, if_neg hx, if_neg hx]

theorem EntriesOk.add (new : SciIpcEntry η) (h : EntriesOk entries uses refs)
    (hfresh : new.sciIpcId ∉ entries.map SciIpcEntry.sciIpcId) (hone : new.refcount = 1) :
    EntriesOk (new :: entries) (update uses new.sciIpcId ⟨1, 0⟩)
      (update refs new.handle (refs new.handle + 1)) := by
  refine ⟨?_, fun x => ?_⟩
  · intro b hb
    rcases List.mem_cons.mp hb with rfl | hrest
    · rw [update_self, hone]
      decide
    have hne : b.sciIpcId ≠ new.sciIpcId := by
      intro heq
      exact hfresh (heq ▸ List.mem_map_of_mem hrest)
    rw [update_of_ne hne]
    exact h.live b hrest
  · rw [heldBy_cons, hone]
    by_cases hx : new.handle = x
    · rw [← hx, update_self, h.references, if_pos rfl, add_comm]
      rfl
    · rw [update_of_ne (Ne.symm hx), h.references, if_neg hx, zero_add]

theorem EntriesOk.remove {u : Uses} (h : EntriesOk (e :: rest) uses refs)
    (hfresh : e.sciIpcId ∉ rest.map SciIpcEntry.sciIpcId) (hone : e.refcount.toNat = 1) :
    EntriesOk rest (update uses e.sciIpcId u)
      (update refs e.handle (refs e.handle - 1)) := by
  refine ⟨?_, fun x => ?_⟩
  · intro b hb
    have hne : b.sciIpcId ≠ e.sciIpcId := by
      intro heq
      exact hfresh (heq ▸ List.mem_map_of_mem hb)
    rw [update_of_ne hne]
    exact h.live b (List.mem_cons_of_mem _ hb)
  · have href := h.references
    simp only [heldBy_cons, hone] at href
    by_cases hx : e.handle = x
    · rw [← hx, update_self, href e.handle, if_pos rfl]
      omega
    · rw [update_of_ne (Ne.symm hx), href x, if_neg hx, zero_add]

end

section

variable {sys : NvmapSciIpc η} {n m : U32} {id : U64}

/-- The live and the free ids are values that the counter has had, each once. -/
structure IdsFrom (sys : NvmapSciIpc η) : Prop where
  counted : ∀ id ∈ sys.entries.map SciIpcEntry.sciIpcId ++ sys.freeSidList,
    ∃ n : U32, 0 < n.toNat ∧ n.toNat ≤ sys.unqId.toNat ∧ id = n.signExtend 64
  nodup : (sys.entries.map SciIpcEntry.sciIpcId ++ sys.freeSidList).Nodup
  even : sys.unqId.toNat % 2 = 0

theorem signExtend_inj (h : n.signExtend 64 = m.signExtend 64) : n = m := by
  have hint := congrArg BitVec.toInt h
  rw [BitVec.toInt_signExtend_of_le (by decide), BitVec.toInt_signExtend_of_le (by decide)] at hint
  exact BitVec.eq_of_toInt_eq hint

theorem signExtend_ne_zero (h : 0 < n.toNat) : n.signExtend 64 ≠ 0 := by
  intro hzero
  have hn : n = 0 := signExtend_inj hzero
  rw [hn] at h
  exact absurd h (by decide)

theorem IdsFrom.entries_nodup (h : IdsFrom sys) :
    (sys.entries.map SciIpcEntry.sciIpcId).Nodup := (List.nodup_append.mp h.nodup).1

theorem IdsFrom.ne_zero (h : IdsFrom sys) (hid : id ∈ sys.entries.map SciIpcEntry.sciIpcId) :
    id ≠ 0 := by
  obtain ⟨n, hpos, _, rfl⟩ := h.counted id (List.mem_append_left _ hid)
  exact signExtend_ne_zero hpos

theorem IdsFrom.of_perm {sys' : NvmapSciIpc η} (h : IdsFrom sys)
    (hp : (sys'.entries.map SciIpcEntry.sciIpcId ++ sys'.freeSidList).Perm
      (sys.entries.map SciIpcEntry.sciIpcId ++ sys.freeSidList)) (hunq : sys'.unqId = sys.unqId) :
    IdsFrom sys' := by
  refine ⟨fun id hid => ?_, hp.nodup_iff.mpr h.nodup, by rw [hunq]; exact h.even⟩
  obtain ⟨n, hpos, hle, heq⟩ := h.counted id (hp.mem_iff.mp hid)
  exact ⟨n, hpos, by rw [hunq]; exact hle, heq⟩

theorem nextUnqId (heven : sys.unqId.toNat % 2 = 0) (hmax : sys.unqId ≠ -2) :
    (sys.unqId + 2).toNat = sys.unqId.toNat + 2 := by
  have hne : sys.unqId.toNat ≠ 2 ^ 32 - 2 := by
    intro heq
    exact hmax (BitVec.eq_of_toNat_eq heq)
  exact Nat.mod_eq_of_lt (by change sys.unqId.toNat + 2 < 2 ^ 32; omega)

/-- **A new entry gets an id that no other one has.** -/
theorem IdsFrom.unique (new : SciIpcEntry η) (h : IdsFrom sys)
    (hmax : sys.freeSidList = [] → sys.unqId ≠ -2)
    (hnew : new.sciIpcId = (nvmapUniqueSciIpcId sys).1) :
    new.sciIpcId ∉ sys.entries.map SciIpcEntry.sciIpcId ∧
      IdsFrom { (nvmapUniqueSciIpcId sys).2 with
        entries := nvmapInsertSciIpcEntry new (nvmapUniqueSciIpcId sys).2.entries } := by
  have hperm (es : List (SciIpcEntry η)) (l : List U64) :
      ((nvmapInsertSciIpcEntry new es).map SciIpcEntry.sciIpcId ++ l).Perm
        (new.sciIpcId :: (es.map SciIpcEntry.sciIpcId ++ l)) :=
    ((insert_perm new es).map _).append_right l
  unfold nvmapUniqueSciIpcId at hnew ⊢
  cases hfree : sys.freeSidList with
  | cons sid rest =>
    rw [hfree] at hnew
    dsimp only at hnew ⊢
    have hnodup := h.nodup
    rw [hfree, List.perm_middle.nodup_iff, List.nodup_cons, ← hnew] at hnodup
    refine ⟨fun hmem => hnodup.1 (List.mem_append_left _ hmem), h.of_perm ?_ rfl⟩
    refine (hperm sys.entries rest).trans ?_
    rw [hfree, hnew]
    exact List.perm_middle.symm
  | nil =>
    rw [hfree] at hnew
    have hnext := nextUnqId h.even (hmax hfree)
    have hfresh : new.sciIpcId ∉ sys.entries.map SciIpcEntry.sciIpcId ++ sys.freeSidList := by
      intro hmem
      obtain ⟨n, _, hle, heq⟩ := h.counted _ hmem
      have hn := signExtend_inj (hnew.symm.trans heq)
      rw [← hn] at hle
      omega
    have hp := hperm sys.entries []
    rw [hfree] at hfresh
    refine ⟨fun hmem => hfresh (List.mem_append_left _ hmem), ?_, ?_, ?_⟩
    · intro id hid
      rcases List.mem_cons.mp (hp.mem_iff.mp hid) with heq | hold
      · exact ⟨sys.unqId + 2, by omega, le_rfl, heq.trans hnew⟩
      · obtain ⟨n, hpos, hle, heq⟩ := h.counted id (by rw [hfree]; exact hold)
        exact ⟨n, hpos, by dsimp only; omega, heq⟩
    · rw [hp.nodup_iff, List.nodup_cons]
      have hnodup := h.nodup
      rw [hfree] at hnodup
      exact ⟨hfresh, hnodup⟩
    · have := h.even
      dsimp only
      omega

end

section

variable [DecidableEq η] {s s' : SciIpcState η}

structure SciIpcInv (s : SciIpcState η) : Prop where
  granted : ∀ g ∈ s.granted, ∃ e ∈ g.entries, e.sciIpcId = g.sciIpcId ∧ e.flags = g.flags ∧
    e.peerVuid = g.localuVuid ∧ g.handle = some e.handle
  ids : IdsFrom s.sys
  entries : EntriesOk s.sys.entries s.uses s.exportRefs
  retired : ∀ u ∈ s.retired, u.imported = u.exported
  noError : ∀ h, s.ro h ≠ .error

theorem importDmabufRo_works {env : ImportEnv} {ro : DmabufRo} (hmake : env.makeDmabuf = 0)
    (hro : ro ≠ .error) : ∃ ret ro', importDmabufRo env ro = some (ret, ro') ∧ ro' ≠ .error ∧
      (env.getFile = true ∨ env.roGone = true → ret = 0) := by
  unfold importDmabufRo
  cases ro with
  | null => exact ⟨0, .live, by rw [if_pos hmake], by decide, fun _ => rfl⟩
  | error => exact absurd rfl hro
  | live =>
    cases hget : env.getFile with
    | true => exact ⟨0, .live, by rw [if_pos rfl], by decide, fun _ => rfl⟩
    | false =>
      cases hgone : env.roGone with
      | true => exact ⟨0, .live, by simp [hmake], by decide, fun _ => rfl⟩
      | false => exact ⟨-eINVAL, .live, by simp, by decide, fun h => by simp at h⟩

theorem SciIpcInv.importable (h : SciIpcInv s) {e : SciIpcEntry η} (he : e ∈ s.sys.entries)
    {env : ImportEnv} (henv : Works env) :
    (nvmapGetHandleFromSciIpcId s.sys s.ro e.flags e.sciIpcId e.peerVuid env).map
      (fun r => (r.ret, r.handle)) = some (0, some e.handle) := by
  obtain ⟨hmake, hfile, hdup, hinstall, hnode⟩ := henv
  obtain ⟨i, hfind, hi⟩ := find_of_mem h.ids.entries_nodup he
  have hfinish : ∀ ro, (finishImport s.sys ro i e env).ret = 0 ∧
      (finishImport s.sys ro i e env).handle = some e.handle := by
    intro ro
    have hdrop : (dropSciIpcEntry s.sys i e true).1 = 0 := by
      unfold dropSciIpcEntry
      by_cases hlast : e.refcount - 1 = 0
      · rw [if_pos hlast, if_pos rfl]
      · rw [if_neg hlast]
    unfold finishImport
    rw [if_neg (not_not.mpr hdup), if_neg (not_lt.mpr hinstall), hnode]
    exact ⟨hdrop, rfl⟩
  have hentry : ((nvmapFindEntryForId s.sys.entries e.sciIpcId).bind fun i =>
      s.sys.entries[i]?.map fun e => (i, e)) = some (i, e) := by
    rw [hfind, Option.bind_some, hi, Option.map_some]
  unfold nvmapGetHandleFromSciIpcId
  rw [hentry]
  dsimp only
  rw [if_neg (by simp)]
  by_cases hread : e.flags = protRead
  · obtain ⟨ret, ro', hro, _, hret⟩ := importDmabufRo_works hmake (h.noError e.handle)
    rw [if_pos hread, hro, hret hfile]
    simp only [Option.map_some, ne_eq, not_true_eq_false, if_false]
    rw [(hfinish _).1, (hfinish _).2]
  · rw [if_neg hread, Option.map_some, (hfinish _).1, (hfinish _).2]

theorem SciIpcInv.ok (h : SciIpcInv s) : SciIpcOk s where
  importable := fun _ he _ => h.importable he
  granted := h.granted
  distinct := h.ids.entries_nodup
  nonzero := fun _ he => h.ids.ne_zero (List.mem_map_of_mem he)
  live := h.entries.live
  retired := h.retired
  references := h.entries.references

theorem sciIpcInv_new : SciIpcInv (newSciIpc η) where
  granted := fun _ h => (nomatch h)
  ids := ⟨nofun, List.nodup_nil, rfl⟩
  entries := ⟨nofun, fun _ => rfl⟩
  retired := nofun
  noError := nofun

theorem searchEntry_some {entries : List (SciIpcEntry η)} {h : η} {flags : U32} {peerVuid : U64} {i : ℕ}
    (hi : nvmapSearchSciIpcEntry entries h flags peerVuid = some i) :
    ∃ e, entries[i]? = some e ∧ e.handle = h ∧ e.flags = flags ∧ e.peerVuid = peerVuid := by
  obtain ⟨hlt, hp, _⟩ := List.findIdx?_eq_some_iff_getElem.mp hi
  simp only [Bool.and_eq_true, decide_eq_true_eq] at hp
  exact ⟨entries[i], List.getElem?_eq_getElem hlt, hp.1.1, hp.1.2, hp.2⟩

/-- **An export.** -/
theorem createStep_inv {h : η} {flags : U32} {peerVuid : U64} {node alive : Bool}
    (hinv : SciIpcInv s) (hcare : SciIpcCareful s (.create h flags peerVuid node alive)) :
    SciIpcInv (createStep s h flags peerVuid node alive) := by
  obtain ⟨halive, hcount, hmax⟩ := hcare
  unfold createStep nvmapCreateSciIpcId usesAfterExport
  cases hsearch : nvmapSearchSciIpcEntry s.sys.entries h flags peerVuid with
  | some i =>
    obtain ⟨e, hi, rfl, hflags, hpeer⟩ := searchEntry_some hsearch
    have hmem : e ∈ s.sys.entries := List.mem_of_getElem? hi
    have hfresh := fresh_of_nodup hi hinv.ids.entries_nodup
    have hne := hcount e hmem rfl hflags hpeer
    have hsucc : (e.refcount + 1).toNat = e.refcount.toNat + 1 := by bv_omega
    have hset := set_perm_of_getElem hi { e with refcount := e.refcount + 1 }
    have hbefore := hinv.entries.perm (perm_of_getElem hi).symm
    obtain ⟨_, huses⟩ := hinv.entries.live e hmem
    simp only [hi, halive, if_true]
    refine ⟨hinv.granted, hinv.ids.of_perm ?_ rfl, ?_, hinv.retired, hinv.noError⟩
    · refine List.Perm.append_right _ ?_
      exact (hset.map _).trans ((perm_of_getElem hi).map SciIpcEntry.sciIpcId)
    · have hchange := hbefore.change 1 { e with refcount := e.refcount + 1 }
        { s.uses e.sciIpcId with exported := (s.uses e.sciIpcId).exported + 1 } hfresh rfl rfl
        (by dsimp only; omega) (by dsimp only; omega) (by dsimp only; omega)
      exact hchange.perm hset.symm
  | none =>
    cases node with
    | false => exact hinv
    | true =>
      obtain ⟨hfresh, hids⟩ := hinv.ids.unique
        ⟨h, (nvmapUniqueSciIpcId s.sys).1, peerVuid, flags, 1⟩ hmax rfl
      have hentries : (nvmapUniqueSciIpcId s.sys).2.entries = s.sys.entries := by
        unfold nvmapUniqueSciIpcId
        cases s.sys.freeSidList <;> rfl
      simp only [halive, if_true]
      refine ⟨hinv.granted, hids, ?_, hinv.retired, hinv.noError⟩
      have hadd := hinv.entries.add ⟨h, (nvmapUniqueSciIpcId s.sys).1, peerVuid, flags, 1⟩
        hfresh rfl
      rw [hentries]
      exact hadd.perm (insert_perm _ _).symm

theorem SciIpcInv.same {sys : NvmapSciIpc η} {ro : η → DmabufRo} {id : U64} {ret : ℤ}
    (h : SciIpcInv s) (hsys : sys = s.sys) (hro : ∀ x, ro x ≠ .error) (hret : ret ≠ 0) :
    SciIpcInv { s with
      sys := sys
      ro := ro
      uses := update s.uses id (usesAfterImport s id ret) } := by
  have huses : update s.uses id (usesAfterImport s id ret) = s.uses := by
    unfold usesAfterImport
    rw [if_neg hret]
    exact update_eq_self ..
  rw [huses, hsys]
  exact ⟨h.granted, h.ids, h.entries, h.retired, hro⟩

/-- **An import that has the entry of its id**: the last reference, or one of several. -/
theorem dropEntry_inv {e : SciIpcEntry η} {i : ℕ} {ro : η → DmabufRo} {flags : U32} {localuVuid : U64}
    (h : SciIpcInv s) (hi : s.sys.entries[i]? = some e) (hflags : e.flags = flags)
    (hpeer : e.peerVuid = localuVuid) (hro : ∀ x, ro x ≠ .error) :
    (dropSciIpcEntry s.sys i e true).1 = 0 ∧
      SciIpcInv
        { sys := (dropSciIpcEntry s.sys i e true).2.2
          ro := ro
          exportRefs := update s.exportRefs e.handle (s.exportRefs e.handle - 1)
          uses := update s.uses e.sciIpcId (usesAfterImport s e.sciIpcId 0)
          retired := s.retired ++
            ((dropSciIpcEntry s.sys i e true).2.1.map fun _ => usesAfterImport s e.sciIpcId 0).toList
          granted := s.granted ++
            [⟨flags, e.sciIpcId, localuVuid, some e.handle, s.sys.entries⟩] } := by
  have hmem : e ∈ s.sys.entries := List.mem_of_getElem? hi
  have hfresh := fresh_of_nodup hi h.ids.entries_nodup
  have hbefore := h.entries.perm (perm_of_getElem hi).symm
  obtain ⟨hpos, huses⟩ := h.entries.live e hmem
  have hgranted : ∀ g ∈ s.granted ++
      [⟨flags, e.sciIpcId, localuVuid, some e.handle, s.sys.entries⟩],
      ∃ e ∈ g.entries, e.sciIpcId = g.sciIpcId ∧ e.flags = g.flags ∧
        e.peerVuid = g.localuVuid ∧ g.handle = some e.handle := by
    intro g hg
    rcases List.mem_append.mp hg with hold | hnew
    · exact h.granted g hold
    · rw [List.mem_singleton.mp hnew]
      exact ⟨e, hmem, rfl, hflags, hpeer, rfl⟩
  have hafter : usesAfterImport s e.sciIpcId 0 =
      { s.uses e.sciIpcId with imported := (s.uses e.sciIpcId).imported + 1 } := rfl
  unfold dropSciIpcEntry
  by_cases hlast : e.refcount - 1 = 0
  · have hone : e.refcount.toNat = 1 := by bv_omega
    simp only [if_pos hlast, if_true]
    refine ⟨trivial, hgranted, h.ids.of_perm ?_ rfl, hbefore.remove hfresh hone, ?_, hro⟩
    · have hperm := ((perm_of_getElem hi).map SciIpcEntry.sciIpcId).append_right s.sys.freeSidList
      refine List.Perm.trans ?_ hperm
      rw [← List.append_assoc]
      exact List.perm_append_singleton _ _
    · intro u hu
      rcases List.mem_append.mp hu with hold | hnew
      · exact h.retired u hold
      · rw [List.mem_singleton.mp hnew, hafter]
        dsimp only
        omega
  have hpred : (e.refcount - 1).toNat + 1 = e.refcount.toNat := by bv_omega
  have hpos' : 0 < (e.refcount - 1).toNat := by bv_omega
  have hset := set_perm_of_getElem hi { e with refcount := e.refcount - 1 }
  simp only [if_neg hlast]
  refine ⟨trivial, hgranted, h.ids.of_perm ?_ rfl, ?_, ?_, hro⟩
  · refine List.Perm.append_right _ ?_
    exact (hset.map _).trans ((perm_of_getElem hi).map SciIpcEntry.sciIpcId)
  · have hchange := hbefore.change (-1) { e with refcount := e.refcount - 1 }
      (usesAfterImport s e.sciIpcId 0) hfresh rfl rfl
      (by dsimp only; omega) hpos' (by rw [hafter]; dsimp only; omega)
    exact hchange.perm hset.symm
  · intro u hu
    rw [Option.map_none, Option.toList_none, List.append_nil] at hu
    exact h.retired u hu

/-- **An import.** -/
theorem getHandleStep_inv {flags : U32} {sciIpcId localuVuid : U64} {env : ImportEnv}
    (h : SciIpcInv s) (hcare : SciIpcCareful s (.getHandle flags sciIpcId localuVuid env))
    (hstep : getHandleStep s flags sciIpcId localuVuid env = some s') : SciIpcInv s' := by
  obtain ⟨hknown, hmake, hinstall, hnode⟩ := hcare
  obtain ⟨r, hr, hs'⟩ := Option.map_eq_some_iff.mp hstep
  -- an error leaves everything but the dma-buf as it was
  have hfail : ∀ (ret : ℤ) (ro : η → DmabufRo), ret ≠ 0 → (∀ x, ro x ≠ .error) →
      r = ⟨ret, none, none, none, s.sys, ro⟩ → SciIpcInv s' := by
    intro ret ro hret hro hreq
    rw [← hs', hreq]
    simp only [if_neg hret, putRef, Option.map_none, Option.toList_none, List.append_nil]
    exact h.same rfl hro hret
  have heinval : -eINVAL ≠ 0 := by decide
  unfold nvmapGetHandleFromSciIpcId at hr
  cases hfind : (nvmapFindEntryForId s.sys.entries sciIpcId).bind fun i =>
      s.sys.entries[i]?.map fun e => (i, e) with
  | none =>
    rw [hfind] at hr
    exact hfail _ _ heinval h.noError (Option.some.inj hr).symm
  | some p =>
    obtain ⟨i, e⟩ := p
    rw [hfind] at hr
    obtain ⟨j, hj, hje⟩ := Option.bind_eq_some_iff.mp hfind
    obtain ⟨e', he', hpair⟩ := Option.map_eq_some_iff.mp hje
    rw [Prod.mk.injEq] at hpair
    obtain ⟨rfl, rfl⟩ := hpair
    dsimp only at hr
    by_cases hmatch : e'.peerVuid ≠ localuVuid ∨ e'.flags ≠ flags
    · rw [if_pos hmatch] at hr
      exact hfail _ _ heinval h.noError (Option.some.inj hr).symm
    rw [if_neg hmatch] at hr
    rw [not_or, not_not, not_not] at hmatch
    have hid : e'.sciIpcId = sciIpcId := by
      rcases find_id hj he' with hid | ⟨hno, hlast⟩
      · exact hid
      · rcases hknown hno e' hlast with hpeer | hflags
        · exact absurd hmatch.1 hpeer
        · exact absurd hmatch.2 hflags
    have hfinish : ∀ ro, (∀ x, ro x ≠ .error) → r = finishImport s.sys ro j e' env →
        SciIpcInv s' := by
      intro ro hro hreq
      unfold finishImport at hreq
      by_cases hdup : env.duplicate ≠ 0
      · rw [if_pos hdup] at hreq
        exact hfail _ _ heinval hro hreq
      rw [not_not] at hdup
      rw [if_neg (not_not.mpr hdup), if_neg (not_lt.mpr (hinstall hdup)), hnode] at hreq
      obtain ⟨hzero, hinv⟩ := dropEntry_inv h he' hmatch.2 hmatch.1 hro
      rw [← hs', hreq]
      simp only [hzero, if_true, putRef, ← hid]
      exact hinv
    by_cases hread : flags = protRead
    · rw [if_pos hread] at hr
      obtain ⟨q, hq, hreq⟩ := Option.map_eq_some_iff.mp hr
      obtain ⟨ret, ro', hro, hne, _⟩ :=
        importDmabufRo_works (hmake hread) (h.noError e'.handle)
      rw [hro, Option.some.injEq] at hq
      have hro' : ∀ x, update s.ro e'.handle q.2 x ≠ .error := by
        intro x
        by_cases hx : x = e'.handle
        · rw [hx, update_self, ← hq]
          exact hne
        · rw [update_of_ne hx]
          exact h.noError x
      by_cases hret : q.1 ≠ 0
      · rw [if_pos hret] at hreq
        exact hfail _ _ hret hro' hreq.symm
      · rw [if_neg hret] at hreq
        exact hfinish _ hro' hreq.symm
    · rw [if_neg hread] at hr
      exact hfinish _ h.noError (Option.some.inj hr).symm

theorem sciIpcStep_inv (op : SciIpcOp η) (h : SciIpcInv s) (hcare : SciIpcCareful s op)
    (hstep : sciIpcStep s op = some s') : SciIpcInv s' := by
  cases op with
  | create x flags peerVuid node alive =>
    cases hstep
    exact createStep_inv h hcare
  | getHandle flags sciIpcId localuVuid env => exact getHandleStep_inv h hcare hstep
  | releaseRo x =>
    cases hstep
    refine ⟨h.granted, h.ids, h.entries, h.retired, fun y => ?_⟩
    dsimp only
    by_cases hy : y = x
    · rw [hy, update_self]
      decide
    · rw [update_of_ne hy]
      exact h.noError y

end

section

variable [DecidableEq η] {s : SciIpcState η} {ops : List (SciIpcOp η)}

/-- **Imports get what was exported**, in every run whose calls are careful. -/
theorem sci_ipc_ok (hcare : AllSteps sciIpcStep SciIpcCareful (newSciIpc η) ops)
    (hrun : run sciIpcStep (newSciIpc η) ops = some s) : SciIpcOk s :=
  (run_invariant_of_allSteps (fun _ op _ => sciIpcStep_inv op) sciIpcInv_new hcare hrun).ok

def importWorks : ImportEnv := ⟨0, true, true, 0, true, 1, true⟩

/-- Two exports of a handle to one peer, and an import. -/
theorem sci_ipc_ok_twice :
    ∃ s, run sciIpcStep (newSciIpc ℕ)
        [.create 7 protRead 5 true true, .create 7 protRead 5 true true,
          .getHandle protRead 2 5 importWorks] = some s ∧
      SciIpcOk s ∧ s.exportRefs 7 = 1 := by
  refine exists_of_map (fun s => s.exportRefs 7) 1 (by decide) fun s hrun hrefs => ?_
  have hcare : AllSteps sciIpcStep SciIpcCareful (newSciIpc ℕ)
      [.create 7 protRead 5 true true, .create 7 protRead 5 true true,
        .getHandle protRead 2 5 importWorks] := by decide
  exact ⟨sci_ipc_ok hcare hrun, hrefs⟩

/-- **An id that was never given out**: the import gets the handle of the last entry. -/
theorem unknown_id_imported :
    ∃ s, run sciIpcStep (newSciIpc ℕ) [.create 7 3 5 true true, .getHandle 3 99 5 importWorks] =
        some s ∧
      s.granted = [⟨3, 99, 5, some 7, [⟨7, 2, 5, 3, 1⟩]⟩] ∧ ¬ SciIpcOk s := by
  refine exists_of_map SciIpcState.granted [⟨3, 99, 5, some 7, [⟨7, 2, 5, 3, 1⟩]⟩] (by decide)
    fun s hrun hgranted => ?_
  refine ⟨hgranted, ?_⟩
  intro hok
  have hall := hok.granted
  rw [hgranted] at hall
  exact absurd hall (by decide)

end

end NvidiaOot.Analysis
