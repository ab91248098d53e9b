import NvidiaOot.Analysis.PvaBufferTable

/-!
# Pins and unpins

Each element of a request changes one buffer of the table or adds one.  `Pending` says by how
much the counts are above those before the request; taking the elements back one after
another brings the table back to where it was.
-/

namespace NvidiaOot.Analysis

open Library Program Model Function

variable {id : U32} {e : PinElement} {x : ℤ} {p : ℕ}

section

variable {rb : RbTree} {s s' : NvpvaBuffers} {l : List NvpvaVmBuffer} {α : Type} [DecidableEq α]

def bumpUser (v : NvpvaVmBuffer) : NvpvaVmBuffer :=
  { v with userMapCount := toI32 (v.userMapCount + 1) }

def dropUser (v : NvpvaVmBuffer) : NvpvaVmBuffer :=
  { v with userMapCount := dropCount v.userMapCount }

def clearUser (v : NvpvaVmBuffer) : NvpvaVmBuffer := { v with userMapCount := 0 }

def bumpSubmit (v : NvpvaVmBuffer) : NvpvaVmBuffer :=
  { v with submitMapCount := toI32 (v.submitMapCount + 1) }

def dropSubmit (v : NvpvaVmBuffer) : NvpvaVmBuffer :=
  { v with submitMapCount := dropCount v.submitMapCount }

/-- The buffers with the one that is known by `k` changed. -/
def alter (g : NvpvaVmBuffer → α) (k : α) (f : NvpvaVmBuffer → NvpvaVmBuffer)
    (l : List NvpvaVmBuffer) : List NvpvaVmBuffer :=
  l.map fun v => if g v = k then f v else v

theorem alter_of_absent {g : NvpvaVmBuffer → α} {k : α} {f : NvpvaVmBuffer → NvpvaVmBuffer}
    (h : ∀ v ∈ l, g v ≠ k) : alter g k f l = l := by
  conv_rhs => rw [← List.map_id l]
  exact List.map_congr_left fun v hv => if_neg (h v hv)

theorem toI32_succ (h0 : 0 ≤ x) (h : x < 2 ^ 31 - 1) : toI32 (x + 1) = x + 1 := by
  exact Int.bmod_eq_of_le (by omega) (by omega)

theorem dropCount_eq (h0 : 0 ≤ x) (h : x < 2 ^ 31) : dropCount x = if x = 0 then 0 else x - 1 := by
  have hsub : toI32 (x - 1) = x - 1 := Int.bmod_eq_of_le (by omega) (by omega)
  unfold dropCount
  split_ifs <;> omega

theorem dropCount_range (h : 0 ≤ x ∧ x < 2 ^ 31) : 0 ≤ dropCount x ∧ dropCount x < 2 ^ 31 := by
  rw [dropCount_eq h.1 h.2]
  split_ifs <;> omega

theorem keepsLabels_user (f : ℤ → ℤ) : KeepsLabels fun v => { v with userMapCount := f v.userMapCount } :=
  ⟨fun _ => rfl, fun _ => rfl, fun _ => rfl⟩

theorem keepsLabels_submit (f : ℤ → ℤ) : KeepsLabels fun v => { v with submitMapCount := f v.submitMapCount } :=
  ⟨fun _ => rfl, fun _ => rfl, fun _ => rfl⟩

theorem keepsRange_dropUser : KeepsRange dropUser := fun _ h => ⟨dropCount_range h.user, h.submit⟩

theorem keepsRange_dropSubmit : KeepsRange dropSubmit := fun _ h => ⟨h.user, dropCount_range h.submit⟩

theorem keepsRange_clearUser : KeepsRange clearUser := by
  intro v h
  have hzero : (0 : ℤ) < 2 ^ 31 := by decide
  exact ⟨⟨le_rfl, hzero⟩, h.submit⟩

theorem alter_found {g : NvpvaVmBuffer → α} {k : α} (f : NvpvaVmBuffer → NvpvaVmBuffer)
    (h : Linked s) (hp : p ∈ s.listHead) (hk : g (s.vm p) = k)
    (hunique : ∀ q ∈ s.listHead, g (s.vm q) = k → q = p) :
    ((entries s).map fun v => if v.id = (s.vm p).id then f v else v) = alter g k f (entries s) := by
  refine List.map_congr_left fun v hv => ?_
  obtain ⟨q, hq, rfl⟩ := mem_entries.mp hv
  by_cases heq : g (s.vm q) = k
  · rw [if_pos heq, hunique q hq heq, if_pos rfl]
  · have hne : (s.vm q).id ≠ (s.vm p).id := fun hid => heq (linked_eq_of_id h hq hp hid ▸ hk)
    rw [if_neg heq, if_neg hne]

theorem linked_eq_of_key (h : Linked s) {q : ℕ} (hp : p ∈ s.listHead) (hq : q ∈ s.listHead)
    (hkey : pinKey (s.vm p) = pinKey (s.vm q)) : p = q :=
  h.sorted.eq_of_key_eq (h.root.mem_iff.mpr hp) (h.root.mem_iff.mpr hq) (treeKey_eq_iff.mpr hkey)

/-- **Unpinning one element**, which may be absent. -/
theorem unpinElement_spec (hrb : Balances rb) (h : TableOk s) (key : U64 × U64 × U64) :
    TableOk (unpinElement rb s key) ∧
      entries (unpinElement rb s key) = settle (alter pinKey key dropUser (entries s)) ∧
      (unpinElement rb s key).kref = s.kref := by
  unfold unpinElement
  split
  case h_1 hnone =>
    have habsent : ∀ v ∈ entries s, pinKey v ≠ key := by
      intro v hv
      obtain ⟨p, hp, rfl⟩ := mem_entries.mp hv
      exact (findMapBuffer_eq_none h.linked).mp hnone p hp
    rw [alter_of_absent habsent, settle_of_counted h.counted]
    exact ⟨h, rfl, rfl⟩
  case h_2 p hsome =>
    obtain ⟨hp, hkey⟩ := (findMapBuffer_eq_some h.linked).mp hsome
    obtain ⟨hok, hentries, hkref, -⟩ := unmap_modified (f := dropUser) hrb h hp
      (keepsLabels_user dropCount) keepsRange_dropUser
    rw [alter_found dropUser h.linked hp hkey fun q hq hqk =>
      linked_eq_of_key h.linked hq hp (hqk.trans hkey.symm)] at hentries
    exact ⟨hok, hentries, hkref⟩

theorem unpinIdElement_spec (hrb : Balances rb) (h : TableOk s) (id : U32) :
    TableOk (unpinIdElement rb s id) ∧ (unpinIdElement rb s id).kref = s.kref := by
  unfold unpinIdElement
  split
  case h_1 => exact ⟨h, rfl⟩
  case h_2 p hsome =>
    obtain ⟨hp, -⟩ := (findMapBufferId_eq_some h.linked).mp hsome
    obtain ⟨hok, -, hkref, -⟩ := unmap_modified (f := dropUser) hrb h hp
      (keepsLabels_user dropCount) keepsRange_dropUser
    exact ⟨hok, hkref⟩

theorem submitUnpinIdElement_spec (hrb : Balances rb) (h : TableOk s) (id : U32) :
    TableOk (submitUnpinIdElement rb s id) ∧ entries (submitUnpinIdElement rb s id) =
        settle (alter NvpvaVmBuffer.id id dropSubmit (entries s)) ∧
      (submitUnpinIdElement rb s id).kref = s.kref := by
  unfold submitUnpinIdElement
  split
  case h_1 hnone =>
    have habsent : ∀ v ∈ entries s, v.id ≠ id := by
      intro v hv
      obtain ⟨p, hp, rfl⟩ := mem_entries.mp hv
      exact (findMapBufferId_eq_none h.linked).mp hnone p hp
    rw [alter_of_absent habsent, settle_of_counted h.counted]
    exact ⟨h, rfl, rfl⟩
  case h_2 p hsome =>
    obtain ⟨hp, hid⟩ := (findMapBufferId_eq_some h.linked).mp hsome
    obtain ⟨hok, hentries, hkref, -⟩ := unmap_modified (f := dropSubmit) hrb h hp
      (keepsLabels_submit dropCount) keepsRange_dropSubmit
    rw [alter_found dropSubmit h.linked hp hid fun q hq hqk =>
      linked_eq_of_id h.linked hq hp (hqk.trans hid.symm)] at hentries
    exact ⟨hok, hentries, hkref⟩

theorem tableOk_modify {f : NvpvaVmBuffer → NvpvaVmBuffer} (h : TableOk s) (hf : KeepsLabels f)
    (hcounted : MapCounted (f (s.vm p))) : TableOk (s.modify p f) := by
  refine ⟨linked_modify h.linked hf, fun w hw => ?_⟩
  obtain ⟨q, hq, rfl⟩ := mem_entries.mp hw
  rw [modify_vm]
  split
  case isTrue => exact hcounted
  case isFalse => exact h.counted _ (mem_entries.mpr ⟨q, hq, rfl⟩)

/-- **Submitting one element.** -/
theorem submitPinElement_spec (h : TableOk s) (hfits : SubmitFits s id) :
    (submitPinElement s id = none ∧ ∀ v ∈ entries s, v.id ≠ id) ∨
      ∃ buffer s', submitPinElement s id = some (buffer, s') ∧ TableOk s' ∧
        entries s' = alter NvpvaVmBuffer.id id bumpSubmit (entries s) ∧ s'.kref = s.kref ∧
        ∀ v ∈ entries s, v.id = id → v.submitMapCount ≠ 2 ^ 31 - 1 := by
  unfold submitPinElement
  split
  case h_1 hnone =>
    refine Or.inl ⟨rfl, fun v hv => ?_⟩
    obtain ⟨p, hp, rfl⟩ := mem_entries.mp hv
    exact (findMapBufferId_eq_none h.linked).mp hnone p hp
  case h_2 p hsome =>
    obtain ⟨hp, hid⟩ := (findMapBufferId_eq_some h.linked).mp hsome
    have hv := h.counted _ (mem_entries.mpr ⟨p, hp, rfl⟩)
    have hmax := hfits p hsome
    have hsubmit := hv.submit
    have hsucc : toI32 ((s.vm p).submitMapCount + 1) = (s.vm p).submitMapCount + 1 :=
      toI32_succ hsubmit.1 (by omega)
    have hcounted : MapCounted (bumpSubmit (s.vm p)) := by
      refine ⟨hv.user, ?_, Or.inr ?_⟩
      all_goals unfold bumpSubmit
      all_goals dsimp only
      all_goals rw [hsucc]
      all_goals omega
    have hentries := entries_modify h.linked hp bumpSubmit
    rw [alter_found bumpSubmit h.linked hp hid fun q hq hqk =>
      linked_eq_of_id h.linked hq hp (hqk.trans hid.symm)] at hentries
    refine Or.inr ⟨_, _, rfl, tableOk_modify h (keepsLabels_submit fun x => toI32 (x + 1))
      hcounted, hentries, rfl, ?_⟩
    intro v hv hvid
    obtain ⟨q, hq, rfl⟩ := mem_entries.mp hv
    rwa [linked_eq_of_id h.linked hq hp (hvid.trans hid.symm)]

theorem tableOk_congr (h : TableOk s) (hlist : s'.listHead = s.listHead)
    (hroot : s'.rbRoot = s.rbRoot) (hrootId : s'.rbRootId = s.rbRootId)
    (hvm : ∀ q ∈ s.listHead, s'.vm q = s.vm q) (hids : assignedIds s' = assignedIds s)
    (hnum : s'.numAssignedIds = s.numAssignedIds) (hmapped : s'.mapped = s.mapped)
    (hnext : s.nextVm ≤ s'.nextVm) : TableOk s' ∧ entries s' = entries s := by
  have hl := h.linked
  have hentries : entries s' = entries s := by
    unfold entries
    rw [hlist]
    exact List.map_congr_left hvm
  refine ⟨⟨⟨?_, ?_, ?_, ?_, ?_, ?_, ?_, ?_, ?_, ?_, ?_⟩, ?_⟩, hentries⟩
  · rw [hroot, hlist]
    exact hl.root
  · rw [hrootId, hlist]
    exact hl.rootId
  · rw [hroot]
    exact hl.sorted.congr fun q hq => congrArg treeKey (hvm q (hl.root.mem_iff.mp hq))
  · rw [hrootId]
    exact hl.sortedId.congr fun q hq => by rw [hvm q (hl.rootId.mem_iff.mp hq)]
  · intro q hq
    rw [hlist] at hq
    rw [hids, hvm q hq]
    exact hl.ids q hq
  · intro n hn
    rw [hids] at hn
    obtain ⟨q, hq, hqn⟩ := hl.owned n hn
    exact ⟨q, hlist ▸ hq, (congrArg NvpvaVmBuffer.id (hvm q hq)).trans hqn⟩
  · rw [hentries]
    exact hl.distinct
  · rw [hnum, hids]
    exact hl.assigned
  · rw [hmapped, hlist]
    exact hl.mapped
  · intro q hq
    rw [hlist] at hq
    rw [hvm q hq]
    exact hl.attached q hq
  · intro q hq
    rw [hlist] at hq
    exact (hl.fresh q hq).trans_le hnext
  · rw [hentries]
    exact h.counted

def elementKey (e : PinElement) : U64 × U64 × U64 := (e.dmabuf, e.offset, e.size)

/-- What pinning an element can do: nothing, count a mapping once more, or make one. -/
inductive PinOutcome (dev : PlatformDevice) (s : NvpvaBuffers) (e : PinElement) :
    Except (ℤ × U32) U32 × NvpvaBuffers → Prop
  | failed (err : ℤ × U32) (s' : NvpvaBuffers) (hne : err.1 ≠ 0) (hsame : entries s' = entries s) :
    PinOutcome dev s e (.error err, s')
  | again (v : NvpvaVmBuffer) (s' : NvpvaBuffers) (hv : v ∈ entries s)
    (hkey : pinKey v = elementKey e) (hattach : v.attach = some ⟨e.dmabuf, dev⟩)
    (hmax : v.userMapCount ≠ 2 ^ 31 - 1)
    (hentries : entries s' = alter pinKey (elementKey e) bumpUser (entries s)) :
    PinOutcome dev s e (.ok v.id, s')
  | new (v : NvpvaVmBuffer) (s' : NvpvaBuffers) (habsent : ∀ w ∈ entries s, pinKey w ≠ elementKey e)
    (hkey : pinKey v = elementKey e) (hattach : v.attach = some ⟨e.dmabuf, dev⟩)
    (huser : v.userMapCount = 1) (hsubmit : v.submitMapCount = 0)
    (hentries : entries s' = entries s ++ [v]) : PinOutcome dev s e (.ok v.id, s')

theorem nvpvaBufferMap_cases (s : NvpvaBuffers) (p : ℕ) (e : PinElement) (isUser : Bool)
    (hfits : if e.attach = false then toInt32 e.dmabuf ≠ 0
      else sgtIsNull e.sgt = false) : (∃ err ≠ 0, nvpvaBufferMap s p e isUser = (err, s)) ∨
      ∃ f : NvpvaVmBuffer → NvpvaVmBuffer, nvpvaBufferMap s p e isUser =
          (0, { s.modify p f with mapped := p :: s.mapped }) ∧
        ∀ v, (f v).id = v.id ∧ pinKey (f v) = elementKey e ∧
          (f v).attach = some ⟨e.dmabuf, if isUser then .user else .priv⟩ ∧
          (f v).userMapCount = 1 ∧ (f v).submitMapCount = v.submitMapCount := by
  unfold nvpvaBufferMap
  cases hattach : e.attach with
  | false =>
    rw [hattach, if_pos rfl] at hfits
    exact Or.inl ⟨_, hfits, rfl⟩
  | true =>
    rw [hattach, if_neg Bool.true_eq_false.mp] at hfits
    cases hsgt : e.sgt with
    | error err =>
      rw [hsgt] at hfits
      exact Or.inl ⟨err, of_decide_eq_false hfits, rfl⟩
    | ok addrs => exact Or.inr ⟨_, rfl, fun v => ⟨rfl, rfl, rfl, rfl, rfl⟩⟩

theorem getUniqueId_id (h : s'.ids = s.ids) : (getUniqueId s').1 = (getUniqueId s).1 := by
  unfold getUniqueId
  rw [h]
  dsimp only
  split
  · rfl
  · rfl

/-- The state with an id given to a buffer that is not mapped yet. -/
def withNewId (s : NvpvaBuffers) (n : ℕ) : NvpvaBuffers :=
  { s with
    ids := updateWord s.ids n fun nr word => word ||| (1 : U32) <<< nr
    numAssignedIds := s.numAssignedIds + 1
    vm := update s.vm s.nextVm { zeroVmBuffer with id := idOf n }
    nextVm := s.nextVm + 1 }

theorem putUniqueId_withNewId (h : TableOk s) {n : ℕ} (hn : n < nvpvaMaxNumUniqueIds) (hfree : n ∉ assignedIds s) :
    TableOk (putUniqueId (withNewId s n) (idOf n)) ∧ entries (putUniqueId (withNewId s n) (idOf n)) = entries s ∧
      (putUniqueId (withNewId s n) (idOf n)).kref = s.kref := by
  have hput : assignedIds (putUniqueId (withNewId s n) (idOf n)) = assignedIds s ∧
      (putUniqueId (withNewId s n) (idOf n)).numAssignedIds = s.numAssignedIds :=
    putUniqueId_set hn hfree rfl rfl
  have hset : assignedIds (withNewId s n) = insert n (assignedIds s) := assignedIds_set hn rfl
  have hmem : n ∈ assignedIds (withNewId s n) := by
    rw [hset]
    exact Finset.mem_insert_self _ _
  have hvm : ∀ q ∈ s.listHead, (putUniqueId (withNewId s n) (idOf n)).vm q = s.vm q := by
    intro q hq
    rw [putUniqueId_eq hmem]
    exact update_of_ne (h.linked.fresh q hq).ne _ _
  obtain ⟨hassigned, hnum⟩ := hput
  rw [putUniqueId_eq hmem] at hassigned hnum hvm ⊢
  refine and_assoc.mp ⟨?_, rfl⟩
  exact tableOk_congr h rfl rfl rfl hvm hassigned hnum rfl (Nat.le_succ s.nextVm)

theorem pinNew_spec (hrb : Balances rb) (h : TableOk s) {segment : U32}
    (habsent : ∀ w ∈ entries s, pinKey w ≠ elementKey e)
    (hfits : (getUniqueId s).1 ≠ 0 → if e.attach = false then toInt32 e.dmabuf ≠ 0
      else sgtIsNull e.sgt = false) : let p := s.nextVm
    let s1 := { s with nextVm := s.nextVm + 1, vm := update s.vm p zeroVmBuffer }
    let r := getUniqueId s1
    let s2 := r.2.modify p fun vm => { vm with id := r.1 }
    let r' : Except (ℤ × U32) U32 × NvpvaBuffers :=
      if r.1 = 0 then (.error (-eINVAL, nvpvaEnoslot), s2)
      else
        let m := nvpvaBufferMap s2 p e (segment = nvpvaSegmentUser)
        if m.1 ≠ 0 then (.error (m.1, 0), putUniqueId m.2 r.1)
        else
          (.ok r.1, nvpvaBufferInsertMapBufferId rb (nvpvaBufferInsertMapBuffer rb m.2 p) p)
    TableOk r'.2 ∧ r'.2.kref = s.kref ∧ PinOutcome (segmentDevice segment) s e r' := by
  intro p s1 r s2 r'
  have hid : r.1 = (getUniqueId s).1 := getUniqueId_id rfl
  rcases getUniqueId_cases s1 with ⟨hzero, hstate⟩ | ⟨n, hn, hfree, hgiven, hstate⟩
  case inl =>
    have hr' : r' = (.error (-eINVAL, nvpvaEnoslot), s2) := if_pos hzero
    have hs2 : s2 = s1.modify p fun vm => { vm with id := r.1 } := by
      change r.2.modify p _ = _
      rw [show r.2 = s1 from hstate]
    have hvm : ∀ q ∈ s.listHead, s2.vm q = s.vm q := by
      intro q hq
      rw [hs2]
      have hne := (h.linked.fresh q hq).ne
      exact (update_of_ne hne _ _).trans (update_of_ne hne _ _)
    have hcongr : TableOk s2 ∧ entries s2 = entries s := by
      rw [hs2] at hvm ⊢
      exact tableOk_congr h rfl rfl rfl hvm rfl rfl rfl (Nat.le_succ s.nextVm)
    have hkref : s2.kref = s.kref := by
      rw [hs2]
      rfl
    rw [hr']
    exact ⟨hcongr.1, hkref, .failed _ _ (by decide) hcongr.2⟩
  case inr =>
    have hne : r.1 ≠ 0 := hgiven ▸ idOf_ne_zero
    have hs2 : s2 = withNewId s n := by
      have hvm : update (update s.vm p zeroVmBuffer) p
          { update s.vm p zeroVmBuffer p with id := idOf n } =
          update s.vm p { zeroVmBuffer with id := idOf n } := by
        rw [update_idem, update_self]
      change r.2.modify p (fun vm => { vm with id := r.1 }) = _
      rw [show r.2 = _ from hstate, show r.1 = _ from hgiven]
      unfold NvpvaBuffers.modify withNewId
      dsimp only
      rw [hvm]
    have hr' : r' = if (nvpvaBufferMap s2 p e (segment = nvpvaSegmentUser)).1 ≠ 0 then
        (.error ((nvpvaBufferMap s2 p e (segment = nvpvaSegmentUser)).1, 0),
          putUniqueId (nvpvaBufferMap s2 p e (segment = nvpvaSegmentUser)).2 (idOf n))
      else (.ok (idOf n), nvpvaBufferInsertMapBufferId rb (nvpvaBufferInsertMapBuffer rb
        (nvpvaBufferMap s2 p e (segment = nvpvaSegmentUser)).2 p) p) := by
      rw [← show r.1 = idOf n from hgiven]
      exact if_neg hne
    rw [hr', hs2]
    clear hr' hs2
    rcases nvpvaBufferMap_cases (withNewId s n) p e (decide (segment = nvpvaSegmentUser))
      (hfits (hid ▸ hne)) with ⟨err, herr, hmap⟩ | ⟨f, hmap, hf⟩
    · rw [hmap, if_pos herr]
      obtain ⟨hok, hentries, hkref⟩ := putUniqueId_withNewId h hn hfree
      exact ⟨hok, hkref, .failed _ _ herr hentries⟩
    rw [hmap, if_neg (not_not.mpr rfl)]
    obtain ⟨hfid, hfkey, hfattach, huser, hsubmit⟩ := hf { zeroVmBuffer with id := idOf n }
    generalize hv : f { zeroVmBuffer with id := idOf n } = v at hfid hfkey hfattach huser hsubmit
    have hmapped : { (withNewId s n).modify p f with mapped := p :: (withNewId s n).mapped } =
        withNewBuffer s n v := by
      have hvm : update (withNewId s n).vm p (f ((withNewId s n).vm p)) =
          update s.vm p v := by
        unfold withNewId
        dsimp only
        rw [update_idem, update_self, hv]
      unfold NvpvaBuffers.modify
      dsimp only
      rw [hvm]
      rfl
    have hdevice : (if decide (segment = nvpvaSegmentUser) = true then PlatformDevice.user
        else .priv) = segmentDevice segment := by
      unfold segmentDevice
      simp only [decide_eq_true_eq]
    rw [hdevice] at hfattach
    have hdmabuf : v.dmabuf = e.dmabuf := congrArg Prod.fst hfkey
    obtain ⟨hlinked, hentries⟩ := linked_insert hrb h.linked (v := v) hn hfree hfid
      (hdmabuf.symm ▸ hfattach) (fun w hw => hfkey ▸ habsent w hw)
    dsimp only
    rw [hmapped]
    refine ⟨⟨hlinked, fun w hw => ?_⟩, rfl, ?_⟩
    · rw [hentries] at hw
      rcases List.mem_append.mp hw with hw | hw
      · exact h.counted w hw
      rw [List.mem_singleton.mp hw]
      have hone : (0 : ℤ) < 2 ^ 31 := by decide
      refine ⟨?_, ?_, Or.inl ?_⟩
      · rw [huser]
        omega
      · rw [hsubmit]
        exact ⟨le_rfl, hone⟩
      · rw [huser]
        omega
    · have hnew := PinOutcome.new v _ habsent hfkey hfattach huser hsubmit hentries
      rw [hfid] at hnew
      exact hnew

/-- **Pinning one element.** -/
theorem pinElement_spec (hrb : Balances rb) (h : TableOk s) {segment : U32} (hfits : PinFits segment s e) :
    TableOk (pinElement rb s segment e).2 ∧ (pinElement rb s segment e).2.kref = s.kref ∧
      PinOutcome (segmentDevice segment) s e (pinElement rb s segment e) := by
  unfold pinElement
  split
  case isTrue => exact ⟨h, rfl, .failed _ _ (by decide) rfl⟩
  case isFalse hover =>
    split
    case isTrue => exact ⟨h, rfl, .failed _ _ (by decide) rfl⟩
    case isFalse hlimit =>
      have hfits' := hfits ⟨hover, hlimit⟩
      split
      case h_1 p hsome =>
        obtain ⟨hattach, hmax⟩ := hfits'.1 p hsome
        obtain ⟨hp, hkey⟩ := (findMapBuffer_eq_some h.linked).mp hsome
        have hv := h.counted _ (mem_entries.mpr ⟨p, hp, rfl⟩)
        have huser := hv.user
        have hsucc : toI32 ((s.vm p).userMapCount + 1) = (s.vm p).userMapCount + 1 :=
          toI32_succ huser.1 (by omega)
        have hcounted : MapCounted (bumpUser (s.vm p)) := by
          refine ⟨?_, hv.submit, Or.inl ?_⟩
          all_goals unfold bumpUser
          all_goals dsimp only
          all_goals rw [hsucc]
          all_goals omega
        have hentries := entries_modify h.linked hp bumpUser
        rw [alter_found bumpUser h.linked hp hkey fun q hq hqk =>
          linked_eq_of_key h.linked hq hp (hqk.trans hkey.symm)] at hentries
        refine ⟨tableOk_modify h (keepsLabels_user fun x => toI32 (x + 1)) hcounted, rfl, ?_⟩
        have hid : ((s.modify p bumpUser).vm p).id = (s.vm p).id :=
          modify_label (f := bumpUser) NvpvaVmBuffer.id (fun _ => rfl) p
        have hagain := PinOutcome.again (e := e) (s.vm p) (s.modify p bumpUser)
          (mem_entries.mpr ⟨p, hp, rfl⟩) hkey hattach hmax hentries
        rw [← hid] at hagain
        exact hagain
      case h_2 hnone =>
        have habsent : ∀ w ∈ entries s, pinKey w ≠ elementKey e := by
          intro w hw
          obtain ⟨q, hq, rfl⟩ := mem_entries.mp hw
          exact (findMapBuffer_eq_none h.linked).mp hnone q hq
        split
        case isTrue => exact ⟨h, rfl, .failed _ _ (by decide) rfl⟩
        case isFalse hkzalloc =>
          exact pinNew_spec hrb h habsent (hfits'.2 hnone (by simpa using hkzalloc))

end

section

variable {l0 l : List NvpvaVmBuffer} {c : U64 × U64 × U64 → ℕ} {k : U64 × U64 × U64}
  {v : NvpvaVmBuffer}

def raiseUser (c : U64 × U64 × U64 → ℕ) (v : NvpvaVmBuffer) : NvpvaVmBuffer :=
  { v with userMapCount := v.userMapCount + c (pinKey v) }

/-- A buffer that is there only because of the pins in `c`. -/
structure FreshFor (l0 : List NvpvaVmBuffer) (c : U64 × U64 × U64 → ℕ) (v : NvpvaVmBuffer) :
    Prop where
  absent : ∀ w ∈ l0, pinKey w ≠ pinKey v
  user : v.userMapCount = c (pinKey v)
  positive : 0 < c (pinKey v)
  submit : v.submitMapCount = 0

/-- The buffers `l` are `l0` with the pins in `c`. -/
def Pending (l0 : List NvpvaVmBuffer) (c : U64 × U64 × U64 → ℕ) (l : List NvpvaVmBuffer) : Prop :=
  ∃ fresh, l = l0.map (raiseUser c) ++ fresh ∧ ∀ v ∈ fresh, FreshFor l0 c v

theorem map_raiseUser_zero (l0 : List NvpvaVmBuffer) : l0.map (raiseUser fun _ => 0) = l0 := by
  conv_rhs => rw [← List.map_id l0]
  refine List.map_congr_left fun v _ => ?_
  unfold raiseUser
  simp

theorem pending_zero : Pending l0 (fun _ => 0) l0 :=
  ⟨[], by rw [map_raiseUser_zero, List.append_nil], fun v hv => absurd hv List.not_mem_nil⟩

theorem eq_of_pending_zero (h : Pending l0 (fun _ => 0) l) : l = l0 := by
  obtain ⟨fresh, hl, hfresh⟩ := h
  have hnil : fresh = [] := by
    rw [List.eq_nil_iff_forall_not_mem]
    exact fun v hv => absurd (hfresh v hv).positive (lt_irrefl 0)
  rw [hl, hnil, map_raiseUser_zero, List.append_nil]

def oneMore (c : U64 × U64 × U64 → ℕ) (k : U64 × U64 × U64) : U64 × U64 × U64 → ℕ :=
  update c k (c k + 1)

theorem oneMore_self : oneMore c k k = c k + 1 := update_self _ _ _

theorem oneMore_of_ne {j : U64 × U64 × U64} (h : j ≠ k) : oneMore c k j = c j :=
  update_of_ne h _ _

theorem count_cons_key (keys : List (U64 × U64 × U64)) (k : U64 × U64 × U64) :
    (fun j => (k :: keys).count j) = oneMore (fun j => keys.count j) k := by
  funext j
  by_cases h : j = k
  · rw [h, oneMore_self, List.count_cons_self]
  · rw [oneMore_of_ne h, List.count_cons_of_ne (Ne.symm h)]

theorem count_snoc_key (keys : List (U64 × U64 × U64)) (k : U64 × U64 × U64) :
    (fun j => (keys ++ [k]).count j) = oneMore (fun j => keys.count j) k := by
  rw [← count_cons_key]
  funext j
  exact (List.perm_append_singleton k keys).count_eq j

theorem pending_again (h : Pending l0 c l) (hcounted : ∀ v ∈ l, MapCounted v)
    (hmax : ∀ v ∈ l, pinKey v = k → v.userMapCount ≠ 2 ^ 31 - 1) :
    Pending l0 (oneMore c k) (alter pinKey k bumpUser l) := by
  obtain ⟨fresh, rfl, hfresh⟩ := h
  have hbump : ∀ v ∈ l0.map (raiseUser c) ++ fresh, pinKey v = k →
      bumpUser v = { v with userMapCount := v.userMapCount + 1 } := by
    intro v hv hk
    have huser := (hcounted v hv).user
    have hne := hmax v hv hk
    unfold bumpUser
    rw [toI32_succ huser.1 (by omega)]
  refine ⟨alter pinKey k bumpUser fresh, ?_, ?_⟩
  · unfold alter
    rw [List.map_append, List.map_map]
    congr 1
    refine List.map_congr_left fun v hv => ?_
    rw [comp_apply]
    split
    case isTrue hk =>
      rw [hbump _ (List.mem_append_left _ (List.mem_map_of_mem hv)) hk]
      have hkv : pinKey v = k := hk
      unfold raiseUser
      rw [hkv, oneMore_self]
      push_cast
      rw [add_assoc]
    case isFalse hk =>
      have hkv : pinKey v ≠ k := hk
      unfold raiseUser
      rw [oneMore_of_ne hkv]
  · intro w hw
    obtain ⟨v, hv, rfl⟩ := List.mem_map.mp hw
    have hf := hfresh v hv
    split
    case isTrue hk =>
      rw [hbump v (List.mem_append_right _ hv) hk]
      refine ⟨hf.absent, ?_, ?_, hf.submit⟩
      · change v.userMapCount + 1 = (oneMore c k (pinKey v) : ℕ)
        rw [hf.user, hk, oneMore_self]
        rfl
      · change 0 < oneMore c k (pinKey v)
        rw [hk, oneMore_self]
        exact Nat.succ_pos _
    case isFalse hk =>
      refine ⟨hf.absent, ?_, ?_, hf.submit⟩
      · rw [oneMore_of_ne hk]
        exact hf.user
      · rw [oneMore_of_ne hk]
        exact hf.positive

theorem pending_new (h : Pending l0 c l) (habsent : ∀ w ∈ l, pinKey w ≠ k) (hzero : c k = 0)
    (hkey : pinKey v = k) (huser : v.userMapCount = 1) (hsubmit : v.submitMapCount = 0) :
    Pending l0 (oneMore c k) (l ++ [v]) := by
  obtain ⟨fresh, rfl, hfresh⟩ := h
  have hold : ∀ w ∈ l0, pinKey w ≠ k := fun w hw =>
    habsent (raiseUser c w) (List.mem_append_left _ (List.mem_map_of_mem hw))
  refine ⟨fresh ++ [v], ?_, ?_⟩
  · rw [← List.append_assoc]
    congr 2
    refine List.map_congr_left fun w hw => ?_
    unfold raiseUser
    rw [oneMore_of_ne (hold w hw)]
  · intro w hw
    rcases List.mem_append.mp hw with hw | hw
    · have hne : pinKey w ≠ k := habsent w (List.mem_append_right _ hw)
      have hf := hfresh w hw
      refine ⟨hf.absent, ?_, ?_, hf.submit⟩
      · rw [oneMore_of_ne hne]
        exact hf.user
      · rw [oneMore_of_ne hne]
        exact hf.positive
    rw [List.mem_singleton.mp hw]
    refine ⟨fun w hw => hkey ▸ hold w hw, ?_, ?_, hsubmit⟩
    · rw [huser, hkey, oneMore_self, hzero]
      rfl
    · rw [hkey, oneMore_self]
      exact Nat.succ_pos _

/-- **A pin is taken back.** -/
theorem pending_drop (h : Pending l0 (oneMore c k) l) (h0 : ∀ v ∈ l0, MapCounted v)
    (hcounted : ∀ v ∈ l, MapCounted v) : Pending l0 c (settle (alter pinKey k dropUser l)) := by
  obtain ⟨fresh, rfl, hfresh⟩ := h
  have hdrop : ∀ v ∈ l0.map (raiseUser (oneMore c k)) ++ fresh,
      dropUser v = { v with userMapCount := if v.userMapCount = 0 then 0
        else v.userMapCount - 1 } := by
    intro v hv
    have huser := (hcounted v hv).user
    unfold dropUser
    rw [dropCount_eq huser.1 huser.2]
  have hold : alter pinKey k dropUser (l0.map (raiseUser (oneMore c k))) =
      l0.map (raiseUser c) := by
    unfold alter
    rw [List.map_map]
    refine List.map_congr_left fun v hv => ?_
    rw [comp_apply]
    split
    case isTrue hk =>
      rw [hdrop _ (List.mem_append_left _ (List.mem_map_of_mem hv))]
      have hkv : pinKey v = k := hk
      have huser := (h0 v hv).user
      unfold raiseUser
      dsimp only
      rw [hkv, oneMore_self, if_neg (by omega)]
      push_cast
      rw [← add_assoc, add_sub_cancel_right]
    case isFalse hk =>
      have hkv : pinKey v ≠ k := hk
      unfold raiseUser
      rw [oneMore_of_ne hkv]
  have halive : settle (l0.map (raiseUser c)) = l0.map (raiseUser c) := by
    refine List.filter_eq_self.mpr fun w hw => decide_eq_true ?_
    obtain ⟨v, hv, rfl⟩ := List.mem_map.mp hw
    have hv0 := h0 v hv
    have hpositive := hv0.positive
    unfold raiseUser
    dsimp only
    omega
  refine ⟨settle (alter pinKey k dropUser fresh), ?_, ?_⟩
  · have happend : alter pinKey k dropUser (l0.map (raiseUser (oneMore c k)) ++ fresh) =
        alter pinKey k dropUser (l0.map (raiseUser (oneMore c k))) ++
          alter pinKey k dropUser fresh := List.map_append
    rw [happend, hold]
    unfold settle
    rw [List.filter_append]
    exact congrArg (· ++ _) halive
  · intro w hw
    obtain ⟨hmem, hlive⟩ := List.mem_filter.mp hw
    obtain ⟨v, hv, rfl⟩ := List.mem_map.mp hmem
    have hf := hfresh v hv
    split at hlive
    case isTrue hk =>
      rw [if_pos hk]
      have huser := hf.user
      rw [hk, oneMore_self] at huser
      rw [hdrop v (List.mem_append_right _ hv), if_neg (by omega)] at hlive ⊢
      have hne := of_decide_eq_true hlive
      dsimp only at hne
      have hsubmit := hf.submit
      refine ⟨hf.absent, ?_, ?_, hf.submit⟩
      · change v.userMapCount - 1 = (c (pinKey v) : ℕ)
        rw [hk]
        omega
      · change 0 < c (pinKey v)
        rw [hk]
        omega
    case isFalse hk =>
      rw [if_neg hk]
      have huser := hf.user
      have hpositive := hf.positive
      rw [oneMore_of_ne hk] at huser hpositive
      exact ⟨hf.absent, huser, hpositive, hf.submit⟩

end

section

variable {rb : RbTree} {s s' : NvpvaBuffers} {l0 : List NvpvaVmBuffer} {segment : U32}
  {dev : PlatformDevice}

def labels (s : NvpvaBuffers) : List (U32 × (U64 × U64 × U64) × Option DmaBufAttachment) :=
  (entries s).map fun v => (v.id, pinKey v, v.attach)

theorem serves_iff : Serves s dev e id ↔ (id, elementKey e, some ⟨e.dmabuf, dev⟩) ∈ labels s := by
  unfold Serves labels
  rw [List.mem_map]
  constructor
  · rintro ⟨v, hv, hid, hkey, hattach⟩
    exact ⟨v, hv, by rw [hid, hkey, hattach]; rfl⟩
  · rintro ⟨v, hv, heq⟩
    obtain ⟨hid, heq⟩ := Prod.mk.inj heq
    obtain ⟨hkey, hattach⟩ := Prod.mk.inj heq
    exact ⟨v, hv, hid, hkey, hattach⟩

theorem serves_mono (h : Serves s dev e id) (hsub : labels s ⊆ labels s') :
    Serves s' dev e id := serves_iff.mpr (hsub (serves_iff.mp h))

def Covers (s : NvpvaBuffers) (keys : List (U64 × U64 × U64)) : Prop :=
  ∀ k ∈ keys, ∃ v ∈ entries s, pinKey v = k

theorem Covers.mono {keys : List (U64 × U64 × U64)} (h : Covers s keys)
    (hsub : labels s ⊆ labels s') : Covers s' keys := by
  intro k hk
  obtain ⟨v, hv, hkey⟩ := h k hk
  obtain ⟨w, hw, heq⟩ := List.mem_map.mp (hsub (List.mem_map_of_mem hv))
  exact ⟨w, hw, (congrArg (fun x => x.2.1) heq).trans hkey⟩

theorem labels_alter {k : U64 × U64 × U64}
    (hentries : entries s' = alter pinKey k bumpUser (entries s)) : labels s' = labels s := by
  unfold labels
  rw [hentries, alter, List.map_map]
  refine List.map_congr_left fun v _ => ?_
  rw [comp_apply]
  split
  · rfl
  · rfl

theorem pinOutcome_ok {done : List (U64 × U64 × U64)} (hout : PinOutcome dev s e (.ok id, s')) (h : TableOk s)
    (hpend : Pending l0 (fun j => done.count j) (entries s)) (hcover : Covers s done) :
    Pending l0 (fun j => (done ++ [elementKey e]).count j) (entries s') ∧
      labels s ⊆ labels s' ∧ Serves s' dev e id ∧ Covers s' (done ++ [elementKey e]) := by
  rw [count_snoc_key]
  suffices hmain : Pending l0 (oneMore (fun j => done.count j) (elementKey e)) (entries s') ∧
      labels s ⊆ labels s' ∧ Serves s' dev e id by
    obtain ⟨hpend', hsub, hserves⟩ := hmain
    refine ⟨hpend', hsub, hserves, fun k hk => ?_⟩
    rcases List.mem_append.mp hk with hk | hk
    · exact hcover.mono hsub k hk
    · obtain ⟨v, hv, -, hkey, -⟩ := hserves
      exact ⟨v, hv, hkey.trans (List.mem_singleton.mp hk).symm⟩
  cases hout with
  | again v _ hv hkey hattach hmax hentries =>
    have hlabels := labels_alter hentries
    refine ⟨?_, hlabels ▸ List.Subset.refl _, ?_⟩
    · rw [hentries]
      refine pending_again hpend h.counted fun w hw hwk => ?_
      obtain ⟨p, hp, rfl⟩ := mem_entries.mp hv
      obtain ⟨q, hq, rfl⟩ := mem_entries.mp hw
      rwa [linked_eq_of_key h.linked hq hp (hwk.trans hkey.symm)]
    · refine serves_mono (s := s) ⟨v, hv, rfl, hkey, hattach⟩ ?_
      exact hlabels ▸ List.Subset.refl _
  | new v _ habsent hkey hattach huser hsubmit hentries =>
    have hzero : done.count (elementKey e) = 0 := by
      rw [List.count_eq_zero]
      intro hmem
      obtain ⟨w, hw, hwk⟩ := hcover _ hmem
      exact habsent w hw hwk
    have hsub : labels s ⊆ labels s' := by
      unfold labels
      rw [hentries, List.map_append]
      exact List.subset_append_left _ _
    refine ⟨?_, hsub, v, ?_, rfl, hkey, hattach⟩
    · rw [hentries]
      exact pending_new hpend habsent hzero hkey huser hsubmit
    · rw [hentries]
      exact List.mem_append_right _ List.mem_cons_self

/-- What the loop of a pin has done when it ends, for all elements or for those before the one
that failed. -/
structure PinnedPrefix (l0 : List NvpvaVmBuffer) (dev : PlatformDevice) (s : NvpvaBuffers)
    (done : List (U64 × U64 × U64)) (elements : List PinElement)
    (r : Option (ℤ × U32) × List U32 × NvpvaBuffers) : Prop where
  ok : TableOk r.2.2
  kref : r.2.2.kref = s.kref
  pending : Pending l0
    (fun j => (done ++ (elements.take r.2.1.length).map elementKey).count j) (entries r.2.2)
  labels : labels s ⊆ labels r.2.2
  serves : List.Forall₂ (Serves r.2.2 dev) (elements.take r.2.1.length) r.2.1
  all : r.1 = none → r.2.1.length = elements.length
  failed : ∀ err, r.1 = some err → err.1 ≠ 0

theorem pinLoop_spec (hrb : Balances rb) {elements : List PinElement}
    {done : List (U64 × U64 × U64)} (h : TableOk s)
    (hpend : Pending l0 (fun j => done.count j) (entries s)) (hcover : Covers s done)
    (hfits : AllSteps (pinElementStep rb segment) (PinFits segment) s elements) :
    PinnedPrefix l0 (segmentDevice segment) s done elements (pinLoop rb segment s elements) := by
  induction elements generalizing s done with
  | nil =>
    refine ⟨h, rfl, ?_, List.Subset.refl _, .nil, fun _ => rfl, nofun⟩
    unfold pinLoop
    simpa using hpend
  | cons e elements ih =>
    obtain ⟨hok, hkref, hout⟩ := pinElement_spec hrb h hfits.1
    have hrest := hfits.2
    unfold pinElementStep at hrest
    rw [pinLoop]
    generalize pinElement rb s segment e = r at hok hkref hout hrest
    obtain ⟨res, s1⟩ := r
    cases res with
    | error err =>
      cases hout with
      | failed _ _ hne hsame =>
        refine ⟨hok, hkref, ?_, ?_, .nil, nofun, ?_⟩
        · rw [hsame]
          simpa using hpend
        · unfold Analysis.labels
          rw [hsame]
          exact List.Subset.refl _
        · rintro _ ⟨⟩
          exact hne
    | ok id =>
      obtain ⟨hpend1, hsub, hserves, hcover1⟩ := pinOutcome_ok hout h hpend hcover
      have hloop := ih hok hpend1 hcover1 (hrest s1 rfl)
      generalize pinLoop rb segment s1 elements = r at hloop
      refine ⟨hloop.ok, hloop.kref.trans hkref, ?_, ?_, ?_, ?_, hloop.failed⟩
      · have hpending := hloop.pending
        rw [List.append_assoc] at hpending
        exact hpending
      · exact List.Subset.trans hsub hloop.labels
      · exact List.Forall₂.cons (serves_mono hserves hloop.labels) hloop.serves
      · exact fun hnone => congrArg Nat.succ (hloop.all hnone)

/-- **Unwinding.**  Unpinning the elements that were pinned brings the table back. -/
theorem unpin_restores (hrb : Balances rb) {keys : List (U64 × U64 × U64)}
    (h0 : ∀ v ∈ l0, MapCounted v) (h : TableOk s) (hpend : Pending l0 (fun j => keys.count j) (entries s)) :
    TableOk (nvpvaBufferUnpin rb s keys) ∧ entries (nvpvaBufferUnpin rb s keys) = l0 := by
  induction keys generalizing s with
  | nil => exact ⟨h, eq_of_pending_zero hpend⟩
  | cons k keys ih =>
    obtain ⟨hok, hentries, -⟩ := unpinElement_spec hrb h k
    rw [count_cons_key] at hpend
    refine ih hok ?_
    rw [hentries]
    exact pending_drop hpend h0 h.counted

/-- **A request to pin.** -/
theorem nvpvaBufferPin_spec (hrb : Balances rb) {elements : List PinElement} (h : TableOk s)
    (hfits : OpFits rb s (.pin segment elements)) : let r := nvpvaBufferPin rb s segment elements
    TableOk r.2.2.2 ∧ (r.1 ≠ 0 → entries r.2.2.2 = entries s) ∧
      (r.1 = 0 → List.Forall₂ (Serves r.2.2.2 (segmentDevice segment)) elements r.2.2.1) := by
  unfold nvpvaBufferPin
  by_cases hsegment : nvpvaSegmentMax ≤ segment
  case pos =>
    have hne : -eINVAL ≠ 0 := by decide
    rw [if_pos hsegment]
    exact ⟨h, fun _ => rfl, fun hzero => absurd hzero hne⟩
  case neg =>
    rw [if_neg hsegment]
    have hstart : Pending (entries s) (fun j => ([] : List (U64 × U64 × U64)).count j) (entries s) :=
      pending_zero
    have hcover : Covers s [] := fun k hk => absurd hk List.not_mem_nil
    have hloop := pinLoop_spec hrb h hstart hcover (hfits hsegment)
    generalize pinLoop rb segment s elements = r at hloop
    obtain ⟨failed, ids, s1⟩ := r
    cases failed with
    | none =>
      have hserves := hloop.serves
      rw [hloop.all rfl, List.take_length] at hserves
      exact ⟨hloop.ok, fun hne => absurd rfl hne, fun _ => hserves⟩
    | some err =>
      have hpending := hloop.pending
      rw [List.nil_append] at hpending
      obtain ⟨hok, hentries⟩ := unpin_restores hrb h.counted hloop.ok hpending
      exact ⟨hok, fun _ => hentries, fun hzero => absurd hzero (hloop.failed err rfl)⟩

end

section

variable {rb : RbTree} {s : NvpvaBuffers} {l0 l : List NvpvaVmBuffer} {ids : List U32}

/-- Submitted more often, once for each time that the id is in the list. -/
def raiseSubmit (ids : List U32) (v : NvpvaVmBuffer) : NvpvaVmBuffer :=
  { v with submitMapCount := v.submitMapCount + ids.count v.id }

theorem map_raiseSubmit_nil (l0 : List NvpvaVmBuffer) : l0.map (raiseSubmit []) = l0 := by
  conv_rhs => rw [← List.map_id l0]
  refine List.map_congr_left fun v _ => ?_
  unfold raiseSubmit
  simp

theorem alter_bumpSubmit (hl : l = l0.map (raiseSubmit ids)) (hcounted : ∀ v ∈ l, MapCounted v)
    (hmax : ∀ v ∈ l, v.id = id → v.submitMapCount ≠ 2 ^ 31 - 1) :
    alter NvpvaVmBuffer.id id bumpSubmit l = l0.map (raiseSubmit (ids ++ [id])) := by
  subst hl
  unfold alter
  rw [List.map_map]
  refine List.map_congr_left fun v hv => ?_
  have hmem : raiseSubmit ids v ∈ l0.map (raiseSubmit ids) := List.mem_map_of_mem hv
  have hsubmit := (hcounted _ hmem).submit
  rw [comp_apply]
  split
  case isTrue hid =>
    have hne := hmax _ hmem hid
    have hidv : v.id = id := hid
    unfold bumpSubmit
    rw [toI32_succ hsubmit.1 (by omega)]
    unfold raiseSubmit
    rw [List.count_append, hidv, List.count_singleton_self]
    push_cast
    rw [add_assoc]
  case isFalse hid =>
    have hidv : id ≠ v.id := fun heq => hid heq.symm
    unfold raiseSubmit
    rw [List.count_append, List.count_singleton, if_neg (by simpa using hidv), Nat.add_zero]

theorem settle_dropSubmit (hl : l = l0.map (raiseSubmit (id :: ids)))
    (h0 : ∀ v ∈ l0, MapCounted v) (hcounted : ∀ v ∈ l, MapCounted v) :
    settle (alter NvpvaVmBuffer.id id dropSubmit l) = l0.map (raiseSubmit ids) := by
  subst hl
  have hdrop : alter NvpvaVmBuffer.id id dropSubmit (l0.map (raiseSubmit (id :: ids))) =
      l0.map (raiseSubmit ids) := by
    unfold alter
    rw [List.map_map]
    refine List.map_congr_left fun v hv => ?_
    have hsubmit := (hcounted _ (List.mem_map_of_mem hv)).submit
    have hsubmit0 := (h0 v hv).submit
    rw [comp_apply]
    split
    case isTrue hid =>
      have hidv : v.id = id := hid
      unfold dropSubmit
      rw [dropCount_eq hsubmit.1 hsubmit.2]
      unfold raiseSubmit
      dsimp only
      rw [hidv, List.count_cons_self, if_neg (by omega)]
      push_cast
      rw [← add_assoc, add_sub_cancel_right]
    case isFalse hid =>
      have hidv : id ≠ v.id := fun heq => hid heq.symm
      unfold raiseSubmit
      rw [List.count_cons_of_ne hidv]
  rw [hdrop]
  refine List.filter_eq_self.mpr fun w hw => decide_eq_true ?_
  obtain ⟨v, hv, rfl⟩ := List.mem_map.mp hw
  have hpositive := (h0 v hv).positive
  unfold raiseSubmit
  dsimp only
  omega

theorem submitUnpin_restores (hrb : Balances rb) (h0 : ∀ v ∈ l0, MapCounted v) (h : TableOk s)
    (hl : entries s = l0.map (raiseSubmit ids)) : TableOk (ids.foldl (submitUnpinIdElement rb) s) ∧
      entries (ids.foldl (submitUnpinIdElement rb) s) = l0 := by
  induction ids generalizing s with
  | nil => exact ⟨h, hl.trans (map_raiseSubmit_nil l0)⟩
  | cons id ids ih =>
    obtain ⟨hok, hentries, -⟩ := submitUnpinIdElement_spec hrb h id
    refine ih hok ?_
    rw [hentries]
    exact settle_dropSubmit hl h0 h.counted

theorem submitPinLoop_spec {done : List U32} (h : TableOk s) (hl : entries s = l0.map (raiseSubmit done))
    (hfits : AllSteps submitElementStep SubmitFits s ids) : let r := submitPinLoop s ids
    TableOk r.2.2 ∧
      entries r.2.2 = l0.map (raiseSubmit (done ++ ids.take r.2.1.length)) := by
  induction ids generalizing s done with
  | nil =>
    refine ⟨h, ?_⟩
    rw [List.take_nil, List.append_nil]
    exact hl
  | cons id ids ih =>
    have hrest := hfits.2
    unfold submitElementStep at hrest
    rw [submitPinLoop]
    rcases submitPinElement_spec h hfits.1 with ⟨hnone, -⟩ | ⟨buffer, s1, hsome, hok, hentries, -, hmax⟩
    · rw [hnone]
      refine ⟨h, ?_⟩
      change entries s = l0.map (raiseSubmit (done ++ []))
      rw [List.append_nil]
      exact hl
    rw [hsome] at hrest ⊢
    rw [alter_bumpSubmit hl h.counted hmax] at hentries
    obtain ⟨hok', hentries'⟩ := ih hok hentries (hrest s1 rfl)
    dsimp only
    refine ⟨hok', ?_⟩
    rw [List.append_assoc] at hentries'
    exact hentries'

theorem tableOk_kref (h : TableOk s) (kref : ℕ) : TableOk { s with kref := kref } :=
  ⟨⟨h.linked.root, h.linked.rootId, h.linked.sorted, h.linked.sortedId, h.linked.ids,
    h.linked.owned, h.linked.distinct, h.linked.assigned, h.linked.mapped, h.linked.attached,
    h.linked.fresh⟩, h.counted⟩

/-- **A request to submit.** -/
theorem nvpvaBufferSubmitPinId_spec (hrb : Balances rb) (h : TableOk s) (hfits : OpFits rb s (.submitPinId ids)) :
    let r := nvpvaBufferSubmitPinId rb s ids
    TableOk r.2.2 ∧ (r.1 ≠ 0 → entries r.2.2 = entries s) := by
  have hstart : entries { s with kref := s.kref + 1 } = (entries s).map (raiseSubmit []) :=
    (map_raiseSubmit_nil _).symm
  obtain ⟨hok, hentries⟩ := submitPinLoop_spec (tableOk_kref h (s.kref + 1)) hstart hfits
  unfold nvpvaBufferSubmitPinId
  generalize submitPinLoop { s with kref := s.kref + 1 } ids = r at hok hentries
  obtain ⟨failed, buffers, s1⟩ := r
  cases failed with
  | false => exact ⟨hok, fun hne => absurd rfl hne⟩
  | true =>
    obtain ⟨hok', hentries'⟩ := submitUnpin_restores hrb h.counted hok hentries
    exact ⟨tableOk_kref hok' _, fun _ => hentries'⟩

end

section

variable {rb : RbTree} {s : NvpvaBuffers}

theorem tableOk_foldl {α : Type} {f : NvpvaBuffers → α → NvpvaBuffers}
    (hf : ∀ s a, TableOk s → TableOk (f s a)) (h : TableOk s) (l : List α) : TableOk (l.foldl f s) := by
  induction l generalizing s with
  | nil => exact h
  | cons a l ih => exact ih (hf s a h)

/-- **The client goes away**: the buffers stay that a task still uses. -/
theorem nvpvaBufferRelease_ok (hrb : Balances rb) (h : TableOk s) : TableOk (nvpvaBufferRelease rb s) := by
  suffices hloop : ∀ (l : List ℕ) (s : NvpvaBuffers), TableOk s → l.Nodup →
      (∀ p ∈ l, p ∈ s.listHead) → TableOk (l.foldl
        (fun s p => nvpvaBufferUnmap rb (s.modify p fun vm => { vm with userMapCount := 0 }) p) s) by
    exact tableOk_kref (hloop _ s h (linked_nodup h.linked) fun p hp => hp) _
  intro l
  induction l with
  | nil => exact fun s h _ _ => h
  | cons p l ih =>
    intro s h hnodup hmem
    obtain ⟨hp, hnodup⟩ := List.nodup_cons.mp hnodup
    obtain ⟨hok, -, -, hothers⟩ := unmap_modified (f := clearUser) hrb h
      (hmem p List.mem_cons_self) (keepsLabels_user fun _ => 0) keepsRange_clearUser
    refine ih _ hok hnodup fun q hq => ?_
    exact hothers q (hmem q (List.mem_cons_of_mem p hq)) fun heq => hp (heq ▸ hq)

theorem bufferCall_ok (hrb : Balances rb) (h : TableOk s) {op : BufferOp} (hfits : OpFits rb s op) :
    TableOk (bufferCall rb s op).buffers ∧
      ((bufferCall rb s op).err ≠ 0 → entries (bufferCall rb s op).buffers = entries s) := by
  cases op with
  | pin segment elements =>
    obtain ⟨hok, hfailed, -⟩ := nvpvaBufferPin_spec hrb h hfits
    exact ⟨hok, hfailed⟩
  | submitPinId ids => exact nvpvaBufferSubmitPinId_spec hrb h hfits
  | unpin elements =>
    refine ⟨tableOk_foldl (fun s key hs => (unpinElement_spec hrb hs key).1) h elements, ?_⟩
    exact fun hne => absurd rfl hne
  | unpinId ids =>
    refine ⟨tableOk_foldl (fun s id hs => (unpinIdElement_spec hrb hs id).1) h ids, ?_⟩
    exact fun hne => absurd rfl hne
  | submitUnpinId ids =>
    refine ⟨tableOk_kref (tableOk_foldl (fun s id hs => (submitUnpinIdElement_spec hrb hs id).1) h ids) _, ?_⟩
    exact fun hne => absurd rfl hne
  | release => exact ⟨nvpvaBufferRelease_ok hrb h, fun hne => absurd rfl hne⟩

/--
**The table of pinned buffers.**  In a run of calls in which nothing goes wrong, the trees and
the list have the same buffers, with distinct ids, which are not zero and are those that are
assigned; a buffer is in the table when it is mapped, and one of its counts is then positive.
A call that fails leaves the buffers and their counts as they were, and the ids that a pin gives
are those of mappings of what was asked for, on the device of the segment.
-/
theorem buffers_consistent (hrb : Balances rb) {ops : List BufferOp}
    (hfits : AllSteps (bufferStep rb) (OpFits rb) nvpvaBufferInit ops)
    (hrun : run (bufferStep rb) nvpvaBufferInit ops = some s) : TableOk s ∧ (∀ vm ∈ entries s, vm.id ≠ 0) ∧
      (∀ op, OpFits rb s op → (bufferCall rb s op).err ≠ 0 → entries (bufferCall rb s op).buffers = entries s) ∧
      ∀ segment elements, OpFits rb s (.pin segment elements) → (bufferCall rb s (.pin segment elements)).err = 0 →
        List.Forall₂ (Serves (bufferCall rb s (.pin segment elements)).buffers
          (segmentDevice segment)) elements (bufferCall rb s (.pin segment elements)).ids := by
  have h : TableOk s := by
    refine run_invariant_of_allSteps (P := OpFits rb) ?_ tableOk_init hfits hrun
    intro s op s' h hop hstep
    unfold bufferStep at hstep
    split at hstep
    case isTrue => cases hstep
    case isFalse =>
      cases hstep
      exact (bufferCall_ok hrb h hop).1
  refine ⟨h, ?_, ?_, ?_⟩
  · intro vm hvm
    obtain ⟨p, hp, rfl⟩ := mem_entries.mp hvm
    obtain ⟨n, -, hid⟩ := h.linked.ids p hp
    rw [hid]
    exact idOf_ne_zero
  · exact fun op hop => (bufferCall_ok hrb h hop).2
  · exact fun segment elements hop => (nvpvaBufferPin_spec hrb h hop).2.2

def listTree : List ℕ → BinaryTree ℕ
  | [] => .nil
  | p :: l => .node p .nil (listTree l)

def plainRb : RbTree := ⟨fun _ t => t, fun p t => listTree ((inorder t).erase p)⟩

theorem balances_plainRb : Balances plainRb := by
  have hlist (l : List ℕ) : inorder (listTree l) = l := by
    induction l with
    | nil => rfl
    | cons p l ih => exact congrArg (p :: ·) ih
  exact ⟨fun _ _ _ => rfl, fun p t _ => hlist _⟩

def sampleElement : PinElement := ⟨0x1000, 8, 0, 4, 0, true, true, .ok (0x80, 0)⟩

/-- A buffer is pinned and submitted, unpinned while it is submitted, and pinned again. -/
theorem pinned_while_submitted : ∃ s, run (bufferStep plainRb) nvpvaBufferInit
    [.pin 1 [sampleElement], .submitPinId [0x554c0000], .unpinId [0x554c0000],
      .pin 3 [sampleElement]] = some s ∧ TableOk s ∧ s.listHead = [0] ∧
      (s.vm 0).userMapCount = 1 ∧ (s.vm 0).submitMapCount = 1 := by
  refine exists_of_map (fun s => (s.listHead, (s.vm 0).userMapCount, (s.vm 0).submitMapCount)) ([0], 1, 1)
    (by decide) fun s hs hfields => ?_
  obtain ⟨hlist, hfields⟩ := Prod.mk.inj hfields
  obtain ⟨huser, hsubmit⟩ := Prod.mk.inj hfields
  have hok := (buffers_consistent balances_plainRb (by decide) hs).1
  exact ⟨hok, hlist, huser, hsubmit⟩

/-- A pin for the user's device gets the mapping of the private one. -/
theorem wrong_segment_reused : ((run (bufferStep plainRb) nvpvaBufferInit [.pin 1 [sampleElement]]).map fun s =>
      (bufferCall plainRb s (.pin 2 [sampleElement])).err) = some 0 ∧
    ((run (bufferStep plainRb) nvpvaBufferInit [.pin 1 [sampleElement]]).map fun s =>
      (bufferCall plainRb s (.pin 2 [sampleElement])).ids) = some [0x554c0000] ∧
    ((run (bufferStep plainRb) nvpvaBufferInit [.pin 1 [sampleElement], .pin 2 [sampleElement]]).map fun s =>
        (entries s).map fun vm => (vm.id, vm.attach)) =
      some [(0x554c0000, some ⟨0x1000, .priv⟩)] ∧ segmentDevice 2 = .user := by
  refine ⟨by decide, by decide, by decide, by decide⟩

end

end NvidiaOot.Analysis
