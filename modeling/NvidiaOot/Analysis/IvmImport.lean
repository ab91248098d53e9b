import NvidiaOot.Library.Positions
import NvidiaOot.Model.NvmapIvm

/-!
# Each block of an imported buffer has one owner

Every quantity of the claim is a number of handles or calls: the owners of a block, the references
of a handle.  A part of a call changes one handle and one call, so what it does to all of these
numbers is what it does to the two (`PartOk`).
-/

namespace NvidiaOot.Analysis

open Library Program Model

def ImportPc.fills : ImportPc → Option ℕ
  | .allocBlock k => some k
  | .storeId k _ => some k
  | .storeBlock k _ => some k
  | .storeAlloc k => some k
  | _ => none

/-- Whether a call has, or returned, a handle for its id. -/
def ImportPc.named : ImportPc → Bool
  | .lookup => false
  | .create _ => false
  | .returned none => false
  | _ => true

/-- What a call knows of its handle: its id, or that it has none yet, and that a block which is
still to be stored has room. -/
def CallOk (handles : List IvmHandle) (c : ImportCall) : Prop :=
  match c.pc with
  | .found k | .dup k _ | .strip k _ | .install k _ | .storeAlloc k | .returned (some k) =>
    ∃ h, handles[k]? = some h ∧ h.ivmId = c.ivmId
  | .allocBlock k => ∃ h, handles[k]? = some h ∧ h.ivmId = 0 ∧ h.carveout = none
  | .storeId k block =>
    ∃ h, handles[k]? = some h ∧ h.ivmId = 0 ∧ (block ≠ none → h.carveout = none)
  | .storeBlock k block =>
    ∃ h, handles[k]? = some h ∧ h.ivmId = c.ivmId ∧ (block ≠ none → h.carveout = none)
  | _ => True

/-- The calls whose part of the state is `some k`. -/
def callsWith (f : ImportPc → Option ℕ) (s : IvmImport) (k : ℕ) : ℕ :=
  s.calls.countP fun c => decide (f c.pc = some k)

structure HandleOk (h : IvmHandle) : Prop where
  typed : h.ivmId ≠ 0 → h.heapType = nvmapHeapCarveoutIvm
  noFile : h.dmabuf = false → h.fileCount = 0
  dead : h.freePc ≠ .none → h.ref = 0
  gone : h.freePc = .gone → h.carveout = none

structure ImportInv (s : IvmImport) : Prop where
  blocks : ∀ b, ownersOf s b = if b < s.nextBlock then 1 else 0
  references : ∀ (k : ℕ) (h : IvmHandle), s.handles[k]? = some h →
    h.ref = h.others + h.dmabuf.toNat + callsWith ImportPc.holds s k
  files : ∀ (k : ℕ) (h : IvmHandle), s.handles[k]? = some h →
    h.fileCount = h.fileOthers + callsWith ImportPc.holdsFile s k
  handles : ∀ (k : ℕ) (h : IvmHandle), s.handles[k]? = some h → HandleOk h
  calls : ∀ (t : ℕ) (c : ImportCall), s.calls[t]? = some c →
    (ImportPc.named c.pc = true → c.ivmId ≠ 0) ∧ CallOk s.handles c
  filled : ∀ k, callsWith ImportPc.fills s k ≤ 1
  /-- A handle that has a block and is not allocated is being filled. -/
  unfinished : ∀ (k : ℕ) (h : IvmHandle), s.handles[k]? = some h → h.alloc = false → h.carveout ≠ none →
    0 < callsWith ImportPc.fills s k

theorem importInv_new : ImportInv newIvmImport where
  blocks := fun _ => rfl
  references := nofun
  files := nofun
  handles := nofun
  calls := nofun
  filled := fun _ => Nat.zero_le _
  unfinished := nofun

theorem ImportInv.ok {s : IvmImport} (h : ImportInv s) : ImportsOk s where
  returned := by
    intro c hc k hpc
    obtain ⟨t, ht⟩ := List.getElem?_of_mem hc
    obtain ⟨hid, hok⟩ := h.calls t c ht
    unfold CallOk at hok
    rw [hpc] at hok hid
    obtain ⟨hd, hk, heq⟩ := hok
    exact ⟨hd, hk, (h.handles k hd hk).typed (by rw [heq]; exact hid rfl), heq⟩
  blocks := fun b hb => (h.blocks b).trans (if_pos hb)
  gone := fun k hd hk => (h.handles k hd hk).gone
  references := h.references
  files := h.files

theorem callOk_set {handles : List IvmHandle} {k : ℕ} {h h' : IvmHandle} {c : ImportCall}
    (hk : handles[k]? = some h) (hid : h.ivmId ≠ 0 → h'.ivmId = h.ivmId) (hfill : ImportPc.fills c.pc = some k →
      h'.ivmId = h.ivmId ∧ (h.carveout = none → h'.carveout = none))
    (hne : ImportPc.named c.pc = true → c.ivmId ≠ 0) (hok : CallOk handles c) : CallOk (handles.set k h') c := by
  have hsame : ∀ (j : ℕ) (hj : IvmHandle), j ≠ k → handles[j]? = some hj → (handles.set k h')[j]? = some hj := by
    intro j hj hjk hget
    rw [List.getElem?_set_ne (Ne.symm hjk)]
    exact hget
  have hself := getElem?_set_self_of_getElem hk h'
  -- a handle whose id the call has kept keeps it
  have hkeep : ImportPc.named c.pc = true → ∀ j : ℕ, (∃ hj : IvmHandle, handles[j]? = some hj ∧ hj.ivmId = c.ivmId) →
      ∃ hj : IvmHandle, (handles.set k h')[j]? = some hj ∧ hj.ivmId = c.ivmId := by
    rintro hnamed j ⟨hj, hget, heq⟩
    by_cases hjk : j = k
    · rw [hjk, hk, Option.some.injEq] at hget
      rw [← hget] at heq
      rw [hjk]
      exact ⟨h', hself, (hid (by rw [heq]; exact hne hnamed)).trans heq⟩
    · exact ⟨hj, hsame j hj hjk hget, heq⟩
  -- a handle that the call fills keeps its id and its room
  have hroom : ∀ (j : ℕ) (id : U64) (p : Prop), ImportPc.fills c.pc = some j →
      (∃ hj : IvmHandle, handles[j]? = some hj ∧ hj.ivmId = id ∧ (p → hj.carveout = none)) →
      ∃ hj : IvmHandle, (handles.set k h')[j]? = some hj ∧ hj.ivmId = id ∧ (p → hj.carveout = none) := by
    rintro j id p hj' ⟨hj, hget, heq, hp⟩
    by_cases hjk : j = k
    · rw [hjk, hk, Option.some.injEq] at hget
      rw [← hget] at heq hp
      rw [hjk] at hj' ⊢
      obtain ⟨hid', hcarve⟩ := hfill hj'
      exact ⟨h', hself, hid'.trans heq, fun hpp => hcarve (hp hpp)⟩
    · exact ⟨hj, hsame j hj hjk hget, heq, hp⟩
  unfold CallOk at hok ⊢
  cases hpc : c.pc with
  | lookup | create block => trivial
  | found j | dup j block | strip j block | storeAlloc j | install j newRef =>
    rw [hpc] at hok hkeep
    exact hkeep rfl j hok
  | allocBlock j =>
    rw [hpc] at hok hroom
    obtain ⟨hj, hget, heq, hcarve⟩ := hok
    obtain ⟨hj', hget', heq', hcarve'⟩ := hroom j 0 True rfl ⟨hj, hget, heq, fun _ => hcarve⟩
    exact ⟨hj', hget', heq', hcarve' trivial⟩
  | storeId j block =>
    rw [hpc] at hok hroom
    exact hroom j 0 _ rfl hok
  | storeBlock j block =>
    rw [hpc] at hok hroom
    exact hroom j c.ivmId _ rfl hok
  | returned handle =>
    cases handle with
    | none => trivial
    | some j =>
      rw [hpc] at hok hkeep
      exact hkeep rfl j hok

section

variable {s : IvmImport} {t k : ℕ} {c : ImportCall} {h h' : IvmHandle} {pc : ImportPc}

def isAt (o : Option ℕ) (k : ℕ) : ℕ := (decide (o = some k)).toNat

@[simp] theorem isAt_none (k : ℕ) : isAt none k = 0 := rfl

@[simp] theorem isAt_self (k : ℕ) : isAt (some k) k = 1 := by simp [isAt]

theorem isAt_of_ne {j : ℕ} (hjk : j ≠ k) : isAt (some k) j = 0 := by
  simp [isAt, Ne.symm hjk]

theorem callsWith_set (f : ImportPc → Option ℕ) (hc : s.calls[t]? = some c) (k : ℕ)
    (handles : List IvmHandle) (freed : List ℕ) (n : ℕ) :
    callsWith f ⟨handles, s.calls.set t { c with pc := pc }, n, freed⟩ k + isAt (f c.pc) k =
      callsWith f s k + isAt (f pc) k :=
  countP_set_of_getElem _ hc _

def below (b n : ℕ) : ℕ := if b < n then 1 else 0

/-- What a part of a call does to its handle and to itself, with the numbers of blocks that were
allocated and the list of those that were freed after it. -/
structure PartOk (s : IvmImport) (c : ImportCall) (k : ℕ) (h h' : IvmHandle) (pc : ImportPc)
    (n : ℕ) (freed : List ℕ) : Prop where
  blocks : ∀ b, isAt h'.carveout b + isAt pc.hand b + freed.count b + below b s.nextBlock =
    isAt h.carveout b + isAt c.pc.hand b + s.freed.count b + below b n
  refs : h'.ref + h.others + h.dmabuf.toNat + isAt c.pc.holds k =
    h.ref + h'.others + h'.dmabuf.toNat + isAt pc.holds k
  holds : ∀ j, j ≠ k → isAt c.pc.holds j = isAt pc.holds j
  fileRefs : h'.fileCount + h.fileOthers + isAt c.pc.holdsFile k =
    h.fileCount + h'.fileOthers + isAt pc.holdsFile k
  holdsFile : ∀ j, j ≠ k → isAt c.pc.holdsFile j = isAt pc.holdsFile j
  handle : HandleOk h'
  named : c.ivmId ≠ 0
  id : h.ivmId ≠ 0 → h'.ivmId = h.ivmId
  others : isAt (ImportPc.fills c.pc) k = 0 → h'.ivmId = h.ivmId ∧ (h.carveout = none → h'.carveout = none)
  call : CallOk (s.handles.set k h') { c with pc := pc }
  fills : ∀ j, callsWith ImportPc.fills s j + isAt (ImportPc.fills pc) j ≤
    1 + isAt (ImportPc.fills c.pc) j
  fillsElse : ∀ j, j ≠ k → isAt (ImportPc.fills c.pc) j = isAt (ImportPc.fills pc) j
  unfinished : h'.alloc = false → h'.carveout ≠ none →
    isAt (ImportPc.fills pc) k = 1 ∨
      h.alloc = false ∧ h.carveout ≠ none ∧
        isAt (ImportPc.fills c.pc) k = isAt (ImportPc.fills pc) k

/-- **A part of a call keeps the invariant.** -/
theorem advance_inv {freed : List ℕ} {n : ℕ} (hinv : ImportInv s) (hc : s.calls[t]? = some c)
    (hk : s.handles[k]? = some h) (hp : PartOk s c k h h' pc n freed) :
    ImportInv { s.advance t c k h' pc with nextBlock := n, freed := freed } := by
  have hcount (f : ImportPc → Option ℕ) (j : ℕ) :
      callsWith f { s.advance t c k h' pc with nextBlock := n, freed := freed } j +
        isAt (f c.pc) j = callsWith f s j + isAt (f pc) j :=
    callsWith_set f hc j _ _ _
  refine ⟨?_, ?_, ?_, ?_, ?_, ?_, ?_⟩
  · intro b
    have howners := hinv.blocks b
    have hhandles := countP_set_of_getElem (fun h => decide (h.carveout = some b)) hk h'
    have hcalls := hcount ImportPc.hand b
    have hblocks := hp.blocks b
    unfold ownersOf at howners ⊢
    unfold callsWith isAt at hcalls
    unfold isAt below at hblocks
    unfold IvmImport.advance at hcalls ⊢
    dsimp only at hcalls hhandles hblocks ⊢
    omega
  · intro j hj hget
    have hholds := hcount ImportPc.holds j
    rcases getElem?_set_cases hget with ⟨rfl, rfl⟩ | ⟨hjk, hold⟩
    · have href := hinv.references j h hk
      have := hp.refs
      omega
    · have href := hinv.references j hj hold
      have := hp.holds j hjk
      omega
  · intro j hj hget
    have hholds := hcount ImportPc.holdsFile j
    rcases getElem?_set_cases hget with ⟨rfl, rfl⟩ | ⟨hjk, hold⟩
    · have href := hinv.files j h hk
      have := hp.fileRefs
      omega
    · have href := hinv.files j hj hold
      have := hp.holdsFile j hjk
      omega
  · intro j hj hget
    rcases getElem?_set_cases hget with ⟨rfl, rfl⟩ | ⟨hjk, hold⟩
    · exact hp.handle
    · exact hinv.handles j hj hold
  · intro u d hget
    rcases getElem?_set_cases hget with ⟨rfl, rfl⟩ | ⟨hut, hold⟩
    · exact ⟨fun _ => hp.named, hp.call⟩
    obtain ⟨hne, hok⟩ := hinv.calls u d hold
    refine ⟨hne, callOk_set hk hp.id ?_ hne hok⟩
    intro hfill
    apply hp.others
    -- two calls do not fill one handle
    by_contra hboth
    have hone := hinv.filled k
    have hperm := (perm_of_getElem hc).countP_eq fun c => decide (ImportPc.fills c.pc = some k)
    have hmem : d ∈ s.calls.eraseIdx t := by
      rw [List.mem_eraseIdx_iff_getElem?]
      exact ⟨u, hut, hold⟩
    have hpos : 0 < (s.calls.eraseIdx t).countP fun c => decide (ImportPc.fills c.pc = some k) :=
      List.countP_pos_iff.mpr ⟨d, hmem, decide_eq_true hfill⟩
    unfold isAt at hboth
    unfold callsWith at hone
    rw [List.countP_cons] at hperm
    cases hfc : decide (ImportPc.fills c.pc = some k) with
    | true =>
      rw [if_pos hfc] at hperm
      omega
    | false =>
      rw [hfc] at hboth
      exact hboth rfl
  · intro j
    have hcnt := hcount ImportPc.fills j
    have := hp.fills j
    omega
  · intro j hj hget halloc hcarve
    have hcnt := hcount ImportPc.fills j
    rcases getElem?_set_cases hget with ⟨rfl, rfl⟩ | ⟨hjk, hold⟩
    · rcases hp.unfinished halloc hcarve with hfill | ⟨halloc', hcarve', hsame⟩
      · have hpos := countP_pos_of_getElem (p := fun c => decide (ImportPc.fills c.pc = some j))
          (getElem?_set_self_of_getElem hc { c with pc := pc }) (by
            unfold isAt at hfill
            cases hd : decide (ImportPc.fills pc = some j) with
            | true => rfl
            | false => rw [hd] at hfill; cases hfill)
        exact hpos
      · have := hinv.unfinished j h hk halloc' hcarve'
        omega
    · have := hinv.unfinished j hj hold halloc hcarve
      have := hp.fillsElse j hjk
      omega

theorem callOnly_inv {freed : List ℕ} (hinv : ImportInv s) (hc : s.calls[t]? = some c)
    (hblocks : ∀ b, isAt pc.hand b + freed.count b = isAt c.pc.hand b + s.freed.count b)
    (hholds : ∀ j, isAt c.pc.holds j = isAt pc.holds j) (hfiles : ∀ j, isAt c.pc.holdsFile j = isAt pc.holdsFile j)
    (hfills : ∀ j, isAt (ImportPc.fills c.pc) j = isAt (ImportPc.fills pc) j)
    (hnamed : ImportPc.named pc = false) (hcall : CallOk s.handles { c with pc := pc }) :
    ImportInv { s with calls := s.calls.set t { c with pc := pc }, freed := freed } := by
  have hcount (f : ImportPc → Option ℕ) (j : ℕ) :
      callsWith f { s with calls := s.calls.set t { c with pc := pc }, freed := freed } j +
        isAt (f c.pc) j = callsWith f s j + isAt (f pc) j :=
    callsWith_set f hc j _ _ _
  refine ⟨?_, ?_, ?_, hinv.handles, ?_, ?_, ?_⟩
  · intro b
    have howners := hinv.blocks b
    have hcalls := hcount ImportPc.hand b
    have := hblocks b
    unfold ownersOf at howners ⊢
    unfold callsWith at hcalls
    dsimp only at hcalls ⊢
    omega
  · intro j hj hget
    have := hinv.references j hj hget
    have := hcount ImportPc.holds j
    have := hholds j
    omega
  · intro j hj hget
    have := hinv.files j hj hget
    have := hcount ImportPc.holdsFile j
    have := hfiles j
    omega
  · intro u d hget
    rcases getElem?_set_cases hget with ⟨rfl, rfl⟩ | ⟨_, hold⟩
    · exact ⟨fun hyes => absurd (hyes.symm.trans hnamed) (by decide), hcall⟩
    · exact hinv.calls u d hold
  · intro j
    have := hinv.filled j
    have := hcount ImportPc.fills j
    have := hfills j
    omega
  · intro j hj hget halloc hcarve
    have := hinv.unfinished j hj hget halloc hcarve
    have := hcount ImportPc.fills j
    have := hfills j
    omega

theorem handle_inv {freed : List ℕ} (hinv : ImportInv s) (hk : s.handles[k]? = some h)
    (hblocks : ∀ b, isAt h'.carveout b + freed.count b = isAt h.carveout b + s.freed.count b)
    (hrefs : h'.ref + h.others + h.dmabuf.toNat = h.ref + h'.others + h'.dmabuf.toNat)
    (hfiles : h'.fileCount + h.fileOthers = h.fileCount + h'.fileOthers)
    (hok : HandleOk h') (hid : h'.ivmId = h.ivmId) (halloc : h'.alloc = h.alloc)
    (hcarve : h.carveout = none → h'.carveout = none) :
    ImportInv { s with handles := s.handles.set k h', freed := freed } := by
  refine ⟨?_, ?_, ?_, ?_, ?_, hinv.filled, ?_⟩
  · intro b
    have howners := hinv.blocks b
    have hhandles := countP_set_of_getElem (fun h => decide (h.carveout = some b)) hk h'
    have := hblocks b
    unfold isAt at this
    unfold ownersOf at howners ⊢
    dsimp only at hhandles this ⊢
    omega
  · intro j hj hget
    change hj.ref = hj.others + hj.dmabuf.toNat + callsWith ImportPc.holds s j
    rcases getElem?_set_cases hget with ⟨rfl, rfl⟩ | ⟨_, hold⟩
    · have := hinv.references j h hk
      omega
    · exact hinv.references j hj hold
  · intro j hj hget
    change hj.fileCount = hj.fileOthers + callsWith ImportPc.holdsFile s j
    rcases getElem?_set_cases hget with ⟨rfl, rfl⟩ | ⟨_, hold⟩
    · have := hinv.files j h hk
      omega
    · exact hinv.files j hj hold
  · intro j hj hget
    rcases getElem?_set_cases hget with ⟨rfl, rfl⟩ | ⟨_, hold⟩
    · exact hok
    · exact hinv.handles j hj hold
  · intro u d hget
    obtain ⟨hne, hcall⟩ := hinv.calls u d hget
    exact ⟨hne, callOk_set hk (fun _ => hid) (fun _ => ⟨hid, hcarve⟩) hne hcall⟩
  · intro j hj hget hno hsome
    rcases getElem?_set_cases hget with ⟨rfl, rfl⟩ | ⟨_, hold⟩
    · exact hinv.unfinished j h hk (halloc ▸ hno) (fun h0 => hsome (hcarve h0))
    · exact hinv.unfinished j hj hold hno hsome

end

section

variable {s s' : IvmImport} {t k : ℕ} {id : U64} {pc : ImportPc} {h : IvmHandle}
  {block : Option ℕ}

theorem ref_pos (hinv : ImportInv s) (hc : s.calls[t]? = some ⟨id, pc⟩)
    (hk : s.handles[k]? = some h) (hholds : pc.holds = some k) : h.others + h.dmabuf.toNat < h.ref := by
  have hpos := countP_pos_of_getElem (p := fun c => decide (c.pc.holds = some k)) hc
    (decide_eq_true hholds)
  have href := hinv.references k h hk
  unfold callsWith at href
  omega

theorem file_pos (hinv : ImportInv s) (hc : s.calls[t]? = some ⟨id, pc⟩)
    (hk : s.handles[k]? = some h) (hholds : pc.holdsFile = some k) : h.fileOthers < h.fileCount := by
  have hpos := countP_pos_of_getElem (p := fun c => decide (c.pc.holdsFile = some k)) hc
    (decide_eq_true hholds)
  have href := hinv.files k h hk
  unfold callsWith at href
  omega

theorem handleOk_put (hok : HandleOk h) : HandleOk h.put := by
  unfold IvmHandle.put
  refine ⟨hok.typed, hok.noFile, ?_, ?_⟩
  all_goals
    intro hfree
    dsimp only at hfree ⊢
    by_cases hone : h.ref = 1
  · omega
  · rw [if_neg hone] at hfree
    have := hok.dead hfree
    omega
  · rw [if_pos hone] at hfree
    cases hfree
  · rw [if_neg hone] at hfree
    exact hok.gone hfree

theorem alive_of_holds (hinv : ImportInv s) (hc : s.calls[t]? = some ⟨id, pc⟩)
    (hk : s.handles[k]? = some h) (hholds : pc.holds = some k) : h.freePc ≠ .gone := by
  intro hgone
  have href := ref_pos hinv hc hk hholds
  have := (hinv.handles k h hk).dead (by rw [hgone]; simp)
  omega

theorem partOk_of_keep {c : ImportCall} {h' : IvmHandle} {pc' : ImportPc} (hinv : ImportInv s)
    (hnamed : c.ivmId ≠ 0) (hfills : ImportPc.fills c.pc = none) (hfills' : ImportPc.fills pc' = none)
    (hblocks : ∀ b, isAt h'.carveout b + isAt pc'.hand b = isAt h.carveout b + isAt c.pc.hand b)
    (hrefs : h'.ref + h.others + h.dmabuf.toNat + isAt c.pc.holds k =
      h.ref + h'.others + h'.dmabuf.toNat + isAt pc'.holds k)
    (hholds : ∀ j, j ≠ k → isAt c.pc.holds j = isAt pc'.holds j)
    (hfiles : h'.fileCount + h.fileOthers + isAt c.pc.holdsFile k =
      h.fileCount + h'.fileOthers + isAt pc'.holdsFile k)
    (hholdsFile : ∀ j, j ≠ k → isAt c.pc.holdsFile j = isAt pc'.holdsFile j)
    (hok : HandleOk h') (hid : h'.ivmId = h.ivmId) (halloc : h'.alloc = h.alloc)
    (hcarve : h.carveout = none → h'.carveout = none) (hcall : CallOk (s.handles.set k h') { c with pc := pc' }) :
    PartOk s c k h h' pc' s.nextBlock s.freed where
  blocks := fun b => by
    have := hblocks b
    omega
  refs := hrefs
  holds := hholds
  fileRefs := hfiles
  holdsFile := hholdsFile
  handle := hok
  named := hnamed
  id := fun _ => hid
  others := fun _ => ⟨hid, hcarve⟩
  call := hcall
  fills := fun j => by
    rw [hfills, hfills']
    exact hinv.filled j
  fillsElse := fun j _ => by rw [hfills, hfills']
  unfinished := fun hno hsome =>
    Or.inr ⟨halloc ▸ hno, fun h0 => hsome (hcarve h0), by rw [hfills, hfills']⟩

theorem lookupStep_inv {choice : Option ℕ} (hinv : ImportInv s)
    (hc : s.calls[t]? = some ⟨id, .lookup⟩) (hid : choice ≠ none → id ≠ 0)
    (hstep : lookupStep s t ⟨id, .lookup⟩ choice = some s') : ImportInv s' := by
  cases choice with
  | none =>
    unfold lookupStep at hstep
    dsimp only at hstep
    split at hstep
    · cases hstep
      exact callOnly_inv hinv hc (fun _ => rfl) (fun _ => rfl) (fun _ => rfl) (fun _ => rfl) rfl trivial
    · cases hstep
  | some k =>
    obtain ⟨h, hk, hh⟩ := Option.bind_eq_some_iff.mp hstep
    split at hh
    case isFalse => cases hh
    case isTrue hmatch =>
      cases hh
      have hok := hinv.handles k h hk
      split_ifs with hzero
      · refine advance_inv hinv hc hk (partOk_of_keep hinv (hid (by simp)) rfl rfl ?_ ?_ ?_ ?_ ?_ ?_ rfl rfl ?_ ?_)
        · exact fun b => Nat.add_comm _ _
        · rfl
        · exact fun _ _ => rfl
        · rfl
        · exact fun _ _ => rfl
        · exact ⟨hok.typed, hok.noFile, hok.dead, fun _ => rfl⟩
        · exact fun _ => rfl
        · exact trivial
      refine advance_inv hinv hc hk (partOk_of_keep hinv (hid (by simp)) rfl rfl ?_ ?_ ?_ ?_ ?_ ?_ rfl rfl ?_ ?_)
      · exact fun b => rfl
      · simp only [ivmidGet, ImportPc.holds, isAt_none, isAt_self]
        omega
      · exact fun j hj => (isAt_of_ne hj).symm
      · rfl
      · exact fun _ _ => rfl
      · refine ⟨hok.typed, hok.noFile, fun hfree => absurd (hok.dead hfree) hzero, hok.gone⟩
      · exact fun hnone => hnone
      · exact ⟨ivmidGet h, getElem?_set_self_of_getElem hk _, hmatch.2⟩

theorem foundStep_inv (hinv : ImportInv s) (hc : s.calls[t]? = some ⟨id, .found k⟩)
    (hk : s.handles[k]? = some h) : ImportInv (foundStep s t ⟨id, .found k⟩ k h) := by
  have hok := hinv.handles k h hk
  obtain ⟨hnamed, hd, hk', hid⟩ := hinv.calls t _ hc
  obtain rfl := Option.some.inj (hk.symm.trans hk')
  unfold foundStep
  split
  case isTrue hfile =>
    refine advance_inv hinv hc hk (partOk_of_keep hinv (hnamed rfl) rfl rfl ?_ ?_ ?_ ?_ ?_ ?_ rfl rfl ?_ ?_)
    · exact fun b => rfl
    · rfl
    · exact fun _ _ => rfl
    · simp only [ivmidGetFile, ImportPc.holdsFile, isAt_none, isAt_self]
      omega
    · exact fun j hj => (isAt_of_ne hj).symm
    · refine ⟨hok.typed, fun hno => ?_, hok.dead, hok.gone⟩
      unfold ivmidHasFile at hfile
      rw [show h.dmabuf = false from hno] at hfile
      cases hfile
    · exact fun hnone => hnone
    · exact ⟨ivmidGetFile h, getElem?_set_self_of_getElem hk _, hid⟩
  case isFalse =>
    refine advance_inv hinv hc hk (partOk_of_keep hinv (hnamed rfl) rfl rfl ?_ ?_ ?_ ?_ ?_ ?_ rfl rfl ?_ ?_)
    · exact fun b => Nat.add_comm _ _
    · rfl
    · exact fun _ _ => rfl
    · rfl
    · exact fun _ _ => rfl
    · exact ⟨hok.typed, hok.noFile, hok.dead, fun _ => rfl⟩
    · exact fun _ => rfl
    · exact ⟨ivmidStrip h, getElem?_set_self_of_getElem hk _, hid⟩

/-- **The duplication**, when it succeeds. -/
theorem dupStep_inv {hasRef mem : Bool} (hinv : ImportInv s)
    (hc : s.calls[t]? = some ⟨id, .dup k block⟩) (hk : s.handles[k]? = some h)
    (halloc : h.alloc = true) (hmem : hasRef = true ∨ mem = true) :
    ImportInv (dupStep s t ⟨id, .dup k block⟩ k block h hasRef mem) := by
  have hok := hinv.handles k h hk
  obtain ⟨hnamed, hd, hk', hid⟩ := hinv.calls t _ hc
  obtain rfl := Option.some.inj (hk.symm.trans hk')
  have hfile := file_pos hinv hc hk rfl
  have hdmabuf : h.dmabuf = true := by
    cases hd : h.dmabuf with
    | true => rfl
    | false =>
      have := hok.noFile hd
      omega
  have hresult : ∃ newRef, duplicateHandle h hasRef mem = .ok newRef := by
    unfold duplicateHandle
    rcases hmem with rfl | rfl
    · exact ⟨false, by simp [halloc]⟩
    · cases hasRef with
      | true => exact ⟨false, by simp [halloc]⟩
      | false => exact ⟨true, by simp [halloc, hdmabuf]⟩
  obtain ⟨newRef, hnew⟩ := hresult
  unfold dupStep
  rw [hnew]
  refine advance_inv hinv hc hk (partOk_of_keep hinv (hnamed rfl) rfl rfl ?_ ?_ ?_ ?_ ?_ ?_ ?_ ?_ ?_ ?_)
  · cases newRef <;> exact fun b => rfl
  · cases newRef <;> rfl
  · exact fun _ _ => rfl
  · cases newRef with
    | true =>
      simp only [duplicated, if_true, IvmHandle.putFile, ImportPc.holdsFile, isAt_self]
      omega
    | false =>
      simp only [duplicated, Bool.false_eq_true, if_false, IvmHandle.putFile, ImportPc.holdsFile,
        isAt_none, isAt_self]
      omega
  · cases newRef with
    | true => exact fun _ _ => rfl
    | false => exact fun j hj => isAt_of_ne hj
  · cases newRef <;>
      exact ⟨hok.typed, fun hno => absurd (hdmabuf.symm.trans hno) (by decide), hok.dead, hok.gone⟩
  · cases newRef <;> rfl
  · cases newRef <;> rfl
  · cases newRef <;> exact fun hnone => hnone
  · refine ⟨duplicated h newRef, getElem?_set_self_of_getElem hk _, ?_⟩
    cases newRef <;> exact hid

theorem stripStep_inv (hinv : ImportInv s) (hc : s.calls[t]? = some ⟨id, .strip k block⟩)
    (hk : s.handles[k]? = some h) : ImportInv (s.advance t ⟨id, .strip k block⟩ k h.put (.create block)) := by
  have href := ref_pos hinv hc hk rfl
  obtain ⟨hnamed, _⟩ := hinv.calls t _ hc
  refine advance_inv hinv hc hk (partOk_of_keep hinv (hnamed rfl) rfl rfl ?_ ?_ ?_ ?_ ?_ ?_ rfl rfl ?_ ?_)
  · exact fun b => rfl
  · simp only [IvmHandle.put, ImportPc.holds, isAt_none, isAt_self]
    omega
  · exact fun j hj => isAt_of_ne hj
  · rfl
  · exact fun _ _ => rfl
  · exact handleOk_put (hinv.handles k h hk)
  · exact fun hnone => hnone
  · exact trivial

end

section

variable {s : IvmImport} {t k : ℕ} {id : U64} {pc : ImportPc} {c : ImportCall} {h : IvmHandle}
  {block : Option ℕ}

theorem handle_of_callOk {handles : List IvmHandle} (hok : CallOk handles c)
    (hk : c.pc.holds = some k ∨ c.pc.holdsFile = some k ∨ ImportPc.fills c.pc = some k) : k < handles.length := by
  obtain ⟨id, pc⟩ := c
  cases pc with
  | lookup | create block | returned handle => rcases hk with hk | hk | hk <;> cases hk
  | found j | dup j block | strip j block | allocBlock j | storeId j block | storeBlock j block | storeAlloc j =>
    obtain ⟨h, hget, _⟩ := hok
    rcases hk with hk | hk | hk <;> cases hk <;> exact lt_of_getElem hget
  | install j newRef =>
    obtain ⟨h, hget, _⟩ := hok
    cases newRef <;> rcases hk with hk | hk | hk <;> cases hk <;> exact lt_of_getElem hget

theorem callsWith_new (hinv : ImportInv s) : callsWith ImportPc.holds s s.handles.length = 0 ∧
      callsWith ImportPc.holdsFile s s.handles.length = 0 ∧ callsWith ImportPc.fills s s.handles.length = 0 := by
  have hnone : ∀ f : ImportPc → Option ℕ, (∀ (pc : ImportPc) (k : ℕ), f pc = some k →
      pc.holds = some k ∨ pc.holdsFile = some k ∨ ImportPc.fills pc = some k) →
      callsWith f s s.handles.length = 0 := by
    intro f hf
    apply List.countP_eq_zero.mpr
    intro c hc hsome
    obtain ⟨t, ht⟩ := List.getElem?_of_mem hc
    exact absurd (handle_of_callOk (hinv.calls t c ht).2 (hf _ _ (of_decide_eq_true hsome))) (Nat.lt_irrefl _)
  exact ⟨hnone _ fun _ _ hk => .inl hk, hnone _ fun _ _ hk => .inr (.inl hk), hnone _ fun _ _ hk => .inr (.inr hk)⟩

theorem callOk_append {handles : List IvmHandle} (h : IvmHandle) (hok : CallOk handles c) :
    CallOk (handles ++ [h]) c := by
  have hkeep : ∀ (k : ℕ) (p : IvmHandle → Prop), (∃ x, handles[k]? = some x ∧ p x) →
      ∃ x, (handles ++ [h])[k]? = some x ∧ p x := by
    rintro k p ⟨x, hx, hp⟩
    refine ⟨x, ?_, hp⟩
    rw [List.getElem?_append_left (lt_of_getElem hx)]
    exact hx
  obtain ⟨id, pc⟩ := c
  cases pc with
  | lookup | create block => trivial
  | found j | dup j block | strip j block | install j newRef | storeAlloc j =>
    exact hkeep j (fun x => x.ivmId = id) hok
  | allocBlock j => exact hkeep j (fun x => x.ivmId = 0 ∧ x.carveout = none) hok
  | storeId j block => exact hkeep j (fun x => x.ivmId = 0 ∧ (block ≠ none → x.carveout = none)) hok
  | storeBlock j block =>
    exact hkeep j (fun x => x.ivmId = id ∧ (block ≠ none → x.carveout = none)) hok
  | returned handle =>
    cases handle with
    | none => trivial
    | some j => exact hkeep j (fun x => x.ivmId = id) hok

theorem newHandle_inv {n : ℕ} (hinv : ImportInv s)
    (hblocks : ∀ b, isAt h.carveout b + below b s.nextBlock = below b n)
    (href : h.ref = h.others + h.dmabuf.toNat) (hfile : h.fileCount = h.fileOthers)
    (hok : HandleOk h) (halloc : h.alloc = false → h.carveout = none) :
    ImportInv { s with handles := s.handles ++ [h], nextBlock := n } := by
  obtain ⟨hholds, hholdsFile, _⟩ := callsWith_new hinv
  refine ⟨?_, ?_, ?_, ?_, ?_, hinv.filled, ?_⟩
  · intro b
    have howners := hinv.blocks b
    have hhandles := countP_concat (fun h => decide (h.carveout = some b)) s.handles h
    have := hblocks b
    unfold isAt below at this
    unfold ownersOf at howners ⊢
    dsimp only at hhandles this ⊢
    omega
  · intro j hj hget
    change hj.ref = hj.others + hj.dmabuf.toNat + callsWith ImportPc.holds s j
    rcases getElem?_concat_cases hget with ⟨rfl, rfl⟩ | hold
    · omega
    · exact hinv.references j hj hold
  · intro j hj hget
    change hj.fileCount = hj.fileOthers + callsWith ImportPc.holdsFile s j
    rcases getElem?_concat_cases hget with ⟨rfl, rfl⟩ | hold
    · omega
    · exact hinv.files j hj hold
  · intro j hj hget
    rcases getElem?_concat_cases hget with ⟨rfl, rfl⟩ | hold
    · exact hok
    · exact hinv.handles j hj hold
  · intro u d hget
    obtain ⟨hne, hcall⟩ := hinv.calls u d hget
    exact ⟨hne, callOk_append h hcall⟩
  · intro j hj hget hno hsome
    rcases getElem?_concat_cases hget with ⟨rfl, rfl⟩ | hold
    · exact absurd (halloc hno) hsome
    · exact hinv.unfinished j hj hold hno hsome

end

section

variable {s s' : IvmImport} {t k : ℕ} {id : U64} {h : IvmHandle} {block : Option ℕ}

theorem partOk_of_fill {c : ImportCall} {h' : IvmHandle} {pc' : ImportPc} {n : ℕ}
    (hinv : ImportInv s) (hnamed : c.ivmId ≠ 0) (hfills : ImportPc.fills c.pc = some k) (hholds : c.pc.holds = some k)
    (hfile : c.pc.holdsFile = some k) (hholds' : pc'.holds = some k) (hfile' : pc'.holdsFile = some k)
    (hfills' : ImportPc.fills pc' = some k ∨ ImportPc.fills pc' = none ∧ h'.alloc = true)
    (hblocks : ∀ b, isAt h'.carveout b + isAt pc'.hand b + below b s.nextBlock =
      isAt h.carveout b + isAt c.pc.hand b + below b n)
    (hrefs : h'.ref + h.others + h.dmabuf.toNat = h.ref + h'.others + h'.dmabuf.toNat)
    (hfiles : h'.fileCount + h.fileOthers = h.fileCount + h'.fileOthers)
    (hok : HandleOk h') (hid : h.ivmId ≠ 0 → h'.ivmId = h.ivmId)
    (hcall : CallOk (s.handles.set k h') { c with pc := pc' }) :
    PartOk s c k h h' pc' n s.freed where
  blocks := fun b => by
    have := hblocks b
    omega
  refs := by
    rw [hholds, hholds']
    omega
  holds := fun j _ => by rw [hholds, hholds']
  fileRefs := by
    rw [hfile, hfile']
    omega
  holdsFile := fun j _ => by rw [hfile, hfile']
  handle := hok
  named := hnamed
  id := hid
  others := fun hno => by
    rw [hfills, isAt_self] at hno
    cases hno
  call := hcall
  fills := fun j => by
    have := hinv.filled j
    rcases hfills' with hsome | ⟨hnone, _⟩
    · rw [hfills, hsome]
      omega
    · rw [hfills, hnone, isAt_none]
      omega
  fillsElse := fun j hj => by
    rcases hfills' with hsome | ⟨hnone, _⟩
    · rw [hfills, hsome]
    · rw [hfills, hnone, isAt_none, isAt_of_ne hj]
  unfinished := fun hno _ => by
    rcases hfills' with hsome | ⟨_, halloc⟩
    · rw [hsome]
      exact Or.inl (isAt_self k)
    · rw [hno] at halloc
      cases halloc

theorem below_succ (b n : ℕ) : isAt (some n) b + below b n = below b (n + 1) := by
  unfold isAt below
  by_cases hbn : n = b
  · simp [hbn]
  by_cases hlt : b < n
  · simp [hbn, hlt, Nat.lt_succ_of_lt hlt]
  · have : ¬ b < n + 1 := by omega
    simp [hbn, hlt, this]

theorem count_returned (block : Option ℕ) (b : ℕ) (freed : List ℕ) :
    isAt none b + (freed ++ block.toList).count b = isAt block b + freed.count b := by
  cases block with
  | none => simp
  | some x =>
    simp only [isAt, Option.toList_some, Option.some.injEq]
    by_cases hx : x = b
    · simp [hx]
      omega
    · simp [hx]

/-- The handle that the call is going to fill belongs to others until the call has it. -/
theorem makeHandleStep_inv {mem : Bool} (hinv : ImportInv s) (hc : s.calls[t]? = some ⟨id, .create block⟩) :
    ImportInv (makeHandleStep s t ⟨id, .create block⟩ block mem) := by
  unfold makeHandleStep
  split
  case isTrue hsize =>
    have hid : id ≠ 0 := by
      intro hzero
      rw [hzero] at hsize
      exact hsize.2 (show (0 : U64) &&& 0xffff = 0 by decide)
    let h : IvmHandle := { createdHandle with others := 1, fileOthers := 1 }
    have hnew : ImportInv { s with handles := s.handles ++ [h], nextBlock := s.nextBlock } := by
      apply newHandle_inv hinv
      · exact fun b => Nat.zero_add _
      · rfl
      · rfl
      · exact ⟨fun hne => absurd rfl hne, nofun, fun hno => absurd rfl hno, fun _ => rfl⟩
      · exact fun _ => rfl
    have hget : (s.handles ++ [h])[s.handles.length]? = some h := by
      rw [List.getElem?_append_right (Nat.le_refl _), Nat.sub_self]
      rfl
    have hset : (s.handles ++ [h]).set s.handles.length createdHandle = s.handles ++ [createdHandle] := by
      rw [List.set_append_right _ _ (Nat.le_refl _), Nat.sub_self]
      rfl
    have hlast : (s.handles ++ [createdHandle])[s.handles.length]? = some createdHandle := by
      rw [← hset]
      exact getElem?_set_self_of_getElem hget _
    -- what is the same whether the block is there or not
    have hpart : ∀ pc : ImportPc, pc.hand = block → pc.holds = some s.handles.length →
        pc.holdsFile = some s.handles.length → ImportPc.fills pc = some s.handles.length →
        CallOk (s.handles ++ [createdHandle]) ⟨id, pc⟩ →
        PartOk { s with handles := s.handles ++ [h] } ⟨id, .create block⟩ s.handles.length h
          createdHandle pc s.nextBlock s.freed := by
      intro pc hhand hholds hfile hfills hcall
      refine ⟨?_, ?_, ?_, ?_, ?_, ?_, hid, ?_, ?_, ?_, ?_, ?_, ?_⟩
      · intro b
        rw [hhand]
        rfl
      · rw [hholds, isAt_self]
        rfl
      · intro j hj
        rw [hholds, isAt_of_ne hj]
        rfl
      · rw [hfile, isAt_self]
        rfl
      · intro j hj
        rw [hfile, isAt_of_ne hj]
        rfl
      · exact ⟨fun hne => absurd rfl hne, nofun, fun hno => absurd rfl hno, fun _ => rfl⟩
      · exact fun hne => absurd rfl hne
      · exact fun _ => ⟨rfl, fun _ => rfl⟩
      · rw [hset]
        exact hcall
      · intro j
        rw [hfills]
        change callsWith ImportPc.fills s j + isAt (some s.handles.length) j ≤ 1
        by_cases hj : j = s.handles.length
        · rw [hj, (callsWith_new hinv).2.2, isAt_self]
        · rw [isAt_of_ne hj]
          exact hinv.filled j
      · intro j hj
        rw [hfills, isAt_of_ne hj]
        rfl
      · intro _ _
        rw [hfills]
        exact Or.inl (isAt_self _)
    have hstep : ∀ pc : ImportPc,
        PartOk { s with handles := s.handles ++ [h] } ⟨id, .create block⟩ s.handles.length h
          createdHandle pc s.nextBlock s.freed →
        ImportInv { s with
          handles := s.handles ++ [createdHandle]
          calls := s.calls.set t { (⟨id, .create block⟩ : ImportCall) with pc := pc } } := by
      intro pc hp
      have hadv := advance_inv hnew hc hget hp
      unfold IvmImport.advance at hadv
      rw [hset] at hadv
      exact hadv
    cases block with
    | none =>
      apply hstep
      apply hpart _ rfl rfl rfl rfl
      exact ⟨createdHandle, hlast, rfl, rfl⟩
    | some b =>
      apply hstep
      apply hpart _ rfl rfl rfl rfl
      exact ⟨createdHandle, hlast, rfl, fun _ => rfl⟩
  case isFalse =>
    apply callOnly_inv hinv hc
    · exact fun b => count_returned block b s.freed
    · exact fun _ => rfl
    · exact fun _ => rfl
    · exact fun _ => rfl
    · rfl
    · exact trivial

theorem handleOk_free {lastDupe : Bool} (hok : HandleOk h) : HandleOk (freeHandle h lastDupe) := by
  cases lastDupe with
  | true =>
    apply handleOk_put (h := h.putFile)
    refine ⟨hok.typed, fun hno => ?_, hok.dead, hok.gone⟩
    have := hok.noFile hno
    unfold IvmHandle.putFile
    dsimp only
    omega
  | false => exact handleOk_put hok

theorem allocBlockStep_inv {room : Bool} (hinv : ImportInv s)
    (hc : s.calls[t]? = some ⟨id, .allocBlock k⟩) (hk : s.handles[k]? = some h) :
    ImportInv (allocBlockStep s t ⟨id, .allocBlock k⟩ k h room) := by
  have hok := hinv.handles k h hk
  obtain ⟨hnamed, hd, hk', hid, hcarve⟩ := hinv.calls t _ hc
  obtain rfl := Option.some.inj (hk.symm.trans hk')
  cases room with
  | true =>
    have halive := alive_of_holds hinv hc hk rfl
    refine advance_inv hinv hc hk (?_ : PartOk s _ k h _ _ (s.nextBlock + 1) s.freed)
    apply partOk_of_fill hinv (hnamed rfl) rfl rfl rfl rfl rfl (Or.inl rfl)
    · intro b
      rw [hcarve, ← below_succ b s.nextBlock]
      simp only [ImportPc.hand, isAt_none]
      omega
    · rfl
    · rfl
    · exact ⟨hok.typed, hok.noFile, hok.dead, fun hgone => absurd hgone halive⟩
    · exact fun _ => rfl
    · exact ⟨_, getElem?_set_self_of_getElem hk _, hid, fun hne => absurd rfl hne⟩
  | false =>
    have href := ref_pos hinv hc hk rfl
    have hfile := file_pos hinv hc hk rfl
    apply advance_inv hinv hc hk
    refine ⟨?_, ?_, ?_, ?_, ?_, ?_, hnamed rfl, ?_, ?_, ?_, ?_, ?_, ?_⟩
    · exact fun b => rfl
    · simp only [freeHandle, if_true, IvmHandle.putFile, IvmHandle.put, ImportPc.holds, isAt_none, isAt_self]
      omega
    · exact fun j hj => isAt_of_ne hj
    · simp only [freeHandle, if_true, IvmHandle.putFile, IvmHandle.put, ImportPc.holdsFile, isAt_none, isAt_self]
      omega
    · exact fun j hj => isAt_of_ne hj
    · exact handleOk_free hok
    · exact fun _ => rfl
    · exact fun _ => ⟨rfl, fun hnone => hnone⟩
    · exact trivial
    · exact fun j => Nat.le_trans (hinv.filled j) (Nat.le_add_right _ _)
    · exact fun j hj => isAt_of_ne hj
    · exact fun _ hne => absurd hcarve hne

theorem storeId_inv (hinv : ImportInv s) (hc : s.calls[t]? = some ⟨id, .storeId k block⟩)
    (hk : s.handles[k]? = some h) : ImportInv (s.advance t ⟨id, .storeId k block⟩ k
      { h with heapType := nvmapHeapCarveoutIvm, ivmId := id } (.storeBlock k block)) := by
  have hok := hinv.handles k h hk
  obtain ⟨hnamed, hd, hk', hid, hcarve⟩ := hinv.calls t _ hc
  obtain rfl := Option.some.inj (hk.symm.trans hk')
  apply advance_inv hinv hc hk
  apply partOk_of_fill hinv (hnamed rfl) rfl rfl rfl rfl rfl (Or.inl rfl)
  · exact fun b => rfl
  · rfl
  · rfl
  · exact ⟨fun _ => rfl, hok.noFile, hok.dead, hok.gone⟩
  · exact fun hne => absurd hid hne
  · exact ⟨_, getElem?_set_self_of_getElem hk _, rfl, hcarve⟩

theorem storeBlock_inv (hinv : ImportInv s) (hc : s.calls[t]? = some ⟨id, .storeBlock k block⟩)
    (hk : s.handles[k]? = some h) : ImportInv (s.advance t ⟨id, .storeBlock k block⟩ k
      { h with carveout := block.or h.carveout } (.storeAlloc k)) := by
  have hok := hinv.handles k h hk
  obtain ⟨hnamed, hd, hk', hid, hcarve⟩ := hinv.calls t _ hc
  obtain rfl := Option.some.inj (hk.symm.trans hk')
  have halive := alive_of_holds hinv hc hk rfl
  apply advance_inv hinv hc hk
  apply partOk_of_fill hinv (hnamed rfl) rfl rfl rfl rfl rfl (Or.inl rfl)
  · intro b
    cases block with
    | none => rfl
    | some x =>
      rw [hcarve (by simp)]
      simp only [ImportPc.hand, Option.or, isAt_none]
      omega
  · rfl
  · rfl
  · exact ⟨hok.typed, hok.noFile, hok.dead, fun hgone => absurd hgone halive⟩
  · exact fun _ => rfl
  · exact ⟨_, getElem?_set_self_of_getElem hk _, hid⟩

theorem storeAlloc_inv (hinv : ImportInv s) (hc : s.calls[t]? = some ⟨id, .storeAlloc k⟩)
    (hk : s.handles[k]? = some h) :
    ImportInv (s.advance t ⟨id, .storeAlloc k⟩ k { h with alloc := true } (.install k true)) := by
  have hok := hinv.handles k h hk
  obtain ⟨hnamed, hd, hk', hid⟩ := hinv.calls t _ hc
  obtain rfl := Option.some.inj (hk.symm.trans hk')
  apply advance_inv hinv hc hk
  apply partOk_of_fill hinv (hnamed rfl) rfl rfl rfl rfl rfl (Or.inr ⟨rfl, rfl⟩)
  · exact fun b => rfl
  · rfl
  · rfl
  · exact ⟨hok.typed, hok.noFile, hok.dead, hok.gone⟩
  · exact fun _ => rfl
  · exact ⟨_, getElem?_set_self_of_getElem hk _, hid⟩

/-- **The end of an import**, when no reference is put twice. -/
theorem installStep_inv {newRef : Bool} {result : InstallResult} (hinv : ImportInv s)
    (hc : s.calls[t]? = some ⟨id, .install k newRef⟩) (hk : s.handles[k]? = some h)
    (hresult : result ≠ .idFailed ∧ result ≠ .noBuffer)
    (hstep : installStep s t ⟨id, .install k newRef⟩ k newRef h result = some s') : ImportInv s' := by
  have hok := hinv.handles k h hk
  obtain ⟨hnamed, hd, hk', hid⟩ := hinv.calls t _ hc
  obtain rfl := Option.some.inj (hk.symm.trans hk')
  have hfileAt : isAt (ImportPc.install k newRef).holdsFile k = newRef.toNat := by
    cases newRef with
    | true => exact isAt_self k
    | false => rfl
  have helse : ∀ j, j ≠ k → isAt (ImportPc.install k newRef).holdsFile j = 0 := by
    intro j hj
    cases newRef with
    | true => exact isAt_of_ne hj
    | false => rfl
  unfold installStep at hstep
  cases result with
  | installed fd =>
    dsimp only at hstep
    split at hstep
    case isFalse => cases hstep
    case isTrue hdmabuf =>
      cases hstep
      apply advance_inv hinv hc hk
      apply partOk_of_keep hinv (hnamed rfl) rfl rfl
      · exact fun b => rfl
      · simp only [ImportPc.holds, isAt_none, isAt_self]
        omega
      · exact fun j hj => isAt_of_ne hj
      · rw [hfileAt]
        simp only [ImportPc.holdsFile, isAt_none]
        omega
      · exact helse
      · exact ⟨hok.typed, fun hno => absurd (hdmabuf.symm.trans hno) (by decide), hok.dead,
          hok.gone⟩
      · rfl
      · rfl
      · exact fun hnone => hnone
      · exact ⟨_, getElem?_set_self_of_getElem hk _, hid⟩
  | idFailed => exact absurd rfl hresult.1
  | noBuffer => exact absurd rfl hresult.2
  | copyFailed =>
    have href := ref_pos hinv hc hk rfl
    dsimp only at hstep
    split at hstep
    case isFalse => cases hstep
    case isTrue =>
      cases hstep
      apply advance_inv hinv hc hk
      apply partOk_of_keep hinv (hnamed rfl) rfl rfl
      · cases newRef <;> exact fun b => rfl
      · cases newRef <;>
        · simp only [installFailed, freeHandle, if_true, Bool.false_eq_true, if_false,
            IvmHandle.putFile, IvmHandle.put, ImportPc.holds, isAt_none, isAt_self]
          omega
      · exact fun j hj => isAt_of_ne hj
      · rw [hfileAt]
        cases newRef with
        | true =>
          have hfile := file_pos hinv hc hk rfl
          simp only [installFailed, freeHandle, if_true, Bool.false_eq_true, if_false,
            IvmHandle.putFile, IvmHandle.put, ImportPc.holdsFile, isAt_none, Bool.toNat_true]
          omega
        | false => rfl
      · exact helse
      · exact handleOk_free hok
      · cases newRef <;> rfl
      · cases newRef <;> rfl
      · cases newRef <;> exact fun hnone => hnone
      · exact trivial

end

section

variable {s s' : IvmImport} {t k : ℕ} {h h' : IvmHandle} {op : IvmImportOp}

/-- **What others do to a handle** keeps the invariant: they put only what they have. -/
theorem otherStep_inv (hinv : ImportInv s) (hk : s.handles[k]? = some h)
    (hstep : otherStep h op = some h') : ImportInv { s with handles := s.handles.set k h' } := by
  have hok := hinv.handles k h hk
  have href := hinv.references k h hk
  have hfile := hinv.files k h hk
  unfold otherStep at hstep
  split at hstep
  case h_1 =>
    obtain ⟨hpos, heq⟩ := Option.ite_none_right_eq_some.mp hstep
    cases heq
    apply handle_inv hinv hk
    · exact fun b => rfl
    · simp only [IvmHandle.put]
      omega
    · rfl
    · have hput := handleOk_put hok
      exact ⟨hput.typed, hput.noFile, hput.dead, hput.gone⟩
    · rfl
    · rfl
    · exact fun hnone => hnone
  case h_2 =>
    obtain ⟨hpos, heq⟩ := Option.ite_none_right_eq_some.mp hstep
    cases heq
    apply handle_inv hinv hk
    · exact fun b => rfl
    · dsimp only
      omega
    · rfl
    · refine ⟨hok.typed, hok.noFile, fun hfree => ?_, hok.gone⟩
      have := hok.dead hfree
      omega
    · rfl
    · rfl
    · exact fun hnone => hnone
  case h_3 =>
    obtain ⟨hpos, heq⟩ := Option.ite_none_right_eq_some.mp hstep
    cases heq
    apply handle_inv hinv hk
    · exact fun b => rfl
    · rfl
    · simp only [IvmHandle.putFile]
      omega
    · refine ⟨hok.typed, fun hno => ?_, hok.dead, hok.gone⟩
      have := hok.noFile hno
      omega
    · rfl
    · rfl
    · exact fun hnone => hnone
  case h_4 =>
    obtain ⟨hpos, heq⟩ := Option.ite_none_right_eq_some.mp hstep
    cases heq
    apply handle_inv hinv hk
    · exact fun b => rfl
    · rfl
    · dsimp only
      omega
    · refine ⟨hok.typed, fun hno => ?_, hok.dead, hok.gone⟩
      have := hok.noFile hno
      omega
    · rfl
    · rfl
    · exact fun hnone => hnone
  case h_5 =>
    obtain ⟨⟨hdmabuf, hzero⟩, heq⟩ := Option.ite_none_right_eq_some.mp hstep
    cases heq
    rw [hdmabuf, Bool.toNat_true] at href
    apply handle_inv hinv hk
    · exact fun b => rfl
    · simp only [IvmHandle.releaseDmabuf, IvmHandle.put, hdmabuf, Bool.toNat_true, Bool.toNat_false]
      omega
    · rfl
    · apply handleOk_put (h := { h with dmabuf := false })
      exact ⟨hok.typed, fun _ => hzero, hok.dead, hok.gone⟩
    · rfl
    · rfl
    · exact fun hnone => hnone
  case h_6 =>
    obtain ⟨_, heq⟩ := Option.ite_none_right_eq_some.mp hstep
    cases heq
    apply handle_inv hinv hk
    · exact fun b => rfl
    · rfl
    · rfl
    · exact ⟨hok.typed, hok.noFile, hok.dead, hok.gone⟩
    · rfl
    · rfl
    · exact fun hnone => hnone
  case h_7 => cases hstep

theorem noBlock_of_unfinished (hinv : ImportInv s) (hk : s.handles[k]? = some h) (hzero : h.ref = 0)
    (halloc : h.alloc = false) : h.carveout = none := by
  by_contra hsome
  have hpos := hinv.unfinished k h hk halloc hsome
  have href := hinv.references k h hk
  have hle : callsWith ImportPc.fills s k ≤ callsWith ImportPc.holds s k := by
    apply List.countP_mono_left
    intro c _ hfills
    have hfill := of_decide_eq_true hfills
    apply decide_eq_true
    cases hpc : c.pc <;> rw [hpc] at hfill <;> first | exact hfill | cases hfill
  omega

/-- **The free of a handle** gives its block back. -/
theorem freeStep_inv (hinv : ImportInv s) (hk : s.handles[k]? = some h)
    (hstep : freeStep s k h = some s') : ImportInv s' := by
  have hok := hinv.handles k h hk
  unfold freeStep at hstep
  split at hstep
  case h_1 hpc =>
    cases hstep
    have hzero := hok.dead (by rw [hpc]; simp)
    have hremove : handleRemove h = { h with inTree := false, freePc := .release } := by
      unfold handleRemove
      rw [if_neg (by omega)]
    rw [hremove]
    apply handle_inv hinv hk
    · exact fun b => rfl
    · rfl
    · rfl
    · exact ⟨hok.typed, hok.noFile, fun _ => hzero, nofun⟩
    · rfl
    · rfl
    · exact fun hnone => hnone
  case h_2 hpc =>
    have hzero := hok.dead (by rw [hpc]; simp)
    obtain ⟨r, hr, heq⟩ := Option.map_eq_some_iff.mp hstep
    rw [← heq]
    unfold handleRelease at hr
    split at hr
    case isTrue halloc =>
      cases hr
      have hnone := noBlock_of_unfinished hinv hk hzero (by simpa using halloc)
      apply handle_inv hinv hk
      · exact fun b => by rw [Option.toList_none, List.append_nil]
      · rfl
      · rfl
      · exact ⟨hok.typed, hok.noFile, fun _ => hzero, fun _ => hnone⟩
      · rfl
      · rfl
      · exact fun h0 => h0
    case isFalse =>
      obtain ⟨_, hsome⟩ := Option.ite_none_left_eq_some.mp hr
      cases hsome
      apply handle_inv hinv hk
      · exact fun b => count_returned h.carveout b s.freed
      · rfl
      · rfl
      · exact ⟨hok.typed, hok.noFile, fun _ => hzero, fun _ => rfl⟩
      · rfl
      · rfl
      · exact fun _ => rfl
  case h_3 => cases hstep

theorem begin_inv {id : U64} (hinv : ImportInv s) : ImportInv { s with calls := s.calls ++ [⟨id, .lookup⟩] } := by
  have hcount : ∀ (f : ImportPc → Option ℕ) (j : ℕ), f .lookup = none →
      callsWith f { s with calls := s.calls ++ [⟨id, .lookup⟩] } j = callsWith f s j := by
    intro f j hf
    unfold callsWith
    rw [List.countP_append, List.countP_singleton, hf]
    rfl
  refine ⟨?_, ?_, ?_, hinv.handles, ?_, ?_, ?_⟩
  · intro b
    have howners := hinv.blocks b
    have := hcount ImportPc.hand b rfl
    unfold callsWith at this
    unfold ownersOf at howners ⊢
    dsimp only at this ⊢
    omega
  · intro j hj hget
    rw [hcount _ _ rfl]
    exact hinv.references j hj hget
  · intro j hj hget
    rw [hcount _ _ rfl]
    exact hinv.files j hj hget
  · intro u d hget
    rcases getElem?_concat_cases hget with ⟨_, rfl⟩ | hold
    · exact ⟨nofun, trivial⟩
    · exact hinv.calls u d hold
  · intro j
    rw [hcount _ _ rfl]
    exact hinv.filled j
  · intro j hj hget hno hsome
    rw [hcount _ _ rfl]
    exact hinv.unfinished j hj hget hno hsome

theorem newHandleStep_inv {heapType : U32} {ivmId : U64} {hasBlock : Bool} (hinv : ImportInv s)
    (hstep : newHandleStep s heapType ivmId hasBlock = some s') : ImportInv s' := by
  obtain ⟨htyped, heq⟩ := Option.ite_none_right_eq_some.mp hstep
  cases heq
  apply newHandle_inv hinv
  · intro b
    cases hasBlock with
    | true => exact below_succ b s.nextBlock
    | false => exact Nat.zero_add _
  · rfl
  · rfl
  · exact ⟨htyped, nofun, fun hno => absurd rfl hno, nofun⟩
  · exact nofun

theorem importPartStep_inv {c : ImportCall} (hinv : ImportInv s) (hc : s.calls[t]? = some c)
    (hlookup : ∀ u choice, op = .lookup u choice → choice ≠ none → c.ivmId ≠ 0)
    (hdup : ∀ u hasRef mem, op = .dup u hasRef mem → ∀ k, c.pc.holds = some k →
      ∀ h : IvmHandle, s.handles[k]? = some h → h.alloc = true ∧ (hasRef = true ∨ mem = true))
    (hinstall : ∀ u result, op = .install u result → result ≠ .idFailed ∧ result ≠ .noBuffer)
    (hstep : importPartStep s t c op = some s') : ImportInv s' := by
  obtain ⟨id, pc⟩ := c
  cases op with
  | lookup u choice =>
    cases pc <;> try cases hstep
    exact lookupStep_inv hinv hc (hlookup u choice rfl) hstep
  | found u =>
    cases pc <;> try cases hstep
    obtain ⟨h, hk, heq⟩ := Option.map_eq_some_iff.mp hstep
    rw [← heq]
    exact foundStep_inv hinv hc hk
  | dup u hasRef mem =>
    cases pc <;> try cases hstep
    obtain ⟨h, hk, heq⟩ := Option.map_eq_some_iff.mp hstep
    rw [← heq]
    obtain ⟨halloc, hmem⟩ := hdup u hasRef mem rfl _ rfl h hk
    exact dupStep_inv hinv hc hk halloc hmem
  | strip u =>
    cases pc <;> try cases hstep
    obtain ⟨h, hk, heq⟩ := Option.map_eq_some_iff.mp hstep
    rw [← heq]
    exact stripStep_inv hinv hc hk
  | create u mem =>
    cases pc <;> try cases hstep
    exact makeHandleStep_inv hinv hc
  | allocBlock u room =>
    cases pc <;> try cases hstep
    obtain ⟨h, hk, heq⟩ := Option.map_eq_some_iff.mp hstep
    rw [← heq]
    exact allocBlockStep_inv hinv hc hk
  | storeId u =>
    cases pc <;> try cases hstep
    obtain ⟨h, hk, heq⟩ := Option.map_eq_some_iff.mp hstep
    rw [← heq]
    exact storeId_inv hinv hc hk
  | storeBlock u =>
    cases pc <;> try cases hstep
    obtain ⟨h, hk, heq⟩ := Option.map_eq_some_iff.mp hstep
    rw [← heq]
    exact storeBlock_inv hinv hc hk
  | storeAlloc u =>
    cases pc <;> try cases hstep
    obtain ⟨h, hk, heq⟩ := Option.map_eq_some_iff.mp hstep
    rw [← heq]
    exact storeAlloc_inv hinv hc hk
  | install u result =>
    cases pc <;> try cases hstep
    obtain ⟨h, hk, heq⟩ := Option.bind_eq_some_iff.mp hstep
    exact installStep_inv hinv hc hk (hinstall u result rfl) heq
  | begin _ | put _ | get _ | putFile _ | getFile _ | releaseDmabuf _ | mapKernel _ | free _ | newHandle _ _ _ =>
    cases hstep

/-- **A step that is careful keeps the invariant.** -/
theorem ivmImportStep_inv (hinv : ImportInv s) (hcare : ImportCareful s op)
    (hstep : ivmImportStep s op = some s') : ImportInv s' := by
  -- the part of a call that `op` names
  have hpart : ∀ u : ℕ, (s.calls[u]?.bind fun c => importPartStep s u c op) = some s' →
      (∀ v choice, op = .lookup v choice → v = u) → (∀ v hasRef mem, op = .dup v hasRef mem → v = u) →
      ImportInv s' := by
    intro u hu hv hv'
    obtain ⟨c, hc, hs⟩ := Option.bind_eq_some_iff.mp hu
    apply importPartStep_inv hinv hc _ _ _ hs
    · intro v choice hop hsome
      rw [hop] at hcare
      exact hcare hsome c (by rw [hv v choice hop]; exact hc)
    · intro v hasRef mem hop k hholds h hk
      rw [hop] at hcare
      apply hcare c (by rw [hv' v hasRef mem hop]; exact hc) h
      rw [hholds]
      exact hk
    · intro v result hop
      rw [hop] at hcare
      exact hcare
  -- what others do to handle `j`
  have hother : ∀ j : ℕ, (s.handles[j]?.bind fun h => (otherStep h op).map fun h' =>
      { s with handles := s.handles.set j h' }) = some s' → ImportInv s' := by
    intro j hj
    obtain ⟨h, hk, hs⟩ := Option.bind_eq_some_iff.mp hj
    obtain ⟨h', hh', heq⟩ := Option.map_eq_some_iff.mp hs
    rw [← heq]
    exact otherStep_inv hinv hk hh'
  cases op with
  | begin id =>
    cases hstep
    exact begin_inv hinv
  | lookup u choice =>
    apply hpart u hstep
    · intro v choice' hop
      cases hop
      rfl
    · nofun
  | dup u hasRef mem =>
    apply hpart u hstep
    · nofun
    · intro v _ _ hop
      cases hop
      rfl
  | found u | strip u | create u mem | storeId u | storeBlock u | storeAlloc u => exact hpart u hstep nofun nofun
  | allocBlock u room | install u result =>
    exact hpart u hstep nofun nofun
  | put j | get j | putFile j | getFile j | releaseDmabuf j | mapKernel j => exact hother j hstep
  | free j =>
    obtain ⟨h, hk, hs⟩ := Option.bind_eq_some_iff.mp hstep
    exact freeStep_inv hinv hk hs
  | newHandle heapType ivmId hasBlock => exact newHandleStep_inv hinv hstep

end

section

variable {s : IvmImport} {ops : List IvmImportOp}

/-- **Imports keep the blocks and the references right**, in every run whose steps are careful. -/
theorem imports_ok (hcare : AllSteps ivmImportStep ImportCareful newIvmImport ops)
    (hrun : run ivmImportStep newIvmImport ops = some s) : ImportsOk s :=
  (run_invariant_of_allSteps (fun _ _ _ hinv hc hs => ivmImportStep_inv hinv hc hs) importInv_new hcare hrun).ok

/-- An import that duplicates a handle, and one that takes the block of a handle which is let go. -/
def takenBlock : List IvmImportOp :=
  [.newHandle nvmapHeapCarveoutIvm 0x10001 true,
    .begin 0x10001, .lookup 0 (some 0), .found 0, .dup 0 false true, .install 0 (.installed false),
    .begin 0x10001, .putFile 0, .putFile 0, .put 0, .put 0, .releaseDmabuf 0,
    .lookup 1 (some 0), .free 0, .free 0, .create 1 true, .storeId 1, .storeBlock 1, .storeAlloc 1,
    .install 1 (.installed true)]

theorem imports_ok_takenBlock : ∃ s, run ivmImportStep newIvmImport takenBlock = some s ∧ ImportsOk s ∧
      s.handles.map IvmHandle.carveout = [none, some 0] ∧
      s.calls.map ImportCall.pc = [.returned (some 0), .returned (some 1)] := by
  refine exists_of_map (fun s => (s.handles.map IvmHandle.carveout, s.calls.map ImportCall.pc))
    ([none, some 0], [.returned (some 0), .returned (some 1)]) (by decide) fun s hrun hs => ?_
  have hcare : AllSteps ivmImportStep ImportCareful newIvmImport takenBlock := by decide
  rw [Prod.mk.injEq] at hs
  exact ⟨imports_ok hcare hrun, hs.1, hs.2⟩

/-- **The id zero, and a duplicate that fails**: the first import returns a handle of another heap,
and in the other run the new handle gets a block that the handle found still has. -/
theorem imports_fail : (∃ s, run ivmImportStep newIvmImport
        [.newHandle 1 0 true, .begin 0, .lookup 0 (some 0), .found 0, .dup 0 false true,
          .install 0 (.installed true)] = some s ∧
      s.calls = [⟨0, .returned (some 0)⟩] ∧ s.handles.map IvmHandle.heapType = [1] ∧ ¬ ImportsOk s) ∧
    ∃ s, run ivmImportStep newIvmImport
        [.newHandle nvmapHeapCarveoutIvm 0x10001 true, .begin 0x10001, .lookup 0 (some 0),
          .found 0, .dup 0 false false, .create 0 true, .storeId 0, .storeBlock 0, .storeAlloc 0] = some s ∧
      s.handles.map IvmHandle.carveout = [some 0, some 0] ∧ ¬ ImportsOk s := by
  constructor
  · refine exists_of_map (fun s => (s.calls, s.handles.map IvmHandle.heapType)) ([⟨0, .returned (some 0)⟩], [1])
      (by decide) fun s hrun hs => ?_
    rw [Prod.mk.injEq] at hs
    obtain ⟨hcalls, htypes⟩ := hs
    refine ⟨hcalls, htypes, ?_⟩
    intro hok
    obtain ⟨h, hk, htype, _⟩ := hok.returned ⟨0, .returned (some 0)⟩ (by rw [hcalls]; simp) 0 rfl
    have hmem := List.mem_map_of_mem (f := IvmHandle.heapType) (List.mem_of_getElem? hk)
    rw [htypes, htype] at hmem
    exact absurd hmem (by decide)
  · refine exists_of_map (fun s => (s.handles.map IvmHandle.carveout, s.nextBlock, ownersOf s 0))
      ([some 0, some 0], 1, 2) (by decide) fun s hrun hs => ?_
    rw [Prod.mk.injEq, Prod.mk.injEq] at hs
    refine ⟨hs.1, ?_⟩
    intro hok
    have hone := hok.blocks 0 (by rw [hs.2.1]; decide)
    rw [hs.2.2] at hone
    cases hone

end

end NvidiaOot.Analysis
