import NvidiaOot.Analysis.Host1xContextPins

/-!
# The calls on memory contexts

A call makes a context join a hardware context or leave it, pins its mappings and unpins them; the
invariant is that of the owners and that of the pins.
-/

namespace NvidiaOot.Analysis

open Library Program Model Function

variable {list list' : MemoryContextList} {g : HwMemoryContext → HwMemoryContext} {cd : HwMemoryContext}

/-! ## The invariant -/

structure MemctxInv (s : MemctxRun) : Prop where
  owners : OwnersInv s.list.devs (hwOf s.list) s.activations
  maps : MapsInv s.list
  pins : PinsInv s.list

theorem memctxInv_start (iommus : List ℕ) : MemctxInv (memctxStart iommus) where
  owners := by
    have hdevs : ∀ (h : ℕ) (cd : HwMemoryContext), (memctxStart iommus).list.devs[h]? = some cd →
        cd.owners = [] ∧ cd.active = 0 ∧ cd.ref = 0 ∧ cd.owner = none := by
      intro h cd hget
      obtain ⟨iommuDev, -, rfl⟩ := List.mem_map.mp (List.mem_of_getElem? hget)
      exact ⟨rfl, rfl, rfl, rfl⟩
    have hnil : ∀ h, contextOwners (memctxStart iommus).list.devs h = [] := by
      intro h
      unfold contextOwners
      cases hget : (memctxStart iommus).list.devs[h]? with
      | none => rfl
      | some cd => exact (hdevs h cd hget).1
    refine ⟨⟨?_, ?_⟩, ?_, ?_⟩
    · intro h
      rw [hnil]
      exact .nil
    · intro h c
      rw [hnil]
      simp [hwOf, memctxStart]
    · intro h cd hget
      obtain ⟨howners, hactive, href, howner⟩ := hdevs h cd hget
      exact ⟨by rw [howners, hactive]; rfl, by rw [howners, href]; rfl, by simp [howner, href]⟩
    · nofun
  maps := by constructor <;> simp [memctxStart]
  pins := by constructor <;> simp [memctxStart]

/-- What the allocation of a hardware context leaves: a state of which the invariant holds, in
which the hardware context `h` has taken one reference for a process. -/
structure HwAllocated (s : MemctxRun) (h : ℕ) (list list' : MemoryContextList)
    (g : HwMemoryContext → HwMemoryContext) (cd : HwMemoryContext) : Prop where
  inv : MemctxInv { s with list := list }
  dev : list.devs[h]? = some cd
  eq : list' = list.modifyDev h g
  active : (g cd).active = cd.active
  owners : (g cd).owners = cd.owners
  ref : (g cd).ref = cd.ref + 1
  owner : (g cd).owner.isSome = true
  /-- No active context is stolen from. -/
  keeps : ∀ c ctx, s.list.ctxs c = some ctx → ctx.hw = none ∨ 0 < s.activations c →
    list.ctxs c = some ctx

theorem allocated_of_ok {s : MemctxRun} (hs : MemctxInv s) {iommuDev pid h : ℕ}
    (hok : host1xMemoryContextAllocHwLocked s.list iommuDev pid = .ok (h, list')) :
    ∃ list g cd, HwAllocated s h list list' g cd := by
  unfold host1xMemoryContextAllocHwLocked at hok
  split at hok
  · cases hok
  have hchoice := chooseHw_start_ok iommuDev pid s.list.devs
  split at hok
  · next h' hch =>
    cases hok
    rw [hch] at hchoice
    obtain ⟨cd, hdev, howner⟩ := hchoice
    exact ⟨s.list, _, cd, hs, hdev, rfl, rfl, rfl, rfl, by simp [howner], fun _ _ h _ => h⟩
  · next h' hch =>
    cases hok
    rw [hch] at hchoice
    obtain ⟨cd, hdev, howner⟩ := hchoice
    have hcounts := hs.owners.counts h cd hdev
    have hzero := hcounts.free.mp howner
    have hnil : cd.owners = [] := List.eq_nil_of_length_eq_zero (by rw [← hcounts.ref, hzero])
    exact ⟨s.list, foundHw pid, cd, hs, hdev, rfl, rfl, hnil.symm, by rw [hzero]; rfl, rfl,
      fun _ _ h _ => h⟩
  · next h' hch =>
    cases hok
    rw [hch] at hchoice
    obtain ⟨cd, hdev, hidle⟩ := hchoice
    have howners : s.list.devs[h]?.elim [] HwMemoryContext.owners = cd.owners := by
      rw [hdev]
      rfl
    have hstolen := stolen_foldl hs.maps hs.pins cd.owners
    have hsteal : stealHw s.list h = cd.owners.foldl stealContext s.list := by
      rw [stealHw, howners]
    rw [hsteal]
    generalize cd.owners.foldl stealContext s.list = stolen at hstolen
    have hrelease := hs.owners.release hdev hidle
    have hmem := hs.owners.ownership.mem_iff h
    rw [OwnersInv.ownersOf_eq hdev] at hmem
    refine ⟨stolen.modifyDev h fun cd => { cd with ref := 0, owner := none, owners := [] },
      foundHw pid, { cd with ref := 0, owner := none, owners := [] }, ?_⟩
    exact {
      inv := {
        owners := by
          have hof : hwOf stolen = fun c => if c ∈ cd.owners then none else hwOf s.list c := by
            funext c
            rw [hwOf, hstolen.ctxs]
            split
            · cases s.list.ctxs c <;> rfl
            · rfl
          show OwnersInv (stolen.devs.modify h _) (hwOf stolen) s.activations
          rw [hstolen.devs, hof]
          exact hrelease
        maps := { hstolen.maps with }
        pins := { hstolen.pins with } }
      dev := by
        show (stolen.devs.modify h _)[h]? = _
        rw [hstolen.devs, List.getElem?_modify_eq, hdev]
        rfl
      eq := by
        show stolen.modifyDev h (foundHw pid) = { stolen with devs := (stolen.devs.modify h _).modify h _ }
        rw [List.modify_modify_eq]
        rfl
      active := rfl
      owners := rfl
      ref := rfl
      owner := rfl
      keeps := by
        intro c ctx hctx hor
        have hnot : c ∉ cd.owners := by
          intro hin
          have hhw := (hmem c).mp hin
          rw [hwOf, hctx] at hhw
          rcases hor with hnone | hpos
          · rw [Option.bind_some, hnone] at hhw
            cases hhw
          have hactive := (hs.owners.counts h cd hdev).active
          rw [hidle] at hactive
          have := List.sum_eq_zero_iff.mp hactive.symm _
            (List.mem_map_of_mem (f := s.activations) hin)
          omega
        show stolen.ctxs c = _
        rw [hstolen.ctxs, if_neg hnot, hctx] }
  · cases hok

/-! ## The calls -/

theorem hwOf_setCtx (s : MemoryContextList) (c : ℕ) (ctx : Option MemoryContext) :
    hwOf (s.setCtx c ctx) = update (hwOf s) c (ctx.bind MemoryContext.hw) := by
  funext c'
  show (update s.ctxs c ctx c').bind _ = _
  by_cases hc : c' = c
  · rw [hc, update_self, update_self]
  · rw [update_of_ne hc, update_of_ne hc]
    rfl

theorem keepsActive_setCtx {s : MemctxRun} {c : ℕ} {ctx ctx' : MemoryContext}
    (hctx : s.list.ctxs c = some ctx) (hhw : ctx'.hw = ctx.hw) :
    s.KeepsActive { s with list := s.list.setCtx c (some ctx') } := by
  intro d ctx₀ _ hctx₀
  by_cases hd : d = c
  · subst hd
    rw [hctx] at hctx₀
    cases hctx₀
    exact ⟨ctx', update_self _ _ _, hhw⟩
  · exact ⟨ctx₀, (update_of_ne hd _ _).trans hctx₀, rfl⟩

namespace MemctxInv

variable {s : MemctxRun} {c h : ℕ} {ctx : MemoryContext}

theorem hwOf_eq (hctx : s.list.ctxs c = some ctx) : hwOf s.list c = ctx.hw := by
  rw [hwOf, hctx]
  rfl

section

variable (hs : MemctxInv s)

include hs

theorem mapping_none (hctx : s.list.ctxs c = some ctx) (hnone : ctx.hw = none) :
    ∀ m ∈ ctx.mappings, ∀ mapping, s.list.maps m = some mapping → mapping.mapping = none := by
  intro m hm mapping hmap
  have hc := (hs.maps.mem_iff hctx hmap).mp hm
  have htarget := hs.maps.target m mapping ctx hmap (by rw [hc, hctx])
  rw [hnone, Option.map_none, Option.map_eq_none_iff] at htarget
  exact htarget

/-- The number of references and the hardware context itself do not concern the lists. -/
theorem setRef (hctx : s.list.ctxs c = some ctx) (n : ℕ) :
    MemctxInv { s with list := s.list.setCtx c (some { ctx with ref := n }) } where
  owners := by
    rw [hwOf_setCtx]
    have hsame : update (hwOf s.list) c ctx.hw = hwOf s.list := by
      rw [← hwOf_eq hctx, update_eq_self]
    show OwnersInv _ (update (hwOf s.list) c ctx.hw) _
    rw [hsame]
    exact hs.owners
  maps := by
    apply hs.maps.transfer (fun c' ctx' => if c' = c then { ctx' with ref := n } else ctx')
      fun _ mapping => mapping
    · intro c'
      show update s.list.ctxs c _ c' = _
      by_cases hc : c' = c
      · simp [hc, hctx]
      · simp [hc]
    · intro m
      rw [Option.map_id']
      rfl
    · intro c' ctx' _
      split <;> rfl
    · exact fun _ _ _ => rfl
    · intro m mapping ctx' hmap hctx' _
      have htarget := hs.maps.target m mapping ctx' hmap hctx'
      split <;> exact htarget
  pins := hs.pins.congr rfl rfl

theorem activate (hc : hwOf s.list c = some h) :
    MemctxInv ⟨s.list.modifyDev h fun cd => { cd with active := cd.active + 1 },
      update s.activations c (s.activations c + 1)⟩ where
  owners := by
    apply hs.owners.activate hc
    · intro cd _
      show cd.active + 1 + _ = _
      omega
    · exact fun _ => ⟨rfl, rfl, rfl⟩
  maps := { hs.maps with }
  pins := hs.pins.congr rfl rfl

theorem inactive (hc : hwOf s.list c = some h) (hpos : 0 < s.activations c) :
    MemctxInv ⟨s.list.modifyDev h fun cd => { cd with active := cd.active - 1 },
      update s.activations c (s.activations c - 1)⟩ where
  owners := by
    apply hs.owners.activate hc
    · intro cd hle
      show cd.active - 1 + _ = _
      omega
    · exact fun _ => ⟨rfl, rfl, rfl⟩
  maps := { hs.maps with }
  pins := hs.pins.congr rfl rfl

end

/-- The context that asked for a hardware context gets it, and all its mappings are pinned. -/
theorem attach (hall : HwAllocated s h list list' g cd) (hctx : list.ctxs c = some ctx)
    (hnone : ctx.hw = none) {pinned : MemoryContextList} {pin : ℕ → ℕ}
    (hpinned : PinnedAll h (attachHw list' c ctx h) pinned ctx.mappings pin) :
    MemctxInv { s with list := pinned } where
  owners := by
    have hjoin := hall.inv.owners.join (f := fun cd => { g cd with owners := c :: (g cd).owners })
      hall.dev (hwOf_eq (s := { s with list := list }) hctx ▸ hnone) hall.active
      (congrArg (c :: ·) hall.owners) hall.ref hall.owner
    have hdevs : pinned.devs =
        list.devs.modify h fun cd => { g cd with owners := c :: (g cd).owners } := by
      rw [hpinned.devs, hall.eq]
      show (list.devs.modify h g).modify h _ = _
      rw [List.modify_modify_eq]
      rfl
    have hof : hwOf pinned = update (hwOf list) c (some h) := by
      have hset : hwOf (list.setCtx c (some { ctx with hw := some h })) =
          update (hwOf list) c (some h) := hwOf_setCtx list c _
      rw [← hset]
      funext c'
      rw [hwOf, hpinned.ctxs, hall.eq]
      rfl
    rw [hdevs, hof]
    exact hjoin
  maps := by
    have hmaps := hall.inv.maps
    have hbase : (attachHw list' c ctx h).maps = list.maps ∧
        (attachHw list' c ctx h).pins = list.pins := by
      rw [hall.eq]
      exact ⟨rfl, rfl⟩
    apply hmaps.transfer (fun c' ctx' => if c' = c then { ctx' with hw := some h } else ctx')
      fun m mapping =>
        if m ∈ ctx.mappings then { mapping with mapping := some (pin m) } else mapping
    · intro c'
      rw [hpinned.ctxs, hall.eq]
      show update list.ctxs c _ c' = _
      by_cases hc : c' = c
      · simp [hc, hctx]
      · simp [hc]
    · intro m
      rw [hpinned.maps, hbase.1]
      by_cases hm : m ∈ ctx.mappings
      · simp only [if_pos hm]
      · simp only [if_neg hm, Option.map_id']
    · intro c' ctx' _
      split <;> rfl
    · intro m mapping _
      split <;> rfl
    · intro m mapping ctx' hmap hctx' _
      have hmem := hmaps.mem_iff hctx hmap
      by_cases hc : mapping.ctx = c
      · have hm := hmem.mpr hc
        rw [if_pos hm, if_pos hc]
        show some (pinned.pins.target (pin m)) = some (h, mapping.bo)
        rw [hpinned.target m hm mapping (by rw [hbase.1]; exact hmap)]
      rw [if_neg (mt hmem.mp hc), if_neg hc, ← hmaps.target m mapping ctx' hmap hctx']
      cases hp : mapping.mapping with
      | none => rfl
      | some p =>
        have hlt := (hall.inv.pins.held m mapping p hmap hp).1
        have hold := hpinned.old p (by rw [hbase.2]; exact hlt)
        rw [hbase.2] at hold
        exact congrArg some hold
  pins := hpinned.pins.congr rfl rfl

/-- The first mapping fails to be pinned, and the context gives the hardware context back. -/
theorem giveBack (hall : HwAllocated s h list list' g cd) (hctx : list.ctxs c = some ctx) (hnone : ctx.hw = none) :
    MemctxInv { s with list := ((attachHw list' c ctx h).modifyDev h (detachHw c)).setCtx c (some ctx) } where
  owners := by
    have hofc : hwOf list c = none := hwOf_eq (s := { s with list := list }) hctx ▸ hnone
    have hjoin := hall.inv.owners.join (f := fun cd => { g cd with owners := c :: (g cd).owners })
      hall.dev hofc hall.active (congrArg (c :: ·) hall.owners) hall.ref hall.owner
    have hleave := hjoin.leave (c := c) (h := h) (update_self _ _ _)
      (hall.inv.owners.idle hofc)
    rw [update_idem, ← hofc, update_eq_self] at hleave
    have hdevs : ((attachHw list' c ctx h).modifyDev h (detachHw c)).devs = (list.devs.modify h
        fun cd => { g cd with owners := c :: (g cd).owners }).modify h (detachHw c) := by
      rw [hall.eq]
      exact congrArg (fun devs : List HwMemoryContext => devs.modify h (detachHw c))
        (List.modify_modify_eq g (fun cd => { cd with owners := c :: cd.owners }) h list.devs)
    have hof : hwOf (((attachHw list' c ctx h).modifyDev h (detachHw c)).setCtx c (some ctx)) =
        hwOf list := by
      have hattach : hwOf ((attachHw list' c ctx h).modifyDev h (detachHw c)) =
          update (hwOf list) c (some h) := by
        rw [hall.eq]
        exact hwOf_setCtx list c _
      rw [hwOf_setCtx, hattach, update_idem, Option.bind_some, hnone, ← hofc, update_eq_self]
    show OwnersInv ((attachHw list' c ctx h).modifyDev h (detachHw c)).devs (hwOf _) _
    rw [hdevs, hof]
    exact hleave
  maps := by
    have hctxs : (((attachHw list' c ctx h).modifyDev h (detachHw c)).setCtx c (some ctx)).ctxs =
        list.ctxs := by
      rw [hall.eq]
      show update (update list.ctxs c _) c (some ctx) = _
      rw [update_idem, ← hctx, update_eq_self]
    have hmaps := hall.inv.maps
    apply hmaps.transfer (fun _ ctx' => ctx') fun _ mapping => mapping
    · intro c'
      rw [Option.map_id']
      exact congrFun hctxs c'
    · intro m
      rw [Option.map_id', hall.eq]
      rfl
    · exact fun _ _ _ => rfl
    · exact fun _ _ _ => rfl
    · intro m mapping ctx' hmap hctx' _
      rw [hall.eq]
      exact hmaps.target m mapping ctx' hmap hctx'
  pins := by
    apply hall.inv.pins.congr
    · rw [hall.eq]
      rfl
    · rw [hall.eq]
      rfl

theorem allPinned_or_failsFirst {pinErr : ℕ → ℤ} {ms : List ℕ} (h : FailsFirst pinErr ms) :
    (∀ m ∈ ms, pinErr m = 0) ∨ ∃ m rest, ms = m :: rest ∧ pinErr m ≠ 0 := by
  cases ms with
  | nil => simp
  | cons m rest =>
    by_cases hm : pinErr m = 0
    · left
      intro m' hmem
      rcases List.mem_cons.mp hmem with rfl | hrest
      · exact hm
      · exact (h.resolve_left (not_not.mpr hm)) m' hrest
    · exact Or.inr ⟨m, rest, rfl, hm⟩

section

variable (hs : MemctxInv s)

include hs

theorem keepsActive_attach {pinned : MemoryContextList}
    (hall : HwAllocated s h list list' g cd) (hnone : hwOf s.list c = none) {ctx' : MemoryContext}
    (hctxs : pinned.ctxs = update list.ctxs c (some ctx')) (activations : ℕ → ℕ) :
    s.KeepsActive ⟨pinned, activations⟩ := by
  intro d ctx hpos hctx
  have hne : d ≠ c := by
    rintro rfl
    have := hs.owners.idle hnone
    omega
  refine ⟨ctx, ?_, rfl⟩
  rw [hctxs, update_of_ne hne]
  exact hall.keeps d ctx hctx (Or.inr hpos)

theorem active {pinErr : ℕ → ℤ} {interrupted : Bool} {err : ℤ} (hcareful : PinsCarefully pinErr (s.list.ctxs c))
    (hcall : host1xMemoryContextActive s.list c pinErr interrupted = some (err, list')) :
    MemctxInv ⟨list', if err = 0 then update s.activations c (s.activations c + 1) else s.activations⟩ ∧
      s.KeepsActive ⟨list', if err = 0 then update s.activations c (s.activations c + 1)
        else s.activations⟩ := by
  have hsame : ∀ activations, s.KeepsActive ⟨s.list, activations⟩ :=
    fun _ _ ctx _ hctx => ⟨ctx, hctx, rfl⟩
  obtain ⟨ctx, hctx, hcall⟩ := Option.bind_eq_some_iff.mp hcall
  rw [hctx] at hcareful
  cases hhw : ctx.hw with
  | some h =>
    rw [hhw] at hcall
    cases hcall
    exact ⟨hs.activate (hwOf_eq hctx ▸ hhw), hsame _⟩
  | none =>
    rw [hhw] at hcall
    dsimp only at hcall
    have hofc : hwOf s.list c = none := hwOf_eq hctx ▸ hhw
    split at hcall
    · next err' herror =>
      -- there is no hardware context, or the wait for one was interrupted
      have hneg : err' ≠ 0 := by
        unfold host1xMemoryContextAllocHwLocked at herror
        split at herror
        · cases herror
          decide
        split at herror
        · cases herror
        · cases herror
        · cases herror
        · cases herror
          decide
      split at hcall
      · split at hcall
        · cases hcall
          exact ⟨hs, hsame _⟩
        · cases hcall
      · cases hcall
        rw [if_neg hneg]
        exact ⟨hs, hsame _⟩
    next h list₁ hok =>
    obtain ⟨list, g, cd, hall⟩ := allocated_of_ok hs hok
    have hctx₁ : list.ctxs c = some ctx := hall.keeps c ctx hctx (Or.inl hhw)
    have hinv := hall.inv
    have hattached : (attachHw list₁ c ctx h).maps = list.maps ∧
        (attachHw list₁ c ctx h).ctxs =
          update list.ctxs c (some { ctx with hw := some h }) := by
      rw [hall.eq]
      exact ⟨rfl, rfl⟩
    have hunpinned : ∀ m ∈ ctx.mappings, ∀ mapping,
        (attachHw list₁ c ctx h).maps m = some mapping → mapping.mapping = none := by
      rw [hattached.1]
      exact hinv.mapping_none hctx₁ hhw
    have hpins : PinsInv (attachHw list₁ c ctx h) := by
      apply hinv.pins.congr hattached.1
      rw [hall.eq]
      rfl
    rcases allPinned_or_failsFirst (hcareful hhw) with hok | ⟨m, rest, hlist, herr⟩
    · obtain ⟨hzero, pin, hpinned⟩ := pinnedAll_pinMappings (h := h) hpins
        (hinv.maps.nodup c ctx hctx₁) hunpinned hok
      rw [if_pos hzero] at hcall
      cases hcall
      have hctxs := hpinned.ctxs.trans hattached.2
      have hofc' : hwOf (pinMappings h pinErr ctx.mappings (attachHw list₁ c ctx h)).2 c =
          some h := by
        rw [hwOf, hctxs, update_self]
        rfl
      refine ⟨(attach hall hctx₁ hhw hpinned).activate hofc', ?_⟩
      apply hs.keepsActive_attach hall hofc
      exact hctxs
    -- the first mapping fails: nothing has been pinned
    have hm : m ∈ ctx.mappings := by
      rw [hlist]
      exact List.mem_cons_self
    obtain ⟨mapping, hmap, -⟩ := hinv.maps.listed c ctx hctx₁ m hm
    have hpinned : pinMappings h pinErr ctx.mappings (attachHw list₁ c ctx h) =
        (pinErr m, attachHw list₁ c ctx h) := by
      rw [hlist]
      apply pinMappings_cons_of_fail herr
      · rw [hattached.1]
        exact hmap
      · exact hinv.mapping_none hctx₁ hhw m hm mapping hmap
    rw [hpinned, if_neg herr, undoPin_foldl hunpinned] at hcall
    cases hcall
    rw [if_neg herr]
    have hctxs : (((attachHw list₁ c ctx h).modifyDev h (detachHw c)).setCtx c
        (some ctx)).ctxs = update list.ctxs c (some ctx) := by
      show update (attachHw list₁ c ctx h).ctxs c (some ctx) = _
      rw [hattached.2, update_idem]
    exact ⟨giveBack hall hctx₁ hhw, hs.keepsActive_attach hall hofc hctxs _⟩

theorem alloc (hfresh : s.list.ctxs c = none) (iommuDev pid : ℕ) (allocOk : Bool) :
    MemctxInv { s with list := (host1xMemoryContextAlloc s.list c iommuDev pid allocOk).2 } := by
  unfold host1xMemoryContextAlloc
  split
  · exact hs
  split
  · exact hs
  have hne : ∀ m mapping, s.list.maps m = some mapping → mapping.ctx ≠ c := by
    rintro m mapping hmap rfl
    obtain ⟨ctx, hctx, -⟩ := hs.maps.mapped m mapping hmap
    rw [hfresh] at hctx
    cases hctx
  refine ⟨?_, hs.maps.setCtx_of_unmapped hne (by simp) _, hs.pins.congr rfl rfl⟩
  have hnone : hwOf s.list c = none := by
    rw [hwOf, hfresh]
    rfl
  have hsame : update (hwOf s.list) c none = hwOf s.list := by
    rw [← hnone, update_eq_self]
  rw [hwOf_setCtx]
  show OwnersInv _ (update (hwOf s.list) c none) _
  rw [hsame]
  exact hs.owners

theorem drop (hctx : s.list.ctxs c = some ctx) (hempty : ctx.mappings = [])
    {devs : List HwMemoryContext} (howners : OwnersInv devs (update (hwOf s.list) c none) s.activations) :
    MemctxInv { s with list := { s.list.setCtx c none with devs := devs } } := by
  have hne : ∀ m mapping, s.list.maps m = some mapping → mapping.ctx ≠ c := by
    rintro m mapping hmap rfl
    have hmem := (hs.maps.mem_iff hctx hmap).mpr rfl
    rw [hempty] at hmem
    cases hmem
  refine ⟨?_, hs.maps.setCtx_of_unmapped hne (by simp) _, hs.pins.congr rfl rfl⟩
  have hof : hwOf { s.list.setCtx c none with devs := devs } =
      update (hwOf s.list) c none := hwOf_setCtx s.list c none
  rw [hof]
  exact howners

theorem put (hcareful : PutsCarefully (s.activations c) (s.list.ctxs c))
    (hcall : host1xMemoryContextPut s.list c = some list') :
    MemctxInv { s with list := list' } ∧ s.KeepsActive { s with list := list' } := by
  obtain ⟨ctx, hctx, rfl⟩ := Option.map_eq_some_iff.mp hcall
  rw [hctx] at hcareful
  by_cases hlast : ctx.ref = 1
  · obtain ⟨hempty, hidle⟩ := hcareful hlast
    rw [if_pos hlast]
    constructor
    · cases hhw : ctx.hw with
      | none =>
        have hnone : hwOf s.list c = none := hwOf_eq hctx ▸ hhw
        have hsame : update (hwOf s.list) c none = hwOf s.list := by
          rw [← hnone, update_eq_self]
        apply hs.drop hctx hempty
        rw [hsame]
        exact hs.owners
      | some h =>
        have hsome : hwOf s.list c = some h := hwOf_eq hctx ▸ hhw
        exact hs.drop hctx hempty (hs.owners.leave hsome hidle)
    · intro d ctx' hpos hctx'
      have hne : d ≠ c := by
        rintro rfl
        omega
      refine ⟨ctx', ?_, rfl⟩
      cases ctx.hw <;> exact (update_of_ne hne _ _).trans hctx'
  · rw [if_neg hlast]
    refine ⟨hs.setRef hctx _, ?_⟩
    apply keepsActive_setCtx hctx
    rfl

theorem get (hcall : host1xMemoryContextGet s.list c = some list') :
    MemctxInv { s with list := list' } ∧ s.KeepsActive { s with list := list' } := by
  obtain ⟨ctx, hctx, rfl⟩ := Option.map_eq_some_iff.mp hcall
  refine ⟨hs.setRef hctx _, ?_⟩
  apply keepsActive_setCtx hctx
  rfl

theorem map {m bo : ℕ} (hfresh : s.list.maps m = none) {allocOk : Bool} {pinErr err : ℤ}
    (hcall : host1xMemoryContextMap s.list c m bo allocOk pinErr = some (err, list')) :
    MemctxInv { s with list := list' } ∧ s.KeepsActive { s with list := list' } := by
  obtain ⟨ctx, hctx, hcall⟩ := Option.map_eq_some_iff.mp hcall
  have hsame : s.KeepsActive { s with list := s.list } := fun _ ctx _ hctx => ⟨ctx, hctx, rfl⟩
  have hof : update (hwOf s.list) c ctx.hw = hwOf s.list := by
    rw [← hwOf_eq hctx, update_eq_self]
  have hlisted : hwOf (s.list.setCtx c (some { ctx with mappings := m :: ctx.mappings })) =
      hwOf s.list := (hwOf_setCtx s.list c _).trans hof
  have hkeeps : s.KeepsActive { s with
      list := s.list.setCtx c (some { ctx with mappings := m :: ctx.mappings }) } :=
    keepsActive_setCtx hctx rfl
  split at hcall
  · cases hcall
    exact ⟨hs, hsame⟩
  split at hcall
  · next hhw =>
    cases hcall
    refine ⟨⟨?_, ?_, ?_⟩, hkeeps⟩
    · show OwnersInv _ (hwOf (s.list.setCtx c _)) _
      rw [hlisted]
      exact hs.owners
    · apply hs.maps.insert hctx hfresh rfl fun _ _ _ _ _ => rfl
      rw [hhw]
      rfl
    · have hadd : PinsInv { s.list.setMap m (some ⟨c, bo, none⟩) with
          pins := host1xBoUnpin s.list.pins none } :=
        hs.pins.unpin (by rw [hfresh]; rfl) (by simp)
      exact hadd.congr rfl rfl
  next h hhw =>
  split at hcall
  · cases hcall
    exact ⟨hs, hsame⟩
  cases hcall
  refine ⟨⟨?_, ?_, ?_⟩, hkeeps⟩
  · show OwnersInv _ (hwOf (s.list.setCtx c _)) _
    rw [hlisted]
    exact hs.owners
  · apply hs.maps.insert hctx hfresh rfl
    · intro m' mapping' p hmap' hp
      have hlt := (hs.pins.held m' mapping' p hmap' hp).1
      exact update_of_ne hlt.ne _ _
    · rw [hhw]
      exact congrArg some (update_self _ _ _)
  · have hadd := hs.pins.pin (m := m) (by simp [hfresh]) c h bo
    exact hadd.congr rfl rfl

theorem unmap {m : ℕ} (hcall : host1xMemoryContextUnmap s.list m = some list') :
    MemctxInv { s with list := list' } ∧ s.KeepsActive { s with list := list' } := by
  obtain ⟨mapping, hmap, rfl⟩ := Option.map_eq_some_iff.mp hcall
  obtain ⟨ctx, hctx, -⟩ := hs.maps.mapped m mapping hmap
  rw [hctx]
  constructor
  · refine ⟨?_, ?_, ?_⟩
    · have hof : hwOf (s.list.setCtx mapping.ctx
          (some { ctx with mappings := ctx.mappings.erase m })) = hwOf s.list := by
        refine (hwOf_setCtx s.list mapping.ctx _).trans ?_
        rw [Option.bind_some, ← hwOf_eq hctx, update_eq_self]
      show OwnersInv _ (hwOf (s.list.setCtx mapping.ctx _)) _
      rw [hof]
      exact hs.owners
    · apply hs.maps.remove hmap hctx
      unfold host1xBoUnpin
      split <;> rfl
    · have hunpin : PinsInv { s.list.setMap m none with pins := host1xBoUnpin s.list.pins mapping.mapping } :=
        hs.pins.unpin (by rw [hmap]; rfl) (by simp)
      exact hunpin.congr rfl rfl
  · exact keepsActive_setCtx hctx rfl

/-- Each call of which the condition holds keeps the invariant and the hardware contexts of the
active contexts. -/
theorem step {op : MemctxOp} (hcareful : s.Careful op) {s' : MemctxRun}
    (hstep : memctxStep s op = some s') : MemctxInv s' ∧ s.KeepsActive s' := by
  have hsame : ∀ activations, s.KeepsActive ⟨s.list, activations⟩ :=
    fun _ _ ctx _ hctx => ⟨ctx, hctx, rfl⟩
  cases op with
  | alloc c iommuDev pid allocOk =>
    simp only [memctxStep, Option.isNone_iff_eq_none, Option.ite_none_right_eq_some, Option.some.injEq] at hstep
    obtain ⟨hfresh, rfl⟩ := hstep
    refine ⟨hs.alloc hfresh iommuDev pid allocOk, ?_⟩
    unfold host1xMemoryContextAlloc
    split
    · exact hsame _
    split
    · exact hsame _
    intro d ctx _ hctx
    have hne : d ≠ c := by
      rintro rfl
      rw [hfresh] at hctx
      cases hctx
    exact ⟨ctx, (update_of_ne hne _ _).trans hctx, rfl⟩
  | active c pinErr interrupted =>
    obtain ⟨⟨err, list'⟩, hcall, rfl⟩ := Option.map_eq_some_iff.mp hstep
    exact hs.active hcareful hcall
  | inactive c =>
    simp only [memctxStep, Option.ite_none_right_eq_some, Option.map_eq_some_iff] at hstep
    obtain ⟨hpos, list', hcall, rfl⟩ := hstep
    obtain ⟨ctx, hctx, hhw⟩ := Option.bind_eq_some_iff.mp hcall
    obtain ⟨h, hh, rfl⟩ := Option.map_eq_some_iff.mp hhw
    exact ⟨hs.inactive ((hwOf_eq hctx).trans hh) hpos, hsame _⟩
  | map c m bo allocOk pinErr =>
    simp only [memctxStep, Option.isNone_iff_eq_none, Option.ite_none_right_eq_some,
      Option.map_eq_some_iff] at hstep
    obtain ⟨hfresh, ⟨err, list'⟩, hcall, rfl⟩ := hstep
    exact hs.map hfresh hcall
  | unmap m =>
    obtain ⟨list', hcall, rfl⟩ := Option.map_eq_some_iff.mp hstep
    exact hs.unmap hcall
  | get c =>
    obtain ⟨list', hcall, rfl⟩ := Option.map_eq_some_iff.mp hstep
    exact hs.get hcall
  | put c =>
    obtain ⟨list', hcall, rfl⟩ := Option.map_eq_some_iff.mp hstep
    exact hs.put hcareful hcall

theorem sound : s.Sound where
  active := fun h cd hdev => (hs.owners.counts h cd hdev).active
  hw_of_active := by
    intro c hpos
    have hsome := hs.owners.active c hpos
    obtain ⟨h, hof⟩ := Option.isSome_iff_exists.mp hsome
    obtain ⟨ctx, hctx, hhw⟩ := Option.bind_eq_some_iff.mp hof
    exact ⟨ctx, hctx, by rw [hhw]; rfl⟩
  nodup := by
    intro h cd hdev
    rw [← OwnersInv.ownersOf_eq hdev]
    exact hs.owners.ownership.nodup h
  owners := by
    intro h cd hdev c
    rw [← OwnersInv.ownersOf_eq hdev, hs.owners.ownership.mem_iff, hwOf, Option.bind_eq_some_iff]
  owned := by
    intro c ctx h hctx hhw
    obtain ⟨cd, hdev, -⟩ := hs.owners.exists_dev (c := c) (h := h) (hwOf_eq hctx ▸ hhw)
    exact (List.getElem?_eq_some_iff.mp hdev).1
  ref := fun h cd hdev => (hs.owners.counts h cd hdev).ref
  free := fun h cd hdev => (hs.owners.counts h cd hdev).free
  pinned := by
    intro m mapping hmap
    obtain ⟨ctx, hctx, hmem⟩ := hs.maps.mapped m mapping hmap
    refine ⟨ctx, hctx, hmem, ?_⟩
    have htarget := hs.maps.target m mapping ctx hmap hctx
    cases hp : mapping.mapping with
    | none =>
      rw [hp, Option.map_none] at htarget
      rw [Option.map_none, Option.map_eq_none_iff.mp htarget.symm, Option.map_none]
    | some p =>
      rw [hp, Option.map_some] at htarget
      obtain ⟨h, hhw, heq⟩ := Option.map_eq_some_iff.mp htarget.symm
      rw [Option.map_some, hhw, Option.map_some, heq, (hs.pins.held m mapping p hmap hp).2]
  once := hs.pins.once
  undone := by
    intro p hlt
    obtain ⟨hle, hheld⟩ := hs.pins.undone p hlt
    refine ⟨hle, hheld, ?_⟩
    rintro ⟨m, mapping, hmap, hp⟩
    exact (hs.pins.held m mapping p hmap hp).2

end

end MemctxInv

/-! ## Every run -/

/-- In every run of calls of which the condition holds the hardware contexts and the pins are as
they should be, and no step takes the hardware context of an active memory context. -/
theorem memory_contexts_sound (iommus : List ℕ) (ops : List MemctxOp) (s : MemctxRun)
    (hcareful : AllSteps memctxStep MemctxRun.Careful (memctxStart iommus) ops)
    (hrun : run memctxStep (memctxStart iommus) ops = some s) :
    s.Sound ∧ ∀ op s', s.Careful op → memctxStep s op = some s' → s.KeepsActive s' := by
  have hs : MemctxInv s :=
    run_invariant_of_allSteps (fun _ _ _ h hP hstep => (h.step hP hstep).1)
      (memctxInv_start iommus) hcareful hrun
  exact ⟨hs.sound, fun op s' hP hstep => (hs.step hP hstep).2⟩

/-- Two processes and one hardware context: the second takes it from the first, which has a
mapping, and gives it back when its own mapping fails to be pinned; then it is taken back. -/
def stealRun : List MemctxOp :=
  [.alloc 0 0 100 true, .map 0 0 7 true 0, .active 0 (fun _ => 0) false, .inactive 0,
    .alloc 1 0 200 true, .map 1 1 8 true 0, .active 1 (fun _ => -12) false,
    .active 1 (fun _ => 0) false, .inactive 1, .active 0 (fun _ => 0) false, .unmap 0,
    .inactive 0, .put 0]

theorem memory_contexts_sound_stealRun :
    ∃ s, run memctxStep (memctxStart [0]) stealRun = some s ∧ s.list.pins.next = 3 ∧ s.Sound := by
  exact exists_of_map (·.list.pins.next) 3 (by decide +kernel) fun s hrun hnext =>
    ⟨hnext, (memory_contexts_sound [0] stealRun s (by decide +kernel) hrun).1⟩

/-- A context with two mappings is activated and the second of them fails to be pinned; then the
first is unmapped, and its pin is undone a second time. -/
theorem memory_contexts_pin_undone_twice : ∃ s, run memctxStep (memctxStart [0])
        [.alloc 0 0 100 true, .map 0 0 7 true 0, .map 0 1 8 true 0,
          .active 0 (fun m => if m = 0 then -12 else 0) false, .unmap 1] = some s ∧
      s.list.pins.undone 0 = 2 ∧ ¬ s.Sound := by
  refine exists_of_map (fun s => (s.list.pins.next, s.list.pins.undone 0)) (1, 2) (by decide +kernel)
    fun s hrun hpins => ?_
  obtain ⟨hnext, hundone⟩ := Prod.mk.inj hpins
  refine ⟨hundone, ?_⟩
  intro h
  have hle := (h.undone 0 (by omega)).1
  omega

end NvidiaOot.Analysis
