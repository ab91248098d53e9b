import NvidiaOot.Library.Ownership
import NvidiaOot.Model.Host1x

/-!
# Who owns a hardware context, and what is pinned for it

The owners of the hardware contexts and the pins of the mappings are kept apart: a context joins a
hardware context and leaves it, which concerns the owners; its mappings are pinned and unpinned,
which concerns the pins.  A hardware context is stolen by making all its owners leave.
-/

namespace NvidiaOot.Analysis

open Library Program Model Function

variable {mapping : ContextMapping} {ctx : MemoryContext} {ms : List ℕ} {c h m : ℕ}

/-! ## Owners -/

def contextOwners (devs : List HwMemoryContext) (h : ℕ) : List ℕ :=
  devs[h]?.elim [] HwMemoryContext.owners

def hwOf (s : MemoryContextList) (c : ℕ) : Option ℕ := (s.ctxs c).bind MemoryContext.hw

structure DevCounts (activations : ℕ → ℕ) (cd : HwMemoryContext) : Prop where
  active : cd.active = (cd.owners.map activations).sum
  ref : cd.ref = cd.owners.length
  free : cd.owner = none ↔ cd.ref = 0

structure OwnersInv (devs : List HwMemoryContext) (of : ℕ → Option ℕ) (activations : ℕ → ℕ) :
    Prop where
  ownership : Ownership (contextOwners devs) of
  counts : ∀ (h : ℕ) (cd : HwMemoryContext), devs[h]? = some cd → DevCounts activations cd
  active : ∀ c, 0 < activations c → (of c).isSome = true

theorem ownersOf_modify {devs : List HwMemoryContext} {cd : HwMemoryContext}
    (hdev : devs[h]? = some cd) (f : HwMemoryContext → HwMemoryContext) :
    contextOwners (devs.modify h f) = update (contextOwners devs) h (f cd).owners := by
  funext i
  rw [contextOwners, List.getElem?_modify]
  by_cases hi : i = h
  · subst hi
    rw [update_self, hdev]
    simp
  · rw [update_of_ne hi, contextOwners]
    cases devs[i]? <;> simp [Ne.symm hi]

section

variable {devs : List HwMemoryContext} {of : ℕ → Option ℕ} {activations : ℕ → ℕ} {c h : ℕ}
  {cd : HwMemoryContext} {f : HwMemoryContext → HwMemoryContext}

theorem counts_modify (hdev : devs[h]? = some cd) {activations' : ℕ → ℕ} (hnew : DevCounts activations' (f cd))
    (hold : ∀ (i : ℕ) (cd : HwMemoryContext), i ≠ h → devs[i]? = some cd → DevCounts activations' cd) :
    ∀ (i : ℕ) (cd : HwMemoryContext), (devs.modify h f)[i]? = some cd → DevCounts activations' cd := by
  intro i cd' hget
  rw [List.getElem?_modify] at hget
  by_cases hi : i = h
  · subst hi
    rw [hdev] at hget
    simp only [if_true, Option.map_eq_map, Option.map_some, Option.some.injEq] at hget
    rwa [← hget]
  obtain ⟨cd₀, hcd₀, heq⟩ := Option.map_eq_some_iff.mp hget
  rw [if_neg (Ne.symm hi)] at heq
  subst heq
  exact hold i cd₀ hi hcd₀

namespace OwnersInv

theorem ownersOf_eq (hdev : devs[h]? = some cd) : contextOwners devs h = cd.owners := by
  rw [contextOwners, hdev]
  rfl

section

variable (hs : OwnersInv devs of activations)

include hs

theorem idle (hc : of c = none) : activations c = 0 := by
  by_contra hne
  have hsome := hs.active c (by omega)
  rw [hc] at hsome
  cases hsome

theorem exists_dev (hc : of c = some h) :
    ∃ cd, devs[h]? = some cd ∧ c ∈ cd.owners := by
  have hmem := (hs.ownership.mem_iff h c).mpr hc
  unfold contextOwners at hmem
  cases hdev : devs[h]? with
  | none =>
    rw [hdev] at hmem
    cases hmem
  | some cd =>
    rw [hdev] at hmem
    exact ⟨cd, rfl, hmem⟩

theorem join (hdev : devs[h]? = some cd) (hc : of c = none)
    (hactive : (f cd).active = cd.active) (howners : (f cd).owners = c :: cd.owners)
    (href : (f cd).ref = cd.ref + 1) (howner : (f cd).owner.isSome = true) :
    OwnersInv (devs.modify h f) (update of c (some h)) activations := by
  have hidle := hs.idle hc
  have hcounts := hs.counts h cd hdev
  constructor
  · rw [ownersOf_modify hdev, howners, ← ownersOf_eq hdev]
    exact hs.ownership.join hc h
  · apply counts_modify hdev
    · constructor
      · rw [hactive, howners, List.map_cons, List.sum_cons, hidle, zero_add]
        exact hcounts.active
      · rw [href, howners, List.length_cons, hcounts.ref]
      · constructor
        · intro hnone
          rw [hnone] at howner
          cases howner
        · omega
    · exact fun i cd' _ hget => hs.counts i cd' hget
  · intro d hd
    have hold := hs.active d hd
    rw [update_apply]
    split
    · rfl
    · exact hold

theorem leave (hc : of c = some h) (hidle : activations c = 0) :
    OwnersInv (devs.modify h (detachHw c)) (update of c none) activations := by
  obtain ⟨cd, hdev, hmem⟩ := hs.exists_dev hc
  have hcounts := hs.counts h cd hdev
  have howners : (detachHw c cd).owners = cd.owners.erase c := by
    unfold detachHw host1xMemoryContextHwPut
    split <;> rfl
  have hlength := List.length_erase_of_mem hmem
  constructor
  · rw [ownersOf_modify hdev, howners, ← ownersOf_eq hdev]
    exact hs.ownership.leave hc
  · apply counts_modify hdev
    · constructor
      · have hsum : (cd.owners.map activations).sum =
            ((cd.owners.erase c).map activations).sum := by
          rw [((List.perm_cons_erase hmem).map activations).sum_eq, List.map_cons, List.sum_cons, hidle, zero_add]
        rw [howners, ← hsum, ← hcounts.active]
        unfold detachHw host1xMemoryContextHwPut
        split <;> rfl
      · rw [howners, hlength, ← hcounts.ref]
        unfold detachHw host1xMemoryContextHwPut
        split <;> rfl
      · have hfree := hcounts.free
        have hpos : cd.ref ≠ 0 := by
          have := List.length_pos_of_mem hmem
          rw [hcounts.ref]
          omega
        unfold detachHw host1xMemoryContextHwPut
        split
        · next hlast => simp [hlast]
        · next hmore =>
          simp [hfree, hpos, hmore]
    · exact fun i cd' _ hget => hs.counts i cd' hget
  · intro d hd
    have hne : d ≠ c := by
      rintro rfl
      omega
    rw [update_of_ne hne]
    exact hs.active d hd

theorem release (hdev : devs[h]? = some cd) (hidle : cd.active = 0) :
    OwnersInv (devs.modify h fun cd => { cd with ref := 0, owner := none, owners := [] })
      (fun c => if c ∈ cd.owners then none else of c) activations := by
  have hzero : ∀ c ∈ cd.owners, activations c = 0 := by
    have hsum := (hs.counts h cd hdev).active
    rw [hidle] at hsum
    intro c hmem
    exact List.sum_eq_zero_iff.mp hsum.symm (activations c) (List.mem_map_of_mem hmem)
  constructor
  · rw [ownersOf_modify hdev, ← ownersOf_eq hdev]
    exact hs.ownership.release h
  · apply counts_modify hdev
    · exact ⟨hidle, rfl, by simp⟩
    · exact fun i cd' _ hget => hs.counts i cd' hget
  · intro c hc
    have hnot : c ∉ cd.owners := by
      intro hmem
      have := hzero c hmem
      omega
    rw [if_neg hnot]
    exact hs.active c hc

theorem activate (hc : of c = some h) {n : ℕ}
    (hactive : ∀ cd, activations c ≤ cd.active → (f cd).active + activations c = cd.active + n)
    (hframe : ∀ cd, (f cd).owners = cd.owners ∧ (f cd).ref = cd.ref ∧ (f cd).owner = cd.owner) :
    OwnersInv (devs.modify h f) of (update activations c n) := by
  obtain ⟨cd, hdev, hmem⟩ := hs.exists_dev hc
  have hcounts := hs.counts h cd hdev
  obtain ⟨howners, href, howner⟩ := hframe cd
  have hnodup := hs.ownership.nodup h
  rw [ownersOf_eq hdev] at hnodup
  constructor
  · rw [ownersOf_modify hdev, howners, ← ownersOf_eq hdev, update_eq_self]
    exact hs.ownership
  · apply counts_modify hdev
    · constructor
      · have hsum := sum_map_update_of_mem hnodup activations hmem n
        have hold := hcounts.active
        have hle : activations c ≤ cd.active := by
          rw [hold]
          exact List.le_sum_of_mem (List.mem_map_of_mem hmem)
        have hnew := hactive cd hle
        rw [howners]
        omega
      · rw [href, howners]
        exact hcounts.ref
      · rw [howner, href]
        exact hcounts.free
    · intro i cd' hi hget
      have hnot : c ∉ cd'.owners := by
        rw [← ownersOf_eq hget, hs.ownership.mem_iff, hc, Option.some.injEq]
        exact Ne.symm hi
      have hold := hs.counts i cd' hget
      exact { hold with
        active := by
          rw [sum_map_update_of_notMem activations hnot n]
          exact hold.active }
  · intro d hd
    by_cases hdc : d = c
    · rw [hdc, hc]
      rfl
    · rw [update_of_ne hdc] at hd
      exact hs.active d hd

end

end OwnersInv

end

/-! ## The choice of a hardware context -/

/-- What is chosen is owned by the process, or free, or not active. -/
def ChoiceOk (devs : List HwMemoryContext) (pid : ℕ) : HwChoice → Prop
  | .owned h => ∃ cd, devs[h]? = some cd ∧ cd.owner = some pid
  | .free h => ∃ cd, devs[h]? = some cd ∧ cd.owner = none
  | .steal h => ∃ cd, devs[h]? = some cd ∧ cd.active = 0
  | .busy => True

theorem chooseHw_ok {iommuDev pid : ℕ} {devs : List HwMemoryContext}
    (before rest : List HwMemoryContext) (hdevs : devs = before ++ rest) {free canSteal : Option ℕ}
    (hfree : ∀ h, free = some h → ChoiceOk devs pid (.free h))
    (hsteal : ∀ h, canSteal = some h → ChoiceOk devs pid (.steal h)) :
    ChoiceOk devs pid (chooseHw iommuDev pid before.length rest free canSteal) := by
  induction rest generalizing before free canSteal with
  | nil =>
    cases free with
    | some h => exact hfree h rfl
    | none =>
      cases canSteal with
      | some h => exact hsteal h rfl
      | none => trivial
  | cons cd rest ih =>
    have hget : devs[before.length]? = some cd := by
      rw [hdevs, List.getElem?_append_right (le_refl _), Nat.sub_self]
      rfl
    have hnext := @ih (before ++ [cd]) (by rw [hdevs, List.append_assoc, List.singleton_append])
    rw [List.length_append, List.length_singleton] at hnext
    unfold chooseHw
    split
    · exact hnext hfree hsteal
    split
    · next howner => exact ⟨cd, hget, howner⟩
    split
    · next hnone =>
      apply hnext _ hsteal
      intro h heq
      cases heq
      exact ⟨cd, hget, hnone.1⟩
    split
    · next hidle =>
      apply hnext hfree
      intro h heq
      cases heq
      exact ⟨cd, hget, hidle⟩
    · exact hnext hfree hsteal

theorem chooseHw_start_ok (iommuDev pid : ℕ) (devs : List HwMemoryContext) :
    ChoiceOk devs pid (chooseHw iommuDev pid 0 devs none none) :=
  chooseHw_ok [] devs rfl (by simp) (by simp)

/-! ## Mappings -/

/-- The lists of mappings, and for what the mappings are pinned. -/
structure MapsInv (s : MemoryContextList) : Prop where
  nodup : ∀ (c : ℕ) (ctx : MemoryContext), s.ctxs c = some ctx → ctx.mappings.Nodup
  listed : ∀ (c : ℕ) (ctx : MemoryContext), s.ctxs c = some ctx → ∀ m ∈ ctx.mappings,
    ∃ mapping, s.maps m = some mapping ∧ mapping.ctx = c
  mapped : ∀ (m : ℕ) (mapping : ContextMapping), s.maps m = some mapping →
    ∃ ctx, s.ctxs mapping.ctx = some ctx ∧ m ∈ ctx.mappings
  target : ∀ (m : ℕ) (mapping : ContextMapping) (ctx : MemoryContext), s.maps m = some mapping →
    s.ctxs mapping.ctx = some ctx →
    mapping.mapping.map s.pins.target = ctx.hw.map fun h => (h, mapping.bo)

/-- The pins that the mappings hold are those that have not been undone. -/
structure PinsInv (s : MemoryContextList) : Prop where
  held : ∀ (m : ℕ) (mapping : ContextMapping) (p : ℕ), s.maps m = some mapping →
    mapping.mapping = some p → p < s.pins.next ∧ s.pins.undone p = 0
  once : ∀ (m m' : ℕ) (mapping mapping' : ContextMapping) (p : ℕ), s.maps m = some mapping →
    s.maps m' = some mapping' → mapping.mapping = some p → mapping'.mapping = some p → m = m'
  undone : ∀ p < s.pins.next, s.pins.undone p ≤ 1 ∧ (s.pins.undone p = 0 →
    ∃ (m : ℕ) (mapping : ContextMapping), s.maps m = some mapping ∧ mapping.mapping = some p)

section

variable {s : MemoryContextList}

theorem PinsInv.congr (h : PinsInv s) {s' : MemoryContextList} (hmaps : s'.maps = s.maps)
    (hpins : s'.pins = s.pins) : PinsInv s' := by
  constructor
  · rw [hmaps, hpins]
    exact h.held
  · rw [hmaps]
    exact h.once
  · rw [hmaps, hpins]
    exact h.undone

theorem PinsInv.unpin (h : PinsInv s) {pin : Option ℕ}
    (hpin : (s.maps m).bind ContextMapping.mapping = pin) {new : Option ContextMapping}
    (hnew : ∀ mapping', new = some mapping' → mapping'.mapping = none) :
    PinsInv { s.setMap m new with pins := host1xBoUnpin s.pins pin } := by
  have hother : ∀ (m' : ℕ) (mapping' : ContextMapping) (p : ℕ),
      update s.maps m new m' = some mapping' → mapping'.mapping = some p →
      m' ≠ m ∧ s.maps m' = some mapping' := by
    intro m' mapping' p hget hp
    by_cases hm : m' = m
    · rw [hm, update_self] at hget
      rw [hnew mapping' hget] at hp
      cases hp
    · rw [update_of_ne hm] at hget
      exact ⟨hm, hget⟩
  have honce : ∀ (m₁ m₂ : ℕ) (mapping₁ mapping₂ : ContextMapping) (p : ℕ),
      update s.maps m new m₁ = some mapping₁ →
      update s.maps m new m₂ = some mapping₂ →
      mapping₁.mapping = some p → mapping₂.mapping = some p → m₁ = m₂ :=
    fun m₁ m₂ mapping₁ mapping₂ p h₁ h₂ hp₁ hp₂ =>
      h.once m₁ m₂ mapping₁ mapping₂ p (hother _ _ _ h₁ hp₁).2 (hother _ _ _ h₂ hp₂).2 hp₁ hp₂
  cases pin with
  | none =>
    refine ⟨?_, honce, ?_⟩
    · intro m' mapping' p hget hp
      exact h.held m' mapping' p (hother m' mapping' p hget hp).2 hp
    · intro p hlt
      obtain ⟨hle, hheld⟩ := h.undone p hlt
      refine ⟨hle, ?_⟩
      intro hzero
      obtain ⟨m', mapping', hget, hp⟩ := hheld hzero
      have hne : m' ≠ m := by grind
      exact ⟨m', mapping', by rw [← hget]; exact update_of_ne hne _ _, hp⟩
  | some p₀ =>
    obtain ⟨mapping, hmap, hpin⟩ := Option.bind_eq_some_iff.mp hpin
    have hzero₀ := (h.held m mapping p₀ hmap hpin).2
    refine ⟨?_, honce, ?_⟩
    · intro m' mapping' p hget hp
      obtain ⟨hne, hget'⟩ := hother m' mapping' p hget hp
      have hp₀ : p ≠ p₀ := by
        rintro rfl
        exact hne (h.once m' m mapping' mapping p hget' hmap hp hpin)
      have hheld := h.held m' mapping' p hget' hp
      exact ⟨hheld.1, by rw [← hheld.2]; exact update_of_ne hp₀ _ _⟩
    · intro p hlt
      obtain ⟨hle, hheld⟩ := h.undone p hlt
      show update s.pins.undone p₀ _ p ≤ 1 ∧ (update s.pins.undone p₀ _ p = 0 → _)
      by_cases hp₀ : p = p₀
      · rw [hp₀, update_self, hzero₀]
        simp
      rw [update_of_ne hp₀]
      refine ⟨hle, ?_⟩
      intro hzero
      obtain ⟨m', mapping', hget, hp⟩ := hheld hzero
      have hne : m' ≠ m := by grind
      exact ⟨m', mapping', by rw [← hget]; exact update_of_ne hne _ _, hp⟩

theorem PinsInv.pin (h : PinsInv s)
    (hnone : ∀ mapping, s.maps m = some mapping → mapping.mapping = none) (c hw bo : ℕ) :
    PinsInv { s.setMap m (some ⟨c, bo, some s.pins.next⟩) with pins := host1xBoPin hw bo s.pins } := by
  -- a mapping holds the new pin or is an old one
  have hcases : ∀ (m' : ℕ) (mapping' : ContextMapping) (p : ℕ),
      update s.maps m (some ⟨c, bo, some s.pins.next⟩) m' = some mapping' →
      mapping'.mapping = some p →
      (m' = m ∧ p = s.pins.next) ∨ (s.maps m' = some mapping' ∧ p < s.pins.next) := by
    intro m' mapping' p hget hp
    by_cases hm : m' = m
    · rw [hm, update_self, Option.some.injEq] at hget
      subst hget
      exact Or.inl ⟨hm, (Option.some.inj hp).symm⟩
    · rw [update_of_ne hm] at hget
      exact Or.inr ⟨hget, (h.held m' mapping' p hget hp).1⟩
  constructor
  · intro m' mapping' p hget hp
    show p < s.pins.next + 1 ∧ update s.pins.undone s.pins.next 0 p = 0
    rcases hcases m' mapping' p hget hp with ⟨-, rfl⟩ | ⟨hold, hlt⟩
    · exact ⟨Nat.lt_succ_self _, update_self _ _ _⟩
    · rw [update_of_ne hlt.ne]
      exact ⟨by omega, (h.held m' mapping' p hold hp).2⟩
  · intro m₁ m₂ mapping₁ mapping₂ p h₁ h₂ hp₁ hp₂
    rcases hcases m₁ mapping₁ p h₁ hp₁ with ⟨rfl, rfl⟩ | ⟨hold₁, hlt₁⟩ <;>
      rcases hcases m₂ mapping₂ _ h₂ hp₂ with ⟨rfl, heq⟩ | ⟨hold₂, hlt₂⟩
    · rfl
    · omega
    · omega
    · exact h.once m₁ m₂ mapping₁ mapping₂ p hold₁ hold₂ hp₁ hp₂
  · intro p hlt
    show update s.pins.undone s.pins.next 0 p ≤ 1 ∧
      (update s.pins.undone s.pins.next 0 p = 0 → _)
    have hlt : p < s.pins.next + 1 := hlt
    by_cases hp : p = s.pins.next
    · rw [hp, update_self]
      exact ⟨Nat.zero_le 1, fun _ => ⟨m, _, update_self _ _ _, rfl⟩⟩
    rw [update_of_ne hp]
    obtain ⟨hle, hheld⟩ := h.undone p (by omega)
    refine ⟨hle, ?_⟩
    intro hzero
    obtain ⟨m', mapping', hget, hp'⟩ := hheld hzero
    have hne : m' ≠ m := by
      rintro rfl
      rw [hnone mapping' hget] at hp'
      cases hp'
    exact ⟨m', mapping', by rw [← hget]; exact update_of_ne hne _ _, hp'⟩

/-! ### Stealing -/

def clearMapping (mapping : ContextMapping) : ContextMapping := { mapping with mapping := none }

@[simp] theorem clearMapping_comp : clearMapping ∘ clearMapping = clearMapping := rfl

/-- What the loop over the mappings of a context does. -/
structure Cleared (s s' : MemoryContextList) (ms : List ℕ) : Prop where
  devs : s'.devs = s.devs
  ctxs : s'.ctxs = s.ctxs
  maps : ∀ m, s'.maps m = if m ∈ ms then (s.maps m).map clearMapping else s.maps m
  target : s'.pins.target = s.pins.target
  pins : PinsInv s'

theorem cleared_foldl (h : PinsInv s) (ms : List ℕ) : Cleared s (ms.foldl stealMapping s) ms := by
  induction ms generalizing s with
  | nil => exact ⟨rfl, rfl, by simp, rfl, h⟩
  | cons m ms ih =>
    have hfirst : Cleared s (stealMapping s m) [m] := by
      unfold stealMapping
      split
      · next hnone =>
        refine ⟨rfl, rfl, ?_, rfl, h⟩
        intro m'
        by_cases hm : m' = m
        · simp [hm, hnone]
        · simp [hm]
      next mapping hmap =>
      refine ⟨rfl, rfl, ?_, ?_, h.unpin (by rw [hmap]; rfl) (by simp)⟩
      · intro m'
        show update s.maps m _ m' = _
        by_cases hm : m' = m
        · simp [hm, hmap, clearMapping]
        · simp [hm]
      · unfold host1xBoUnpin
        split <;> rfl
    have hrest := ih hfirst.pins
    rw [List.foldl_cons]
    refine ⟨hrest.devs.trans hfirst.devs, hrest.ctxs.trans hfirst.ctxs, ?_,
      hrest.target.trans hfirst.target, hrest.pins⟩
    intro m'
    rw [hrest.maps, hfirst.maps]
    by_cases hm : m' = m
    · simp [hm]
    · simp [hm]

theorem MapsInv.transfer (h : MapsInv s) {s' : MemoryContextList}
    (f : ℕ → MemoryContext → MemoryContext) (g : ℕ → ContextMapping → ContextMapping)
    (hctxs : ∀ c, s'.ctxs c = (s.ctxs c).map (f c)) (hmaps : ∀ m, s'.maps m = (s.maps m).map (g m))
    (hmappings : ∀ (c : ℕ) (ctx : MemoryContext), s.ctxs c = some ctx →
      (f c ctx).mappings = ctx.mappings) (hctx : ∀ (m : ℕ) (mapping : ContextMapping), s.maps m = some mapping →
      (g m mapping).ctx = mapping.ctx) (htarget : ∀ (m : ℕ) (mapping : ContextMapping) (ctx : MemoryContext),
      s.maps m = some mapping → s.ctxs mapping.ctx = some ctx → m ∈ ctx.mappings →
      (g m mapping).mapping.map s'.pins.target =
        (f mapping.ctx ctx).hw.map fun h => (h, (g m mapping).bo)) : MapsInv s' := by
  constructor
  · intro c ctx' hget
    rw [hctxs] at hget
    obtain ⟨ctx, hold, rfl⟩ := Option.map_eq_some_iff.mp hget
    rw [hmappings c ctx hold]
    exact h.nodup c ctx hold
  · intro c ctx' hget m hmem
    rw [hctxs] at hget
    obtain ⟨ctx, hold, rfl⟩ := Option.map_eq_some_iff.mp hget
    rw [hmappings c ctx hold] at hmem
    obtain ⟨mapping, hmap, heq⟩ := h.listed c ctx hold m hmem
    refine ⟨g m mapping, ?_, ?_⟩
    · rw [hmaps, hmap, Option.map_some]
    · rw [hctx m mapping hmap, heq]
  · intro m mapping' hget
    rw [hmaps] at hget
    obtain ⟨mapping, hmap, rfl⟩ := Option.map_eq_some_iff.mp hget
    obtain ⟨ctx, hold, hmem⟩ := h.mapped m mapping hmap
    refine ⟨f mapping.ctx ctx, ?_, ?_⟩
    · rw [hctxs, hctx m mapping hmap, hold, Option.map_some]
    · rwa [hmappings mapping.ctx ctx hold]
  · intro m mapping' ctx' hget hgetctx
    rw [hmaps] at hget
    obtain ⟨mapping, hmap, rfl⟩ := Option.map_eq_some_iff.mp hget
    rw [hctx m mapping hmap, hctxs] at hgetctx
    obtain ⟨ctx, hold, rfl⟩ := Option.map_eq_some_iff.mp hgetctx
    obtain ⟨ctx₁, hold₁, hmem⟩ := h.mapped m mapping hmap
    rw [hold] at hold₁
    cases hold₁
    exact htarget m mapping ctx hmap hold hmem

theorem MapsInv.mem_iff (h : MapsInv s) (hctx : s.ctxs c = some ctx) (hmap : s.maps m = some mapping) :
    m ∈ ctx.mappings ↔ mapping.ctx = c := by
  constructor
  · intro hin
    obtain ⟨mapping', hmap', heq⟩ := h.listed c ctx hctx m hin
    rw [hmap] at hmap'
    cases hmap'
    exact heq
  · rintro rfl
    obtain ⟨ctx', hctx', hin⟩ := h.mapped m mapping hmap
    rw [hctx] at hctx'
    cases hctx'
    exact hin

theorem MapsInv.setCtx_of_unmapped (h : MapsInv s)
    (hne : ∀ (m : ℕ) (mapping : ContextMapping), s.maps m = some mapping → mapping.ctx ≠ c)
    {new : Option MemoryContext} (hnew : ∀ ctx, new = some ctx → ctx.mappings = [])
    (devs : List HwMemoryContext) : MapsInv { s.setCtx c new with devs := devs } := by
  have hcases : ∀ (c' : ℕ) (ctx : MemoryContext), update s.ctxs c new c' = some ctx →
      ctx.mappings = [] ∨ s.ctxs c' = some ctx := by
    intro c' ctx hctx
    by_cases hc : c' = c
    · rw [hc, update_self] at hctx
      exact Or.inl (hnew ctx hctx)
    · rw [update_of_ne hc] at hctx
      exact Or.inr hctx
  constructor
  · intro c' ctx hctx
    rcases hcases c' ctx hctx with hnil | hold
    · rw [hnil]
      exact .nil
    · exact h.nodup c' ctx hold
  · intro c' ctx hctx m hmem
    rcases hcases c' ctx hctx with hnil | hold
    · rw [hnil] at hmem
      cases hmem
    · exact h.listed c' ctx hold m hmem
  · intro m mapping hmap
    obtain ⟨ctx, hctx, hmem⟩ := h.mapped m mapping hmap
    exact ⟨ctx, (update_of_ne (hne m mapping hmap) _ _).trans hctx, hmem⟩
  · intro m mapping ctx hmap hctx
    change update s.ctxs c new mapping.ctx = some ctx at hctx
    rw [update_of_ne (hne m mapping hmap)] at hctx
    exact h.target m mapping ctx hmap hctx

theorem MapsInv.insert (h : MapsInv s)
    (hctx : s.ctxs c = some ctx) (hfresh : s.maps m = none) (hc : mapping.ctx = c) {pins : BoPins}
    (hold : ∀ m' mapping' p, s.maps m' = some mapping' → mapping'.mapping = some p →
      pins.target p = s.pins.target p)
    (htarget : mapping.mapping.map pins.target = ctx.hw.map fun h => (h, mapping.bo)) :
    MapsInv { (s.setCtx c (some { ctx with mappings := m :: ctx.mappings })).setMap m
      (some mapping) with pins := pins } := by
  have hnot : ∀ c' ctx', s.ctxs c' = some ctx' → m ∉ ctx'.mappings := by
    intro c' ctx' hctx' hmem
    obtain ⟨mapping', hmap', -⟩ := h.listed c' ctx' hctx' m hmem
    rw [hfresh] at hmap'
    cases hmap'
  have hctxs : ∀ c' ctx', update s.ctxs c (some { ctx with mappings := m :: ctx.mappings })
      c' = some ctx' → ∃ ctx₀, s.ctxs c' = some ctx₀ ∧ ctx'.hw = ctx₀.hw ∧
        ctx'.mappings = if c' = c then m :: ctx₀.mappings else ctx₀.mappings := by
    intro c' ctx' hctx'
    by_cases heq : c' = c
    · rw [heq, update_self] at hctx'
      cases hctx'
      exact ⟨ctx, heq ▸ hctx, rfl, (if_pos heq).symm⟩
    · rw [update_of_ne heq] at hctx'
      exact ⟨ctx', hctx', rfl, (if_neg heq).symm⟩
  constructor
  · intro c' ctx' hctx'
    obtain ⟨ctx₀, hctx₀, -, heq⟩ := hctxs c' ctx' hctx'
    rw [heq]
    split
    · exact List.nodup_cons.mpr ⟨hnot c' ctx₀ hctx₀, h.nodup c' ctx₀ hctx₀⟩
    · exact h.nodup c' ctx₀ hctx₀
  · intro c' ctx' hctx' m' hmem
    obtain ⟨ctx₀, hctx₀, -, heq⟩ := hctxs c' ctx' hctx'
    show ∃ mapping', update s.maps m (some mapping) m' = some mapping' ∧ _
    have hlisted := h.listed c' ctx₀ hctx₀
    by_cases hm : m' = m
    · grind
    · grind
  · intro m' mapping' hmap'
    change update s.maps m (some mapping) m' = some mapping' at hmap'
    show ∃ ctx', update s.ctxs c _ mapping'.ctx = some ctx' ∧ _
    by_cases hm : m' = m
    · rw [hm, update_self] at hmap'
      cases hmap'
      rw [hc, update_self]
      exact ⟨_, rfl, by rw [hm]; exact List.mem_cons_self⟩
    rw [update_of_ne hm] at hmap'
    obtain ⟨ctx₀, hctx₀, hmem⟩ := h.mapped m' mapping' hmap'
    by_cases heq : mapping'.ctx = c
    · rw [heq, hctx] at hctx₀
      cases hctx₀
      rw [heq, update_self]
      exact ⟨_, rfl, List.mem_cons_of_mem m hmem⟩
    · rw [update_of_ne heq]
      exact ⟨ctx₀, hctx₀, hmem⟩
  · intro m' mapping' ctx' hmap' hctx'
    change update s.maps m (some mapping) m' = some mapping' at hmap'
    obtain ⟨ctx₀, hctx₀, hhw, -⟩ := hctxs mapping'.ctx ctx' hctx'
    rw [hhw]
    by_cases hm : m' = m
    · rw [hm, update_self] at hmap'
      cases hmap'
      rw [hc, hctx] at hctx₀
      cases hctx₀
      exact htarget
    rw [update_of_ne hm] at hmap'
    rw [← h.target m' mapping' ctx₀ hmap' hctx₀]
    cases hp : mapping'.mapping with
    | none => rfl
    | some p => exact congrArg some (hold m' mapping' p hmap' hp)

theorem MapsInv.remove (h : MapsInv s)
    (hmap : s.maps m = some mapping) (hctx : s.ctxs mapping.ctx = some ctx) {pins : BoPins}
    (hpins : pins.target = s.pins.target) :
    MapsInv { (s.setCtx mapping.ctx (some { ctx with mappings := ctx.mappings.erase m })).setMap m
      none with pins := pins } := by
  have hctxs : ∀ c' ctx', update s.ctxs mapping.ctx
      (some { ctx with mappings := ctx.mappings.erase m }) c' = some ctx' →
      ∃ ctx₀, s.ctxs c' = some ctx₀ ∧ ctx'.hw = ctx₀.hw ∧
        ctx'.mappings = ctx₀.mappings.erase m := by
    intro c' ctx' hctx'
    by_cases heq : c' = mapping.ctx
    · rw [heq, update_self] at hctx'
      cases hctx'
      exact ⟨ctx, heq ▸ hctx, rfl, rfl⟩
    rw [update_of_ne heq] at hctx'
    have hnot : m ∉ ctx'.mappings := by
      intro hmem
      exact heq ((h.mem_iff hctx' hmap).mp hmem).symm
    exact ⟨ctx', hctx', rfl, (List.erase_of_not_mem hnot).symm⟩
  have hmaps : ∀ m' mapping', update s.maps m none m' = some mapping' →
      m' ≠ m ∧ s.maps m' = some mapping' := by
    intro m' mapping' hmap'
    have hm : m' ≠ m := by
      rintro rfl
      rw [update_self] at hmap'
      cases hmap'
    rw [update_of_ne hm] at hmap'
    exact ⟨hm, hmap'⟩
  constructor
  · intro c' ctx' hctx'
    obtain ⟨ctx₀, hctx₀, -, heq⟩ := hctxs c' ctx' hctx'
    rw [heq]
    exact (h.nodup c' ctx₀ hctx₀).erase m
  · intro c' ctx' hctx' m' hmem
    obtain ⟨ctx₀, hctx₀, -, heq⟩ := hctxs c' ctx' hctx'
    rw [heq, (h.nodup c' ctx₀ hctx₀).mem_erase_iff] at hmem
    obtain ⟨mapping', hmap', hc⟩ := h.listed c' ctx₀ hctx₀ m' hmem.2
    exact ⟨mapping', (update_of_ne hmem.1 _ _).trans hmap', hc⟩
  · intro m' mapping' hmap'
    obtain ⟨hm, hold⟩ := hmaps m' mapping' hmap'
    obtain ⟨ctx₀, hctx₀, hmem⟩ := h.mapped m' mapping' hold
    show ∃ ctx', update s.ctxs mapping.ctx _ mapping'.ctx = some ctx' ∧ _
    by_cases heq : mapping'.ctx = mapping.ctx
    · rw [heq, hctx] at hctx₀
      cases hctx₀
      rw [heq, update_self]
      exact ⟨_, rfl, (List.mem_erase_of_ne hm).mpr hmem⟩
    · rw [update_of_ne heq]
      exact ⟨ctx₀, hctx₀, hmem⟩
  · intro m' mapping' ctx' hmap' hctx'
    obtain ⟨ctx₀, hctx₀, hhw, -⟩ := hctxs mapping'.ctx ctx' hctx'
    rw [hhw]
    rw [hpins]
    exact h.target m' mapping' ctx₀ (hmaps m' mapping' hmap').2 hctx₀

def clearHw (ctx : MemoryContext) : MemoryContext := { ctx with hw := none }

@[simp] theorem clearHw_comp : clearHw ∘ clearHw = clearHw := rfl

structure Stolen (s s' : MemoryContextList) (cs : List ℕ) : Prop where
  devs : s'.devs = s.devs
  ctxs : ∀ c, s'.ctxs c = if c ∈ cs then (s.ctxs c).map clearHw else s.ctxs c
  maps : MapsInv s'
  pins : PinsInv s'

theorem stolen_stealContext (hmaps : MapsInv s) (hpins : PinsInv s) (c : ℕ) : Stolen s (stealContext s c) [c] := by
  unfold stealContext
  split
  · next hnone =>
    refine ⟨rfl, ?_, hmaps, hpins⟩
    intro c'
    by_cases hc : c' = c
    · simp [hc, hnone]
    · simp [hc]
  next ctx hctx =>
  have hclear := cleared_foldl (s := s.setCtx c (some { ctx with hw := none }))
    (hpins.congr rfl rfl) ctx.mappings
  generalize ctx.mappings.foldl stealMapping (s.setCtx c (some { ctx with hw := none })) = s'
    at hclear
  have hctxs : ∀ c', s'.ctxs c' = if c' ∈ [c] then (s.ctxs c').map clearHw else s.ctxs c' := by
    intro c'
    rw [hclear.ctxs]
    show update s.ctxs c _ c' = _
    by_cases hc : c' = c
    · simp [hc, hctx, clearHw]
    · simp [hc]
  refine ⟨hclear.devs, hctxs, ?_, hclear.pins⟩
  apply hmaps.transfer (fun c' ctx' => if c' = c then clearHw ctx' else ctx')
    (fun m mapping => if m ∈ ctx.mappings then clearMapping mapping else mapping)
  · intro c'
    rw [hctxs]
    by_cases hc : c' = c
    · simp [hc]
    · simp [hc]
  · intro m
    rw [hclear.maps]
    by_cases hm : m ∈ ctx.mappings
    · simp only [if_pos hm]
      rfl
    · simp only [if_neg hm, Option.map_id']
      rfl
  · intro c' ctx' _
    split <;> rfl
  · intro m mapping _
    split <;> rfl
  · intro m mapping ctx' hmap hctx' _
    rw [hclear.target]
    have hmem := hmaps.mem_iff hctx hmap
    by_cases hc : mapping.ctx = c
    · rw [if_pos (hmem.mpr hc), if_pos hc]
      rfl
    · rw [if_neg (mt hmem.mp hc), if_neg hc]
      exact hmaps.target m mapping ctx' hmap hctx'

theorem stolen_foldl (hmaps : MapsInv s) (hpins : PinsInv s) (cs : List ℕ) :
    Stolen s (cs.foldl stealContext s) cs := by
  induction cs generalizing s with
  | nil => exact ⟨rfl, by simp, hmaps, hpins⟩
  | cons c cs ih =>
    have hfirst := stolen_stealContext hmaps hpins c
    have hrest := ih hfirst.maps hfirst.pins
    rw [List.foldl_cons]
    refine ⟨hrest.devs.trans hfirst.devs, ?_, hrest.maps, hrest.pins⟩
    intro c'
    rw [hrest.ctxs, hfirst.ctxs]
    by_cases hc : c' = c
    · simp [hc]
    · simp [hc]

/-! ### Pinning -/

structure PinnedAll (h : ℕ) (s s' : MemoryContextList) (ms : List ℕ) (pin : ℕ → ℕ) : Prop where
  devs : s'.devs = s.devs
  ctxs : s'.ctxs = s.ctxs
  maps : ∀ m, s'.maps m = if m ∈ ms then
    (s.maps m).map fun mapping => { mapping with mapping := some (pin m) } else s.maps m
  next : s.pins.next ≤ s'.pins.next
  old : ∀ p < s.pins.next, s'.pins.target p = s.pins.target p
  target : ∀ m ∈ ms, ∀ mapping, s.maps m = some mapping →
    s'.pins.target (pin m) = (h, mapping.bo)
  pins : PinsInv s'

theorem pinnedAll_pinMappings {pinErr : ℕ → ℤ} (hpins : PinsInv s) (hnodup : ms.Nodup)
    (hnone : ∀ m ∈ ms, ∀ mapping, s.maps m = some mapping → mapping.mapping = none) (hok : ∀ m ∈ ms, pinErr m = 0) :
    (pinMappings h pinErr ms s).1 = 0 ∧ ∃ pin, PinnedAll h s (pinMappings h pinErr ms s).2 ms pin := by
  induction ms generalizing s with
  | nil =>
    refine ⟨rfl, fun _ => 0, rfl, rfl, ?_, le_refl _, fun _ _ => rfl, ?_, hpins⟩
    · intro m
      rfl
    · nofun
  | cons m ms ih =>
    obtain ⟨hnotMem, hrest⟩ := List.nodup_cons.mp hnodup
    have hokRest : ∀ m' ∈ ms, pinErr m' = 0 := fun m' hm' => hok m' (List.mem_cons_of_mem m hm')
    unfold pinMappings
    split
    · next hmap =>
      obtain ⟨hzero, pin, hpinned⟩ := ih hpins hrest
        (fun m' hm' => hnone m' (List.mem_cons_of_mem m hm')) hokRest
      refine ⟨hzero, pin, { hpinned with maps := ?_, target := ?_ }⟩
      · intro m'
        rw [hpinned.maps]
        by_cases hm : m' = m
        · simp [hm, hmap]
        · simp [hm]
      · intro m' hm' mapping hmap'
        rcases List.mem_cons.mp hm' with rfl | hin
        · rw [hmap] at hmap'
          cases hmap'
        · exact hpinned.target m' hin mapping hmap'
    next mapping hmap =>
    rw [if_neg (not_not.mpr (hok m List.mem_cons_self))]
    have hfirst := hpins.pin (m := m) (fun mapping' hmap' =>
      hnone m List.mem_cons_self mapping' hmap') mapping.ctx h mapping.bo
    obtain ⟨hzero, pin, hpinned⟩ := ih hfirst hrest (by
      intro m' hm' mapping' hmap'
      have hne : m' ≠ m := ne_of_mem_of_not_mem hm' hnotMem
      change update s.maps m _ m' = _ at hmap'
      rw [update_of_ne hne] at hmap'
      exact hnone m' (List.mem_cons_of_mem m hm') mapping' hmap') hokRest
    refine ⟨hzero, update pin m s.pins.next, hpinned.devs, hpinned.ctxs, ?_, ?_, ?_, ?_, hpinned.pins⟩
    · intro m'
      rw [hpinned.maps]
      show (if m' ∈ ms then (update s.maps m _ m').map _ else update s.maps m _ m') = _
      by_cases hm : m' = m
      · simp [hm, hnotMem, hmap]
      · simp [hm]
    · have hnext : s.pins.next + 1 ≤ _ := hpinned.next
      omega
    · intro p hp
      have hnext : p < s.pins.next + 1 := by omega
      rw [hpinned.old p hnext]
      exact update_of_ne hp.ne _ _
    · intro m' hm' mapping' hmap'
      by_cases hm : m' = m
      · subst hm
        rw [hmap] at hmap'
        cases hmap'
        rw [update_self, hpinned.old _ (Nat.lt_succ_self s.pins.next)]
        exact update_self _ _ _
      rw [update_of_ne hm]
      have hin := (List.mem_cons.mp hm').resolve_left hm
      exact hpinned.target m' hin mapping' (by
        show update s.maps m _ m' = _
        rwa [update_of_ne hm])

theorem undoPin_foldl (hnone : ∀ m ∈ ms, ∀ mapping, s.maps m = some mapping → mapping.mapping = none) :
    ms.foldl undoPin s = s := by
  induction ms with
  | nil => rfl
  | cons m ms ih =>
    have hsame : undoPin s m = s := by
      have hpin : (s.maps m).bind ContextMapping.mapping = none := by
        cases hmap : s.maps m with
        | none => rfl
        | some mapping => exact hnone m List.mem_cons_self mapping hmap
      rw [undoPin, hpin]
      rfl
    rw [List.foldl_cons, hsame]
    exact ih fun m' hm' => hnone m' (List.mem_cons_of_mem m hm')

theorem pinMappings_cons_of_fail {pinErr : ℕ → ℤ} (herr : pinErr m ≠ 0) (hmap : s.maps m = some mapping) (hnone : mapping.mapping = none) :
    pinMappings h pinErr (m :: ms) s = (pinErr m, s) := by
  have hsame : s.setMap m (some { mapping with mapping := none }) = s := by
    have heq : some { mapping with mapping := none } = s.maps m := by
      rw [hmap, ← hnone]
    rw [heq, MemoryContextList.setMap, update_eq_self]
  unfold pinMappings
  rw [hmap]
  dsimp only
  rw [if_pos herr, hsame]

end

end NvidiaOot.Analysis
