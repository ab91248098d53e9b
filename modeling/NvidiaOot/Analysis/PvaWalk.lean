import NvidiaOot.Analysis.PvaDescMapping
import Mathlib.Data.List.Range

/-!
# The descriptor walk

The list of mapped descriptors and the marks in `desc_processed` agree, so the counter is
the length of the list and no descriptor is mapped twice.  Each round of the walk either
maps a new descriptor or steps down by one, and the walk leaves no mapped descriptor
whose successor is not mapped.
-/

namespace NvidiaOot.Analysis

open Library Program Model Function

variable {prev : U8} {e : Stop} {d fuel s : ℕ}

section

def indices (w : DmaWalk) : List ℕ := w.mapped.map Prod.fst

/-- The marks, the counter and the list of mapped descriptors agree; `T` is the task as it
was submitted. -/
structure Progress (T : DmaTask) (w : DmaWalk) : Prop where
  same : submitted w.task = submitted T
  nodup : (indices w).Nodup
  marked : ∀ d, w.task.descProcessed d = true ↔ d ∈ indices w
  range : ∀ d ∈ indices w, d < T.numDmaDescriptors.toNat
  count : w.task.numDmaDescProcessed.toNat = w.mapped.length

variable {T : DmaTask} {w w' : DmaWalk}

theorem length_indices (w : DmaWalk) : (indices w).length = w.mapped.length := List.length_map _

section

variable (h : Progress T w)

include h

theorem Progress.length_lt (hd : d < T.numDmaDescriptors.toNat)
    (hnew : d ∉ indices w) : w.mapped.length < T.numDmaDescriptors.toNat := by
  have hnodup : (d :: indices w).Nodup := List.nodup_cons.mpr ⟨hnew, h.nodup⟩
  have hsub : d :: indices w ⊆ List.range T.numDmaDescriptors.toNat := by
    intro e he
    rcases List.mem_cons.mp he with rfl | hin
    · exact List.mem_range.mpr hd
    · exact List.mem_range.mpr (h.range e hin)
  have hlen := (hnodup.subperm hsub).length_le
  rw [List.length_range, List.length_cons, length_indices] at hlen
  exact hlen

/-- What the rest of the walk depends on is unchanged. -/
structure SameProgress (w w' : DmaWalk) : Prop where
  same : submitted w'.task = submitted w.task
  mapped : w'.mapped = w.mapped
  processed : w'.task.descProcessed = w.task.descProcessed
  count : w'.task.numDmaDescProcessed = w.task.numDmaDescProcessed

theorem Progress.congr (hsame : SameProgress w w') : Progress T w' := by
  have hindices : indices w' = indices w := congrArg (List.map Prod.fst) hsame.mapped
  refine ⟨hsame.same.trans h.same, ?_, ?_, ?_, ?_⟩
  · rw [hindices]
    exact h.nodup
  · intro d
    rw [hindices, hsame.processed]
    exact h.marked d
  · rw [hindices]
    exact h.range
  · rw [hsame.count, hsame.mapped]
    exact h.count

theorem Progress.num : w.task.numDmaDescriptors = T.numDmaDescriptors :=
  (submitted_congr h.same).2.2.1

theorem Progress.descriptors : w.task.dmaDescriptors = T.dmaDescriptors :=
  (submitted_congr h.same).2.1

end

theorem mapDescriptor_link_le {env : DmaEnv} {t t' : DmaTask} {dtd dtd' : PvaDtd} {n : ℕ} {bl : Bool}
    (h : mapDescriptor env t dtd n = .ok (t', dtd', bl)) :
    (t.dmaDescriptors n).linkDescId.toNat ≤ t.numDmaDescriptors.toNat := by
  obtain ⟨t1, patched, frda, hpatch, hlink, -, -⟩ := mapDescriptor_ok h
  have hnum := (plan_congr (plan_patch hpatch)).2.2.2
  have haccepted := reject_eq_ok.mp hlink
  rw [not_or, hnum] at haccepted
  exact not_lt.mp haccepted.1

/-- Mapping a descriptor for the first time: it joins the list with the block height that
the array holds for it, and the walk goes on to its link. -/
theorem Progress.mapOne {env : DmaEnv} (h : Progress T w) (hnew : d ∉ indices w)
    (hmap : mapOne env (w.markProcessed d) d = .ok w') : Progress T w' ∧ d < T.numDmaDescriptors.toNat ∧
    w'.mapped = (d, w.task.descBlockHeightLog2 d) :: w.mapped ∧ w'.did = (T.dmaDescriptors d).linkDescId ∧
    w'.did.toNat ≤ T.numDmaDescriptors.toNat ∧ w'.task.descBlockHeightLog2 = w.task.descBlockHeightLog2 := by
  obtain ⟨hindex, t, dtd, bl, hdesc, rfl⟩ := mapOne_ok hmap
  have hplan := plan_mapDescriptor hdesc
  have hmark := submitted_markProcessed w d
  have hnum : (w.markProcessed d).task.numDmaDescriptors = T.numDmaDescriptors := h.num
  have hdescs : (w.markProcessed d).task.dmaDescriptors = T.dmaDescriptors := h.descriptors
  have hlink := mapDescriptor_link_le hdesc
  rw [hnum] at hindex hlink
  rw [hdescs] at hlink
  have hroom := h.length_lt hindex hnew
  obtain ⟨hprocessed, hcount, hheights, -⟩ := plan_congr hplan
  refine ⟨⟨?_, ?_, ?_, ?_, ?_⟩, hindex, rfl, ?_, ?_, hheights⟩
  · exact ((submitted_of_plan hplan).trans hmark).trans h.same
  · exact List.nodup_cons.mpr ⟨hnew, h.nodup⟩
  · intro e
    change t.descProcessed e = true ↔ e ∈ d :: indices w
    rw [hprocessed, List.mem_cons]
    change update w.task.descProcessed d true e = true ↔ _
    by_cases he : e = d
    · simp [he]
    · rw [update_of_ne he, h.marked e]
      simp [he]
  · intro e he
    rcases List.mem_cons.mp he with rfl | hin
    · exact hindex
    · exact h.range e hin
  · change t.numDmaDescProcessed.toNat = w.mapped.length + 1
    have hw := h.count
    rw [hcount]
    change (w.task.numDmaDescProcessed + 1).toNat = _
    bv_omega
  · rw [hdescs]
  · rw [hdescs]
    exact hlink

end

section

variable {T : DmaTask} {w w' : DmaWalk} {env : DmaEnv}

theorem mapOne_error (hd : d < w.task.numDmaDescriptors.toNat)
    (h : mapOne env w d = .error e) : ∃ code, e = .err code := by
  rcases bind_eq_error.mp h with hindex | ⟨-, -, h⟩
  · exact absurd (reject_eq_error.mp hindex).1 (not_le.mpr hd)
  rcases bind_eq_error.mp h with hmap | ⟨r, -, h⟩
  · cases hdesc : mapDescriptor env w.task (w.dmaDesc d) d with
    | ok r =>
      rw [hdesc] at hmap
      cases hmap
    | error code =>
      rw [hdesc] at hmap
      exact ⟨code, (Except.error.inj hmap).symm⟩
  · cases h

/-- A call for one descriptor maps it when it is not mapped yet and there is one left. -/
theorem mapping_one (w : DmaWalk) : nvpvaTaskDmaDescMapping env 1 w =
    if w.task.numDmaDescProcessed < w.task.numDmaDescriptors then if w.task.descProcessed w.did.toNat then .ok w
      else if w.did.toNat = nvpvaReservedDescriptorsStartIdx then .ok (w.markProcessed w.did.toNat)
      else mapOne env (w.markProcessed w.did.toNat) w.did.toNat else .ok w := by
  simp only [nvpvaTaskDmaDescMapping, descLoop, Nat.lt_one_iff, true_and]
  cases mapOne env (w.markProcessed w.did.toNat) w.did.toNat <;> rfl

/-- Such a call either finds the descriptor mapped or maps it and goes on to its link. -/
theorem mapping_one_ok (hT : T.numDmaDescriptors.toNat ≤ nvpvaReservedDescriptorsStartIdx)
    (h : Progress T w) (hd : w.did.toNat < T.numDmaDescriptors.toNat)
    (hmap : nvpvaTaskDmaDescMapping env 1 w = .ok w') : (w.did.toNat ∈ indices w ∧ w' = w) ∨
    (w.did.toNat ∉ indices w ∧ Progress T w' ∧
      w'.mapped = (w.did.toNat, w.task.descBlockHeightLog2 w.did.toNat) :: w.mapped ∧
      w'.did = (T.dmaDescriptors w.did.toNat).linkDescId ∧ w'.did.toNat ≤ T.numDmaDescriptors.toNat) := by
  rw [mapping_one, h.num] at hmap
  by_cases hin : w.did.toNat ∈ indices w
  · -- a mapped descriptor is marked, whether or not the counter is full
    rw [(h.marked _).mpr hin, if_pos rfl, ite_self] at hmap
    exact Or.inl ⟨hin, (Except.ok.inj hmap).symm⟩
  have hroom : w.task.numDmaDescProcessed < T.numDmaDescriptors := by
    rw [BitVec.lt_def, h.count]
    exact h.length_lt hd hin
  have hmark : ¬ w.task.descProcessed w.did.toNat = true := by
    intro hmarked
    exact hin ((h.marked _).mp hmarked)
  have hfree : w.did.toNat ≠ nvpvaReservedDescriptorsStartIdx := by omega
  rw [if_pos hroom, if_neg hmark, if_neg hfree] at hmap
  obtain ⟨hprogress, -, hmapped, hdid, hle, -⟩ := h.mapOne hin hmap
  exact Or.inr ⟨hin, hprogress, hmapped, hdid, hle⟩

theorem mapping_one_error (hd : w.did.toNat < w.task.numDmaDescriptors.toNat)
    (hmap : nvpvaTaskDmaDescMapping env 1 w = .error e) : ∃ code, e = .err code := by
  rw [mapping_one] at hmap
  split at hmap
  case isFalse => cases hmap
  case isTrue =>
    split at hmap
    case isTrue => cases hmap
    case isFalse =>
      split at hmap
      case isTrue => cases hmap
      case isFalse =>
        have hd' : w.did.toNat < (w.markProcessed w.did.toNat).task.numDmaDescriptors.toNat := hd
        exact mapOne_error hd' hmap

/-- The state in which a round maps: one step down, the height noted. -/
def stepDown (w : DmaWalk) (blockHeight : U8) : DmaWalk :=
  { w with did := w.did - 1 }.setHeight (w.did - 1).toNat blockHeight

theorem sameProgress_stepDown (w : DmaWalk) (blockHeight : U8) :
    SameProgress w (stepDown w blockHeight) := ⟨rfl, rfl, rfl, rfl⟩

theorem stepDown_height (w : DmaWalk) (blockHeight : U8) :
    (stepDown w blockHeight).task.descBlockHeightLog2 (w.did - 1).toNat = blockHeight :=
  update_self _ _ _

variable {walkEnv : WalkEnv} {blockHeight : U8}

/-- **One round of the walk.**  It steps onto a descriptor of the task; a new one is mapped
with the channel's block height and its link is next, a mapped one is passed. -/
theorem walkStep_ok (hT : T.numDmaDescriptors.toNat ≤ nvpvaReservedDescriptorsStartIdx)
    (h : Progress T w) (hstep : walkStep walkEnv blockHeight w = .ok w') :
    Progress T w' ∧ (w.did - 1).toNat < T.numDmaDescriptors.toNat ∧
    (((w.did - 1).toNat ∈ indices w ∧ w'.mapped = w.mapped ∧ w'.did = w.did - 1) ∨
      ((w.did - 1).toNat ∉ indices w ∧ w'.mapped = ((w.did - 1).toNat, blockHeight) :: w.mapped ∧
        w'.did = (T.dmaDescriptors (w.did - 1).toNat).linkDescId ∧ w'.did.toNat ≤ T.numDmaDescriptors.toNat)) := by
  obtain ⟨hindex, hmap⟩ := reject_bind_eq_ok.mp hstep
  have hdown := h.congr (sameProgress_stepDown w blockHeight)
  have hd : (w.did - 1).toNat < T.numDmaDescriptors.toNat := by
    rw [← h.num]
    exact not_le.mp hindex
  rcases mapping_one_ok hT hdown hd hmap with ⟨hin, rfl⟩ | ⟨hnew, hprogress, hmapped, hlink, hle⟩
  · exact ⟨hdown, hd, Or.inl ⟨hin, rfl, rfl⟩⟩
  refine ⟨hprogress, hd, Or.inr ⟨hnew, ?_, hlink, hle⟩⟩
  rw [hmapped]
  exact congrArg (fun height => ((w.did - 1).toNat, height) :: w.mapped)
    (stepDown_height w blockHeight)

/-- A round that steps onto a descriptor of the task stops with an error code only. -/
theorem walkStep_error (h : Progress T w) (hd : (w.did - 1).toNat < T.numDmaDescriptors.toNat) (hstep : walkStep walkEnv blockHeight w = .error e) : ∃ code, e = .err code := by
  rw [← h.num] at hd
  rcases bind_eq_error.mp hstep with hindex | ⟨-, -, hmap⟩
  · exact absurd (reject_eq_error.mp hindex).1 (not_le.mpr hd)
  · have hdown : (stepDown w blockHeight).did.toNat <
        (stepDown w blockHeight).task.numDmaDescriptors.toNat := hd
    exact mapping_one_error hdown hmap

end

section

variable {T : DmaTask} {w0 w w' : DmaWalk} {walkEnv : WalkEnv} {blockHeight : U8}

/-- The walk of one channel under way: `w0` is where it started, `s` its first index and
`prev` the id before the last step. -/
structure Walked (T : DmaTask) (s : ℕ) (blockHeight : U8) (w0 w : DmaWalk) (prev : U8) : Prop where
  progress : Progress T w
  keeps : ∀ e ∈ w0.mapped, e ∈ w.mapped
  entries : ∀ e ∈ w.mapped, e ∈ w0.mapped ∨ e.2 = blockHeight ∧ e.1 ∉ indices w0
  closed : ∀ a ∈ indices w, ∀ b, LinksTo T a b → b ∈ indices w ∨ b + 1 = w.did.toNat
  start : s ∈ indices w ∨ s + 1 = w.did.toNat
  last : prev ≠ 0 → (prev - 1).toNat ∈ indices w
  didLe : w.did.toNat ≤ T.numDmaDescriptors.toNat

theorem toNat_sub_one_add_one {x : U8} (hx : x ≠ 0) : (x - 1).toNat + 1 = x.toNat := by
  bv_omega

def ClosedUnderLinks (T : DmaTask) (w : DmaWalk) : Prop :=
  ∀ a ∈ indices w, ∀ b, LinksTo T a b → b ∈ indices w

theorem Walked.step (hT : T.numDmaDescriptors.toNat ≤ nvpvaReservedDescriptorsStartIdx) (h : Walked T s blockHeight w0 w prev) (hdid : w.did ≠ 0)
    (hstep : walkStep walkEnv blockHeight w = .ok w') : Walked T s blockHeight w0 w' w.did := by
  obtain ⟨hprogress, hd, hcase⟩ := walkStep_ok hT h.progress hstep
  have hcur := toNat_sub_one_add_one hdid
  rcases hcase with ⟨hin, hmapped, hdid'⟩ | ⟨hnew, hmapped, hlink, hle⟩
  · -- the descriptor is mapped: what was pending is no longer
    have hindices : indices w' = indices w := congrArg (List.map Prod.fst) hmapped
    refine ⟨hprogress, ?_, ?_, ?_, ?_, ?_, ?_⟩
    · rw [hmapped]
      exact h.keeps
    · rw [hmapped]
      exact h.entries
    · intro a ha b hab
      rw [hindices] at ha ⊢
      rcases h.closed a ha b hab with hb | hb
      · exact Or.inl hb
      left
      have hbd : b = (w.did - 1).toNat := by omega
      rw [hbd]
      exact hin
    · rw [hindices]
      rcases h.start with hs | hs
      · exact Or.inl hs
      left
      have hsd : s = (w.did - 1).toNat := by omega
      rw [hsd]
      exact hin
    · intro _
      rw [hindices]
      exact hin
    · rw [hdid']
      omega
  -- a new descriptor: its link is pending
  have hindices : indices w' = (w.did - 1).toNat :: indices w := congrArg (List.map Prod.fst) hmapped
  have hhead : (w.did - 1).toNat ∈ indices w' := by
    rw [hindices]
    exact List.mem_cons_self
  have htail (d : ℕ) (hd : d ∈ indices w) : d ∈ indices w' := by
    rw [hindices]
    exact List.mem_cons_of_mem _ hd
  refine ⟨hprogress, ?_, ?_, ?_, ?_, fun _ => hhead, hle⟩
  · intro e he
    rw [hmapped]
    exact List.mem_cons_of_mem _ (h.keeps e he)
  · intro e he
    rw [hmapped] at he
    rcases List.mem_cons.mp he with rfl | hin
    · right
      refine ⟨rfl, fun hold => hnew ?_⟩
      obtain ⟨e, he, hed⟩ := List.mem_map.mp hold
      exact List.mem_map.mpr ⟨e, h.keeps e he, hed⟩
    · exact h.entries e hin
  · intro a ha b hab
    rw [hindices] at ha
    rcases List.mem_cons.mp ha with rfl | hin
    · right
      rw [hlink]
      exact hab.symm
    left
    rcases h.closed a hin b hab with hb | hb
    · exact htail b hb
    · have hbd : b = (w.did - 1).toNat := by omega
      rw [hbd]
      exact hhead
  · left
    rcases h.start with hs | hs
    · exact htail s hs
    · have hsd : s = (w.did - 1).toNat := by omega
      rw [hsd]
      exact hhead

theorem Walked.stopped (h : Walked T s blockHeight w0 w prev)
    (hstop : ¬ (w.did ≠ 0 ∧ w.did ≠ prev)) : ClosedUnderLinks T w ∧ s ∈ indices w := by
  have hpending (b : ℕ) (hb : b + 1 = w.did.toNat) : b ∈ indices w := by
    have hdid : w.did ≠ 0 := by
      intro hzero
      rw [hzero] at hb
      exact absurd hb (Nat.succ_ne_zero b)
    have hprev : w.did = prev := by
      by_contra hne
      exact hstop ⟨hdid, hne⟩
    have hlast := h.last (hprev ▸ hdid)
    have hbd : b = (prev - 1).toNat := by
      have hcur := toNat_sub_one_add_one hdid
      rw [hprev] at hcur hb
      omega
    rw [hbd]
    exact hlast
  constructor
  · intro a ha b hab
    exact (h.closed a ha b hab).elim id (hpending b)
  · exact h.start.elim id (hpending s)

/-- A bound of the rounds that are left: each maps a descriptor or lowers the id. -/
def roundsLeft (T : DmaTask) (w : DmaWalk) : ℕ :=
  (T.numDmaDescriptors.toNat - w.mapped.length) * 256 + w.did.toNat

section

variable (hT : T.numDmaDescriptors.toNat ≤ nvpvaReservedDescriptorsStartIdx)

include hT

theorem roundsLeft_decreases
    (h : Progress T w) (hdid : w.did ≠ 0) (hstep : walkStep walkEnv blockHeight w = .ok w') :
    roundsLeft T w' < roundsLeft T w := by
  obtain ⟨-, hd, hcase⟩ := walkStep_ok hT h hstep
  have hcur := toNat_sub_one_add_one hdid
  unfold roundsLeft
  rcases hcase with ⟨-, hmapped, hdid'⟩ | ⟨hnew, hmapped, -, -⟩
  · rw [hmapped, hdid']
    omega
  · have hroom := h.length_lt hd hnew
    rw [hmapped, List.length_cons]
    omega

/-- **The walk of a channel ends**: with enough rounds it returns. -/
theorem walkChain_returns (h : Progress T w) (hfuel : roundsLeft T w < fuel) :
    walkChain walkEnv blockHeight fuel prev w ≠ none := by
  induction fuel generalizing w prev with
  | zero => exact absurd hfuel (Nat.not_lt_zero _)
  | succ fuel ih =>
    unfold walkChain
    split
    case isFalse => exact Option.some_ne_none _
    case isTrue hgo =>
      cases hstep : walkStep walkEnv blockHeight w with
      | error e => exact Option.some_ne_none _
      | ok w' =>
        have hless := roundsLeft_decreases hT h hgo.1 hstep
        have hprogress := (walkStep_ok hT h hstep).1
        exact ih hprogress (by omega)

/-- **What the walk of a channel does.**  It stops with an error code only, and where it
ends it has mapped what the channel's first descriptor needs. -/
theorem walkChain_spec {r : Except Stop DmaWalk} (h : Walked T s blockHeight w0 w prev)
    (hrun : walkChain walkEnv blockHeight fuel prev w = some r) : (∀ e, r = .error e → ∃ code, e = .err code) ∧
    (∀ w', r = .ok w' → ∃ prev', Walked T s blockHeight w0 w' prev' ∧ ClosedUnderLinks T w' ∧ s ∈ indices w') := by
  induction fuel generalizing w prev with
  | zero => cases hrun
  | succ fuel ih =>
    unfold walkChain at hrun
    split at hrun
    case isFalse hstop =>
      cases hrun
      refine ⟨nofun, fun w' hw' => ?_⟩
      cases hw'
      exact ⟨prev, h, h.stopped hstop⟩
    case isTrue hgo =>
      cases hstep : walkStep walkEnv blockHeight w with
      | error e =>
        rw [hstep] at hrun
        cases hrun
        have hcur := toNat_sub_one_add_one hgo.1
        have hle := h.didLe
        refine ⟨fun e' he' => ?_, nofun⟩
        obtain rfl := Except.error.inj he'
        exact walkStep_error h.progress (by omega) hstep
      | ok w1 =>
        rw [hstep] at hrun
        exact ih (h.step hT hgo.1 hstep) hrun

end

/-- The walk of a channel whose chain meets nothing that is mapped: the descriptors mapped so
far lead to the one before the pending one. -/
structure OnChain (T : DmaTask) (s : ℕ) (w0 w : DmaWalk) (prev : U8) : Prop where
  fresh : prev = 0 → w.mapped = w0.mapped
  reached : ∀ d ∈ indices w, d ∈ indices w0 ∨ Reaches T s d ∧ Reaches T d (prev - 1).toNat
  pending : w.did ≠ 0 → Reaches T s (w.did - 1).toNat
  last : prev ≠ 0 → Reaches T s (prev - 1).toNat
  link : prev ≠ 0 → w.did ≠ 0 → LinksTo T (prev - 1).toNat (w.did - 1).toNat

/-- A chain that is new and does not come back to itself. -/
structure NewChain (T : DmaTask) (s : ℕ) (w0 : DmaWalk) : Prop where
  fresh : ∀ d, Reaches T s d → d ∉ indices w0
  acyclic : ∀ a b, Reaches T s a → LinksTo T a b → a ≠ b → ¬ Reaches T b a

section

variable (hT : T.numDmaDescriptors.toNat ≤ nvpvaReservedDescriptorsStartIdx)

include hT

theorem OnChain.step (hchain : NewChain T s w0) (h : Walked T s blockHeight w0 w prev)
    (hon : OnChain T s w0 w prev) (hgo : w.did ≠ 0 ∧ w.did ≠ prev)
    (hstep : walkStep walkEnv blockHeight w = .ok w') : OnChain T s w0 w' w.did := by
  obtain ⟨-, -, hcase⟩ := walkStep_ok hT h.progress hstep
  have hpending := hon.pending hgo.1
  have hnotyet : (w.did - 1).toNat ∉ indices w := by
    intro hin
    by_cases hprev : prev = 0
    · have hindices : indices w = indices w0 := congrArg (List.map Prod.fst) (hon.fresh hprev)
      rw [hindices] at hin
      exact hchain.fresh _ hpending hin
    rcases hon.reached _ hin with hold | ⟨-, hback⟩
    · exact hchain.fresh _ hpending hold
    have hne : (prev - 1).toNat ≠ (w.did - 1).toNat := by
      intro heq
      apply hgo.2
      have h1 := toNat_sub_one_add_one hprev
      have h2 := toNat_sub_one_add_one hgo.1
      apply BitVec.eq_of_toNat_eq
      omega
    exact hchain.acyclic _ _ (hon.last hprev) (hon.link hprev hgo.1) hne hback
  rcases hcase with ⟨hin, -, -⟩ | ⟨-, hmapped, hlink, -⟩
  · exact absurd hin hnotyet
  have hindices : indices w' = (w.did - 1).toNat :: indices w :=
    congrArg (List.map Prod.fst) hmapped
  have hnext (hdid : w'.did ≠ 0) : LinksTo T (w.did - 1).toNat (w'.did - 1).toNat := by
    rw [LinksTo, ← hlink]
    exact (toNat_sub_one_add_one hdid).symm
  refine ⟨fun hzero => absurd hzero hgo.1, ?_, ?_, fun _ => hpending, fun _ => hnext⟩
  · intro d hd
    rw [hindices] at hd
    rcases List.mem_cons.mp hd with rfl | hold
    · exact Or.inr ⟨hpending, Relation.ReflTransGen.refl⟩
    by_cases hprev : prev = 0
    · left
      have hsame : indices w = indices w0 := congrArg (List.map Prod.fst) (hon.fresh hprev)
      rwa [hsame] at hold
    · rcases hon.reached d hold with hin | ⟨hreach, hlast⟩
      · exact Or.inl hin
      · exact Or.inr ⟨hreach, hlast.tail (hon.link hprev hgo.1)⟩
  · intro hdid
    exact hpending.tail (hnext hdid)

/-- **On a new chain the walk maps only the chain.** -/
theorem walkChain_onChain (hchain : NewChain T s w0)
    (h : Walked T s blockHeight w0 w prev) (hon : OnChain T s w0 w prev)
    (hrun : walkChain walkEnv blockHeight fuel prev w = some (.ok w')) :
    ∀ d ∈ indices w', d ∈ indices w0 ∨ Reaches T s d := by
  induction fuel generalizing w prev with
  | zero => cases hrun
  | succ fuel ih =>
    unfold walkChain at hrun
    split at hrun
    case isFalse hstop =>
      obtain rfl := Except.ok.inj (Option.some.inj hrun)
      intro d hd
      exact (hon.reached d hd).imp id And.left
    case isTrue hgo =>
      cases hstep : walkStep walkEnv blockHeight w with
      | error e =>
        rw [hstep] at hrun
        cases hrun
      | ok w1 =>
        rw [hstep] at hrun
        exact ih (h.step hT hgo.1 hstep) (hon.step hT hchain h hgo hstep) hrun

theorem walkChain_progress (h : Progress T w)
    (hrun : walkChain walkEnv blockHeight fuel prev w = some (.ok w')) : Progress T w' := by
  induction fuel generalizing w prev with
  | zero => cases hrun
  | succ fuel ih =>
    unfold walkChain at hrun
    split at hrun
    case isFalse =>
      obtain rfl := Except.ok.inj (Option.some.inj hrun)
      exact h
    case isTrue =>
      cases hstep : walkStep walkEnv blockHeight w with
      | error e =>
        rw [hstep] at hrun
        cases hrun
      | ok w1 =>
        rw [hstep] at hrun
        exact ih (walkStep_ok hT h hstep).1 hrun

theorem walkChain_start (h : Progress T w) (hdid : w.did ≠ 0)
    (hrun : walkChain walkEnv blockHeight fuel 0 w = some (.ok w')) :
    (w.did - 1).toNat < T.numDmaDescriptors.toNat := by
  cases fuel with
  | zero => cases hrun
  | succ fuel =>
    unfold walkChain at hrun
    rw [if_pos ⟨hdid, hdid⟩] at hrun
    cases hstep : walkStep walkEnv blockHeight w with
    | error e =>
      rw [hstep] at hrun
      cases hrun
    | ok w1 => exact (walkStep_ok hT h hstep).2.1

end

end

end NvidiaOot.Analysis
