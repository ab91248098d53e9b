import NvidiaOot.Library.Ranges
import NvidiaOot.Model.Nvmap

/-!
# The mappings of a handle

The list of a handle has one entry for each vma that is open, and the entries of a process are in the order of their
offsets, from which its mapped size is right.  An open without memory adds no entry, and its close then hits the
`BUG_ON`.
-/

namespace NvidiaOot.Analysis

open Library Program Model Function

variable {V : Type} {area : V → VmArea} {ps : PageSize} {vma v : V} {pid : ℕ} {vmas : List (VmaEntry V)}

/-- Entries of one process are in the order of their offsets. -/
def VmaOrdered (area : V → VmArea) (vmas : List (VmaEntry V)) : Prop :=
  vmas.Pairwise fun a b => a.pid = b.pid → (area a.vma).pgoff ≤ (area b.vma).pgoff

theorem vmaHead_found (area : V → VmArea) (vma : V) (pid i head : ℕ) (l : List (VmaEntry V)) :
    vmaHead area vma pid i head true l = head := by
  induction l generalizing i with
  | nil => rfl
  | cons e l ih =>
    unfold vmaHead
    rw [if_neg (by simp)]
    exact ih (i + 1)

/-- The entries of the process that are before the place have no larger offset, and those after it no smaller one. -/
structure IsVmaPlace (area : V → VmArea) (vma : V) (pid k : ℕ) (l : List (VmaEntry V)) : Prop where
  before : ∀ e ∈ l.take k, e.pid = pid → (area e.vma).pgoff ≤ (area vma).pgoff
  after : ∀ e ∈ l.drop k, e.pid = pid → (area vma).pgoff ≤ (area e.vma).pgoff

/-- `pre` is what the loop has gone through: the entries of the process in it are before `head`. -/
theorem isVmaPlace_vmaHead (rest pre : List (VmaEntry V)) (head : ℕ) (hordered : VmaOrdered area (pre ++ rest))
    (hpre : ∀ (j : ℕ) (e : VmaEntry V), pre[j]? = some e → e.pid = pid → j < head ∧
      (area e.vma).pgoff ≤ (area vma).pgoff) :
    IsVmaPlace area vma pid (vmaHead area vma pid pre.length head false rest) (pre ++ rest) := by
  induction rest generalizing pre head with
  | nil =>
    rw [List.append_nil]
    refine ⟨fun e he hp => ?_, fun e he hp => ?_⟩
    · obtain ⟨j, hj⟩ := List.mem_iff_getElem?.mp (List.mem_of_mem_take he)
      exact (hpre j e hj hp).2
    · obtain ⟨j, hj⟩ := List.mem_iff_getElem?.mp he
      rw [List.getElem?_drop] at hj
      exact absurd (hpre _ e hj hp).1 (not_lt.mpr (Nat.le_add_right head j))
  | cons tmp rest ih =>
    have happend : pre ++ tmp :: rest = (pre ++ [tmp]) ++ rest := by simp
    have hlength : (pre ++ [tmp]).length = pre.length + 1 := List.length_append
    unfold vmaHead
    by_cases hpid : pid = tmp.pid
    · rw [if_pos ⟨rfl, hpid⟩]
      split
      case isTrue hlt =>
        rw [vmaHead_found]
        refine ⟨fun e he hp => ?_, fun e he hp => ?_⟩
        · rw [List.take_left] at he
          obtain ⟨j, hj⟩ := List.mem_iff_getElem?.mp he
          exact (hpre j e hj hp).2
        · rw [List.drop_left] at he
          rcases List.mem_cons.mp he with rfl | hmem
          · exact hlt.le
          · have htail := (List.pairwise_append.mp hordered).2.1
            exact hlt.le.trans ((List.pairwise_cons.mp htail).1 e hmem (hpid.symm.trans hp.symm))
      case isFalse hge =>
        rw [happend] at hordered ⊢
        rw [← hlength]
        refine ih (pre ++ [tmp]) _ hordered fun j e hj hp => ?_
        rcases getElem?_concat_cases hj with ⟨rfl, rfl⟩ | hold
        · exact ⟨hlength ▸ Nat.lt_succ_self _, not_lt.mp hge⟩
        · exact ⟨hlength ▸ Nat.lt_succ_of_lt (lt_of_getElem hold), (hpre j e hold hp).2⟩
    rw [if_neg fun h => hpid h.2]
    rw [happend] at hordered ⊢
    rw [← hlength]
    refine ih (pre ++ [tmp]) head hordered fun j e hj hp => ?_
    rcases getElem?_concat_cases hj with ⟨rfl, rfl⟩ | hold
    · exact absurd hp.symm hpid
    · exact hpre j e hold hp

theorem VmaOrdered.insert (h : VmaOrdered area vmas) {k : ℕ} (hplace : IsVmaPlace area vma pid k vmas) (ref : ℤ) :
    VmaOrdered area (vmas.take k ++ ⟨vma, pid, ref⟩ :: vmas.drop k) := by
  have hparts : VmaOrdered area (vmas.take k ++ vmas.drop k) := by rwa [List.take_append_drop]
  obtain ⟨htake, hdrop, hcross⟩ := List.pairwise_append.mp hparts
  refine List.pairwise_append.mpr ⟨htake, List.pairwise_cons.mpr ⟨fun b hb hp => ?_, hdrop⟩, fun a ha b hb => ?_⟩
  · exact hplace.after b hb hp.symm
  · rcases List.mem_cons.mp hb with rfl | hb
    · exact hplace.before a ha
    · exact hcross a ha b hb

/-- The entries of one process are sorted. -/
theorem VmaOrdered.filter (h : VmaOrdered area vmas) (pid : ℕ) :
    (vmas.filter fun e => e.pid = pid).Pairwise fun a b => (area a.vma).pgoff ≤ (area b.vma).pgoff := by
  refine (List.Pairwise.filter _ h).imp_of_mem fun ha hb hle => hle ?_
  exact (of_decide_eq_true (List.mem_filter.mp ha).2).trans (of_decide_eq_true (List.mem_filter.mp hb).2).symm

/-- The offsets of an entry. -/
def vmaRange (area : V → VmArea) (ps : PageSize) (e : VmaEntry V) : Range :=
  ⟨(area e.vma).pgoff * 2 ^ ps.shift, (area e.vma).size⟩

/-- The size is that of the ranges of the entries, each counted from the end of the one before. -/
theorem clientHandleMss_eq (area : V → VmArea) (ps : PageSize) (pid : ℕ) (total : ℤ) (n : ℕ) (l : List (VmaEntry V)) :
    clientHandleMss area ps pid total n l =
      total + sweep n ((l.filter fun e => e.pid = pid).map (vmaRange area ps)) := by
  induction l generalizing total n with
  | nil => simp [clientHandleMss, sweep]
  | cons e l ih =>
    have hstart : ((area e.vma).pgoff : ℤ) * 2 ^ ps.shift = ((area e.vma).pgoff * 2 ^ ps.shift : ℕ) := by
      push_cast
      rfl
    unfold clientHandleMss
    split_ifs with hp
    · rw [List.filter_cons_of_pos (by simpa using hp.symm), List.map_cons, hstart]
      generalize (l.filter fun e => e.pid = pid).map (vmaRange area ps) = ranges at ih ⊢
      have hstop : (vmaRange area ps e).stop = (area e.vma).pgoff * 2 ^ ps.shift + (area e.vma).size := rfl
      by_cases hlt : n < (vmaRange area ps e).stop
      · have hsweep : sweep n (vmaRange area ps e :: ranges) = _ := if_pos hlt
        dsimp only
        rw [hsweep, ← Nat.cast_add, ← hstop, if_pos (Nat.cast_lt.mpr hlt), ih]
        have hstart : (vmaRange area ps e).start = (area e.vma).pgoff * 2 ^ ps.shift := rfl
        rw [← hstart] at hstop ⊢
        split <;> omega
      · have hsweep : sweep n (vmaRange area ps e :: ranges) = _ := if_neg hlt
        dsimp only
        rw [hsweep, ← Nat.cast_add, ← hstop, if_neg (fun h => hlt (Nat.cast_lt.mp h)), ih]
    · rw [ih, List.filter_cons_of_neg (by simpa [eq_comm] using hp)]

section

variable [DecidableEq V] {f : VmaEntry V → Option (VmaEntry V)}

/-- The first entry of the vma is changed, or there is none. -/
theorem vmaUpdate_cases (vma : V) (f : VmaEntry V → Option (VmaEntry V)) (vmas : List (VmaEntry V)) :
    (vmaUpdate vma f vmas = none ∧ ∀ e ∈ vmas, e.vma ≠ vma) ∨
      ∃ pre e post, vmas = pre ++ e :: post ∧ e.vma = vma ∧
        vmaUpdate vma f vmas = some (pre ++ ((f e).toList ++ post)) := by
  induction vmas with
  | nil => exact .inl ⟨rfl, nofun⟩
  | cons a rest ih =>
    unfold vmaUpdate
    split
    case isTrue ha => exact .inr ⟨[], a, rest, rfl, ha, rfl⟩
    case isFalse ha =>
      rcases ih with ⟨hnone, hall⟩ | ⟨pre, e, post, rfl, he, hsome⟩
      · rw [hnone]
        exact .inl ⟨rfl, List.forall_mem_cons.mpr ⟨ha, hall⟩⟩
      · rw [hsome]
        exact .inr ⟨a :: pre, e, post, rfl, he, rfl⟩

end

section

variable [DecidableEq V] {s s' : VmaRun V} {op : VmaOp V}

structure VmaInv (area : V → VmArea) (s : VmaRun V) : Prop where
  alive : s.bug = false
  once : (s.vmas.map VmaEntry.vma).Nodup
  tracked : ∀ v ∈ s.opened, ∃ e ∈ s.vmas, e.vma = v
  counted : ∀ e ∈ s.vmas, e.vma ∈ s.opened ∧ e.ref = s.opened.count e.vma ∧ e.pid = s.owner e.vma
  ordered : VmaOrdered area s.vmas
  umaps : s.umapCount = s.opened.length

theorem vmaInv_new : VmaInv area newVmaRun := ⟨rfl, List.nodup_nil, nofun, nofun, List.Pairwise.nil, rfl⟩

/-- Two entries are not of one vma. -/
theorem VmaInv.other (h : VmaInv area s) {pre post : List (VmaEntry V)} {e a : VmaEntry V} (hs : s.vmas = pre ++ e :: post)
    (ha : a ∈ pre ++ post) : a.vma ≠ e.vma := by
  have honce := h.once
  rw [hs, List.perm_middle.map _ |>.nodup_iff, List.map_cons, List.nodup_cons] at honce
  exact fun heq => honce.1 (heq ▸ List.mem_map_of_mem ha)

/-- The process and the vma of an entry, which stay. -/
def vmaKey (e : VmaEntry V) : ℕ × V := (e.pid, e.vma)

section

variable (h : VmaInv area s)

include h

/-- The count of an open vma goes up or down, or its entry goes with the last open. -/
theorem VmaInv.change {pre post : List (VmaEntry V)} {e : VmaEntry V} (hs : s.vmas = pre ++ e :: post)
    (opened : List V) {o : Option (VmaEntry V)} {n : ℤ}
    (ho : o = if e.vma ∈ opened then some { e with ref := (opened.count e.vma : ℤ) } else none)
    (hother : ∀ v, v ≠ e.vma → opened.count v = s.opened.count v) (hlength : n = opened.length) :
    VmaInv area { s with vmas := pre ++ (o.toList ++ post), umapCount := n, opened := opened } := by
  have hmem : ∀ a, a ∈ pre ++ (o.toList ++ post) ↔
      a ∈ pre ++ post ∨ e.vma ∈ opened ∧ a = { e with ref := (opened.count e.vma : ℤ) } := by
    intro a
    rw [ho]
    split
    case isTrue hin => simp [hin, or_assoc, or_comm]
    case isFalse hout => simp [hout]
  have hsub : ((pre ++ (o.toList ++ post)).map vmaKey).Sublist (s.vmas.map vmaKey) := by
    rw [hs, ho]
    split <;> simp [vmaKey]
  have hopened : ∀ a ∈ pre ++ post, a ∈ s.vmas := by
    rw [hs]
    intro a ha
    rcases List.mem_append.mp ha with ha | ha <;> simp [ha]
  refine ⟨h.alive, ?_, fun v hv => ?_, fun a ha => ?_, ?_, hlength⟩
  · have honce := h.once
    have hmap : ∀ l : List (VmaEntry V), l.map VmaEntry.vma = (l.map vmaKey).map Prod.snd := by simp [vmaKey]
    rw [hmap] at honce ⊢
    exact honce.sublist (hsub.map _)
  · by_cases heq : v = e.vma
    · exact ⟨_, (hmem _).mpr (.inr ⟨heq ▸ hv, rfl⟩), heq.symm⟩
    · obtain ⟨a, ha, rfl⟩ := h.tracked v (List.count_pos_iff.mp (hother v heq ▸ List.count_pos_iff.mpr hv))
      rw [hs, List.perm_middle.mem_iff] at ha
      exact ⟨a, (hmem a).mpr (.inl ((List.mem_cons.mp ha).resolve_left fun hae => heq (hae ▸ rfl))), rfl⟩
  · rcases (hmem a).mp ha with hold | ⟨hin, rfl⟩
    · obtain ⟨hin, href, hpid⟩ := h.counted a (hopened a hold)
      have hcount := hother a.vma (h.other hs hold)
      exact ⟨List.count_pos_iff.mp (hcount ▸ List.count_pos_iff.mpr hin), hcount ▸ href, hpid⟩
    · exact ⟨hin, rfl, (h.counted e (hs ▸ List.mem_append_right _ List.mem_cons_self)).2.2⟩
  · have hkeys : (s.vmas.map vmaKey).Pairwise fun x y => x.1 = y.1 → (area x.2).pgoff ≤ (area y.2).pgoff :=
      List.pairwise_map.mpr h.ordered
    exact List.pairwise_map.mp (hkeys.sublist hsub)

/-- A vma that was not open has an entry of its own. -/
theorem VmaInv.insert (hout : vma ∉ s.opened) {k : ℕ} (hplace : IsVmaPlace area vma pid k s.vmas) :
    VmaInv area { s with
      vmas := s.vmas.take k ++ ⟨vma, pid, 1⟩ :: s.vmas.drop k
      umapCount := s.umapCount + 1
      opened := vma :: s.opened
      owner := update s.owner vma pid } := by
  have hperm : (s.vmas.take k ++ ⟨vma, pid, 1⟩ :: s.vmas.drop k).Perm (⟨vma, pid, 1⟩ :: s.vmas) := by
    refine List.perm_middle.trans ?_
    rw [List.take_append_drop]
  refine ⟨h.alive, ?_, fun v hv => ?_, fun a ha => ?_, h.ordered.insert hplace 1, ?_⟩
  · rw [(hperm.map _).nodup_iff, List.map_cons, List.nodup_cons]
    refine ⟨fun hmem => ?_, h.once⟩
    obtain ⟨e, he, heq⟩ := List.mem_map.mp hmem
    have hvma : e.vma = vma := heq
    exact hout (hvma ▸ (h.counted e he).1)
  · rcases List.mem_cons.mp hv with rfl | hold
    · exact ⟨_, hperm.mem_iff.mpr List.mem_cons_self, rfl⟩
    · obtain ⟨e, he, heq⟩ := h.tracked v hold
      exact ⟨e, hperm.mem_iff.mpr (List.mem_cons_of_mem _ he), heq⟩
  · rcases List.mem_cons.mp (hperm.mem_iff.mp ha) with rfl | hold
    · refine ⟨List.mem_cons_self, ?_, (update_self vma pid s.owner).symm⟩
      rw [List.count_cons_self, List.count_eq_zero_of_not_mem hout]
      rfl
    · obtain ⟨hin, href, hpid⟩ := h.counted a hold
      have hne : a.vma ≠ vma := fun heq => hout (heq ▸ hin)
      refine ⟨List.mem_cons_of_mem _ hin, ?_, ?_⟩
      · rw [List.count_cons_of_ne hne.symm, href]
      · exact hpid.trans (update_of_ne hne pid s.owner).symm
  · rw [List.length_cons, Nat.cast_succ, h.umaps]

theorem VmaInv.open (pid : ℕ) (vma : V) (hstep : vmaStep area s (.open pid vma true) = some s') :
    VmaInv area s' := by
  cases hstep
  unfold vmaOpen
  rw [if_pos rfl]
  rcases vmaUpdate_cases vma (fun e => some { e with ref := e.ref + 1 }) s.vmas with
    ⟨hnone, hall⟩ | ⟨pre, e, post, hs, rfl, hsome⟩
  · have hout : vma ∉ s.opened := fun hin => let ⟨e, he, heq⟩ := h.tracked vma hin; hall e he heq
    rw [hnone, if_neg hout]
    exact h.insert hout (isVmaPlace_vmaHead s.vmas [] s.vmas.length h.ordered nofun)
  obtain ⟨hin, href, -⟩ := h.counted e (hs ▸ List.mem_append_right _ List.mem_cons_self)
  rw [hsome, if_pos hin]
  refine h.change hs (e.vma :: s.opened) ?_ (fun v hv => List.count_cons_of_ne hv.symm) ?_
  · rw [if_pos List.mem_cons_self, List.count_cons_self, Nat.cast_succ, ← href]
  · rw [h.umaps, List.length_cons, Nat.cast_succ]

theorem VmaInv.close (vma : V) (hstep : vmaStep area s (.close vma) = some s') : VmaInv area s' := by
  unfold vmaStep at hstep
  obtain ⟨hin, heq⟩ := Option.ite_none_right_eq_some.mp hstep
  unfold vmaClose at heq
  rcases vmaUpdate_cases vma (fun e => if e.ref - 1 = 0 then none else some { e with ref := e.ref - 1 }) s.vmas with
    ⟨hnone, hall⟩ | ⟨pre, e, post, hs, rfl, hsome⟩
  · obtain ⟨e, he, heq⟩ := h.tracked vma hin
    exact absurd heq (hall e he)
  obtain ⟨-, href, -⟩ := h.counted e (hs ▸ List.mem_append_right _ List.mem_cons_self)
  have hcount : ((s.opened.erase e.vma).count e.vma : ℤ) = e.ref - 1 := by
    have hpos := List.count_pos_iff.mpr hin
    rw [List.count_erase_self, href]
    omega
  rw [hsome] at heq
  cases heq
  refine h.change hs (s.opened.erase e.vma) ?_ (fun v hv => List.count_erase_of_ne hv) ?_
  · by_cases hlast : e.ref - 1 = 0
    · have hgone : e.vma ∉ s.opened.erase e.vma := List.count_eq_zero.mp (by omega)
      rw [if_pos hlast, if_neg hgone]
    · have hmore : e.vma ∈ s.opened.erase e.vma := List.count_pos_iff.mp (by omega)
      rw [if_neg hlast, if_pos hmore, hcount]
  · have hpos := List.length_pos_of_mem hin
    rw [h.umaps, List.length_erase_of_mem hin]
    omega

theorem VmaInv.sound (ps : PageSize) : VmaSound area ps s := by
  refine ⟨h.alive, h.once, fun v => ⟨h.tracked v, ?_⟩, fun e he => (h.counted e he).2, fun pid => ?_, h.umaps, fun pid => ?_⟩
  · rintro ⟨e, he, rfl⟩
    exact (h.counted e he).1
  · exact List.pairwise_map.mpr (h.ordered.filter pid)
  · have hsorted : ((s.vmas.filter fun e => e.pid = pid).map (vmaRange area ps)).Pairwise fun r r' =>
        r.start ≤ r'.start :=
      List.pairwise_map.mpr ((h.ordered.filter pid).imp fun hle => Nat.mul_le_mul_right _ hle)
    have hmss := clientHandleMss_eq area ps pid 0 0 s.vmas
    rw [sweep_eq_ncard hsorted, zero_add] at hmss
    refine hmss.trans (congrArg (fun X : Set ℕ => (X.ncard : ℤ)) ?_)
    ext x
    constructor
    · rintro ⟨_, r, hr, hx⟩
      obtain ⟨e, he, rfl⟩ := List.mem_map.mp hr
      obtain ⟨hmem, hpid⟩ := List.mem_filter.mp he
      obtain ⟨hin, _, howner⟩ := h.counted e hmem
      exact ⟨e.vma, hin, howner.symm.trans (of_decide_eq_true hpid), hx⟩
    · rintro ⟨v, hv, howner, hx⟩
      obtain ⟨e, he, rfl⟩ := h.tracked v hv
      have hpid := (h.counted e he).2.2.trans howner
      exact ⟨Nat.zero_le x, vmaRange area ps e, List.mem_map_of_mem (List.mem_filter.mpr ⟨he, decide_eq_true hpid⟩), hx⟩

end

/-- Two processes that map a handle, one of them twice. -/
def vmaTestOps : List (VmaOp ℕ) := [.open 7 1 true, .open 8 0 true, .open 7 0 true, .open 7 1 true, .close 0]

end

end NvidiaOot.Analysis
