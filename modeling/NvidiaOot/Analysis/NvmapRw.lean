import NvidiaOot.Model.NvmapRw

/-!
# Strided copies

The checks add and multiply the numbers of the user in 64 bits.  A call keeps its promise exactly when no sum and no
product of an element that it comes to is too large, and no copy is cut short in a way that looks like success.
-/

namespace NvidiaOot.Analysis

open Program Model

variable {env : RwEnv} {a : RwArgs} {n i : ℕ} {ret : ℤ} {copied : U64} {accesses : List RwAccess}

theorem ofNat_succ_mul (i : ℕ) (x : U64) : BitVec.ofNat 64 i * x + x = BitVec.ofNat 64 (i + 1) * x := by
  rw [BitVec.ofNat_add, BitVec.add_mul]
  exact congrArg _ (BitVec.one_mul x).symm

/-- What the copies from `i` on come to: all are made, or one is refused, or one is cut short. -/
inductive RwOutcome (env : RwEnv) (a : RwArgs) (n i : ℕ) : ℤ → U64 → List RwAccess → Prop
  | done (hok : ∀ j, i ≤ j → j < i + n → RwFits env a j ∧ toInt32 (env.left j) = 0) :
    RwOutcome env a n i 0 (BitVec.ofNat 64 (i + n) * a.elemSize) ((List.range' i n).map (rwAccess env a))
  | refused (k : ℕ) (copied : U64) (hk : k < n)
    (hok : ∀ j, i ≤ j → j < i + k → RwFits env a j ∧ toInt32 (env.left j) = 0) (hno : ¬ RwFits env a (i + k)) :
    RwOutcome env a n i (-eFAULT) copied ((List.range' i k).map (rwAccess env a))
  | short (k : ℕ) (copied : U64) (hk : k < n)
    (hok : ∀ j, i ≤ j → j < i + k → RwFits env a j ∧ toInt32 (env.left j) = 0) (hfits : RwFits env a (i + k))
    (hne : toInt32 (env.left (i + k)) ≠ 0) :
    RwOutcome env a n i (toInt32 (env.left (i + k))) copied
      ((List.range' i (if env.viaTmp then k else k + 1)).map (rwAccess env a))

theorem rwLoop_outcome (n i : ℕ) (h : rwLoop env a n i (rwAccess env a i).hOffs (rwAccess env a i).sysAddr
    (BitVec.ofNat 64 i * a.elemSize) = (ret, copied, accesses)) : RwOutcome env a n i ret copied accesses := by
  induction n generalizing i ret copied accesses with
  | zero =>
    cases h
    exact .done (fun j hle hlt => absurd hle (by omega))
  | succ n ih =>
    unfold rwLoop at h
    split at h
    case isTrue hover =>
      cases h
      exact .refused 0 _ (Nat.succ_pos n) (fun j hle hlt => absurd hle (by omega)) (not_not.mpr hover)
    case isFalse hfits =>
      have haccess : rwAccess env a i =
          ⟨(rwAccess env a i).hOffs, (rwAccess env a i).sysAddr, a.elemSize, env.left i⟩ := rfl
      dsimp only at h
      rw [← haccess] at h
      split at h
      case isTrue hleft =>
        cases h
        have hshort := RwOutcome.short (n := n + 1) 0 (BitVec.ofNat 64 i * a.elemSize) (Nat.succ_pos n)
          (fun j hle hlt => absurd hle (by omega)) hfits hleft
        cases hvia : env.viaTmp <;> simpa [hvia] using hshort
      case isFalse hleft =>
        have hoffs : (rwAccess env a i).hOffs + a.hStride = (rwAccess env a (i + 1)).hOffs :=
          (BitVec.add_assoc ..).trans (congrArg _ (ofNat_succ_mul i a.hStride))
        have haddr : (rwAccess env a i).sysAddr + a.sysStride = (rwAccess env a (i + 1)).sysAddr :=
          (BitVec.add_assoc ..).trans (congrArg _ (ofNat_succ_mul i a.sysStride))
        rw [hoffs, haddr, ofNat_succ_mul] at h
        generalize hrest : rwLoop env a n (i + 1) _ _ _ = r at h
        obtain ⟨ret', copied', rest⟩ := r
        cases h
        have hthis : ∀ k, (∀ j, i + 1 ≤ j → j < i + 1 + k → RwFits env a j ∧ toInt32 (env.left j) = 0) →
            ∀ j, i ≤ j → j < i + (k + 1) → RwFits env a j ∧ toInt32 (env.left j) = 0 := by
          intro k hok j hle hlt
          rcases Nat.eq_or_lt_of_le hle with rfl | hlt'
          · exact ⟨hfits, not_not.mp hleft⟩
          · exact hok j hlt' (by omega)
        cases ih (i + 1) hrest with
        | done hok =>
          have hnext : i + 1 + n = i + (n + 1) := by omega
          rw [hnext]
          exact .done (hthis n hok)
        | refused k copied hk hok hno =>
          have hnext : i + 1 + k = i + (k + 1) := by omega
          rw [hnext] at hno
          exact .refused (k + 1) _ (by omega) (hthis k hok) hno
        | short k copied hk hok hfits' hne =>
          have hnext : i + 1 + k = i + (k + 1) := by omega
          rw [hnext] at hfits' hne ⊢
          have hshort := RwOutcome.short (k + 1) copied' (by omega : k + 1 < n + 1) (hthis k hok) hfits' hne
          cases hvia : env.viaTmp <;> simpa [hvia, List.range'_succ] using hshort

/-- A call that is accepted makes the copies of the loop, and returns what they come to. -/
theorem rwHandle_of_accepted (h : RwAccepted env a) : ∃ ret copied,
    RwOutcome env a.merge a.merge.count.toNat 0 ret copied (rwHandle env a).2 ∧
      (rwHandle env a).1 = if ret ≠ 0 then ret else copied.toInt := by
  obtain ⟨hcpu, hargs, halloc, hbounds, hmem⟩ := h
  have hzero : (rwAccess env a.merge 0).hOffs = a.merge.hOffs ∧ (rwAccess env a.merge 0).sysAddr = a.merge.sysAddr ∧
      BitVec.ofNat 64 0 * a.merge.elemSize = 0 := by
    unfold rwAccess
    simp
  obtain ⟨ret, copied, accesses, hloop⟩ : ∃ ret copied accesses,
      rwLoop env a.merge a.merge.count.toNat 0 a.merge.hOffs a.merge.sysAddr 0 = (ret, copied, accesses) := ⟨_, _, _, rfl⟩
  have hcall : rwHandle env a = (if ret ≠ 0 then ret else copied.toInt, accesses) := by
    unfold rwHandle
    rw [if_neg (by rw [hcpu]; decide), if_neg hargs, if_neg (by rw [halloc]; decide)]
    dsimp only
    rw [if_neg hbounds, if_neg hmem, hloop]
  rw [← hzero.1, ← hzero.2.1, ← hzero.2.2] at hloop
  rw [hcall]
  exact ⟨ret, copied, rwLoop_outcome _ 0 hloop, rfl⟩

theorem rwHandle_of_refused (h : ¬ RwAccepted env a) : (rwHandle env a).1 < 0 ∧ (rwHandle env a).2 = [] := by
  unfold rwHandle
  split
  case isTrue => exact ⟨by decide, rfl⟩
  case isFalse hcpu =>
    split
    case isTrue => exact ⟨by decide, rfl⟩
    case isFalse hargs =>
      split
      case isTrue => exact ⟨by decide, rfl⟩
      case isFalse halloc =>
        dsimp only
        split
        case isTrue => exact ⟨by decide, rfl⟩
        case isFalse hbounds =>
          rw [if_pos (by_contra fun hmem => h ⟨Bool.eq_true_of_not_eq_false hcpu, hargs,
            Bool.eq_true_of_not_eq_false halloc, hbounds, hmem⟩)]
          exact ⟨by decide, rfl⟩

/-- The accesses are those of the copies that the loop comes to. -/
theorem RwOutcome.get (h : RwOutcome env a n 0 ret copied accesses) (i : ℕ) (x : RwAccess) :
    accesses[i]? = some x ↔ (i < n ∧ RwReached env a i ∧ RwMade env a i) ∧ rwAccess env a i = x := by
  have hlist : ∀ k, ((List.range' 0 k).map (rwAccess env a))[i]? = some x ↔ i < k ∧ rwAccess env a i = x := by
    intro k
    rw [List.getElem?_map, Option.map_eq_some_iff]
    by_cases hi : i < k <;> simp [hi]
  cases h with
  | done hok =>
    rw [hlist]
    refine and_congr_left fun _ => ⟨fun hi => ⟨hi, fun j hj => hok j (Nat.zero_le j) (by omega), ?_⟩, And.left⟩
    exact (hok i (Nat.zero_le i) (by omega)).imp_right fun hleft _ => hleft
  | refused k copied hk hok hno =>
    rw [hlist]
    rw [Nat.zero_add] at hno
    refine and_congr_left fun _ => ⟨fun hi => ⟨by omega, fun j hj => hok j (Nat.zero_le j) (by omega), ?_⟩, ?_⟩
    · exact (hok i (Nat.zero_le i) (by omega)).imp_right fun hleft _ => hleft
    · rintro ⟨_, hreached, hfits, _⟩
      rcases lt_trichotomy i k with hlt | rfl | hgt
      · exact hlt
      · exact absurd hfits hno
      · exact absurd (hreached k hgt).1 hno
  | short k copied hk hok hfits hne =>
    rw [hlist]
    rw [Nat.zero_add] at hfits hne
    refine and_congr_left fun _ => ⟨fun hi => ?_, ?_⟩
    · have hle : i ≤ k := by split at hi <;> omega
      refine ⟨by omega, fun j hj => hok j (Nat.zero_le j) (by omega), ?_⟩
      rcases Nat.eq_or_lt_of_le hle with rfl | hlt
      · exact ⟨hfits, fun hvia => by simp [hvia] at hi⟩
      · exact (hok i (Nat.zero_le i) (by omega)).imp_right fun hleft _ => hleft
    · rintro ⟨_, hreached, _, hmade⟩
      have hle : i ≤ k := by
        by_contra hgt
        exact hne (hreached k (by omega)).2
      split
      case isTrue hvia => exact lt_of_le_of_ne hle fun heq => hne (heq ▸ hmade hvia)
      case isFalse => omega

theorem RwOutcome.length_le (h : RwOutcome env a n 0 ret copied accesses) : accesses.length ≤ n := by
  by_contra hgt
  exact absurd ((h.get n _).mp (List.getElem?_eq_getElem (not_le.mp hgt))).1.1 (lt_irrefl n)

theorem merge_of_ne (h : a.merge ≠ a) : (a.elemSize = a.hStride ∧ a.elemSize = a.sysStride) ∧ a.merge.count.toNat = 1 ∧
    a.merge.elemSize = a.elemSize * a.count ∧ a.merge.hOffs = a.hOffs ∧ a.merge.sysAddr = a.sysAddr := by
  unfold RwArgs.merge at h ⊢
  split
  case isTrue hside => exact ⟨⟨hside.1, hside.2.1⟩, rfl, rfl, rfl, rfl⟩
  case isFalse hside => exact absurd (if_neg hside) h

theorem toNat_elements (h : a.count.toNat * a.elemSize.toNat < 2 ^ 64) :
    (a.elemSize * a.count).toNat = a.count.toNat * a.elemSize.toNat := by
  rw [BitVec.toNat_mul, Nat.mul_comm, Nat.mod_eq_of_lt h]

theorem copiedExactly_of_loop {copied : U64} (h : RwOutcome env a.merge a.merge.count.toNat 0 0 copied accesses)
    (hlen : accesses.length = a.merge.count.toNat) (hleft : ∀ i < a.merge.count.toNat, env.left i = 0)
    (hsize : a.merge ≠ a → a.count.toNat * a.elemSize.toNat < 2 ^ 64) : CopiedExactly a accesses := by
  by_cases hmerge : a.merge = a
  · rw [hmerge] at h hlen hleft
    refine ⟨1, Or.inl rfl, by rw [hlen, Nat.mul_one], fun t x hx => ?_⟩
    obtain ⟨⟨ht, _⟩, rfl⟩ := (h.get t x).mp hx
    unfold rwAccess
    rw [Nat.mul_one, Nat.one_mul]
    exact ⟨rfl, hleft t ht, rfl, rfl⟩
  obtain ⟨hside, hone, helem, hoffs, haddr⟩ := merge_of_ne hmerge
  refine ⟨a.count.toNat, Or.inr hside, by rw [hlen, hone, Nat.one_mul], fun t x hx => ?_⟩
  obtain ⟨⟨ht, _⟩, rfl⟩ := (h.get t x).mp hx
  obtain rfl : t = 0 := by omega
  unfold rwAccess
  rw [helem, toNat_elements (hsize hmerge), hoffs, haddr, Nat.zero_mul]
  exact ⟨rfl, hleft 0 ht, by simp, by simp⟩

/-- A loop that makes all its copies returns no error, and has copied the product. -/
theorem RwOutcome.of_reached (h : RwOutcome env a n 0 ret copied accesses) (hreached : RwReached env a n) :
    ret = 0 ∧ copied = BitVec.ofNat 64 n * a.elemSize ∧ accesses.length = n := by
  cases h with
  | done => simp
  | refused k copied hk hok hno =>
    rw [Nat.zero_add] at hno
    exact absurd (hreached k hk).1 hno
  | short k copied hk hok hfits hne =>
    rw [Nat.zero_add] at hne
    exact absurd (hreached k hk).2 hne

/-- A copy that is cut short ends the loop. -/
theorem RwOutcome.of_short (h : RwOutcome env a n 0 ret copied accesses) (hi : i < n) (hreached : RwReached env a i)
    (hfits : RwFits env a i) (hne : toInt32 (env.left i) ≠ 0) : ret = toInt32 (env.left i) := by
  cases h with
  | done hok => exact absurd (hok i (Nat.zero_le i) (by omega)).2 hne
  | refused k copied hk hok hno =>
    rw [Nat.zero_add] at hno
    rcases lt_trichotomy i k with hlt | rfl | hgt
    · exact absurd (hok i (Nat.zero_le i) (by omega)).2 hne
    · exact absurd hfits hno
    · exact absurd (hreached k hgt).1 hno
  | short k copied hk hok hfits' hne' =>
    rw [Nat.zero_add] at hne' ⊢
    rcases lt_trichotomy i k with hlt | rfl | hgt
    · exact absurd (hok i (Nat.zero_le i) (by omega)).2 hne
    · rfl
    · exact absurd (hreached k hgt).2 hne'

section

variable (h : CopiedExactly a accesses)

include h

theorem copiedExactly_left {x : RwAccess} (hx : accesses[i]? = some x) : x.left = 0 :=
  let ⟨_, _, _, hall⟩ := h
  (hall i x hx).2.1

/-- No copy is missing where all elements are copied. -/
theorem length_of_copiedExactly (helem : a.elemSize ≠ 0) (hcount : a.count ≠ 0)
    (hloop : RwOutcome env a.merge a.merge.count.toNat 0 ret copied accesses) :
    accesses.length = a.merge.count.toNat := by
  obtain ⟨m, _, hm, hall⟩ := h
  have hcount' : a.count.toNat ≠ 0 := fun heq => hcount (BitVec.eq_of_toNat_eq heq)
  have helem' : a.elemSize.toNat ≠ 0 := fun heq => helem (BitVec.eq_of_toNat_eq heq)
  have hpos : 0 < accesses.length := Nat.pos_of_ne_zero fun heq => hcount' (by rw [← hm, heq, Nat.zero_mul])
  by_cases hmerge : a.merge = a
  · have hget := List.getElem?_eq_getElem hpos
    have hsize := (hall 0 _ hget).1
    rw [← ((hloop.get 0 _).mp hget).2] at hsize
    have hone : m = 1 := by
      apply Nat.eq_of_mul_eq_mul_right (Nat.pos_of_ne_zero helem')
      rw [← hsize, Nat.one_mul, hmerge]
      rfl
    rw [hmerge, ← hm, hone, Nat.mul_one]
  · have hle := hloop.length_le
    rw [(merge_of_ne hmerge).2.1] at hle ⊢
    omega

/-- Elements that are copied as one have a size of 64 bits. -/
theorem copiedExactly_single (hlen : accesses.length = 1) :
    a.count.toNat * a.elemSize.toNat < 2 ^ 64 := by
  obtain ⟨m, _, hm, hall⟩ := h
  obtain ⟨x, rfl⟩ := List.length_eq_one_iff.mp hlen
  rw [hlen, Nat.one_mul] at hm
  rw [← hm, ← (hall 0 x rfl).1]
  exact x.size.isLt

end

theorem inside_of_rwFits (h : RwFits env a i) (hcarry : (rwAccess env a i).hOffs.toNat + a.elemSize.toNat < 2 ^ 64) :
    RwAccess.Inside env (rwAccess env a i) := by
  have hle : ((rwAccess env a i).hOffs + a.elemSize).toNat ≤ env.size.toNat := not_lt.mp h
  rwa [BitVec.toNat_add_of_lt hcarry] at hle

/-- An accepted call that the checks are enough for keeps its promise. -/
theorem exact_of_rwCareful (h : RwCareful env a) (hloop : RwOutcome env a.merge a.merge.count.toNat 0 ret copied accesses)
    (hret : 0 ≤ if ret ≠ 0 then ret else copied.toInt) : CopiedExactly a accesses := by
  by_cases hreached : RwReached env a.merge a.merge.count.toNat
  · obtain ⟨rfl, rfl, hlen⟩ := hloop.of_reached hreached
    rw [if_neg (not_not.mpr rfl), BitVec.ofNat_toNat, BitVec.setWidth_eq] at hret
    obtain ⟨hleft, hsize⟩ := h.whole hreached hret
    exact copiedExactly_of_loop hloop hlen hleft hsize
  exfalso
  cases hloop with
  | done hok => exact hreached fun j hj => hok j (Nat.zero_le j) (by omega)
  | refused =>
    have hneg : -eFAULT < 0 := by decide
    rw [if_pos hneg.ne] at hret
    omega
  | short k copied hk hok hfits hne =>
    rw [Nat.zero_add] at hfits hne hret
    rw [if_pos hne] at hret
    have hneg := h.short k hk (fun j hj => hok j (Nat.zero_le j) (by omega)) hfits
    omega

/-- A call keeps its promise exactly when the checks are enough for it. -/
theorem rwSound_iff (env : RwEnv) (a : RwArgs) : RwSound env a ↔ (RwAccepted env a → RwCareful env a) := by
  by_cases haccepted : RwAccepted env a
  swap
  · obtain ⟨hneg, hnone⟩ := rwHandle_of_refused haccepted
    refine iff_of_true ⟨?_, fun hret => absurd hret (by omega)⟩ fun h => absurd h haccepted
    simp [hnone]
  obtain ⟨ret, copied, hloop, hret⟩ := rwHandle_of_accepted haccepted
  constructor
  · rintro hsound -
    refine ⟨fun i hi hreached hmade => ?_, fun i hi hreached hfits => ?_, fun hreached hcopied => ?_⟩
    · have hget := (hloop.get i _).mpr ⟨⟨hi, hreached, hmade⟩, rfl⟩
      exact (hsound.inside _ (List.mem_of_getElem? hget)).trans_lt env.size.isLt
    · by_contra hleft
      have hne : toInt32 (env.left i) ≠ 0 := by omega
      obtain rfl := hloop.of_short hi hreached hfits hne
      have hexact := hsound.exact (by rw [hret, if_pos hne]; omega)
      have hlen := length_of_copiedExactly hexact (fun h => haccepted.2.1 (.inl h)) (fun h => haccepted.2.1 (.inr h)) hloop
      have hget := List.getElem?_eq_getElem (hi.trans_eq hlen.symm)
      have hleft := copiedExactly_left hexact hget
      rw [← ((hloop.get i _).mp hget).2] at hleft
      exact hne (congrArg toInt32 hleft)
    · obtain ⟨rfl, rfl, hlen⟩ := hloop.of_reached hreached
      rw [if_neg (not_not.mpr rfl), BitVec.ofNat_toNat, BitVec.setWidth_eq] at hret
      have hexact := hsound.exact (hret ▸ hcopied)
      refine ⟨fun i hi => ?_, fun hmerge => copiedExactly_single hexact (hlen.trans (merge_of_ne hmerge).2.1)⟩
      have hmade := hreached i hi
      exact copiedExactly_left hexact
        ((hloop.get i _).mpr ⟨⟨hi, fun j hj => hreached j (hj.trans hi), hmade.1, fun _ => hmade.2⟩, rfl⟩)
  · rintro hcareful
    refine ⟨fun x hx => ?_, fun hle => exact_of_rwCareful (hcareful haccepted) hloop (hret ▸ hle)⟩
    obtain ⟨i, hi⟩ := List.mem_iff_getElem?.mp hx
    obtain ⟨⟨hlt, hreached, hmade⟩, rfl⟩ := (hloop.get i x).mp hi
    exact inside_of_rwFits hmade.1 ((hcareful haccepted).element i hlt hreached hmade)

/-- A stride of 64 bits leads before the mapping: the second element is at the offset `-4`, and its end is not beyond
the size of the handle. -/
theorem rwSound_fails : ¬ ∀ (env : RwEnv) (a : RwArgs), RwSound env a := by
  intro h
  have hinside := (h ⟨true, true, 32, true, false, true, fun _ => 0⟩ ⟨4, 0, 0xFFFFFFFFFFFFFFF8, 8, 8, 2⟩).inside
    ⟨0xFFFFFFFFFFFFFFFC, 8, 8, 0⟩
  exact absurd (hinside (by decide)) (by unfold RwAccess.Inside; decide)

end NvidiaOot.Analysis
