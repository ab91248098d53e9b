import Mathlib.Algebra.Group.Pi.Lemmas
import Mathlib.Tactic.Abel
import NvidiaOot.Model.Nvmap

/-!
# References to handles and dma-bufs of nvmap in the middle of a call

There are references then that no table has: `Held s t u w` says that there are
`t` of them to each handle and `u` to the file of each dma-buf, and that the clients have `w` more
duplications of references than ids.  Each operation says what it does to them.
-/

namespace NvidiaOot.Analysis

open Library Program Model Function

/-- The duplications of the references of a client to a dma-buf, and its ids of it. -/
def clientDupes (s : NvmapRefs) (c : ℕ) (b : DmabufAccess) : ℤ :=
  s.refs.sum fun r => if r.client = c ∧ r.buf = b then r.dupes else 0

def clientIds (s : NvmapRefs) (c : ℕ) (b : DmabufAccess) : ℤ :=
  s.ids.sum fun e => if e.client = c ∧ e.buf = b then 1 else 0

structure Held (s : NvmapRefs) (t : ℕ → ℤ) (u : DmabufAccess → ℤ) (w : ℕ × DmabufAccess → ℤ) :
    Prop where
  ref : ∀ k, (s.handles k).ref = dupesOf s k + liveOf s k + t k
  files : ∀ b, (s.dmabuf b).files = refsOf s b + fdsOf s b + u b
  spare : ∀ c b, clientDupes s c b = clientIds s c b + w (c, b)
  once : ∀ k < s.next, (s.handles k).freed + (if 0 < (s.handles k).ref then 1 else 0) = 1
  unused : ∀ k, s.next ≤ k → s.handles k = .unused
  dupes : ∀ i r, s.refs.get i = some r → 0 < r.dupes

variable {s s' : NvmapRefs} {t t' : ℕ → ℤ} {u u' : DmabufAccess → ℤ} {w w' : ℕ × DmabufAccess → ℤ}
  {c k n i : ℕ} {b : DmabufAccess} {r : ClientRef} {e : NamedBuf} {d : ℤ}
  {f : CountedHandle → CountedHandle}

theorem Held.congr (h : Held s t u w) (ht : t' = t) (hu : u' = u) (hw : w' = w) : Held s t' u' w' := by
  rw [ht, hu, hw]
  exact h

theorem liveOf_nonneg (s : NvmapRefs) (k : ℕ) : 0 ≤ liveOf s k := by
  unfold liveOf
  omega

theorem Held.dupesOf_nonneg (h : Held s t u w) (k : ℕ) : 0 ≤ dupesOf s k := by
  apply Slots.sum_nonneg
  intro i r hr
  have hd := h.dupes i r hr
  split <;> omega

theorem refsOf_nonneg (s : NvmapRefs) (b : DmabufAccess) : 0 ≤ refsOf s b := by
  apply Slots.sum_nonneg
  intro i r _
  split <;> omega

theorem fdsOf_nonneg (s : NvmapRefs) (b : DmabufAccess) : 0 ≤ fdsOf s b := by
  apply Slots.sum_nonneg
  intro i r _
  split <;> omega

theorem one_le_refsOf (hr : s.refs.get i = some r) : 1 ≤ refsOf s r.buf := by
  have hle := Slots.le_sum (f := fun r' : ClientRef => if r'.buf = r.buf then (1 : ℤ) else 0)
    (fun i x _ => by split <;> omega) hr
  refine le_trans ?_ hle
  simp

theorem one_le_fdsOf (he : s.fds.get i = some e) : 1 ≤ fdsOf s e.buf := by
  have hle := Slots.le_sum (f := fun e' : NamedBuf => if e'.buf = e.buf then (1 : ℤ) else 0)
    (fun i x _ => by split <;> omega) he
  refine le_trans ?_ hle
  simp

theorem one_le_clientIds (he : s.ids.get i = some e) : 1 ≤ clientIds s e.client e.buf := by
  have hle := Slots.le_sum
    (f := fun e' : NamedBuf => if e'.client = e.client ∧ e'.buf = e.buf then (1 : ℤ) else 0)
    (fun i x _ => by split <;> omega) he
  refine le_trans ?_ hle
  simp

theorem Held.dupes_le (h : Held s t u w) (hr : s.refs.get i = some r) : r.dupes ≤ dupesOf s r.buf.handle := by
  have hle := Slots.le_sum
    (f := fun r' : ClientRef => if r'.buf.handle = r.buf.handle then r'.dupes else 0)
    (fun i x hx => by have := h.dupes i x hx; split <;> omega) hr
  refine le_trans ?_ hle
  simp

theorem live_of_files (h : 0 < (s.dmabuf b).files) : (s.dmabuf b).live = true := by
  cases hp : s.dmabuf b with
  | null | err => rw [hp] at h; exact absurd h (lt_irrefl 0)
  | buf m => rfl

theorem files_of_not_live (h : (s.dmabuf b).live = false) : (s.dmabuf b).files = 0 := by
  cases hp : s.dmabuf b with
  | null | err => rfl
  | buf m => rw [hp] at h; cases h

theorem one_le_liveOf (h : (s.dmabuf b).live = true) : 1 ≤ liveOf s b.handle := by
  obtain ⟨k, isRo⟩ := b
  unfold liveOf
  cases isRo <;> simp only [h, Bool.toNat_true] <;> omega

theorem Held.lt_next (h : Held s t u w) (href : 0 < (s.handles k).ref) : k < s.next := by
  by_contra hk
  rw [h.unused k (Nat.le_of_not_lt hk)] at href
  exact absurd href (lt_irrefl 0)

theorem Held.ref_of_live (h : Held s t u w) (hlive : (s.dmabuf b).live = true) (ht : 0 ≤ t b.handle) :
    0 < (s.handles b.handle).ref := by
  rw [h.ref]
  have hone := one_le_liveOf hlive
  have hd := h.dupesOf_nonneg b.handle
  omega

theorem Held.ref_of_held (h : Held s t u w) (ht : 0 < t k) : 0 < (s.handles k).ref := by
  rw [h.ref]
  have hl := liveOf_nonneg s k
  have hd := h.dupesOf_nonneg k
  omega

theorem onHandle_self (s : NvmapRefs) (k : ℕ) (f : CountedHandle → CountedHandle) :
    (s.onHandle k f).handles k = f (s.handles k) := update_self k _ _

theorem onHandle_of_ne (h : i ≠ k) (s : NvmapRefs) (f : CountedHandle → CountedHandle) :
    (s.onHandle k f).handles i = s.handles i := update_of_ne h _ _

theorem Held.onHandle (h : Held s t u w) (hk : k < s.next)
    (href : (f (s.handles k)).ref = dupesOf s k + liveOf (s.onHandle k f) k + t' k) (ht : ∀ j, j ≠ k → t' j = t j)
    (hfiles : ∀ isRo, ((f (s.handles k)).dmabuf isRo).files = refsOf s ⟨k, isRo⟩ + fdsOf s ⟨k, isRo⟩ + u' ⟨k, isRo⟩)
    (hu : ∀ b, b.handle ≠ k → u' b = u b)
    (honce : (f (s.handles k)).freed + (if 0 < (f (s.handles k)).ref then 1 else 0) = 1) :
    Held (s.onHandle k f) t' u' w where
  ref j := by
    by_cases hj : j = k
    · rw [hj, onHandle_self]
      exact href
    have hlive : liveOf (s.onHandle k f) j = liveOf s j := by
      unfold liveOf NvmapRefs.dmabuf
      rw [onHandle_of_ne hj]
    rw [onHandle_of_ne hj, hlive, ht j hj]
    exact h.ref j
  files b := by
    by_cases hb : b.handle = k
    · obtain ⟨m, isRo⟩ := b
      obtain rfl : m = k := hb
      unfold NvmapRefs.dmabuf
      rw [onHandle_self]
      exact hfiles isRo
    · unfold NvmapRefs.dmabuf
      rw [onHandle_of_ne hb, hu b hb]
      exact h.files b
  spare := h.spare
  once j hj := by
    by_cases hjk : j = k
    · rw [hjk, onHandle_self]
      exact honce
    · rw [onHandle_of_ne hjk]
      exact h.once j hj
  unused j hj := by
    have hjk : j ≠ k := fun heq => absurd hk (by rw [heq] at hj; exact Nat.not_lt.mpr hj)
    rw [onHandle_of_ne hjk]
    exact h.unused j hj
  dupes := h.dupes

theorem liveOf_onHandle (h : (f (s.handles k)).dmabuf = (s.handles k).dmabuf) :
    liveOf (s.onHandle k f) k = liveOf s k := by
  unfold liveOf NvmapRefs.dmabuf
  rw [onHandle_self, h]

theorem Held.get (h : Held s t u w) (href : 0 < (s.handles k).ref) : nvmapHandleGet s k = some (s.onHandle k .get) ∧
      Held (s.onHandle k .get) (t + Pi.single k 1) u w := by
  have hk := h.lt_next href
  constructor
  · exact if_neg (by omega)
  · apply h.onHandle hk
    · rw [liveOf_onHandle rfl]
      have := h.ref k
      simp only [CountedHandle.get, Pi.add_apply, Pi.single_eq_same]
      omega
    · intro j hj
      simp [Pi.single_eq_of_ne hj]
    · exact fun isRo => h.files ⟨k, isRo⟩
    · exact fun b _ => rfl
    · have honce := h.once k hk
      have hpos : 0 < (s.handles k).get.ref := by
        simp only [CountedHandle.get]
        omega
      rw [if_pos href] at honce
      rw [if_pos hpos]
      exact honce

theorem CountedHandle.once_put {h : CountedHandle} (href : 0 < h.ref) (hfreed : h.freed = 0) :
    h.put.freed + (if 0 < h.put.ref then 1 else 0) = 1 := by
  by_cases hlast : h.ref - 1 = 0
  · have hput : h.put.freed = h.freed + 1 := if_pos hlast
    have hnone : ¬ 0 < h.put.ref := by
      simp only [CountedHandle.put]
      omega
    rw [if_neg hnone, hput, hfreed]
  have hput : h.put.freed = h.freed := if_neg hlast
  have hleft : 0 < h.put.ref := by
    simp only [CountedHandle.put]
    omega
  rw [if_pos hleft, hput, hfreed]

theorem Held.put (h : Held s t u w) (href : 0 < (s.handles k).ref) :
    Held (nvmapHandlePut s k) (t - Pi.single k 1) u w := by
  have hk := h.lt_next href
  apply h.onHandle hk
  · rw [liveOf_onHandle rfl]
    have := h.ref k
    simp only [CountedHandle.put, Pi.sub_apply, Pi.single_eq_same]
    omega
  · intro j hj
    simp [Pi.single_eq_of_ne hj]
  · exact fun isRo => h.files ⟨k, isRo⟩
  · exact fun b _ => rfl
  · have honce := h.once k hk
    rw [if_pos href] at honce
    exact CountedHandle.once_put href (by omega)

theorem Held.setAlloc (h : Held s t u w) (hk : k < s.next) : Held (s.onHandle k .setAlloc) t u w := by
  apply h.onHandle hk
  · rw [liveOf_onHandle rfl]
    exact h.ref k
  · exact fun j _ => rfl
  · exact fun isRo => h.files ⟨k, isRo⟩
  · exact fun b _ => rfl
  · exact h.once k hk

theorem DmabufPtr.live_count (d : ℤ) (p : DmabufPtr) : (p.count d).live = p.live := by
  cases p <;> rfl

theorem DmabufPtr.files_count {p : DmabufPtr} (h : p.live = true) (d : ℤ) : (p.count d).files = p.files + d := by
  cases p with
  | null | err => cases h
  | buf m => rfl

theorem Held.countFile (h : Held s t u w) (hlive : (s.dmabuf b).live = true) (hk : b.handle < s.next)
    (d : ℤ) : Held (s.onHandle b.handle (.countFile b.isRo d)) t (u + Pi.single b d) w := by
  obtain ⟨k, isRo⟩ := b
  apply h.onHandle hk
  · have hl : liveOf (s.onHandle k (.countFile isRo d)) k = liveOf s k := by
      unfold liveOf NvmapRefs.dmabuf
      rw [onHandle_self]
      unfold CountedHandle.countFile CountedHandle.setDmabuf
      cases isRo <;> simp [DmabufPtr.live_count]
    rw [hl]
    exact h.ref k
  · exact fun j _ => rfl
  · intro ro
    have hf := h.files ⟨k, ro⟩
    unfold CountedHandle.countFile CountedHandle.setDmabuf
    dsimp only at hf ⊢
    rw [Pi.add_apply, ← add_assoc, ← hf]
    by_cases hro : ro = isRo
    · rw [hro, update_self, Pi.single_eq_same]
      exact DmabufPtr.files_count hlive d
    · rw [update_of_ne hro, Pi.single_eq_of_ne (fun heq => hro (DmabufAccess.mk.inj heq).2), add_zero]
      rfl
  · intro b hb
    rw [Pi.add_apply, Pi.single_eq_of_ne (fun heq => hb (by rw [heq])), add_zero]
  · exact h.once k hk

theorem Held.setRefs (h : Held s t u w) (l : Slots ClientRef)
    (ht : ∀ k, l.sum (fun r => if r.buf.handle = k then r.dupes else 0) + t' k = dupesOf s k + t k)
    (hu : ∀ b, l.sum (fun r => if r.buf = b then 1 else 0) + u' b = refsOf s b + u b)
    (hw : ∀ c b, l.sum (fun r => if r.client = c ∧ r.buf = b then r.dupes else 0) + w (c, b) =
      clientDupes s c b + w' (c, b))
    (hdupes : ∀ i r, l.get i = some r → 0 < r.dupes) : Held { s with refs := l } t' u' w' where
  ref k := by
    have href := h.ref k
    have hk := ht k
    change (s.handles k).ref = l.sum _ + liveOf s k + t' k
    omega
  files b := by
    have hfiles := h.files b
    have hb := hu b
    change (s.dmabuf b).files = l.sum _ + fdsOf s b + u' b
    omega
  spare c b := by
    have hspare := h.spare c b
    have hcb := hw c b
    change l.sum _ = clientIds s c b + w' (c, b)
    omega
  once := h.once
  unused := h.unused
  dupes := hdupes

theorem Held.addRef (h : Held s t u w) (c : ℕ) (b : DmabufAccess) :
    Held (addHandleRef s c b) (t - Pi.single b.handle 1) (u - Pi.single b 1) (w + Pi.single (c, b) 1) := by
  apply h.setRefs
  · intro k
    rw [Slots.sum_push, Pi.sub_apply, Pi.single_apply]
    simp only [eq_comm (a := k)]
    unfold dupesOf
    omega
  · intro b'
    rw [Slots.sum_push, Pi.sub_apply, Pi.single_apply]
    simp only [eq_comm (a := b')]
    unfold refsOf
    omega
  · intro c' b'
    rw [Slots.sum_push, Pi.add_apply, Pi.single_apply]
    simp only [Prod.mk.injEq, eq_comm (a := c'), eq_comm (a := b')]
    unfold clientDupes
    omega
  · intro i r hr
    rcases Slots.get_push_cases hr with ⟨_, rfl⟩ | hold
    · exact one_pos
    · exact h.dupes i r hold

theorem addDupes_eq (hr : s.refs.get i = some r) (d : ℤ) :
    addDupes s i d = { s with refs := s.refs.put i (some { r with dupes := r.dupes + d }) } := by
  unfold addDupes
  rw [hr]

section

variable (h : Held s t u w)

include h

theorem Held.countDupes (hr : s.refs.get i = some r) (hd : 0 < r.dupes + d) :
    Held (addDupes s i d) (t - Pi.single r.buf.handle d) u (w + Pi.single (r.client, r.buf) d) := by
  rw [addDupes_eq hr]
  apply h.setRefs
  · intro k
    rw [Slots.sum_put _ hr, Pi.sub_apply, Pi.single_apply, Option.elim_some]
    simp only [eq_comm (a := k)]
    unfold dupesOf
    by_cases hk : r.buf.handle = k
    · omega
    · omega
  · intro b
    rw [Slots.sum_put _ hr, Option.elim_some]
    exact congrArg (· + u b) (sub_add_cancel _ _)
  · intro c b
    rw [Slots.sum_put _ hr, Pi.add_apply, Pi.single_apply, Option.elim_some]
    simp only [Prod.mk.injEq, eq_comm (a := c), eq_comm (a := b)]
    unfold clientDupes
    by_cases hcb : r.client = c ∧ r.buf = b
    · simp only [if_pos hcb]
      omega
    · simp only [if_neg hcb]
      omega
  · intro j x hx
    rcases Slots.get_put_cases hx with ⟨_, hx⟩ | ⟨_, hold⟩
    · cases hx
      exact hd
    · exact h.dupes j x hold

theorem Held.uncountDupes (hr : s.refs.get i = some r) (hd : 1 < r.dupes) :
    Held (addDupes s i (-1)) (t + Pi.single r.buf.handle 1) u (w - Pi.single (r.client, r.buf) 1) := by
  refine (h.countDupes hr (by omega)).congr ?_ rfl ?_
  · rw [Pi.single_neg, sub_neg_eq_add]
  · rw [Pi.single_neg, sub_eq_add_neg]

theorem Held.eraseRef (hr : s.refs.get i = some r) :
    Held (eraseHandleRef s i) (t + Pi.single r.buf.handle r.dupes) (u + Pi.single r.buf 1)
      (w - Pi.single (r.client, r.buf) r.dupes) := by
  apply h.setRefs
  · intro k
    rw [Slots.sum_put _ hr, Pi.add_apply, Pi.single_apply, Option.elim_none]
    unfold dupesOf
    omega
  · intro b
    rw [Slots.sum_put _ hr, Pi.add_apply, Pi.single_apply, Option.elim_none]
    simp only [eq_comm (a := b)]
    unfold refsOf
    omega
  · intro c b
    rw [Slots.sum_put _ hr, Pi.sub_apply, Pi.single_apply, Option.elim_none]
    simp only [Prod.mk.injEq, eq_comm (a := c), eq_comm (a := b)]
    unfold clientDupes
    omega
  · intro j x hx
    rcases Slots.get_put_cases hx with ⟨_, hx⟩ | ⟨_, hold⟩
    · cases hx
    · exact h.dupes j x hold

theorem Held.setFds (l : Slots NamedBuf)
    (hu : ∀ b, l.sum (fun e => if e.buf = b then 1 else 0) + u' b = fdsOf s b + u b) :
    Held { s with fds := l } t u' w where
  ref := h.ref
  files b := by
    have hfiles := h.files b
    have hb := hu b
    change (s.dmabuf b).files = refsOf s b + l.sum _ + u' b
    omega
  spare := h.spare
  once := h.once
  unused := h.unused
  dupes := h.dupes

theorem Held.pushFd (c n : ℕ) (b : DmabufAccess) :
    Held { s with fds := s.fds.push ⟨c, n, b⟩ } t (u - Pi.single b 1) w := by
  apply h.setFds
  intro b'
  rw [Slots.sum_push, Pi.sub_apply, Pi.single_apply]
  simp only [eq_comm (a := b')]
  unfold fdsOf
  omega

theorem Held.eraseFd (he : s.fds.get i = some e) :
    Held { s with fds := s.fds.put i none } t (u + Pi.single e.buf 1) w := by
  apply h.setFds
  intro b'
  rw [Slots.sum_put _ he, Pi.add_apply, Pi.single_apply, Option.elim_none]
  simp only [eq_comm (a := b')]
  unfold fdsOf
  omega

theorem Held.setIds (l : Slots NamedBuf)
    (hw : ∀ c b, l.sum (fun e => if e.client = c ∧ e.buf = b then 1 else 0) + w' (c, b) =
      clientIds s c b + w (c, b)) : Held { s with ids := l } t u w' where
  ref := h.ref
  files := h.files
  spare c b := by
    have hspare := h.spare c b
    have hcb := hw c b
    change clientDupes s c b = l.sum _ + w' (c, b)
    omega
  once := h.once
  unused := h.unused
  dupes := h.dupes

theorem Held.pushId (c n : ℕ) (b : DmabufAccess) :
    Held { s with ids := s.ids.push ⟨c, n, b⟩ } t u (w - Pi.single (c, b) 1) := by
  apply h.setIds
  intro c' b'
  rw [Slots.sum_push, Pi.sub_apply, Pi.single_apply]
  simp only [Prod.mk.injEq, eq_comm (a := c'), eq_comm (a := b')]
  unfold clientIds
  omega

theorem Held.eraseId (he : s.ids.get i = some e) :
    Held { s with ids := s.ids.put i none } t u (w + Pi.single (e.client, e.buf) 1) := by
  apply h.setIds
  intro c' b'
  rw [Slots.sum_put _ he, Pi.add_apply, Pi.single_apply, Option.elim_none]
  simp only [Prod.mk.injEq, eq_comm (a := c'), eq_comm (a := b')]
  unfold clientIds
  omega

end

section

variable {reached : Option ℕ} {env : RefEnv} {new : Bool} {o : Option (ℕ × Bool)}

theorem nvmapValidateLocked_spec (h : nvmapValidateLocked s c b reached = some i) :
    ∃ r, s.refs.get i = some r ∧ r.client = c ∧ r.buf = b := by
  have hfind : ∀ i, (s.refs.find fun r => decide (r.client = c ∧ r.buf = b)) = some i →
      ∃ r, s.refs.get i = some r ∧ r.client = c ∧ r.buf = b := by
    intro i hi
    obtain ⟨r, hr, hp⟩ := Slots.find_spec hi
    exact ⟨r, hr, of_decide_eq_true hp⟩
  cases reached with
  | none =>
    unfold nvmapValidateLocked at h
    dsimp only at h
    split at h
    · cases h
    · exact hfind i h
  | some j =>
    unfold nvmapValidateLocked at h
    dsimp only at h
    split at h
    case isTrue hany =>
      obtain ⟨r, hr, hp⟩ := (Option.any_eq_true _ _).mp hany
      cases h
      exact ⟨r, hr, of_decide_eq_true hp⟩
    case isFalse => exact hfind i h

theorem Held.getFile (h : Held s t u w) (hlive : (s.dmabuf b).live = true) (hk : b.handle < s.next) :
    Held (getDmaBuf s b) t (u + Pi.single b 1) w :=
  h.countFile hlive hk 1

theorem Held.putFile (h : Held s t u w) (hlive : (s.dmabuf b).live = true) (hk : b.handle < s.next) :
    Held (dmaBufPut s b) t (u - Pi.single b 1) w := by
  refine (h.countFile hlive hk (-1)).congr rfl ?_ rfl
  rw [Pi.single_neg, ← sub_eq_add_neg]

theorem dmabuf_onHandle (s : NvmapRefs) (hf : ∀ h, (f h).dmabuf = h.dmabuf) :
    (s.onHandle k f).dmabuf b = s.dmabuf b := by
  unfold NvmapRefs.dmabuf
  by_cases hk : b.handle = k
  · rw [hk, onHandle_self, hf]
  · rw [onHandle_of_ne hk]

theorem dmabuf_addDupes (s : NvmapRefs) (i : ℕ) (d : ℤ) : (addDupes s i d).dmabuf b = s.dmabuf b := by
  unfold addDupes
  split <;> rfl

theorem live_countFile (s : NvmapRefs) (b' : DmabufAccess) (d : ℤ) :
    ((s.onHandle b'.handle (.countFile b'.isRo d)).dmabuf b).live = (s.dmabuf b).live := by
  unfold NvmapRefs.dmabuf
  by_cases hk : b.handle = b'.handle
  · rw [hk, onHandle_self]
    unfold CountedHandle.countFile CountedHandle.setDmabuf
    dsimp only
    by_cases hro : b.isRo = b'.isRo
    · rw [hro, update_self, DmabufPtr.live_count]
    · rw [update_of_ne hro]
  · rw [onHandle_of_ne hk]

theorem next_addDupes (s : NvmapRefs) (i : ℕ) (d : ℤ) : (addDupes s i d).next = s.next := by
  unfold addDupes
  split <;> rfl

theorem refs_addDupes (hr : s.refs.get i = some r) (d : ℤ) :
    (addDupes s i d).refs = s.refs.put i (some { r with dupes := r.dupes + d }) := by
  rw [addDupes_eq hr]

theorem ref_countFile (s : NvmapRefs) (b : DmabufAccess) (d : ℤ) (k : ℕ) :
    ((s.onHandle b.handle (.countFile b.isRo d)).handles k).ref = (s.handles k).ref := by
  by_cases hk : k = b.handle
  · rw [hk, onHandle_self]
    rfl
  · rw [onHandle_of_ne hk]

theorem handles_addDupes (s : NvmapRefs) (i : ℕ) (d : ℤ) : (addDupes s i d).handles = s.handles := by
  unfold addDupes
  split <;> rfl

theorem Held.freeHandle (h : Held s t u w) (hfound : nvmapValidateLocked s c b reached = some i)
    (hlive : (s.dmabuf b).live = true) (ht : -1 ≤ t b.handle) (hk : b.handle < s.next) :
    Held (nvmapFreeHandle s c b reached) t u (w - Pi.single (c, b) 1) := by
  obtain ⟨r, hr, rfl, rfl⟩ := nvmapValidateLocked_spec hfound
  have hdupes := h.dupes i r hr
  unfold nvmapFreeHandle
  rw [hfound]
  dsimp only
  rw [hr]
  dsimp only
  split
  case isTrue hmore =>
    have hdec := h.uncountDupes hr (by omega)
    have hput := hdec.put (hdec.ref_of_live (b := r.buf) (by rw [dmabuf_addDupes]; exact hlive)
      (by simp; omega))
    exact hput.congr (by abel) rfl rfl
  case isFalse hlast =>
    have hone : r.dupes = 1 := by omega
    have herase := h.eraseRef hr
    rw [hone] at herase
    have hfile := herase.putFile (b := r.buf) hlive hk
    have hput := hfile.put (hfile.ref_of_live (b := r.buf)
      ((live_countFile (eraseHandleRef s i) r.buf (-1)).trans hlive) (by simp; omega))
    exact hput.congr (by abel) (by abel) rfl

theorem Held.getFd (h : Held s t u w) (hlive : (s.dmabuf b).live = true)
    (href : 0 < (s.handles b.handle).ref) (fd : Option ℕ) :
    ∃ s', nvmapGetDmabufFd s b fd = (fd.isSome, s') ∧ s'.refs = s.refs ∧ s'.fds = s.fds ∧
      s'.ids = s.ids ∧ s'.next = s.next ∧ (s'.dmabuf b).live = true ∧
      (∀ k, (s'.handles k).ref = (s.handles k).ref) ∧ Held s' t (if fd.isSome then u + Pi.single b 1 else u) w := by
  have hk := h.lt_next href
  obtain ⟨hgot, hget⟩ := h.get href
  have hlive1 : ((s.onHandle b.handle .get).dmabuf b).live = true := by
    rw [dmabuf_onHandle (f := .get) s fun h => rfl]
    exact hlive
  have hlive2 : ((getDmaBuf (s.onHandle b.handle .get) b).dmabuf b).live = true :=
    (live_countFile _ b 1).trans hlive1
  have hfile := hget.getFile (b := b) hlive1 hk
  have href2 : 0 < ((getDmaBuf (s.onHandle b.handle .get) b).handles b.handle).ref := by
    unfold getDmaBuf
    rw [ref_countFile, onHandle_self]
    exact Int.lt_add_one_of_le (le_of_lt href)
  have hput : Held (nvmapHandlePut (getDmaBuf (s.onHandle b.handle .get) b) b.handle) t
      (u + Pi.single b 1) w := (hfile.put href2).congr (by abel) rfl rfl
  have hrefs : ∀ k, ((nvmapHandlePut (getDmaBuf (s.onHandle b.handle .get) b) b.handle).handles k).ref =
      (s.handles k).ref := by
    intro k
    unfold nvmapHandlePut
    by_cases hkb : k = b.handle
    · rw [hkb, onHandle_self]
      unfold getDmaBuf CountedHandle.put
      rw [ref_countFile, onHandle_self]
      exact add_sub_cancel_right _ _
    · rw [onHandle_of_ne hkb]
      unfold getDmaBuf
      rw [ref_countFile, onHandle_of_ne hkb]
  have hlive3 : ((nvmapHandlePut (getDmaBuf (s.onHandle b.handle .get) b) b.handle).dmabuf b).live =
      true := by
    unfold nvmapHandlePut
    rw [dmabuf_onHandle (f := .put) _ fun h => rfl]
    exact hlive2
  unfold nvmapGetDmabufFd
  rw [hgot]
  dsimp only
  rw [if_neg (by rw [hlive1]; decide)]
  cases fd with
  | some fd => exact ⟨_, rfl, rfl, rfl, rfl, rfl, hlive3, hrefs, hput⟩
  | none =>
    refine ⟨_, rfl, rfl, rfl, rfl, rfl, (live_countFile _ b (-1)).trans hlive3, ?_, ?_⟩
    · exact fun k => (ref_countFile _ b (-1) k).trans (hrefs k)
    · exact (hput.putFile (b := b) hlive3 hk).congr rfl (add_sub_cancel_right _ _).symm rfl

/-- There is a reference, new or found, with one more duplication. -/
structure NewDupe (s s' : NvmapRefs) (c : ℕ) (b : DmabufAccess) (env : RefEnv) (i : ℕ) (new : Bool)
    (r : ClientRef) : Prop where
  can : CanDuplicate s c b env
  get : s'.refs.get i = some r
  client : r.client = c
  buf : r.buf = b
  found : new = false → nvmapValidateLocked s c b env.reached = some i ∧ 1 < r.dupes ∧
    s'.refs.put i (some { r with dupes := r.dupes - 1 }) = s.refs
  fresh : new = true → nvmapValidateLocked s c b env.reached = none

structure Duplicated (s s' : NvmapRefs) (c : ℕ) (b : DmabufAccess) (env : RefEnv)
    (o : Option (ℕ × Bool)) (t : ℕ → ℤ) (u : DmabufAccess → ℤ) (w : ℕ × DmabufAccess → ℤ) : Prop where
  next : s'.next = s.next
  fds : s'.fds = s.fds
  live : (s'.dmabuf b).live = true
  refs : (o = none ∧ s'.refs = s.refs ∧ Held s' t u w) ∨
    ∃ i new r, o = some (i, new) ∧ NewDupe s s' c b env i new r ∧
      Held s' t u (w + Pi.single (c, b) 1)

theorem Held.duplicate (h : Held s t u w) (hlive : (s.dmabuf b).live = true) (ht : 0 ≤ t b.handle)
    (hdup : nvmapDuplicateHandle s c b env = (o, s')) : Duplicated s s' c b env o t u w := by
  have href := h.ref_of_live hlive ht
  obtain ⟨hgot, hget⟩ := h.get href
  have hget' : 0 < (t + Pi.single b.handle 1 : ℕ → ℤ) b.handle := by
    simp
    omega
  have hlive' : ((s.onHandle b.handle .get).dmabuf b).live = true := by
    rw [dmabuf_onHandle (f := .get) s fun h => rfl]
    exact hlive
  have halloc : ((s.onHandle b.handle .get).handles b.handle).alloc = (s.handles b.handle).alloc := by
    rw [onHandle_self]
    rfl
  have hput : Held (nvmapHandlePut (s.onHandle b.handle .get) b.handle) t u w :=
    (hget.put (hget.ref_of_held hget')).congr (by abel) rfl rfl
  have hputlive : ((nvmapHandlePut (s.onHandle b.handle .get) b.handle).dmabuf b).live = true := by
    unfold nvmapHandlePut
    rw [dmabuf_onHandle (f := .put) _ fun h => rfl]
    exact hlive'
  unfold nvmapDuplicateHandle at hdup
  rw [hgot] at hdup
  dsimp only at hdup
  rw [halloc] at hdup
  split at hdup
  · cases hdup
    exact ⟨rfl, rfl, hputlive, Or.inl ⟨rfl, rfl, hput⟩⟩
  case isFalse hall =>
    rw [Bool.not_eq_false] at hall
    split at hdup
    case h_1 i hfound =>
      cases hdup
      obtain ⟨r, hr, rfl, rfl⟩ := nvmapValidateLocked_spec hfound
      have hdupes := h.dupes i r hr
      refine ⟨next_addDupes _ _ _, ?_, ?_, Or.inr ⟨i, false, { r with dupes := r.dupes + 1 }, rfl,
        ⟨⟨hall, Or.inr (Option.isSome_iff_exists.mpr ⟨i, hfound⟩)⟩, ?_, rfl, rfl, ?_,
          fun hno => by cases hno⟩, ?_⟩⟩
      · rw [addDupes_eq hr]
        rfl
      · rw [dmabuf_addDupes]
        exact hlive'
      · rw [refs_addDupes hr]
        exact Slots.get_put_self hr _
      · intro _
        refine ⟨hfound, by dsimp only; omega, ?_⟩
        rw [refs_addDupes hr, Slots.put_put, add_sub_cancel_right]
        exact Slots.put_self hr
      · refine (hget.countDupes hr (d := 1) (by omega)).congr ?_ rfl rfl
        abel
    case h_2 hnone =>
      split at hdup
      · cases hdup
        exact ⟨rfl, rfl, hputlive, Or.inl ⟨rfl, rfl, hput⟩⟩
      case isFalse hmem =>
        rw [Bool.not_eq_false] at hmem
        rw [if_neg (by rw [hlive']; decide)] at hdup
        cases hdup
        have hadd := hget.addRef c b
        refine ⟨rfl, rfl, ?_, Or.inr ⟨_, true, ⟨c, b, 1⟩, rfl, ⟨⟨hall, Or.inl hmem⟩,
          Slots.get_push _ _, rfl, rfl, (fun hno => by cases hno), fun _ => hnone⟩, ?_⟩⟩
        · exact (live_countFile (addHandleRef (s.onHandle b.handle .get) c b) b 1).trans hlive'
        · refine (hadd.getFile (b := b) hlive' (h.lt_next href)).congr ?_ ?_ rfl
          · abel
          · abel

theorem Duplicated.before {s0 : NvmapRefs} (h : Duplicated s s' c b env o t u w) (hrefs : s.refs = s0.refs)
    (hfds : s.fds = s0.fds) (hnext : s.next = s0.next)
    (halloc : (s.handles b.handle).alloc = (s0.handles b.handle).alloc) : Duplicated s0 s' c b env o t u w := by
  refine ⟨h.next.trans hnext, h.fds.trans hfds, h.live, ?_⟩
  rcases h.refs with ⟨ho, hr, hheld⟩ | ⟨i, new, r, ho, hnew, hheld⟩
  · exact Or.inl ⟨ho, hr.trans hrefs, hheld⟩
  have hvalidate : ∀ reached, nvmapValidateLocked s c b reached = nvmapValidateLocked s0 c b reached := by
    intro reached
    unfold nvmapValidateLocked
    rw [hrefs]
  refine Or.inr ⟨i, new, r, ho, ⟨?_, hnew.get, hnew.client, hnew.buf, ?_, ?_⟩, hheld⟩
  · have hcan := hnew.can
    unfold CanDuplicate at hcan ⊢
    rw [halloc, hvalidate] at hcan
    exact hcan
  · intro hold
    rw [← hrefs, ← hvalidate]
    exact hnew.found hold
  · intro hnot
    rw [← hvalidate]
    exact hnew.fresh hnot

theorem Duplicated.after {s1 : NvmapRefs} (h : Duplicated s s' c b env o t u w) (hrefs : s1.refs = s'.refs)
    (hfds : s1.fds = s'.fds) (hnext : s1.next = s'.next) (hlive : (s1.dmabuf b).live = (s'.dmabuf b).live)
    (hheld : ∀ w, Held s' t u w → Held s1 t' u' w) : Duplicated s s1 c b env o t' u' w := by
  refine ⟨hnext.trans h.next, hfds.trans h.fds, hlive.trans h.live, ?_⟩
  rcases h.refs with ⟨ho, hr, hw⟩ | ⟨i, new, r, ho, hnew, hw⟩
  · exact Or.inl ⟨ho, hrefs.trans hr, hheld _ hw⟩
  refine Or.inr ⟨i, new, r, ho, ⟨hnew.can, ?_, hnew.client, hnew.buf, ?_, hnew.fresh⟩, hheld _ hw⟩
  · rw [hrefs]
    exact hnew.get
  · rw [hrefs]
    exact hnew.found

end

end NvidiaOot.Analysis
