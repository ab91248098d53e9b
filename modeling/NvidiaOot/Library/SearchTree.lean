import Mathlib.Data.Tree.Basic
import Mathlib.Order.Lattice
import Mathlib.Data.List.Pairwise
import Mathlib.Data.List.Perm.Basic
import Mathlib.Data.List.Nodup

/-!
# Search trees of nodes with keys

A tree is searched by comparing a node with what is sought: `.gt` means that the node comes
after it, and the search goes on to the left.  When the keys of the nodes are sorted, the
search finds the node of a key exactly when there is one, and a node that is linked in as a
leaf keeps the keys sorted.  Rotations do not change the order of the nodes, so these facts
are about `inorder`.
-/

namespace NvidiaOot.Library

open BinaryTree

variable {α κ : Type} [LinearOrder κ]

/-- The nodes from left to right. -/
def inorder : BinaryTree α → List α
  | .nil => []
  | .node a l r => inorder l ++ a :: inorder r

/-- The first node on the way down that compares equal. -/
def search (cmp : α → Ordering) : BinaryTree α → Option α
  | .nil => none
  | .node a l r =>
    match cmp a with
    | .gt => search cmp l
    | .lt => search cmp r
    | .eq => some a

/-- The tree with a new leaf. -/
def link (cmp : α → Ordering) (new : α) : BinaryTree α → BinaryTree α
  | .nil => .node new .nil .nil
  | .node a l r =>
    match cmp a with
    | .gt => .node a (link cmp new l) r
    | _ => .node a l (link cmp new r)

/-- The nodes are in the order of their keys, of which no two are equal. -/
def KeysSorted (key : α → κ) (t : BinaryTree α) : Prop :=
  (inorder t).Pairwise fun a b => key a < key b

variable {key key' : α → κ} {cmp : α → Ordering} {t l r : BinaryTree α} {a new : α} {k : κ}

theorem pairwise_inorder_node {R : α → α → Prop} : (inorder (.node a l r)).Pairwise R ↔
    (inorder l).Pairwise R ∧ (inorder r).Pairwise R ∧ (∀ b ∈ inorder l, R b a) ∧ (∀ b ∈ inorder r, R a b) ∧
      ∀ b ∈ inorder l, ∀ c ∈ inorder r, R b c := by
  rw [inorder, List.pairwise_append, List.pairwise_cons]
  constructor
  · rintro ⟨hl, ⟨har, hr⟩, hcross⟩
    refine ⟨hl, hr, fun b hb => hcross b hb a List.mem_cons_self, har, ?_⟩
    exact fun b hb c hc => hcross b hb c (List.mem_cons_of_mem a hc)
  · rintro ⟨hl, hr, hla, har, hlr⟩
    refine ⟨hl, ⟨har, hr⟩, fun b hb c hc => ?_⟩
    rcases List.mem_cons.mp hc with rfl | hc
    · exact hla b hb
    · exact hlr b hb c hc

theorem keysSorted_node : KeysSorted key (.node a l r) ↔ KeysSorted key l ∧ KeysSorted key r ∧
      (∀ b ∈ inorder l, key b < key a) ∧ (∀ b ∈ inorder r, key a < key b) ∧
      ∀ b ∈ inorder l, ∀ c ∈ inorder r, key b < key c := pairwise_inorder_node

/-- The order depends only on the keys of the nodes that are in the tree. -/
theorem KeysSorted.congr (h : KeysSorted key t) (hkey : ∀ a ∈ inorder t, key' a = key a) : KeysSorted key' t := by
  refine List.Pairwise.imp_of_mem (fun {a b} ha hb hlt => ?_) h
  rw [hkey a ha, hkey b hb]
  exact hlt

theorem KeysSorted.eq_of_key_eq (h : KeysSorted key t) {a b : α} (ha : a ∈ inorder t)
    (hb : b ∈ inorder t) (heq : key a = key b) : a = b := by
  have hne : (inorder t).Pairwise fun a b => key a ≠ key b :=
    List.Pairwise.imp (fun hlt => ne_of_lt hlt) h
  exact List.inj_on_of_nodup_map (List.pairwise_map.mpr hne) ha hb heq

theorem KeysSorted.nodup (h : KeysSorted key t) : (inorder t).Nodup :=
  List.Pairwise.imp (fun hlt heq => absurd (heq ▸ hlt) (lt_irrefl _)) h

theorem search_some (h : search cmp t = some a) : a ∈ inorder t ∧ cmp a = .eq := by
  induction t with
  | nil => cases h
  | node b l r ihl ihr =>
    unfold search at h
    rw [inorder, List.mem_append, List.mem_cons]
    cases hb : cmp b with
    | gt =>
      rw [hb] at h
      exact ⟨Or.inl (ihl h).1, (ihl h).2⟩
    | lt =>
      rw [hb] at h
      exact ⟨Or.inr (Or.inr (ihr h).1), (ihr h).2⟩
    | eq =>
      rw [hb] at h
      cases h
      exact ⟨Or.inr (Or.inl rfl), hb⟩

/-- **The search is complete** when the nodes are sorted. -/
theorem search_of_mem (h : KeysSorted key t) (hcmp : ∀ b ∈ inorder t, cmp b = compare (key b) k)
    (ha : a ∈ inorder t) (hk : key a = k) : search cmp t = some a := by
  induction t with
  | nil => cases ha
  | node b l r ihl ihr =>
    obtain ⟨hl, hr, hlb, hbr, -⟩ := keysSorted_node.mp h
    have hin : ∀ c, c ∈ inorder (.node b l r) ↔ c ∈ inorder l ∨ c = b ∨ c ∈ inorder r := by
      intro c
      rw [inorder, List.mem_append, List.mem_cons]
    have hb := hcmp b ((hin b).mpr (Or.inr (Or.inl rfl)))
    unfold search
    rw [hb]
    rcases (hin a).mp ha with hal | rfl | har
    · rw [compare_gt_iff_gt.mpr (hk ▸ hlb a hal)]
      exact ihl hl (fun c hc => hcmp c ((hin c).mpr (Or.inl hc))) hal
    · rw [compare_eq_iff_eq.mpr hk]
    · rw [compare_lt_iff_lt.mpr (hk ▸ hbr a har)]
      exact ihr hr (fun c hc => hcmp c ((hin c).mpr (Or.inr (Or.inr hc)))) har

/-- The search finds the node of the key, and nothing if there is none. -/
theorem search_eq_some_iff (h : KeysSorted key t) (hcmp : ∀ b ∈ inorder t, cmp b = compare (key b) k) :
    search cmp t = some a ↔ a ∈ inorder t ∧ key a = k := by
  constructor
  · intro hfound
    obtain ⟨hmem, heq⟩ := search_some hfound
    rw [hcmp a hmem] at heq
    exact ⟨hmem, compare_eq_iff_eq.mp heq⟩
  · rintro ⟨hmem, hk⟩
    exact search_of_mem h hcmp hmem hk

theorem inorder_link_perm (t : BinaryTree α) : (inorder (link cmp new t)).Perm (new :: inorder t) := by
  induction t with
  | nil => exact List.Perm.refl _
  | node b l r ihl ihr =>
    unfold link
    split
    · exact ihl.append_right _
    · refine (List.Perm.append_left _ (ihr.cons b)).trans ?_
      refine (List.Perm.append_left _ (List.Perm.swap new b _)).trans ?_
      exact List.perm_middle

theorem mem_inorder_link {b : α} : b ∈ inorder (link cmp new t) ↔ b = new ∨ b ∈ inorder t := by
  rw [(inorder_link_perm t).mem_iff, List.mem_cons]

/-- A new leaf keeps an order of the nodes, if the comparison puts it in its place. -/
theorem pairwise_link {R : α → α → Prop} (htrans : ∀ a b c, R a b → R b c → R a c) (h : (inorder t).Pairwise R)
    (hgt : ∀ b ∈ inorder t, cmp b = .gt → R new b) (hother : ∀ b ∈ inorder t, cmp b ≠ .gt → R b new) :
    (inorder (link cmp new t)).Pairwise R := by
  induction t with
  | nil => exact List.pairwise_singleton _ _
  | node b l r ihl ihr =>
    obtain ⟨hl, hr, hlb, hbr, hlr⟩ := pairwise_inorder_node.mp h
    have hmemb : b ∈ inorder (.node b l r) := by simp [inorder]
    have hmeml : ∀ c ∈ inorder l, c ∈ inorder (.node b l r) := by
      intro c hc
      simp [inorder, hc]
    have hmemr : ∀ c ∈ inorder r, c ∈ inorder (.node b l r) := by
      intro c hc
      simp [inorder, hc]
    unfold link
    split
    case h_1 hb =>
      have hnew := hgt b hmemb hb
      have hsorted := ihl hl (fun c hc => hgt c (hmeml c hc)) (fun c hc => hother c (hmeml c hc))
      refine pairwise_inorder_node.mpr ⟨hsorted, hr, ?_, hbr, ?_⟩
      · intro c hc
        rcases mem_inorder_link.mp hc with rfl | hc
        · exact hnew
        · exact hlb c hc
      · intro c hc d hd
        rcases mem_inorder_link.mp hc with rfl | hc
        · exact htrans _ _ _ hnew (hbr d hd)
        · exact hlr c hc d hd
    case h_2 hb =>
      have hnew := hother b hmemb hb
      have hsorted := ihr hr (fun c hc => hgt c (hmemr c hc)) (fun c hc => hother c (hmemr c hc))
      refine pairwise_inorder_node.mpr ⟨hl, hsorted, hlb, ?_, ?_⟩
      · intro c hc
        rcases mem_inorder_link.mp hc with rfl | hc
        · exact hnew
        · exact hbr c hc
      · intro c hc d hd
        rcases mem_inorder_link.mp hd with rfl | hd
        · exact htrans _ _ _ (hlb c hc) hnew
        · exact hlr c hc d hd

/-- **A new leaf keeps the nodes sorted.** -/
theorem keysSorted_link (h : KeysSorted key t) (hcmp : ∀ b ∈ inorder t, cmp b = .gt ↔ key new < key b)
    (hne : ∀ b ∈ inorder t, key b ≠ key new) : KeysSorted key (link cmp new t) := by
  refine pairwise_link (fun _ _ _ => lt_trans) h (fun b hb => (hcmp b hb).mp) fun b hb hno => ?_
  exact lt_of_le_of_ne (not_lt.mp fun hlt => hno ((hcmp b hb).mpr hlt)) (hne b hb)

end NvidiaOot.Library
