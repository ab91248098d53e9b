import NvidiaOot.Model.PvaVpuSegments

/-!
# The memory of the VPU

An interval that is accepted starts in or behind the last region that starts before it, and ends in this region unless
the sum of offset and size wraps.
-/

namespace NvidiaOot.Analysis

open Library Program Model

variable {hwGen : ℤ} {vmemOffset size : U32}

theorem vmemRegionLoop_spec (row : List VmemRegion) (vmemOffset : U32) {n : ℕ} (hn : n ≤ row.length) :
    (row.take n).reverse.find? (fun r => r.start ≤ vmemOffset) =
      if 0 < vmemRegionLoop row vmemOffset n then some (row.getD (vmemRegionLoop row vmemOffset n - 1) ⟨0, 0⟩)
      else none := by
  induction n with
  | zero => rfl
  | succ n ih =>
    have hlt : n < row.length := hn
    have hrow : row.getD n ⟨0, 0⟩ = row[n] := by
      rw [List.getD_eq_getElem?_getD, List.getElem?_eq_getElem hlt, Option.getD_some]
    rw [List.take_add_one, List.getElem?_eq_getElem hlt, Option.toList_some, List.reverse_append, List.reverse_singleton,
      List.singleton_append, List.find?_cons]
    unfold vmemRegionLoop
    rw [hrow]
    by_cases hstart : row[n].start ≤ vmemOffset
    · rw [if_pos hstart, if_pos (Nat.succ_pos n), decide_eq_true hstart, Nat.add_sub_cancel, hrow]
    · rw [if_neg hstart, decide_eq_false hstart]
      exact ih (Nat.le_of_lt hlt)

/-- **When an interval is accepted.** -/
theorem nvpvaValidateVmemOffset_eq_zero_iff (hgen : hwGen = 1 ∨ hwGen = 2) :
    nvpvaValidateVmemOffset vmemOffset size hwGen = 0 ↔
      ∃ r, lastRegion hwGen vmemOffset = some r ∧ vmemOffset + size ≤ r.stop := by
  have hlength : vmemRegionCount hwGen ≤ (vmemRegionsTab hwGen).length := by
    rcases hgen with rfl | rfl <;> decide
  have hguard : ¬ (hwGen < 0 ∨ numHemGen < hwGen) := by
    rcases hgen with rfl | rfl <;> decide
  have hloop := vmemRegionLoop_spec (vmemRegionsTab hwGen) vmemOffset hlength
  unfold nvpvaValidateVmemOffset lastRegion vmemRegions
  rw [if_neg hguard, hloop]
  dsimp only
  generalize vmemRegionLoop (vmemRegionsTab hwGen) vmemOffset (vmemRegionCount hwGen) = i
  by_cases hi : 0 < i
  · rw [if_pos hi]
    by_cases hsum : vmemOffset + size ≤ ((vmemRegionsTab hwGen).getD (i - 1) ⟨0, 0⟩).stop
    · rw [if_pos ⟨hi, hsum⟩]
      exact ⟨fun _ => ⟨_, rfl, hsum⟩, fun _ => rfl⟩
    rw [if_neg fun h => hsum h.2]
    refine ⟨fun h => absurd h (by decide), ?_⟩
    rintro ⟨r, hr, hle⟩
    cases hr
    exact absurd hle hsum
  rw [if_neg hi, if_neg fun h => hi h.1]
  refine ⟨fun h => absurd h (by decide), ?_⟩
  rintro ⟨r, hr, -⟩
  cases hr

/-- The last region is one of the generation and starts at the offset or before. -/
theorem lastRegion_spec {r : VmemRegion} (h : lastRegion hwGen vmemOffset = some r) :
    r ∈ vmemRegions hwGen ∧ r.start.toNat ≤ vmemOffset.toNat := by
  refine ⟨List.mem_reverse.mp (List.mem_of_find?_eq_some h), ?_⟩
  have hstart := List.find?_some h
  exact BitVec.le_def.mp (of_decide_eq_true hstart)

theorem inVmem_of_careful (hgen : hwGen = 1 ∨ hwGen = 2) (hcareful : SumCareful hwGen vmemOffset size)
    (h : nvpvaValidateVmemOffset vmemOffset size hwGen = 0) : InVmem hwGen vmemOffset size := by
  obtain ⟨r, hr, hsum⟩ := (nvpvaValidateVmemOffset_eq_zero_iff hgen).mp h
  obtain ⟨hmem, hstart⟩ := lastRegion_spec hr
  rw [BitVec.le_def, BitVec.toNat_add] at hsum
  refine ⟨r, hmem, hstart, ?_⟩
  rcases hcareful with hfits | hbehind
  · omega
  · have hlarge := hbehind r hr
    omega

/--
**An interval that is accepted** is in one region of the VPU's memory exactly when the sum of its offset and size does
not wrap to a place in front of the end of the region.
-/
theorem vmem_offset_checked_iff (hgen : hwGen = 1 ∨ hwGen = 2) (vmemOffset size : U32) :
    (nvpvaValidateVmemOffset vmemOffset size hwGen = 0 → InVmem hwGen vmemOffset size) ↔
      SumCareful hwGen vmemOffset size := by
  refine ⟨fun h => ?_, inVmem_of_careful hgen⟩
  by_cases hwrap : vmemOffset.toNat + size.toNat < 2 ^ 32
  · exact Or.inl hwrap
  right
  intro r hr
  by_contra hstop
  have hsum : vmemOffset + size ≤ r.stop := by
    rw [BitVec.le_def, BitVec.toNat_add]
    omega
  obtain ⟨r', -, -, hinside⟩ := h ((nvpvaValidateVmemOffset_eq_zero_iff hgen).mpr ⟨r, hr, hsum⟩)
  omega

/-- Half of the first region is accepted. -/
theorem half_region_checked :
    (nvpvaValidateVmemOffset 0x40 0x8000 1 = 0 → InVmem 1 0x40 0x8000) ↔ SumCareful 1 0x40 0x8000 :=
  vmem_offset_checked_iff (Or.inl rfl) 0x40 0x8000

/-- The end of an interval of almost all addresses wraps to 0. -/
theorem wrapped_interval_accepted : nvpvaValidateVmemOffset 0x80000 0xFFF80000 1 = 0 ∧ ¬ InVmem 1 0x80000 0xFFF80000 := by
  refine ⟨by decide, ?_⟩
  rintro ⟨r, -, -, hinside⟩
  have hsum : (0x80000 : U32).toNat + (0xFFF80000 : U32).toNat = 2 ^ 32 := by decide
  omega

section

variable {elf : ℕ → U8} {syms syms' : List PvaElfSymbol}

/-- A symbol is passed over, or it is checked and added to a table that has room. -/
theorem populateSymbol_ok {symbol : Option ElfSymbol} {kcalloc : Bool}
    (h : populateSymbol elf hwGen symbol kcalloc syms = .ok syms') :
    syms.length < nvpvaTaskMaxSymbols ∧ (syms' = syms ∨
      ∃ sym, nvpvaValidateVmemOffset sym.addr sym.size hwGen = 0 ∧ syms' = syms ++ [sym]) := by
  obtain ⟨hroom, h⟩ := reject_bind_eq_ok.mp h
  refine ⟨not_le.mp hroom, ?_⟩
  split at h
  case h_1 => exact Or.inl (Except.ok.inj h).symm
  case h_2 =>
    split at h
    case isTrue => exact Or.inl (Except.ok.inj h).symm
    case isFalse =>
      split at h
      case h_1 => cases h
      case h_2 =>
        split at h
        case h_1 => cases h
        case h_2 =>
          split at h
          case isTrue => exact Or.inl (Except.ok.inj h).symm
          case isFalse =>
            unfold addSymbol at h
            split at h
            case h_1 => cases h
            case h_2 =>
              obtain ⟨-, h⟩ := reject_bind_eq_ok.mp h
              obtain ⟨sym, -, h⟩ := bind_eq_ok.mp h
              obtain ⟨hcheck, h⟩ := reject_bind_eq_ok.mp h
              exact Or.inr ⟨sym, not_not.mp hcheck, (Except.ok.inj h).symm⟩

/-- **The symbols of an executable** are checked, and no more than a task can have. -/
theorem populateSymtab_ok {symbols : List (Option ElfSymbol × Bool)} (h : populateSymtab elf hwGen symbols = .ok syms) :
    syms.length ≤ nvpvaTaskMaxSymbols ∧ ∀ sym ∈ syms, nvpvaValidateVmemOffset sym.addr sym.size hwGen = 0 := by
  have hfrom : ∀ (l : List (Option ElfSymbol × Bool)) syms syms',
      l.foldlM (fun syms symbol => populateSymbol elf hwGen symbol.1 symbol.2 syms) syms = .ok syms' →
      syms.length ≤ nvpvaTaskMaxSymbols ∧ (∀ sym ∈ syms, nvpvaValidateVmemOffset sym.addr sym.size hwGen = 0) →
      syms'.length ≤ nvpvaTaskMaxSymbols ∧ ∀ sym ∈ syms', nvpvaValidateVmemOffset sym.addr sym.size hwGen = 0 := by
    intro l
    induction l with
    | nil =>
      intro syms syms' h hsyms
      exact Except.ok.inj h ▸ hsyms
    | cons symbol l ih =>
      intro syms syms' h hsyms
      obtain ⟨syms1, hone, h⟩ := bind_eq_ok.mp h
      refine ih syms1 syms' h ?_
      obtain ⟨hroom, rfl | ⟨sym, hcheck, rfl⟩⟩ := populateSymbol_ok hone
      · exact hsyms
      · rw [List.length_append, List.forall_mem_append, List.forall_mem_singleton]
        exact ⟨hroom, hsyms.2, hcheck⟩
  exact hfrom symbols [] syms h ⟨Nat.zero_le _, List.forall_mem_nil _⟩

end

end NvidiaOot.Analysis
