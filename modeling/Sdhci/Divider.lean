import Sdhci.RegisterFile

namespace Sdhci

open Prog

/-- What sdhci_clk_supply is for: divider `n` gives an SD clock not above the request
`clk`, and no smaller even divisor of the base rate does. -/
structure FastestDivider (base clk n : Nat) : Prop where
  le_request : sdClock base n ≤ clk
  fastest : ∀ d, 2 ≤ d → d < 2 * n → d % 2 = 0 → clk < base / d

/-- Where the divisor scan stops: an even divisor from 2 to SDHCI_CLK_MAX_DIV, with every
smaller even divisor too fast for the request, and slow enough itself unless it is the
loop's end. -/
structure ScanStop (base clk div : Nat) : Prop where
  even : div % 2 = 0
  two_le : 2 ≤ div
  le_max : div ≤ sdhciClkMaxDiv
  too_fast : ∀ d, 2 ≤ d → d < div → d % 2 = 0 → clk < base / d
  slow_enough : div < sdhciClkMaxDiv → base / div ≤ clk

section Scan

variable {base clk : Nat}

/-- The scan from an even divisor, every smaller one too fast, stops where `ScanStop`
says, when its fuel covers the divisors left. -/
theorem clkScan_stop {fuel div freq : Nat} (hdiv : div % 2 = 0) (h2 : 2 ≤ div)
    (hle : div ≤ sdhciClkMaxDiv) (hfuel : sdhciClkMaxDiv - div ≤ 2 * fuel)
    (h : ∀ d, 2 ≤ d → d < div → d % 2 = 0 → clk < base / d) :
    ScanStop base clk (clkScan base clk fuel div freq).1 := by
  have hmax : sdhciClkMaxDiv = 2046 := rfl
  induction fuel generalizing div freq with
  | zero =>
    exact show ScanStop base clk div from ⟨hdiv, h2, hle, h, fun hlt ↦ absurd hlt (by omega)⟩
  | succ fuel ih =>
    rw [clkScan]
    split
    case isTrue hlt =>
      split
      case isTrue hfound => exact ⟨hdiv, h2, hle, h, fun _ ↦ hfound⟩
      case isFalse hfast =>
        refine ih (by omega) (by omega) (by omega) (by omega) fun d hd2 hd hde ↦ ?_
        rcases Nat.lt_or_ge d div with hlt' | hge
        · exact h d hd2 hlt' hde
        · obtain rfl : d = div := by omega
          exact Nat.lt_of_not_le hfast
    case isFalse hge => exact ⟨hdiv, h2, hle, h, fun hlt ↦ absurd hlt hge⟩

/-- For any request but the base rate, twice the divider sdhci_clk_supply settles on is
where the scan stops. -/
theorem clkDivider_scanStop (hne : clk ≠ base) :
    ScanStop base clk (2 * (clkDivider base clk).1) := by
  have hs : ScanStop base clk (clkScan base clk sdhciClkMaxDiv 2 0).1 :=
    clkScan_stop rfl le_rfl (by decide) (by decide) fun _ h2 hd _ ↦ absurd hd (by omega)
  rw [clkDivider, if_neg hne]
  dsimp only
  rwa [Nat.shiftRight_eq_div_pow, pow_one,
    Nat.mul_div_cancel' (Nat.dvd_of_mod_eq_zero hs.even)]

theorem clkDivider_lt (base clk : Nat) : (clkDivider base clk).1 < 1024 := by
  by_cases hne : clk = base
  · rw [clkDivider, if_pos hne]
    decide
  · have := (clkDivider_scanStop hne).le_max
    unfold sdhciClkMaxDiv at this
    omega

theorem clkDivider_too_fast (d : Nat) (h2 : 2 ≤ d) (hd : d < 2 * (clkDivider base clk).1)
    (he : d % 2 = 0) : clk < base / d := by
  by_cases hne : clk = base
  · rw [clkDivider, if_pos hne] at hd
    exact absurd hd (by omega)
  · exact (clkDivider_scanStop hne).too_fast d h2 hd he

/-- The divider sdhci_clk_supply settles on is the fastest the request permits exactly
when the request is at least B / SDHCI_CLK_MAX_DIV. -/
theorem clkDivider_fastest_iff :
    FastestDivider base clk (clkDivider base clk).1 ↔ base / sdhciClkMaxDiv ≤ clk := by
  by_cases hne : clk = base
  · have h0 : (clkDivider base clk).1 = 0 := by rw [clkDivider, if_pos hne]
    rw [h0, hne]
    exact iff_of_true ⟨le_rfl, fun d _ hd _ ↦ absurd hd (by omega)⟩ (Nat.div_le_self _ _)
  · have hs := clkDivider_scanStop hne
    have hf : sdClock base (clkDivider base clk).1 = base / (2 * (clkDivider base clk).1) :=
      if_neg (by have := hs.two_le; omega)
    constructor
    · intro hfd
      calc base / sdhciClkMaxDiv ≤ base / (2 * (clkDivider base clk).1) :=
            Nat.div_le_div_left hs.le_max (by have := hs.two_le; omega)
        _ ≤ clk := hf ▸ hfd.le_request
    · intro hb
      refine ⟨hf ▸ ?_, fun d ↦ clkDivider_too_fast d⟩
      rcases Nat.lt_or_ge (2 * (clkDivider base clk).1) sdhciClkMaxDiv with hlt | hge
      · exact hs.slow_enough hlt
      · rwa [Nat.le_antisymm hs.le_max hge]

end Scan

theorem clkDividerField_clkCtrlVal {d : Nat} (hd : d < 1024) :
    clkDividerField (clkCtrlVal d % 2 ^ 16) = d := by
  simpa using clkDividerField_ctrlWord hd (m := 0) (by decide)

theorem clkCtrlVal_spares_enable (d : Nat) :
    clkCtrlVal d % 2 ^ 16 &&& (sdhciClkEn ||| sdhciClkStable) = 0 :=
  Nat.eq_of_testBit_eq fun j ↦ by
    simp only [clkCtrlVal, Nat.testBit_and, Nat.testBit_or, Nat.testBit_shiftLeft,
      Nat.testBit_shiftRight, Nat.testBit_mod_two_pow, Nat.zero_testBit, sdhciSdclkFreqSel,
      sdhciSdclkUpBitSel, sdhciIntClkEn, sdhciClkEn, sdhciClkStable]
    rcases j with _ | _ | _ | j <;> simp [Nat.testBit_succ, Nat.testBit_zero]

/-- On every controller, sdhci_clk_supply for a rate within the base rate first writes
the clock control word of `clkDivider`, then returns 0 or waits for ever for the clock to
be stable: it never reports failure. -/
theorem sdhciClkSupply_run_within {σ : Type} (D : Device σ) (w : World σ) (fuel : Nat)
    (host : SdhciHost) (clk : Nat) (hclk : clk ≤ host.caps.baseClkRate) :
    (((sdhciClkSupply fuel host clk).run D w).1 =
        .ok (0, { host with curClkRate := (clkDivider host.caps.baseClkRate clk).2 }) ∨
      ((sdhciClkSupply fuel host clk).run D w).1 = .error .hang) ∧
    ∃ t, ((sdhciClkSupply fuel host clk).run D w).2.trace = w.trace ++
      .write 16 (.hc sdhciClkCtrlReg) (clkCtrlVal (clkDivider host.caps.baseClkRate clk).1 %
        2 ^ 16) :: t := by
  unfold sdhciClkSupply
  rw [if_neg (Nat.not_lt.2 hclk)]
  generalize clkDivider host.caps.baseClkRate clk = d
  rw [writeReg_bind, Prog.run]
  refine ⟨?_, ?_⟩
  · rcases spinUntil_run_ok_or_hang D fuel (w.record D _) with h | h
    · exact .inl (by rw [run_bind_ok _ h]; rfl)
    · exact .inr (by rw [run_bind_error _ h])
  · obtain ⟨t, ht⟩ := run_trace_append D _ (w.record D _)
    exact ⟨t, by rw [ht]; simp⟩

/-- Below B / SDHCI_CLK_MAX_DIV the divider sdhci_clk_supply settles on gives a clock above
the request. -/
theorem sdClock_clkDivider_above {base clk : Nat} (h : clk < base / sdhciClkMaxDiv) :
    clk < sdClock base (clkDivider base clk).1 := by
  have hB : 0 < base := Nat.pos_of_ne_zero fun h0 ↦ by simp [h0] at h
  have h44 : clk < base / 2044 := lt_of_lt_of_le h (Nat.div_le_div_left (by decide) (by decide))
  rw [clkDivider_below hB h44]
  simpa [sdClock, sdhciClkMaxDiv] using h

/-- On every controller, sdhci_clk_supply for a rate within the base rate never reports
failure, and first writes the clock control word of the divider `clkDivider` picks: the
word decodes back to the divider and spares the enable and stable bits, and every smaller
even divisor is too fast. That divider is the fastest the request permits exactly when
the request is at least B / SDHCI_CLK_MAX_DIV; below that its clock is above the request,
and on the ideal controller the supply still returns 0. -/
theorem sdhciClkSupply_divider_fastest_iff {σ : Type} (D : Device σ) (w : World σ)
    (fuel : Nat) (host : SdhciHost) (clk : Nat) (hclk : clk ≤ host.caps.baseClkRate) :
    (((sdhciClkSupply fuel host clk).run D w).1 =
        .ok (0, { host with curClkRate := (clkDivider host.caps.baseClkRate clk).2 }) ∨
      ((sdhciClkSupply fuel host clk).run D w).1 = .error .hang) ∧
    (∃ t, ((sdhciClkSupply fuel host clk).run D w).2.trace = w.trace ++
      .write 16 (.hc sdhciClkCtrlReg) (clkCtrlVal (clkDivider host.caps.baseClkRate clk).1 %
        2 ^ 16) :: t) ∧
    clkDividerField (clkCtrlVal (clkDivider host.caps.baseClkRate clk).1 % 2 ^ 16) =
      (clkDivider host.caps.baseClkRate clk).1 ∧
    clkCtrlVal (clkDivider host.caps.baseClkRate clk).1 % 2 ^ 16 &&&
      (sdhciClkEn ||| sdhciClkStable) = 0 ∧
    (∀ d, 2 ≤ d → d < 2 * (clkDivider host.caps.baseClkRate clk).1 → d % 2 = 0 →
      clk < host.caps.baseClkRate / d) ∧
    (FastestDivider host.caps.baseClkRate clk (clkDivider host.caps.baseClkRate clk).1 ↔
      host.caps.baseClkRate / sdhciClkMaxDiv ≤ clk) ∧
    (clk < host.caps.baseClkRate / sdhciClkMaxDiv →
      clk < sdClock host.caps.baseClkRate (clkDivider host.caps.baseClkRate clk).1) ∧
    (0 < fuel → ∀ w' : World (Addr → Nat), ((sdhciClkSupply fuel host clk).run registerFile w').1 =
      .ok (0, { host with curClkRate := (clkDivider host.caps.baseClkRate clk).2 })) := by
  have hrun := sdhciClkSupply_run_within D w fuel host clk hclk
  refine ⟨hrun.1, hrun.2, clkDividerField_clkCtrlVal (clkDivider_lt _ _),
    clkCtrlVal_spares_enable _, clkDivider_too_fast, clkDivider_fastest_iff,
    sdClock_clkDivider_above, fun hf w' ↦ ?_⟩
  obtain ⟨f, rfl⟩ : ∃ f, fuel = f + 1 := ⟨fuel - 1, by omega⟩
  exact (sdhciClkSupply_run f host clk w' hclk).1

theorem sdhciClkSupply_divider_fastest_iff_at_50khz :
    let host : SdhciHost := ⟨0, ⟨200000000, 0, 0, 0, 0, 0, 0⟩⟩
    let w : World (Addr → Nat) := ⟨fun _ ↦ 0, [], 1⟩
    let clk := 50000
    clk ≤ host.caps.baseClkRate ∧
    (((sdhciClkSupply 1 host clk).run registerFile w).1 =
        .ok (0, { host with curClkRate := (clkDivider host.caps.baseClkRate clk).2 }) ∨
      ((sdhciClkSupply 1 host clk).run registerFile w).1 = .error .hang) ∧
    (∃ t, ((sdhciClkSupply 1 host clk).run registerFile w).2.trace = w.trace ++
      .write 16 (.hc sdhciClkCtrlReg) (clkCtrlVal (clkDivider host.caps.baseClkRate clk).1 %
        2 ^ 16) :: t) ∧
    clkDividerField (clkCtrlVal (clkDivider host.caps.baseClkRate clk).1 % 2 ^ 16) =
      (clkDivider host.caps.baseClkRate clk).1 ∧
    clkCtrlVal (clkDivider host.caps.baseClkRate clk).1 % 2 ^ 16 &&&
      (sdhciClkEn ||| sdhciClkStable) = 0 ∧
    (∀ d, 2 ≤ d → d < 2 * (clkDivider host.caps.baseClkRate clk).1 → d % 2 = 0 →
      clk < host.caps.baseClkRate / d) ∧
    (FastestDivider host.caps.baseClkRate clk (clkDivider host.caps.baseClkRate clk).1 ↔
      host.caps.baseClkRate / sdhciClkMaxDiv ≤ clk) ∧
    (clk < host.caps.baseClkRate / sdhciClkMaxDiv →
      clk < sdClock host.caps.baseClkRate (clkDivider host.caps.baseClkRate clk).1) ∧
    (0 < 1 → ∀ w' : World (Addr → Nat), ((sdhciClkSupply 1 host clk).run registerFile w').1 =
      .ok (0, { host with curClkRate := (clkDivider host.caps.baseClkRate clk).2 })) :=
  ⟨by decide, sdhciClkSupply_divider_fastest_iff registerFile _ 1 _ _ (by decide)⟩

end Sdhci
