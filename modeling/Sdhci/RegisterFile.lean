import Sdhci.Init

namespace Sdhci

open Prog

/-- An ideal controller: a register reads what was last written to it, except that the
internal clock reports itself stable and a software reset completes at once. -/
def registerFile : Device (Addr → Nat) where
  answer regs _ a :=
    if a = .hc sdhciClkCtrlReg then regs a ||| sdhciClkStable
    else if a = .hc sdhciResetReg then 0 else regs a
  step regs
    | .write _ a v => Function.update regs a v
    | _ => regs

section Steps

variable (regs : Addr → Nat) (n : Nat)

@[simp] theorem registerFile_step_write (a : Addr) (v : Nat) :
    registerFile.step regs (.write n a v) = Function.update regs a v := rfl
@[simp] theorem registerFile_step_read (a : Addr) (v : Nat) :
    registerFile.step regs (.read n a v) = regs := rfl
@[simp] theorem registerFile_step_effect (e : Effect) : registerFile.step regs (.effect e) = regs :=
  rfl

theorem registerFile_answer_clk :
    registerFile.answer regs n (.hc sdhciClkCtrlReg) =
      regs (.hc sdhciClkCtrlReg) ||| sdhciClkStable :=
  rfl

theorem registerFile_answer_of_ne {a : Addr} (h1 : a ≠ .hc sdhciClkCtrlReg)
    (h2 : a ≠ .hc sdhciResetReg) : registerFile.answer regs n a = regs a := by
  simp [registerFile, h1, h2]

end Steps

section Scan

variable {base clk : Nat}

/-- When no even divisor from `div` on brings the rate down to `clk`, the scan runs to
SDHCI_CLK_MAX_DIV and keeps the rate of the last divisor it tried. -/
theorem clkScan_exhausts {fuel div freq : Nat} (hdiv : div % 2 = 0) (hlt : div < sdhciClkMaxDiv)
    (hfuel : sdhciClkMaxDiv - div ≤ 2 * fuel)
    (h : ∀ d, div ≤ d → d < sdhciClkMaxDiv → d % 2 = 0 → clk < base / d) :
    clkScan base clk fuel div freq = (sdhciClkMaxDiv, base / (sdhciClkMaxDiv - 2)) := by
  induction fuel generalizing div freq with
  | zero => omega
  | succ fuel ih =>
    rw [clkScan, if_pos hlt, if_neg (Nat.not_le.2 (h div le_rfl hlt hdiv))]
    by_cases hl : div + 2 < sdhciClkMaxDiv
    · exact ih (by omega) hl (by omega) fun d hd ↦ h d (by omega)
    · obtain rfl : div = sdhciClkMaxDiv - 2 := by unfold sdhciClkMaxDiv at *; omega
      cases fuel <;> rfl

/-- A request below every rate the scan reaches gets divider 1023 and the rate of
divisor 2044. -/
theorem clkDivider_below (hB : 0 < base) (h : clk < base / 2044) :
    clkDivider base clk = (1023, base / 2044) := by
  have hne : clk ≠ base := fun e ↦ by
    have := Nat.div_le_self base (sdhciClkMaxDiv - 2); omega
  have hs : clkScan base clk sdhciClkMaxDiv 2 0 =
      (sdhciClkMaxDiv, base / (sdhciClkMaxDiv - 2)) :=
    clkScan_exhausts (by decide) (by decide) (by decide) fun d h2 hd he ↦
      lt_of_lt_of_le h (Nat.div_le_div_left (by unfold sdhciClkMaxDiv at *; omega) (by omega))
  rw [clkDivider, if_neg hne, hs]
  exact Prod.ext (show sdhciClkMaxDiv >>> 1 = 1023 by decide) rfl

end Scan

theorem and_ne_zero_of_testBit {x m i : Nat} (hx : x.testBit i = true) (hm : m.testBit i = true) :
    x &&& m ≠ 0 := fun h0 ↦ by
  simpa [Nat.testBit_and, hx, hm] using congrArg (Nat.testBit · i) h0

theorem clkStable_or (x : Nat) :
    ((x ||| sdhciClkStable) % 2 ^ 16 &&& sdhciClkStable != 0) = true := by
  have h1 : sdhciClkStable.testBit 1 = true := rfl
  refine bne_iff_ne.2 (and_ne_zero_of_testBit ?_ h1)
  simp only [Nat.testBit_mod_two_pow, Nat.testBit_or, h1]
  simp

/-- The divider field of the clock control word of a 10-bit divider, with any of the low
six bits set besides, is the divider: bits 0-7 come from register bits 8-15, bits 8-9
from register bits 6-7, and the enable and stable bits land on none of them. -/
theorem clkDividerField_ctrlWord {d m : Nat} (hd : d < 1024) (hm : m < 2 ^ 6) :
    clkDividerField ((clkCtrlVal d ||| m) % 2 ^ 16) = d := Nat.eq_of_testBit_eq fun j ↦ by
  have hm6 : ∀ k, 6 ≤ k → m.testBit k = false := fun k hk ↦
    Nat.testBit_lt_two_pow (lt_of_lt_of_le hm (Nat.pow_le_pow_right (by decide) hk))
  simp only [clkDividerField, clkCtrlVal, Nat.testBit_or, Nat.testBit_and, Nat.testBit_shiftRight,
    Nat.testBit_shiftLeft, Nat.testBit_mod_two_pow, sdhciSdclkFreqSel, sdhciSdclkUpBitSel,
    sdhciSdclkFreqMask, sdhcSdclkUpBitMask, sdhciIntClkEn, hm6 (8 + j) (by omega),
    hm6 (6 + (j - 8)) (by omega), Bool.or_false]
  rcases Nat.lt_or_ge j 10 with hj | hj
  · rcases j with _ | _ | _ | _ | _ | _ | _ | _ | _ | _ | j
    all_goals first | omega | simp [Nat.testBit_succ, Nat.testBit_zero]
  · have h3 : Nat.testBit 3 (j - 8) = false := Nat.testBit_lt_two_pow
      (lt_of_lt_of_le (show 3 < 2 ^ 2 by decide) (Nat.pow_le_pow_right (by decide) (by omega)))
    have hd : d.testBit j = false := Nat.testBit_lt_two_pow
      (lt_of_lt_of_le hd (Nat.pow_le_pow_right (show 2 > 0 by decide) hj))
    have h16 : ¬ 8 + j < 16 := by omega
    simp [hd, h3, h16]

theorem or_mod_two_pow_sixteen (x a b : Nat) :
    ((x % 2 ^ 16 ||| a) % 2 ^ 16 ||| b) % 2 ^ 16 = (x ||| (a ||| b)) % 2 ^ 16 :=
  Nat.eq_of_testBit_eq fun k ↦ by
    simp only [Nat.testBit_mod_two_pow, Nat.testBit_or]
    by_cases hk : k < 16 <;> simp [hk, Bool.or_assoc]

theorem clkDividerField_readback : ∀ d < 1024,
    clkDividerField (((clkCtrlVal d % 2 ^ 16 ||| sdhciClkStable) % 2 ^ 16 ||| sdhciClkEn) %
      2 ^ 16) = d :=
  fun _ hd ↦ by rw [or_mod_two_pow_sixteen]; exact clkDividerField_ctrlWord hd (by decide)

/-- On the ideal controller a supply within the base rate returns 0, records the rate of
`clkDivider` and leaves the divider of `clkDivider` in the clock control register, with
the SD clock enabled. -/
theorem sdhciClkSupply_run (fuel : Nat) (host : SdhciHost) (clk : Nat) (w : World (Addr → Nat))
    (hclk : clk ≤ host.caps.baseClkRate) :
    ((sdhciClkSupply (fuel + 1) host clk).run registerFile w).1 =
        .ok (0, { host with curClkRate := (clkDivider host.caps.baseClkRate clk).2 }) ∧
      ((sdhciClkSupply (fuel + 1) host clk).run registerFile w).2.dev (.hc sdhciClkCtrlReg) =
        ((clkCtrlVal (clkDivider host.caps.baseClkRate clk).1 % 2 ^ 16 ||| sdhciClkStable) %
          2 ^ 16 ||| sdhciClkEn) % 2 ^ 16 := by
  unfold sdhciClkSupply
  rw [if_neg (Nat.not_lt.2 hclk)]
  generalize clkDivider host.caps.baseClkRate clk = d
  rw [writeReg_bind, Prog.run, Prog.run_bind, spinUntil_run_found _ (by
    rw [registerFile_answer_clk]; exact clkStable_or _)]
  simp [Prog.run, World.record, registerFile_answer_clk]

theorem sdhciClkSupply_records_unselected_rate (fuel : Nat) (host : SdhciHost)
    (w : World (Addr → Nat)) (hB : 0 < host.caps.baseClkRate) :
    (((sdhciClkSupply (fuel + 1) host host.caps.baseClkRate).run registerFile w).1 =
        .ok (0, { host with curClkRate := 0 }) ∧
      sdClock host.caps.baseClkRate (clkDividerField
        (((sdhciClkSupply (fuel + 1) host host.caps.baseClkRate).run registerFile w).2.dev
          (.hc sdhciClkCtrlReg))) = host.caps.baseClkRate) ∧
    ∀ clk, clk < host.caps.baseClkRate / 2044 →
      ((sdhciClkSupply (fuel + 1) host clk).run registerFile w).1 =
          .ok (0, { host with curClkRate := host.caps.baseClkRate / 2044 }) ∧
        sdClock host.caps.baseClkRate (clkDividerField
          (((sdhciClkSupply (fuel + 1) host clk).run registerFile w).2.dev (.hc sdhciClkCtrlReg))) =
          host.caps.baseClkRate / 2046 := by
  refine ⟨?_, fun clk h ↦ ?_⟩
  · obtain ⟨h1, h2⟩ := sdhciClkSupply_run fuel host _ w le_rfl
    have hd : clkDivider host.caps.baseClkRate host.caps.baseClkRate = (0, 0) := if_pos rfl
    rw [hd] at h1 h2
    rw [h1, h2, clkDividerField_readback 0 (by decide)]
    exact ⟨rfl, rfl⟩
  · have hle : clk ≤ host.caps.baseClkRate := by
      have := Nat.div_le_self host.caps.baseClkRate 2044; omega
    obtain ⟨h1, h2⟩ := sdhciClkSupply_run fuel host _ w hle
    rw [clkDivider_below hB h] at h1 h2
    rw [h1, h2, clkDividerField_readback 1023 (by decide)]
    exact ⟨rfl, rfl⟩

theorem sdhciClkSupply_records_unselected_rate_at_200mhz :
    0 < 200000000 ∧
      ((((sdhciClkSupply 1 ⟨0, ⟨200000000, 0, 0, 0, 0, 0, 0⟩⟩ 200000000).run registerFile
          ⟨fun _ ↦ 0, [], 1⟩).1 = .ok (0, ⟨0, ⟨200000000, 0, 0, 0, 0, 0, 0⟩⟩) ∧
        sdClock 200000000 (clkDividerField
          (((sdhciClkSupply 1 ⟨0, ⟨200000000, 0, 0, 0, 0, 0, 0⟩⟩ 200000000).run registerFile
            ⟨fun _ ↦ 0, [], 1⟩).2.dev (.hc sdhciClkCtrlReg))) = 200000000) ∧
      ∀ clk, clk < 200000000 / 2044 →
        ((sdhciClkSupply 1 ⟨0, ⟨200000000, 0, 0, 0, 0, 0, 0⟩⟩ clk).run registerFile
            ⟨fun _ ↦ 0, [], 1⟩).1 = .ok (0, ⟨200000000 / 2044, ⟨200000000, 0, 0, 0, 0, 0, 0⟩⟩) ∧
          sdClock 200000000 (clkDividerField
            (((sdhciClkSupply 1 ⟨0, ⟨200000000, 0, 0, 0, 0, 0, 0⟩⟩ clk).run registerFile
              ⟨fun _ ↦ 0, [], 1⟩).2.dev (.hc sdhciClkCtrlReg))) = 200000000 / 2046) :=
  ⟨by decide, sdhciClkSupply_records_unselected_rate 0 _ _ (by decide)⟩

theorem setUhsMode_run (mode : Nat) (w : World (Addr → Nat)) :
    ((setUhsMode mode).run registerFile w).1 = .ok () ∧
      ((setUhsMode mode).run registerFile w).2.dev (.hc sdhciHostCtrl2Reg) =
        (w.dev (.hc sdhciHostCtrl2Reg) % 2 ^ 16 ||| mode) % 2 ^ 16 := by
  have hne : Addr.hc sdhciHostCtrl2Reg ≠ .hc sdhciClkCtrlReg := by decide
  have hr : Addr.hc sdhciHostCtrl2Reg ≠ .hc sdhciResetReg := by decide
  simp [setUhsMode, Prog.run, World.record, registerFile_answer_of_ne _ _ hne hr,
    Function.update_noteq hne]

theorem sdhciSetDdrMode_run (fuel : Nat) (host : SdhciHost) (w : World (Addr → Nat))
    (hclk : host.curClkRate ≤ host.caps.baseClkRate) :
    ((sdhciSetDdrMode (fuel + 1) host).run registerFile w).1 =
        .ok { host with curClkRate := (clkDivider host.caps.baseClkRate host.curClkRate).2 } ∧
      ((sdhciSetDdrMode (fuel + 1) host).run registerFile w).2.dev (.hc sdhciClkCtrlReg) =
        ((clkCtrlVal (clkDivider host.caps.baseClkRate host.curClkRate).1 % 2 ^ 16 |||
          sdhciClkStable) % 2 ^ 16 ||| sdhciClkEn) % 2 ^ 16 := by
  obtain ⟨h1, h2⟩ := sdhciClkSupply_run fuel host host.curClkRate
    ((setUhsMode sdhciDdrModeEn).run registerFile w).2 hclk
  rw [sdhciSetDdrMode, run_bind_ok _ (setUhsMode_run _ w).1, run_bind_ok _ h1]
  exact ⟨rfl, h2⟩

theorem sdhciSetDdrMode_changes_clock (fuel : Nat) (host : SdhciHost) (w : World (Addr → Nat))
    (hfuel : 0 < fuel) (hB : 2044 ≤ host.caps.baseClkRate) :
    ((sdhciClkSupply fuel host host.caps.baseClkRate).run registerFile w).1 =
        .ok (0, { host with curClkRate := 0 }) ∧
      clkDividerField (((sdhciClkSupply fuel host host.caps.baseClkRate).run registerFile
        w).2.dev (.hc sdhciClkCtrlReg)) = 0 ∧
      ((sdhciSetDdrMode fuel { host with curClkRate := 0 }).run registerFile
          ((sdhciClkSupply fuel host host.caps.baseClkRate).run registerFile w).2).1 =
        .ok { host with curClkRate := host.caps.baseClkRate / 2044 } ∧
      clkDividerField (((sdhciSetDdrMode fuel { host with curClkRate := 0 }).run registerFile
          ((sdhciClkSupply fuel host host.caps.baseClkRate).run registerFile w).2).2.dev
        (.hc sdhciClkCtrlReg)) = 1023 := by
  obtain _ | fuel := fuel
  · exact absurd hfuel (Nat.lt_irrefl 0)
  obtain ⟨h1, h2⟩ := sdhciClkSupply_run fuel host _ w le_rfl
  have hd : clkDivider host.caps.baseClkRate host.caps.baseClkRate = (0, 0) := if_pos rfl
  rw [hd] at h1 h2
  obtain ⟨h3, h4⟩ := sdhciSetDdrMode_run fuel { host with curClkRate := 0 }
    ((sdhciClkSupply (fuel + 1) host host.caps.baseClkRate).run registerFile w).2 (Nat.zero_le _)
  have hb : clkDivider host.caps.baseClkRate 0 = (1023, host.caps.baseClkRate / 2044) :=
    clkDivider_below (by omega) (Nat.div_pos hB (by decide))
  rw [hb] at h3 h4
  rw [h1, h2, h3, h4, clkDividerField_readback 0 (by decide),
    clkDividerField_readback 1023 (by decide)]
  exact ⟨rfl, rfl, rfl, rfl⟩

set_option maxRecDepth 4000 in
theorem sdhciSetDdrMode_changes_clock_at_200mhz :
    0 < 1 ∧ 2044 ≤ 200000000 ∧
      ((sdhciClkSupply 1 ⟨0, ⟨200000000, 0, 0, 0, 0, 0, 0⟩⟩ 200000000).run registerFile
          ⟨fun _ ↦ 0, [], 1⟩).1 = .ok (0, ⟨0, ⟨200000000, 0, 0, 0, 0, 0, 0⟩⟩) ∧
      clkDividerField (((sdhciClkSupply 1 ⟨0, ⟨200000000, 0, 0, 0, 0, 0, 0⟩⟩ 200000000).run
        registerFile ⟨fun _ ↦ 0, [], 1⟩).2.dev (.hc sdhciClkCtrlReg)) = 0 ∧
      ((sdhciSetDdrMode 1 ⟨0, ⟨200000000, 0, 0, 0, 0, 0, 0⟩⟩).run registerFile
          ((sdhciClkSupply 1 ⟨0, ⟨200000000, 0, 0, 0, 0, 0, 0⟩⟩ 200000000).run registerFile
            ⟨fun _ ↦ 0, [], 1⟩).2).1 = .ok ⟨200000000 / 2044, ⟨200000000, 0, 0, 0, 0, 0, 0⟩⟩ ∧
      clkDividerField (((sdhciSetDdrMode 1 ⟨0, ⟨200000000, 0, 0, 0, 0, 0, 0⟩⟩).run registerFile
          ((sdhciClkSupply 1 ⟨0, ⟨200000000, 0, 0, 0, 0, 0, 0⟩⟩ 200000000).run registerFile
            ⟨fun _ ↦ 0, [], 1⟩).2).2.dev (.hc sdhciClkCtrlReg)) = 1023 :=
  ⟨by decide, by decide, sdhciSetDdrMode_changes_clock 1 ⟨0, ⟨200000000, 0, 0, 0, 0, 0, 0⟩⟩
    ⟨fun _ ↦ 0, [], 1⟩ (by decide) (by decide)⟩

theorem sdhciStopSdccClk_run_free {σ : Type} (D : Device σ) (w : World σ)
    (hfree : D.answer w.dev 32 (.hc sdhciPresentStateReg) % 2 ^ 32 &&&
      (sdhciCmdAct ||| sdhciDatAct) = 0) :
    sdhciStopSdccClk.run D w = (.ok 0, (w.record D (.read 32 (.hc sdhciPresentStateReg)
      (D.answer w.dev 32 (.hc sdhciPresentStateReg) % 2 ^ 32))).record D
        (.write 16 (.hc sdhciClkCtrlReg) (sdhciClkDis % 2 ^ 16))) := by
  rw [sdhciStopSdccClk, readReg_bind, Prog.run]
  split
  · contradiction
  · rfl

/-- On the ideal controller with free lines, sdhci_change_freq_clk returns what
sdhci_clk_supply returns and leaves its divider; a rate above the base rate fails and
leaves the clock stopped. -/
theorem sdhciChangeFreqClk_run (fuel : Nat) (host : SdhciHost) (clk : Nat)
    (w : World (Addr → Nat)) (hfuel : 0 < fuel)
    (hfree : w.dev (.hc sdhciPresentStateReg) % 2 ^ 32 &&& (sdhciCmdAct ||| sdhciDatAct) = 0) :
    ((sdhciChangeFreqClk fuel host clk).run registerFile w).1 =
        (if clk ≤ host.caps.baseClkRate then
          .ok (0, { host with curClkRate := (clkDivider host.caps.baseClkRate clk).2 })
        else .ok (1, host)) ∧
      ((sdhciChangeFreqClk fuel host clk).run registerFile w).2.dev (.hc sdhciClkCtrlReg) =
        if clk ≤ host.caps.baseClkRate then
          ((clkCtrlVal (clkDivider host.caps.baseClkRate clk).1 % 2 ^ 16 ||| sdhciClkStable) %
            2 ^ 16 ||| sdhciClkEn) % 2 ^ 16
        else sdhciClkDis := by
  obtain _ | fuel := fuel
  · exact absurd hfuel (Nat.lt_irrefl 0)
  have hs := sdhciStopSdccClk_run_free registerFile w
    (by rwa [registerFile_answer_of_ne _ _ (by decide) (by decide)])
  rw [sdhciChangeFreqClk, run_bind, hs]
  dsimp only
  rw [if_neg (by decide)]
  by_cases hclk : clk ≤ host.caps.baseClkRate
  · obtain ⟨h1, h2⟩ := sdhciClkSupply_run fuel host clk _ hclk
    rw [run_bind_ok _ h1, if_pos hclk, if_pos hclk, if_neg (fun h ↦ h rfl)]
    exact ⟨rfl, h2⟩
  · rw [if_neg hclk, if_neg hclk]
    simp [sdhciClkSupply, Nat.lt_of_not_le hclk, Prog.run, World.record, sdhciClkDis]

theorem sdhciChangeFreqClk_run_above_base :
    0 < 1 ∧ (0 : Nat) % 2 ^ 32 &&& (sdhciCmdAct ||| sdhciDatAct) = 0 ∧
      ((sdhciChangeFreqClk 1 ⟨0, ⟨0, 0, 0, 0, 0, 0, 0⟩⟩ 1).run registerFile
          ⟨fun _ ↦ 0, [], 1⟩).1 =
        (if 1 ≤ 0 then .ok (0, ⟨(clkDivider 0 1).2, ⟨0, 0, 0, 0, 0, 0, 0⟩⟩)
        else .ok (1, ⟨0, ⟨0, 0, 0, 0, 0, 0, 0⟩⟩)) ∧
      ((sdhciChangeFreqClk 1 ⟨0, ⟨0, 0, 0, 0, 0, 0, 0⟩⟩ 1).run registerFile
          ⟨fun _ ↦ 0, [], 1⟩).2.dev (.hc sdhciClkCtrlReg) =
        if 1 ≤ 0 then
          ((clkCtrlVal (clkDivider 0 1).1 % 2 ^ 16 ||| sdhciClkStable) % 2 ^ 16 ||| sdhciClkEn) %
            2 ^ 16
        else sdhciClkDis :=
  ⟨by decide, by decide, sdhciChangeFreqClk_run 1 ⟨0, ⟨0, 0, 0, 0, 0, 0, 0⟩⟩ 1
    ⟨fun _ ↦ 0, [], 1⟩ (by decide) (by decide)⟩

end Sdhci
