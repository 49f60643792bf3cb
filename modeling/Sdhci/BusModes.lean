import Sdhci.RegisterFile

namespace Sdhci

open Prog

def Access.Spares (a : Addr) : Access → Prop
  | .write _ b _ => b ≠ a
  | _ => True

theorem registerFile_step_spares {a : Addr} {x : Access} (h : x.Spares a) (regs : Addr → Nat) :
    registerFile.step regs x a = regs a := by
  cases x with
  | write n b v => exact Function.update_noteq (Ne.symm h) _ _
  | read => rfl
  | effect => rfl

/-- A run that writes nothing at `a` leaves register `a` of the ideal controller as it
was. -/
theorem run_registerFile_spares {α : Type} {p : Prog α} {a : Addr} (hp : p.Only (Access.Spares a))
    (w : World (Addr → Nat)) : (p.run registerFile w).2.dev a = w.dev a :=
  run_dev_inv registerFile hp (fun s _ hx (hs : s a = w.dev a) ↦
    (registerFile_step_spares hx s).trans hs) w rfl

theorem spinUntil_only {P : Access → Prop} {w : Nat} {a : Addr} (hP : ∀ v, P (.read w a v))
    {done : Nat → Bool} (fuel : Nat) : (spinUntil w a done fuel).Only P := by
  induction fuel with
  | zero => trivial
  | succ fuel ih =>
    refine only_bind (fun _ ↦ ⟨hP _, trivial⟩) fun v ↦ ?_
    dsimp only
    split
    · trivial
    · exact ih

section Spares

variable {a : Addr}

theorem sdhciClkSupply_spares (ha : a ≠ .hc sdhciClkCtrlReg) (fuel : Nat) (host : SdhciHost)
    (clk : Nat) : (sdhciClkSupply fuel host clk).Only (Access.Spares a) := by
  have hw : ∀ v, (Access.write 16 (.hc sdhciClkCtrlReg) v).Spares a := fun _ ↦ Ne.symm ha
  unfold sdhciClkSupply
  split
  · exact only_bind ⟨trivial, trivial⟩ fun _ ↦ trivial
  · refine only_bind ⟨hw _, trivial⟩ fun _ ↦ only_bind (spinUntil_only (fun _ ↦ trivial) _)
      fun _ ↦ only_bind (fun _ ↦ ⟨trivial, trivial⟩) fun _ ↦
        only_bind ⟨hw _, trivial⟩ fun _ ↦ trivial

theorem setUhsMode_spares (h1 : a ≠ .hc sdhciClkCtrlReg) (h2 : a ≠ .hc sdhciHostCtrl2Reg)
    (mode : Nat) : (setUhsMode mode).Only (Access.Spares a) :=
  fun _ ↦ ⟨trivial, Ne.symm h1, fun _ ↦ ⟨trivial, Ne.symm h2, trivial⟩⟩

theorem sdhciSetSdrMode_spares (h1 : a ≠ .hc sdhciClkCtrlReg) (h2 : a ≠ .hc sdhciHostCtrl2Reg)
    (fuel : Nat) (host : SdhciHost) : (sdhciSetSdrMode fuel host).Only (Access.Spares a) :=
  only_bind (setUhsMode_spares h1 h2 _) fun _ ↦
    only_bind (sdhciClkSupply_spares h1 _ _ _) fun _ ↦ trivial

theorem sdhciSetDdrMode_spares (h1 : a ≠ .hc sdhciClkCtrlReg) (h2 : a ≠ .hc sdhciHostCtrl2Reg)
    (fuel : Nat) (host : SdhciHost) : (sdhciSetDdrMode fuel host).Only (Access.Spares a) :=
  only_bind (setUhsMode_spares h1 h2 _) fun _ ↦
    only_bind (sdhciClkSupply_spares h1 _ _ _) fun _ ↦ trivial

end Spares

/-- What a mode call leaves in Host Control 1 that held `hc1`: the width's bits ORed in,
for a width sdhci_set_bus_width accepts. -/
def ModeCall.hostCtrl1 (hc1 : Nat) : ModeCall → Nat
  | .busWidth width =>
    match busWidthBits (width % 2 ^ 16) with
    | some bits => (hc1 % 2 ^ 8 ||| bits) % 2 ^ 8
    | none => hc1
  | _ => hc1

/-- What a mode call on a host with capabilities `caps` leaves in Host Control 2 that held
`hc2`: the speed mode's code ORed in. -/
def ModeCall.hostCtrl2 (caps : HostCaps) (hc2 : Nat) : ModeCall → Nat
  | .busWidth _ => hc2
  | .sdrMode => (hc2 % 2 ^ 16 ||| (if caps.sdr50Support ≠ 0 then sdhciSdr50ModeEn else 0)) % 2 ^ 16
  | .ddrMode => (hc2 % 2 ^ 16 ||| sdhciDdrModeEn) % 2 ^ 16

theorem hostCtrl1_ne_clk : Addr.hc sdhciHostCtrl1Reg ≠ .hc sdhciClkCtrlReg := by decide
theorem hostCtrl1_ne_hostCtrl2 : Addr.hc sdhciHostCtrl1Reg ≠ .hc sdhciHostCtrl2Reg := by decide
theorem hostCtrl2_ne_clk : Addr.hc sdhciHostCtrl2Reg ≠ .hc sdhciClkCtrlReg := by decide

/-- On the ideal controller sdhci_set_bus_width returns 0 for a width it knows and ORs its
bits into Host Control 1. -/
theorem sdhciSetBusWidth_run (width : Nat) (w : World (Addr → Nat)) :
    ((sdhciSetBusWidth width).run registerFile w).1 =
        .ok (if busWidthBits (width % 2 ^ 16) = none then 1 else 0) ∧
      ((sdhciSetBusWidth width).run registerFile w).2.dev (.hc sdhciHostCtrl1Reg) =
        (ModeCall.busWidth width).hostCtrl1 (w.dev (.hc sdhciHostCtrl1Reg)) ∧
      ((sdhciSetBusWidth width).run registerFile w).2.dev (.hc sdhciHostCtrl2Reg) =
        w.dev (.hc sdhciHostCtrl2Reg) := by
  have hr := registerFile_answer_of_ne w.dev 8 hostCtrl1_ne_clk (by decide)
  simp only [sdhciSetBusWidth, ModeCall.hostCtrl1]
  cases busWidthBits (width % 2 ^ 16) <;>
    simp [Prog.run, World.record, hr, Function.update_noteq (Ne.symm hostCtrl1_ne_hostCtrl2)]

theorem sdhciClkSupply_ok (fuel : Nat) (host : SdhciHost) (clk : Nat) (w : World (Addr → Nat)) :
    ∃ r, ((sdhciClkSupply (fuel + 1) host clk).run registerFile w).1 = .ok r ∧
      r.2.caps = host.caps := by
  by_cases hclk : clk ≤ host.caps.baseClkRate
  · exact ⟨_, (sdhciClkSupply_run fuel host clk w hclk).1, rfl⟩
  · refine ⟨(1, host), ?_, rfl⟩
    simp [sdhciClkSupply, Nat.lt_of_not_le hclk, Prog.run]

/-- The two speed modes on the ideal controller: the mode's code ORed into Host
Control 2, Host Control 1 untouched, and the capabilities kept. -/
theorem setMode_run (fuel : Nat) (modeOf clkOf : SdhciHost → Nat)
    {call : SdhciHost → Prog SdhciHost}
    (hcall : ∀ host, call host = (do
      setUhsMode (modeOf host)
      let r ← sdhciClkSupply (fuel + 1) host (clkOf host)
      pure r.2))
    (hc1 : ∀ host, (call host).Only (Access.Spares (.hc sdhciHostCtrl1Reg)))
    (host : SdhciHost) (w : World (Addr → Nat)) :
    ∃ host', ((call host).run registerFile w).1 = .ok host' ∧ host'.caps = host.caps ∧
      ((call host).run registerFile w).2.dev (.hc sdhciHostCtrl1Reg) =
        w.dev (.hc sdhciHostCtrl1Reg) ∧
      ((call host).run registerFile w).2.dev (.hc sdhciHostCtrl2Reg) =
        (w.dev (.hc sdhciHostCtrl2Reg) % 2 ^ 16 ||| modeOf host) % 2 ^ 16 := by
  obtain ⟨hu, hu2⟩ := setUhsMode_run (modeOf host) w
  obtain ⟨r, hr, hcaps⟩ := sdhciClkSupply_ok fuel host (clkOf host)
    ((setUhsMode (modeOf host)).run registerFile w).2
  have hrun : (call host).run registerFile w =
      (.ok r.2, ((sdhciClkSupply (fuel + 1) host (clkOf host)).run registerFile
        ((setUhsMode (modeOf host)).run registerFile w).2).2) := by
    rw [hcall, run_bind_ok _ hu, run_bind_ok _ hr]
    rfl
  refine ⟨r.2, by rw [hrun], hcaps, run_registerFile_spares (hc1 host) w, ?_⟩
  rw [hrun, run_registerFile_spares (sdhciClkSupply_spares hostCtrl2_ne_clk _ _ _), hu2]

theorem ModeCall.run_registerFile (c : ModeCall) (fuel : Nat) (host : SdhciHost)
    (w : World (Addr → Nat)) :
    ∃ host', ((c.run (fuel + 1) host).run registerFile w).1 = .ok host' ∧
      host'.caps = host.caps ∧
      ((c.run (fuel + 1) host).run registerFile w).2.dev (.hc sdhciHostCtrl1Reg) =
        c.hostCtrl1 (w.dev (.hc sdhciHostCtrl1Reg)) ∧
      ((c.run (fuel + 1) host).run registerFile w).2.dev (.hc sdhciHostCtrl2Reg) =
        c.hostCtrl2 host.caps (w.dev (.hc sdhciHostCtrl2Reg)) := by
  cases c with
  | busWidth width =>
    obtain ⟨hr, h1, h2⟩ := sdhciSetBusWidth_run width w
    have hrun : ((ModeCall.busWidth width).run (fuel + 1) host).run registerFile w =
        (.ok host, ((sdhciSetBusWidth width).run registerFile w).2) := by
      rw [ModeCall.run, run_bind_ok _ hr]
      rfl
    exact ⟨host, by rw [hrun], rfl, by rw [hrun, h1], by rw [hrun, h2]; rfl⟩
  | sdrMode =>
    exact setMode_run fuel (fun h ↦ if h.caps.sdr50Support ≠ 0 then sdhciSdr50ModeEn else 0)
      (fun _ ↦ sdhciClk100mhz) (fun _ ↦ rfl)
      (sdhciSetSdrMode_spares hostCtrl1_ne_clk hostCtrl1_ne_hostCtrl2 _) host w
  | ddrMode =>
    exact setMode_run fuel (fun _ ↦ sdhciDdrModeEn) SdhciHost.curClkRate (fun _ ↦ rfl)
      (sdhciSetDdrMode_spares hostCtrl1_ne_clk hostCtrl1_ne_hostCtrl2 _) host w

/-- Any sequence of mode calls on the ideal controller returns, keeps the capabilities,
and leaves in Host Control 1 and 2 what the calls' `hostCtrl1` and `hostCtrl2` make of
them, one after the other. -/
theorem modeCalls_run (fuel : Nat) (calls : List ModeCall) (host : SdhciHost)
    (w : World (Addr → Nat)) :
    ∃ host', ((modeCalls (fuel + 1) host calls).run registerFile w).1 =
        .ok host' ∧ host'.caps = host.caps ∧
      ((modeCalls (fuel + 1) host calls).run registerFile w).2.dev
        (.hc sdhciHostCtrl1Reg) = calls.foldl ModeCall.hostCtrl1 (w.dev (.hc sdhciHostCtrl1Reg)) ∧
      ((modeCalls (fuel + 1) host calls).run registerFile w).2.dev
        (.hc sdhciHostCtrl2Reg) =
        calls.foldl (ModeCall.hostCtrl2 host.caps) (w.dev (.hc sdhciHostCtrl2Reg)) := by
  induction calls generalizing host w with
  | nil => exact ⟨host, rfl, rfl, rfl, rfl⟩
  | cons c cs ih =>
    obtain ⟨host₁, hr, hcaps, hc1, hc2⟩ := c.run_registerFile fuel host w
    obtain ⟨host₂, hr₂, hcaps₂, hd1, hd2⟩ := ih host₁ ((c.run (fuel + 1) host).run registerFile w).2
    rw [modeCalls_cons, run_bind_ok _ hr]
    refine ⟨host₂, hr₂, hcaps₂.trans hcaps, ?_, ?_⟩
    · rw [hd1, hc1]
      rfl
    · rw [hd2, hc2, hcaps]
      rfl

/-- On the ideal controller sdhci_init returns with the capabilities of the two capability
words, leaves 32-bit ADMA2 and the 1-bit width in Host Control 1, and Host Control 2 as it
was. -/
theorem sdhciInit_run (fuel : Nat) (host : SdhciHost) (w : World (Addr → Nat)) :
    ((sdhciInit (fuel + 1) host).run registerFile w).1 =
        .ok { host with
          caps := (capsOf host.caps (w.dev (.hc sdhciCapsReg1) % 2 ^ 32)
            (w.dev (.hc sdhciCapsReg2) % 2 ^ 32)) } ∧
      ((sdhciInit (fuel + 1) host).run registerFile w).2.dev (.hc sdhciHostCtrl1Reg) =
        sdhciAdma32bit ∧
      ((sdhciInit (fuel + 1) host).run registerFile w).2.dev (.hc sdhciHostCtrl2Reg) =
        w.dev (.hc sdhciHostCtrl2Reg) := by
  simp [sdhciInit, sdhciReset, spinUntil, sdhciSetBusPowerOn, sdhciSetBusWidth, sdhciSetAdmaMode,
    sdhciErrorStatusEnable, Prog.run, World.record, registerFile, Function.update_apply,
    busWidthBits, sdhciAdma32bit, sdhciCapsReg1, sdhciCapsReg2, sdhciResetReg, sdhciClkCtrlReg,
    sdhciHostCtrl1Reg, sdhciHostCtrl2Reg, sdhciPwrCtrlReg, sdhciBusPwrEn, sdhciNrmlIntStsEnReg,
    sdhciErrIntStsEnReg, sdhciNrmlIntSigEnReg, sdhciErrIntSigEnReg]

/-- sdhci_init and any mode calls after it, on the ideal controller: Host Control 1 holds
ADMA2 with every accepted width ORed in, Host Control 2 what it held with every speed
mode ORed in. -/
theorem initThen_run (fuel : Nat) (host : SdhciHost) (calls : List ModeCall)
    (w : World (Addr → Nat)) :
    (∃ host', ((initThen (fuel + 1) host calls).run registerFile w).1 = .ok host') ∧
      ((initThen (fuel + 1) host calls).run registerFile w).2.dev (.hc sdhciHostCtrl1Reg) =
        calls.foldl ModeCall.hostCtrl1 sdhciAdma32bit ∧
      ((initThen (fuel + 1) host calls).run registerFile w).2.dev (.hc sdhciHostCtrl2Reg) =
        calls.foldl (ModeCall.hostCtrl2 (capsOf host.caps (w.dev (.hc sdhciCapsReg1) % 2 ^ 32)
          (w.dev (.hc sdhciCapsReg2) % 2 ^ 32))) (w.dev (.hc sdhciHostCtrl2Reg)) := by
  obtain ⟨hi, hi1, hi2⟩ := sdhciInit_run fuel host w
  obtain ⟨host', hr, -, h1, h2⟩ := modeCalls_run fuel calls _
    ((sdhciInit (fuel + 1) host).run registerFile w).2
  rw [initThen, run_bind_ok _ hi]
  exact ⟨⟨host', hr⟩, by rw [h1, hi1], by rw [h2, hi2]⟩

theorem initThen_ors_widths_and_modes (fuel : Nat) (host : SdhciHost) (w : World (Addr → Nat))
    (hfuel : 0 < fuel)
    (hsdr : w.dev (.hc sdhciCapsReg2) % 2 ^ 32 &&& sdhciSdr50ModeMask ≠ 0) :
    ((sdhciSetBusWidth dataBusWidth4bit).run registerFile w).1 = .ok 0 ∧
      (((initThen fuel host [.busWidth dataBusWidth8bit, .busWidth dataBusWidth4bit]).run
          registerFile w).2.dev (.hc sdhciHostCtrl1Reg) &&& sdhciBusWitdh8bit ≠ 0 ∧
        ((initThen fuel host [.busWidth dataBusWidth8bit, .busWidth dataBusWidth4bit]).run
          registerFile w).2.dev (.hc sdhciHostCtrl1Reg) &&& sdhciBusWitdh4bit ≠ 0) ∧
      (((initThen fuel host [.sdrMode, .ddrMode]).run registerFile w).2.dev
          (.hc sdhciHostCtrl2Reg) &&& sdhciSdr50ModeEn ≠ 0 ∧
        ((initThen fuel host [.sdrMode, .ddrMode]).run registerFile w).2.dev
          (.hc sdhciHostCtrl2Reg) &&& sdhciDdrModeEn ≠ 0) := by
  obtain _ | fuel := fuel
  · exact absurd hfuel (Nat.lt_irrefl 0)
  refine ⟨(sdhciSetBusWidth_run _ w).1, ?_, ?_⟩
  · rw [(initThen_run fuel host _ w).2.1]
    decide
  · have hcap : (capsOf host.caps (w.dev (.hc sdhciCapsReg1) % 2 ^ 32)
        (w.dev (.hc sdhciCapsReg2) % 2 ^ 32)).sdr50Support ≠ 0 := by
      show (if _ then 1 else 0) ≠ 0
      rw [if_pos hsdr]
      exact one_ne_zero
    have h1 : sdhciSdr50ModeEn.testBit 1 = true := rfl
    have h2 : sdhciDdrModeEn.testBit 2 = true := rfl
    rw [(initThen_run fuel host _ w).2.2]
    simp only [List.foldl, ModeCall.hostCtrl2, if_pos hcap]
    constructor
    · refine and_ne_zero_of_testBit ?_ h1
      simp only [Nat.testBit_mod_two_pow, Nat.testBit_or, h1]
      simp
    · refine and_ne_zero_of_testBit ?_ h2
      simp only [Nat.testBit_mod_two_pow, Nat.testBit_or, h2]
      simp

theorem initThen_ors_widths_and_modes_at_zero :
    0 < 1 ∧ (1 : Nat) % 2 ^ 32 &&& sdhciSdr50ModeMask ≠ 0 ∧
      ((sdhciSetBusWidth dataBusWidth4bit).run registerFile ⟨fun _ ↦ 1, [], 1⟩).1 = .ok 0 ∧
      (((initThen 1 ⟨0, ⟨0, 0, 0, 0, 0, 0, 0⟩⟩ [.busWidth dataBusWidth8bit,
          .busWidth dataBusWidth4bit]).run registerFile ⟨fun _ ↦ 1, [], 1⟩).2.dev
          (.hc sdhciHostCtrl1Reg) &&& sdhciBusWitdh8bit ≠ 0 ∧
        ((initThen 1 ⟨0, ⟨0, 0, 0, 0, 0, 0, 0⟩⟩ [.busWidth dataBusWidth8bit,
          .busWidth dataBusWidth4bit]).run registerFile ⟨fun _ ↦ 1, [], 1⟩).2.dev
          (.hc sdhciHostCtrl1Reg) &&& sdhciBusWitdh4bit ≠ 0) ∧
      (((initThen 1 ⟨0, ⟨0, 0, 0, 0, 0, 0, 0⟩⟩ [.sdrMode, .ddrMode]).run registerFile
          ⟨fun _ ↦ 1, [], 1⟩).2.dev (.hc sdhciHostCtrl2Reg) &&& sdhciSdr50ModeEn ≠ 0 ∧
        ((initThen 1 ⟨0, ⟨0, 0, 0, 0, 0, 0, 0⟩⟩ [.sdrMode, .ddrMode]).run registerFile
          ⟨fun _ ↦ 1, [], 1⟩).2.dev (.hc sdhciHostCtrl2Reg) &&& sdhciDdrModeEn ≠ 0) :=
  ⟨by decide, by decide, initThen_ors_widths_and_modes 1 _ ⟨fun _ ↦ 1, [], 1⟩ (by decide)
    (by decide)⟩

end Sdhci
