import Sdhci.Divider
import Sdhci.Protocol
import Sdhci.Interrupt

namespace Sdhci

open Prog

/-- The host's rule for the SD clock (SDHCI 3.0, 3.2.1): SD Clock Enable is written set
only once a read of the clock control register has shown Internal Clock Stable since the
register was last written with the SD clock off. `stable` says such a read was made. -/
def clockStep (stable : Bool) : Access → Option Bool
  | .read _ (.hc a) v =>
    some (if a = sdhciClkCtrlReg then stable || v &&& sdhciClkStable != 0 else stable)
  | .write _ (.hc a) v =>
    if a = sdhciClkCtrlReg then
      (if v &&& sdhciClkEn = 0 then some false else if stable then some true else none)
    else some stable
  | _ => some stable

theorem clockStep_allows {x : Access} (hx : ∀ n v, x ≠ .write n (.hc sdhciClkCtrlReg) v) :
    Allows clockStep x := fun s ↦ by
  rcases x with ⟨n, _ | _ | _ | _, v⟩ | ⟨n, _ | _ | _ | _, v⟩ | e
  case write.hc a =>
    have ha : a ≠ sdhciClkCtrlReg := fun h ↦ hx n v (h ▸ rfl)
    exact ⟨s, if_neg ha⟩
  all_goals exact ⟨_, rfl⟩

theorem clockStep_offHost {x : Access} (hx : x.OffHost) : Keeps clockStep x := fun _ ↦ by
  rcases x with ⟨_, _ | _ | _ | _, _⟩ | ⟨_, _ | _ | _ | _, _⟩ | e
  all_goals first | exact False.elim hx | rfl

theorem clockStep_off {s : Bool} {n v : Nat} (h : v &&& sdhciClkEn = 0) :
    clockStep s (.write n (.hc sdhciClkCtrlReg) v) = some false := by
  simp [clockStep, h]

theorem clockStep_stable_write (n : Nat) (a : Addr) (v : Nat) :
    ∃ s', clockStep true (.write n a v) = some s' := by
  rcases a with a | _ | _ | _
  · by_cases ha : a = sdhciClkCtrlReg
    · by_cases hv : v &&& sdhciClkEn = 0 <;> simp [clockStep, ha, hv]
    · simp [clockStep, ha]
  all_goals exact ⟨_, rfl⟩

theorem clkCtrlVal_clkEn (d : Nat) : clkCtrlVal d % 2 ^ 16 &&& sdhciClkEn = 0 :=
  Nat.eq_of_testBit_eq fun i ↦ by
    have h := congrArg (Nat.testBit · i) (clkCtrlVal_spares_enable d)
    simp only [Nat.testBit_and, Nat.testBit_or, Nat.zero_testBit] at h ⊢
    revert h
    cases (clkCtrlVal d % 2 ^ 16).testBit i <;> cases sdhciClkEn.testBit i <;> simp

theorem clkEn_cleared (c : Nat) : (c &&& (0xFFFF ^^^ sdhciClkEn)) % 2 ^ 16 &&& sdhciClkEn = 0 :=
  Nat.eq_of_testBit_eq fun i ↦ by
    simp only [Nat.testBit_and, Nat.testBit_mod_two_pow, Nat.zero_testBit]
    by_cases hi : i = 2
    · subst hi
      have h2 : (0xFFFF ^^^ sdhciClkEn).testBit 2 = false := by decide
      simp [h2]
    · have : sdhciClkEn.testBit i = false := by
        rw [show sdhciClkEn = 2 ^ 2 from rfl, Nat.testBit_two_pow]
        simp [Ne.symm hi]
      simp [this]

/-- sdhci_clk_supply sets SD Clock Enable only after its wait has read the clock stable. -/
theorem sdhciClkSupply_clockStep (fuel : Nat) (host : SdhciHost) (clk : Nat) (s : Bool) :
    (sdhciClkSupply fuel host clk).Watch clockStep s fun _ _ ↦ True := by
  unfold sdhciClkSupply
  split
  · exact ⟨s, rfl, trivial⟩
  · simp only [writeReg_bind, readReg_bind]
    refine ⟨false, clockStep_off (clkCtrlVal_clkEn _), watch_bind
      ((spinUntil_watch (m := clockStep) (I := fun _ ↦ True) (F := (· = true)) ?_ fuel
        trivial).mono fun _ s₁ hs₁ v ↦ ?_)⟩
    · exact fun s v _ ↦ ⟨_, rfl, trivial, fun hd ↦ by simp [hd]⟩
    subst hs₁
    exact ⟨true, by simp [clockStep],
      (clockStep_stable_write _ _ _).imp fun _ h ↦ ⟨h, trivial⟩⟩

theorem setUhsMode_clockStep (mode : Nat) (s : Bool) :
    (setUhsMode mode).Watch clockStep s fun _ _ ↦ True := by
  simp only [setUhsMode, readReg_bind, writeReg_bind]
  exact fun _ ↦ ⟨_, rfl, false, clockStep_off (clkEn_cleared _), fun _ ↦ ⟨_, rfl, false,
    by simp [clockStep, sdhciHostCtrl2Reg, sdhciClkCtrlReg], trivial⟩⟩

theorem DriverCall.run_clockStep (cfg : Config) (fuel : Nat) (host : SdhciHost) (c : DriverCall)
    (s : Bool) : (c.run cfg fuel host).Watch clockStep s fun _ _ ↦ True := by
  cases c with
  | clkSupply clk =>
    exact watch_bind ((sdhciClkSupply_clockStep fuel host clk s).mono fun _ _ _ ↦ trivial)
  | sdrMode | ddrMode =>
    exact setMode_watch fuel host setUhsMode_clockStep (sdhciClkSupply_clockStep fuel host) _ _ s
  | sendCommand cmd =>
    exact sendCommand_watch_of_allows cfg fuel host (fun _ ↦ clockStep_allows) (by decide) cmd s
  | _ =>
    exact DriverCall.run_watch_of_allows cfg fuel host (fun _ ↦ clockStep_allows)
      (fun _ h ↦ by cases h) (by simp only [DriverCall.hostWrites]; decide) s

/-- On every controller, in every run of every session of driver calls, wherever the power
interrupt comes, from any state of the monitor, SD Clock Enable is written set only once a
read of the clock control register has shown Internal Clock Stable since the register was
last written with the SD clock off. -/
theorem session_enables_clock_once_stable {σ : Type} (D : Device σ) (w : World σ)
    (cfg : Config) (fuel : Nat) (host : SdhciHost) (calls : List DriverCall)
    (irqs : Nat → Option Nat) (stable : Bool) :
    ∃ t, ((irqSession cfg fuel host calls irqs).run D w).2.trace = w.trace ++ t ∧
      (t.foldlM clockStep stable).isSome :=
  session_accepts (fun host c _ ↦ DriverCall.run_clockStep cfg fuel host c)
    (fun _ ↦ clockStep_offHost) D w host irqs stable

/-- The host's rule for the UHS mode select of Host Control 2: it is written only while the
SD clock is stopped, the flow sdhci_set_sdr_mode and sdhci_set_ddr_mode document (disable
the clock, set the mode, run the clock). `running`: the last write of the clock control
register left SD Clock Enable set, or there was none yet. -/
def uhsStep (running : Bool) : Access → Option Bool
  | .write _ (.hc a) v =>
    if a = sdhciClkCtrlReg then some (v &&& sdhciClkEn != 0)
    else if a = sdhciHostCtrl2Reg then (if running then none else some false)
    else some running
  | _ => some running

theorem uhsStep_allows {x : Access} (hx : ∀ n v, x ≠ .write n (.hc sdhciHostCtrl2Reg) v) :
    Allows uhsStep x := fun s ↦ by
  rcases x with ⟨n, a, v⟩ | ⟨n, _ | _ | _ | _, v⟩ | e
  case write.hc a =>
    have ha : a ≠ sdhciHostCtrl2Reg := fun h ↦ hx n v (h ▸ rfl)
    by_cases hc : a = sdhciClkCtrlReg
    · exact ⟨_, if_pos hc⟩
    · exact ⟨s, by simp only [uhsStep, if_neg hc, if_neg ha]⟩
  all_goals exact ⟨_, rfl⟩

theorem uhsStep_offHost {x : Access} (hx : x.OffHost) : Keeps uhsStep x := fun _ ↦ by
  rcases x with ⟨_, _ | _ | _ | _, _⟩ | ⟨_, _ | _ | _ | _, _⟩ | e
  all_goals first | exact False.elim hx | rfl

theorem setUhsMode_uhsStep (mode : Nat) (s : Bool) :
    (setUhsMode mode).Watch uhsStep s fun _ _ ↦ True := by
  simp only [setUhsMode, readReg_bind, writeReg_bind]
  exact fun _ ↦ ⟨_, rfl, false, by simp only [uhsStep, if_pos, clkEn_cleared, bne_self_eq_false],
    fun _ ↦ ⟨_, rfl, false, by simp [uhsStep, sdhciHostCtrl2Reg, sdhciClkCtrlReg], trivial⟩⟩

theorem DriverCall.run_uhsStep (cfg : Config) (fuel : Nat) (host : SdhciHost) (c : DriverCall)
    (s : Bool) : (c.run cfg fuel host).Watch uhsStep s fun _ _ ↦ True := by
  have hclk : ∀ clk s, (sdhciClkSupply fuel host clk).Watch uhsStep s fun _ _ ↦ True :=
    fun clk ↦ watch_of_allows ((sdhciClkSupply_writes fuel host clk).mono fun _ hx ↦
      uhsStep_allows fun _ _ h ↦ by
        subst h; simp [Access.Writes, sdhciHostCtrl2Reg, sdhciClkCtrlReg] at hx)
  cases c with
  | sdrMode | ddrMode => exact setMode_watch fuel host setUhsMode_uhsStep hclk _ _ s
  | sendCommand cmd =>
    exact sendCommand_watch_of_allows cfg fuel host (fun _ ↦ uhsStep_allows) (by decide) cmd s
  | _ =>
    exact DriverCall.run_watch_of_allows cfg fuel host (fun _ ↦ uhsStep_allows)
      (fun _ h ↦ by cases h) (by simp only [DriverCall.hostWrites]; decide) s

/-- On every controller, in every run of every session of driver calls, wherever the power
interrupt comes, and whatever the SD clock was doing before the session, Host Control 2 is
written only while the SD clock is stopped: after a write of the clock control register
with SD Clock Enable clear, and with no write that sets it in between. -/
theorem session_sets_uhs_mode_clock_stopped {σ : Type} (D : Device σ) (w : World σ)
    (cfg : Config) (fuel : Nat) (host : SdhciHost) (calls : List DriverCall)
    (irqs : Nat → Option Nat) (running : Bool) :
    ∃ t, ((irqSession cfg fuel host calls irqs).run D w).2.trace = w.trace ++ t ∧
      (t.foldlM uhsStep running).isSome :=
  session_accepts (fun host c _ ↦ DriverCall.run_uhsStep cfg fuel host c)
    (fun _ ↦ uhsStep_offHost) D w host irqs running

theorem clkEn_set {x : Nat} (c : Nat) (h : x = (c ||| sdhciClkEn) % 2 ^ 16) :
    x &&& sdhciClkEn ≠ 0 := by
  rw [h, show sdhciClkEn = 2 ^ 2 from rfl, Nat.and_two_pow, Nat.testBit_mod_two_pow,
    Nat.testBit_or, Nat.testBit_two_pow_self]
  simp

theorem setUhsMode_run_clk (mode : Nat) (w : World (Addr → Nat)) :
    ((setUhsMode mode).run registerFile w).2.dev (.hc sdhciClkCtrlReg) &&& sdhciClkEn = 0 := by
  simp only [setUhsMode, readReg_bind, writeReg_bind, Prog.run, World.record,
    registerFile_step_write, registerFile_step_read, Function.update_noteq hostCtrl2_ne_clk,
    Function.update_same]
  exact clkEn_cleared _

theorem setUhsMode_notAckRead (mode : Nat) : (setUhsMode mode).Only Access.NotAckRead :=
  fun _ ↦ ⟨nofun, trivial, fun _ ↦ ⟨nofun, trivial, trivial⟩⟩

theorem sdhciClkSupply_notAckRead (fuel : Nat) (host : SdhciHost) (clk : Nat) :
    (sdhciClkSupply fuel host clk).Only Access.NotAckRead := by
  unfold sdhciClkSupply
  split
  · exact ⟨trivial, trivial⟩
  · exact only_bind ⟨trivial, trivial⟩ fun _ ↦ only_bind (spinUntil_only (fun _ ↦ nofun) fuel)
      fun _ ↦ only_bind (fun _ ↦ ⟨nofun, trivial⟩) fun _ ↦ ⟨trivial, trivial⟩

/-- A speed-mode call on the ideal controller, wherever the power interrupt comes, leaves
the SD clock running exactly when sdhci_clk_supply accepts the rate it asks for again. -/
theorem setMode_clock_runs_iff (fuel : Nat) (modeOf clkOf : SdhciHost → Nat)
    {call : SdhciHost → Prog SdhciHost}
    (hcall : ∀ host, call host = (do
      setUhsMode (modeOf host)
      let r ← sdhciClkSupply (fuel + 1) host (clkOf host)
      pure r.2))
    (host : SdhciHost) (irqs : Nat → Option Nat) (w : World (Addr → Nat)) :
    (((call host).preempt powerIrq irqs).run registerFile w).2.dev (.hc sdhciClkCtrlReg) &&&
        sdhciClkEn ≠ 0 ↔ clkOf host ≤ host.caps.baseClkRate := by
  have hp : (call host).Only Access.NotAckRead := by
    rw [hcall]
    exact only_bind (setUhsMode_notAckRead _) fun _ ↦
      only_bind (sdhciClkSupply_notAckRead _ _ _) fun _ ↦ trivial
  have hu := (setUhsMode_run (modeOf host) w).1
  rw [(run_preempt_registerFile hp irqs (SameBut.refl w)).2.1 (.hc sdhciClkCtrlReg) nofun, hcall, run_bind_ok _ hu]
  by_cases hclk : clkOf host ≤ host.caps.baseClkRate
  · obtain ⟨hr, hc⟩ := sdhciClkSupply_run fuel host (clkOf host)
      ((setUhsMode (modeOf host)).run registerFile w).2 hclk
    rw [run_bind_ok _ hr]
    exact iff_of_true (clkEn_set _ hc) hclk
  · unfold sdhciClkSupply
    rw [if_pos (Nat.lt_of_not_le hclk)]
    exact iff_of_false (not_not_intro (setUhsMode_run_clk (modeOf host) w)) hclk

theorem sdhciSetSdrMode_clock_runs_iff (fuel : Nat) (host : SdhciHost) (irqs : Nat → Option Nat)
    (w : World (Addr → Nat)) :
    (((sdhciSetSdrMode (fuel + 1) host).preempt powerIrq irqs).run registerFile w).2.dev
        (.hc sdhciClkCtrlReg) &&& sdhciClkEn ≠ 0 ↔ sdhciClk100mhz ≤ host.caps.baseClkRate :=
  setMode_clock_runs_iff fuel (fun h ↦ if h.caps.sdr50Support ≠ 0 then sdhciSdr50ModeEn else 0)
    (fun _ ↦ sdhciClk100mhz) (fun _ ↦ rfl) host irqs w

theorem sdhciSetDdrMode_clock_runs_iff (fuel : Nat) (host : SdhciHost) (irqs : Nat → Option Nat)
    (w : World (Addr → Nat)) :
    (((sdhciSetDdrMode (fuel + 1) host).preempt powerIrq irqs).run registerFile w).2.dev
        (.hc sdhciClkCtrlReg) &&& sdhciClkEn ≠ 0 ↔ host.curClkRate ≤ host.caps.baseClkRate :=
  setMode_clock_runs_iff fuel (fun _ ↦ sdhciDdrModeEn) SdhciHost.curClkRate (fun _ ↦ rfl) host
    irqs w

end Sdhci
