import Sdhci.Outcome

namespace Sdhci

open Prog

/-- Four 32-bit words as one 128-bit integer, word 0 lowest. -/
def respValue (r : Fin 4 → Nat) : Nat := r 0 + 2 ^ 32 * r 1 + 2 ^ 64 * r 2 + 2 ^ 96 * r 3

/-- Word `i` of the copy of the registers `R`: register `i` moved up a byte, with the top
byte of register `i - 1` below it. -/
def respWord (R : Fin 4 → Nat) (i : Fin 4) : Nat :=
  if i.val ≠ 0 then
    (R i <<< sdhciRespLshift) % 2 ^ 32 ||| (R ⟨i.val - 1, by omega⟩ >>> sdhciRespRshift)
  else (R i <<< sdhciRespLshift) % 2 ^ 32

theorem respShift_mod (a : Nat) : (a <<< sdhciRespLshift) % 2 ^ 32 = 2 ^ 8 * (a % 2 ^ 24) := by
  rw [show sdhciRespLshift = 8 from rfl, Nat.shiftLeft_eq, Nat.mul_comm,
    show 2 ^ 32 = 2 ^ 8 * 2 ^ 24 by norm_num, Nat.mul_mod_mul_left]

/-- Word `i ≠ 0` of the copy is the low 24 bits of register `i` moved up a byte, plus the
top byte of register `i - 1`: the OR adds, as the two do not overlap. -/
theorem shiftWord_eq {a p : Nat} (hp : p < 2 ^ 32) :
    (a <<< sdhciRespLshift) % 2 ^ 32 ||| (p >>> sdhciRespRshift) =
      2 ^ 8 * (a % 2 ^ 24) + p / 2 ^ 24 := by
  rw [respShift_mod, show sdhciRespRshift = 24 from rfl, Nat.shiftRight_eq_div_pow,
    Nat.mul_add_lt_is_or (by omega)]

/-- The copy of four 32-bit registers, read as a 128-bit integer, is their value shifted
left by a byte, with the top byte dropped. -/
theorem respValue_respWord {R : Fin 4 → Nat} (hR : ∀ i, R i < 2 ^ 32) :
    respValue (respWord R) = respValue R * 2 ^ 8 % 2 ^ 128 := by
  have h0 : respWord R 0 = 2 ^ 8 * (R 0 % 2 ^ 24) := by
    rw [respWord, if_neg (by decide), respShift_mod]
  have hi : ∀ i j : Fin 4, i.val = j.val + 1 →
      respWord R i = 2 ^ 8 * (R i % 2 ^ 24) + R j / 2 ^ 24 := fun i j hij ↦ by
    have hj : (⟨i.val - 1, by omega⟩ : Fin 4) = j := Fin.ext (by simp only; omega)
    rw [respWord, if_pos (by omega), hj, shiftWord_eq (hR j)]
  rw [respValue, respValue, h0, hi 1 0 rfl, hi 2 1 rfl, hi 3 2 rfl]
  have := hR 0; have := hR 1; have := hR 2; have := hR 3
  have := Nat.mod_add_div (R 0) (2 ^ 24); have := Nat.mod_add_div (R 1) (2 ^ 24)
  have := Nat.mod_add_div (R 2) (2 ^ 24); have := Nat.mod_add_div (R 3) (2 ^ 24)
  omega

section Copy

variable {σ : Type} (D : Device σ) {R : Fin 4 → Nat}
  (hR : ∀ s (i : Fin 4), D.answer s 32 (.hc (sdhciRespReg + i.val * 4)) % 2 ^ 32 = R i)
include hR

theorem sdhciRespStep_run (resp : Fin 4 → Nat) (i : Fin 4) (w : World σ) :
    ((sdhciRespStep resp i).run D w).1 = .ok (Function.update resp i (respWord R i)) := by
  rw [sdhciRespStep, readReg_bind, Prog.run, hR]
  dsimp only
  split
  case isTrue h =>
    have hp := hR (w.record D (.read 32 (.hc (sdhciRespReg + i.val * 4)) (R i))).dev
      ⟨i.val - 1, by omega⟩
    rw [readReg_bind, Prog.run]
    simp only at hp
    rw [hp, respWord, if_pos h]
    rfl
  case isFalse h =>
    rw [respWord, if_neg h]
    rfl

theorem foldlM_sdhciRespStep_run (l : List (Fin 4)) (resp : Fin 4 → Nat) (w : World σ) :
    ((l.foldlM sdhciRespStep resp).run D w).1 =
      .ok (l.foldl (fun r i ↦ Function.update r i (respWord R i)) resp) := by
  induction l generalizing resp w with
  | nil => rfl
  | cons i is ih =>
    rw [List.foldlM_cons, run_bind_ok _ (sdhciRespStep_run D hR resp i w), ih]
    rfl

/-- On a controller whose response registers hold `R`, the R2 copy returns the copy of
`R`, whatever the command held before. -/
theorem sdhciReadResp_run_r2 (cmd : MmcCommand) (hr2 : cmd.respType = sdhciCmdRespR2)
    (w : World σ) : ((sdhciReadResp cmd).run D w).1 = .ok (respWord R) := by
  rw [sdhciReadResp, if_pos hr2, foldlM_sdhciRespStep_run D hR]
  congr 1
  funext i
  fin_cases i <;> rfl

end Copy

theorem sdhciCmdCompleteErr_yields (cmd : MmcCommand) :
    (sdhciCmdCompleteErr cmd).Yields (·.2 = cmd) := by
  refine yields_bind fun _ ↦ yields_bind (yields_of_forall (fun failed ↦ ?_) _)
  split
  · exact rfl
  · exact yields_bind (yields_of_forall (fun _ ↦ rfl) _)

/-- On every controller whose response registers hold `R`, once sdhci_cmd_complete has
seen Command Complete for an R2 command, the copy loop returns, from any state, the words
of `R` shifted left by a byte as one 128-bit integer, and every command sdhci_cmd_complete
hands back holds them. -/
theorem sdhciCmdComplete_r2_response {σ : Type} (D : Device σ) (R : Fin 4 → Nat)
    (hR : ∀ s (i : Fin 4), D.answer s 32 (.hc (sdhciRespReg + i.val * 4)) % 2 ^ 32 = R i)
    (cfg : Config) (fuel : Nat) (cmd : MmcCommand) (w : World σ)
    (hr2 : cmd.respType = sdhciCmdRespR2)
    (hcc : ((pollLoop 16 (.hc sdhciNrmlIntStsReg) cmdCompleteSeen 16 cfg.sdhciMaxCmdRetry 500
      fuel 0).run D w).1 = .ok true) :
    (∀ w' : World σ, ∃ resp, ((sdhciReadResp cmd).run D w').1 = .ok resp ∧
      respValue resp = respValue R * 2 ^ 8 % 2 ^ 128) ∧
    ∀ c cmd', ((sdhciCmdComplete cfg fuel cmd).run D w).1 = .ok (c, cmd') →
      respValue cmd'.resp = respValue R * 2 ^ 8 % 2 ^ 128 := by
  have hval : respValue (respWord R) = respValue R * 2 ^ 8 % 2 ^ 128 :=
    respValue_respWord fun i ↦ hR w.dev i ▸ Nat.mod_lt _ (Nat.two_pow_pos 32)
  refine ⟨fun w' ↦ ⟨_, sdhciReadResp_run_r2 D hR cmd hr2 w', hval⟩, fun c cmd' h ↦ ?_⟩
  rw [sdhciCmdComplete, run_bind_ok _ hcc, if_neg (by decide), writeReg_bind, Prog.run,
    run_bind_ok _ (sdhciReadResp_run_r2 D hR cmd hr2 _)] at h
  obtain rfl : cmd' = { cmd with resp := respWord R } := by
    refine run_yields D (R := fun r : Nat × MmcCommand ↦ r.2 = { cmd with resp := respWord R })
      ?_ h
    dsimp only
    split
    · exact yields_bind
        (yields_of_forall (fun _ ↦ by split <;> exact sdhciCmdCompleteErr_yields _) _)
    · exact sdhciCmdCompleteErr_yields _
  exact hval

/-- CMD2, ALL_SEND_CID, with its R2 response. -/
def cidCmd : MmcCommand := ⟨2, 0, 0, 0, sdhciCmdRespR2, fun _ ↦ 0, 0, ⟨0, 0⟩⟩

/-- A controller that has completed a command and holds the response `R` in its four
response registers. -/
def respController (R : Fin 4 → Nat) : Addr → Nat
  | .hc off =>
    if off = sdhciNrmlIntStsReg then sdhciIntStsCmdComplete
    else if h : sdhciRespReg ≤ off ∧ off < sdhciRespReg + 16 then
      R ⟨(off - sdhciRespReg) / 4, by omega⟩
    else 0
  | _ => 0

theorem sdhciCmdComplete_r2_response_at_cid :
    (∀ s (i : Fin 4), (fixedController (respController ![0x01234567, 0x89ABCDEF, 0xFEDCBA98,
        0x76543210])).answer s 32 (.hc (sdhciRespReg + i.val * 4)) % 2 ^ 32 =
        ![0x01234567, 0x89ABCDEF, 0xFEDCBA98, 0x76543210] i) ∧
      cidCmd.respType = sdhciCmdRespR2 ∧
      ((pollLoop 16 (.hc sdhciNrmlIntStsReg) cmdCompleteSeen 16 5000 500 1 0).run
        (fixedController (respController ![0x01234567, 0x89ABCDEF, 0xFEDCBA98, 0x76543210]))
        ⟨(), [], 1⟩).1 = .ok true ∧
      (∀ w' : World Unit, ∃ resp, ((sdhciReadResp cidCmd).run (fixedController (respController
          ![0x01234567, 0x89ABCDEF, 0xFEDCBA98, 0x76543210])) w').1 = .ok resp ∧
        respValue resp = respValue ![0x01234567, 0x89ABCDEF, 0xFEDCBA98, 0x76543210] * 2 ^ 8 %
          2 ^ 128) ∧
      ∀ c cmd', ((sdhciCmdComplete ⟨5000, 5000, 0, 64⟩ 1 cidCmd).run (fixedController
          (respController ![0x01234567, 0x89ABCDEF, 0xFEDCBA98, 0x76543210])) ⟨(), [], 1⟩).1 =
          .ok (c, cmd') →
        respValue cmd'.resp =
          respValue ![0x01234567, 0x89ABCDEF, 0xFEDCBA98, 0x76543210] * 2 ^ 8 % 2 ^ 128 :=
  ⟨by decide, rfl, rfl, sdhciCmdComplete_r2_response _ _ (by decide) _ _ _ _ rfl rfl⟩

end Sdhci
