import Sdhci.Prog

namespace Sdhci

/-- The bounded busy-wait of sdhci_send_command and sdhci_cmd_complete: read the
register and stop if `done` holds of the value; otherwise wait `us` microseconds, step the
`bits`-wide retry counter, and give up when it equals `bound`. `true`: the condition was
seen. `fuel` bounds the polls the model makes; the source has no such bound. -/
def pollLoop (w : Nat) (a : Addr) (done : Nat → Bool) (bits bound us : Nat) :
    Nat → Nat → Prog Bool
  | 0, _ => .halt .hang
  | fuel + 1, retry => do
    let v ← readReg w a
    if done v then pure true
    else do
      udelay us
      if (retry + 1) % 2 ^ bits = bound then pure false
      else pollLoop w a done bits bound us fuel ((retry + 1) % 2 ^ bits)

/-- The unbounded busy-waits of sdhci_clk_supply and sdhci_reset: read the register until
`done` holds of its value. The source has no bound; running out of `fuel` is the hang. -/
def spinUntil (w : Nat) (a : Addr) (done : Nat → Bool) : Nat → Prog Unit
  | 0 => .halt .hang
  | fuel + 1 => do
    let v ← readReg w a
    if done v then pure () else spinUntil w a done fuel

variable {σ : Type} (D : Device σ) {w : Nat} {a : Addr} {done : Nat → Bool} {bits bound us : Nat}

theorem spinUntil_run_found {fuel : Nat} {wd : World σ}
    (hd : done (D.answer wd.dev w a % 2 ^ w) = true) :
    (spinUntil w a done (fuel + 1)).run D wd =
      (.ok (), wd.record D (.read w a (D.answer wd.dev w a % 2 ^ w))) := by
  simp [spinUntil, Prog.run, hd]

theorem spinUntil_run_ok_or_hang (fuel : Nat) (wd : World σ) :
    ((spinUntil w a done fuel).run D wd).1 = .ok () ∨
      ((spinUntil w a done fuel).run D wd).1 = .error .hang := by
  induction fuel generalizing wd with
  | zero => exact .inr rfl
  | succ fuel ih =>
    rw [spinUntil, readReg_bind, Prog.run]
    split
    · exact .inl rfl
    · exact ih _

@[simp] theorem pollLoop_zero (r : Nat) : pollLoop w a done bits bound us 0 r = .halt .hang := rfl

theorem pollLoop_succ (fuel r : Nat) :
    pollLoop w a done bits bound us (fuel + 1) r =
      .read w a fun v ↦ if done v then .ret true else .effect (.udelay us)
        (if (r + 1) % 2 ^ bits = bound then .ret false
          else pollLoop w a done bits bound us fuel ((r + 1) % 2 ^ bits)) := by
  simp only [pollLoop, readReg_bind, udelay_bind]
  rfl

theorem pollLoop_run_found {fuel r : Nat} {wd : World σ}
    (hd : done (D.answer wd.dev w a % 2 ^ w) = true) :
    (pollLoop w a done bits bound us (fuel + 1) r).run D wd =
      (.ok true, wd.record D (.read w a (D.answer wd.dev w a % 2 ^ w))) := by
  rw [pollLoop_succ]
  simp [Prog.run, hd]

theorem pollLoop_ends (hb : bound < 2 ^ bits) {fuel r : Nat} (hr : r < bound)
    (hf : bound - r ≤ fuel) : (pollLoop w a done bits bound us fuel r).Ends (bound - r) := by
  induction fuel generalizing r with
  | zero => omega
  | succ fuel ih =>
    rw [pollLoop_succ]
    refine ⟨by omega, fun v ↦ ?_⟩
    have hr1 : (r + 1) % 2 ^ bits = r + 1 := Nat.mod_eq_of_lt (by omega)
    dsimp only
    split
    · trivial
    · simp only [Prog.Ends, hr1]
      split
      · trivial
      · exact (ih (by omega) (by omega)).mono (by omega)

theorem pollLoop_run_timeout (hd : ∀ s, done (D.answer s w a % 2 ^ w) = false)
    (hb : bound < 2 ^ bits) {fuel r : Nat} (hr : r < bound) (hf : bound - r ≤ fuel)
    (wd : World σ) : ((pollLoop w a done bits bound us fuel r).run D wd).1 = .ok false := by
  induction fuel generalizing r wd with
  | zero => omega
  | succ fuel ih =>
    have hr1 : (r + 1) % 2 ^ bits = r + 1 := Nat.mod_eq_of_lt (by omega)
    rw [pollLoop_succ]
    simp only [Prog.run, hd, Bool.false_eq_true, if_false, hr1]
    split
    · rfl
    · exact ih (by omega) (by omega) _

/-- Against a controller that never shows the condition, a wait whose bound its counter
cannot reach polls until the model's fuel runs out, however much there is. -/
theorem pollLoop_run_hang (hd : ∀ s, done (D.answer s w a % 2 ^ w) = false)
    (hb : 2 ^ bits ≤ bound) (fuel r : Nat) (wd : World σ) :
    ((pollLoop w a done bits bound us fuel r).run D wd).1 = .error .hang := by
  induction fuel generalizing r wd with
  | zero => rfl
  | succ fuel ih =>
    have hne : (r + 1) % 2 ^ bits ≠ bound :=
      Nat.ne_of_lt (lt_of_lt_of_le (Nat.mod_lt _ (Nat.two_pow_pos bits)) hb)
    rw [pollLoop_succ]
    simp only [Prog.run, hd, Bool.false_eq_true, if_false, hne]
    exact ih _ _

end Sdhci
