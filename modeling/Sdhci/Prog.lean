import Sdhci.Regs

namespace Sdhci

/-- Where a register access goes: an offset from the host's base address, or one of the
SDCC platform registers that the driver addresses absolutely. -/
inductive Addr where
  | hc (off : Nat)
  | pwrctlMask
  | pwrctlCtl
  | mciHcMode
  deriving DecidableEq, Repr

inductive Effect where
  | udelay (us : Nat)
  | dprintf (msg : String)
  | memalign (addr size : Nat)
  | free (addr : Nat)
  | store (addr : Nat) (table : List DescEntry)
  | cleanInvalidate (addr len : Nat)
  | invalidate (addr len : Nat)
  | eventInit
  | eventWait
  | eventSignal
  | registerIntHandler
  | unmaskInterrupt
  deriving DecidableEq, Repr

inductive Access where
  | read (w : Nat) (a : Addr) (v : Nat)
  | write (w : Nat) (a : Addr) (v : Nat)
  | effect (e : Effect)
  deriving DecidableEq, Repr

inductive Halt where
  | assert
  | hang
  deriving DecidableEq, Repr

/-- Driver code. A `w`-bit read continues with the value the controller answers, and an
allocation with the address the allocator hands out. -/
inductive Prog (α : Type) where
  | ret (a : α)
  | read (w : Nat) (a : Addr) (k : Nat → Prog α)
  | write (w : Nat) (a : Addr) (v : Nat) (k : Prog α)
  | effect (e : Effect) (k : Prog α)
  | memalign (size : Nat) (k : Nat → Prog α)
  | halt (h : Halt)

namespace Prog

variable {α β γ σ : Type}

def bind : Prog α → (α → Prog β) → Prog β
  | ret a, f => f a
  | read w a k, f => read w a fun v => (k v).bind f
  | write w a v k, f => write w a v (k.bind f)
  | effect e k, f => effect e (k.bind f)
  | memalign n k, f => memalign n fun p => (k p).bind f
  | halt h, _ => halt h

instance : Monad Prog where
  pure := ret
  bind := bind

@[simp] theorem pure_eq (a : α) : (pure a : Prog α) = ret a := rfl
@[simp] theorem ret_bind (a : α) (f : α → Prog β) : ret a >>= f = f a := rfl
@[simp] theorem bind_ret_left (a : α) (f : α → Prog β) : (ret a).bind f = f a := rfl
@[simp] theorem halt_bind (h : Halt) (f : α → Prog β) : (halt h : Prog α) >>= f = halt h := rfl
theorem read_bind (n : Nat) (a : Addr) (k : Nat → Prog α) (f : α → Prog β) :
    read n a k >>= f = read n a fun v ↦ k v >>= f := rfl
theorem write_bind (n : Nat) (a : Addr) (v : Nat) (k : Prog α) (f : α → Prog β) :
    write n a v k >>= f = write n a v (k >>= f) := rfl

theorem bind_assoc (p : Prog α) (f : α → Prog β) (g : β → Prog γ) :
    p >>= f >>= g = p >>= fun a => f a >>= g := by
  induction p with
  | ret a => rfl
  | read w a k ih => exact congrArg (read w a) (funext ih)
  | write w a v k ih => exact congrArg (write w a v) ih
  | effect e k ih => exact congrArg (effect e) ih
  | memalign n k ih => exact congrArg (memalign n) (funext ih)
  | halt h => rfl

end Prog

/-- REG_READ8/16/32 and readl: a read of width `w`. -/
def readReg (w : Nat) (a : Addr) : Prog Nat := .read w a .ret
/-- REG_WRITE8/16/32 and writel: a write of width `w`, truncated to it by the bus. -/
def writeReg (w : Nat) (a : Addr) (v : Nat) : Prog Unit := .write w a v (.ret ())
def emit (e : Effect) : Prog Unit := .effect e (.ret ())
def udelay (us : Nat) : Prog Unit := emit (.udelay us)
def dprintf (msg : String) : Prog Unit := emit (.dprintf msg)
def memalign (size : Nat) : Prog Nat := .memalign size .ret
def free (addr : Nat) : Prog Unit := emit (.free addr)
/-- ASSERT: a false condition halts the boot flow. -/
def assert (b : Bool) : Prog Unit := if b then pure () else .halt .assert
/-- The C statement if (c) p; with nothing else after it in the branch. -/
def ifThen (c : Prop) [Decidable c] (p : Prog Unit) : Prog Unit := if c then p else pure ()

section BindLemmas

variable {α β : Type} (f : α → Prog β)

@[simp] theorem readReg_bind (w : Nat) (a : Addr) (f : Nat → Prog β) :
    readReg w a >>= f = .read w a f := rfl
@[simp] theorem writeReg_bind (w : Nat) (a : Addr) (v : Nat) (f : Unit → Prog β) :
    writeReg w a v >>= f = .write w a v (f ()) := rfl
@[simp] theorem emit_bind (e : Effect) (f : Unit → Prog β) : emit e >>= f = .effect e (f ()) := rfl
@[simp] theorem udelay_bind (us : Nat) (f : Unit → Prog β) :
    udelay us >>= f = .effect (.udelay us) (f ()) := rfl
@[simp] theorem dprintf_bind (msg : String) (f : Unit → Prog β) :
    dprintf msg >>= f = .effect (.dprintf msg) (f ()) := rfl
@[simp] theorem free_bind (addr : Nat) (f : Unit → Prog β) :
    free addr >>= f = .effect (.free addr) (f ()) := rfl
@[simp] theorem memalign_bind (n : Nat) (f : Nat → Prog β) : memalign n >>= f = .memalign n f :=
  rfl
@[simp] theorem assert_bind (b : Bool) (f : Unit → Prog β) :
    assert b >>= f = if b then f () else .halt .assert := by
  cases b <;> rfl


end BindLemmas

/-- A controller: the value it answers to a read of a width at an address, and how each
access of the run moves it on. -/
structure Device (σ : Type) where
  answer : σ → Nat → Addr → Nat
  step : σ → Access → σ

/-- What a run threads: the controller's state, the accesses so far in order, and the
next address the allocator hands out (`0` is the allocator's failure, NULL). -/
structure World (σ : Type) where
  dev : σ
  trace : List Access
  brk : Nat

variable {α β σ : Type}

def World.record (D : Device σ) (w : World σ) (acc : Access) : World σ :=
  { w with dev := D.step w.dev acc, trace := w.trace ++ [acc] }

@[simp] theorem World.record_trace (D : Device σ) (w : World σ) (acc : Access) :
    (w.record D acc).trace = w.trace ++ [acc] := rfl
@[simp] theorem World.record_brk (D : Device σ) (w : World σ) (acc : Access) :
    (w.record D acc).brk = w.brk := rfl

namespace Prog

/-- Runs driver code against the controller `D`. Values are truncated to the width of
the access, as the C types of the register macros do. -/
def run (D : Device σ) : Prog α → World σ → Except Halt α × World σ
  | ret a, w => (.ok a, w)
  | halt h, w => (.error h, w)
  | read n a k, w =>
    let v := D.answer w.dev n a % 2 ^ n
    (k v).run D (w.record D (.read n a v))
  | write n a v k, w => k.run D (w.record D (.write n a (v % 2 ^ n)))
  | effect e k, w => k.run D (w.record D (.effect e))
  | memalign n k, w =>
    (k w.brk).run D { w.record D (.effect (.memalign w.brk n)) with brk := w.brk + n + 1 }

variable (D : Device σ)

@[simp] theorem run_ret (a : α) (w : World σ) : (ret a).run D w = (.ok a, w) := rfl
@[simp] theorem run_halt (h : Halt) (w : World σ) :
    (halt h : Prog α).run D w = (.error h, w) := rfl
theorem run_ret_snd (a : α) (w : World σ) : ((ret a).run D w).2 = w := rfl
theorem run_read (n : Nat) (a : Addr) (k : Nat → Prog α) (w : World σ) :
    (read n a k).run D w =
      (k (D.answer w.dev n a % 2 ^ n)).run D (w.record D (.read n a (D.answer w.dev n a % 2 ^ n))) :=
  rfl
theorem run_write (n : Nat) (a : Addr) (v : Nat) (k : Prog α) (w : World σ) :
    (write n a v k).run D w = k.run D (w.record D (.write n a (v % 2 ^ n))) := rfl

theorem run_bind (p : Prog α) (f : α → Prog β) (w : World σ) :
    (p >>= f).run D w = match p.run D w with
      | (.ok a, w') => (f a).run D w'
      | (.error h, w') => (.error h, w') := by
  induction p generalizing w with
  | ret a => rfl
  | read n a k ih => exact ih _ _
  | write n a v k ih => exact ih _
  | effect e k ih => exact ih _
  | memalign n k ih => exact ih _ _
  | halt h => rfl

theorem run_bind_ok {p : Prog α} {w : World σ} {a : α} (h : (p.run D w).1 = .ok a)
    (f : α → Prog β) : (p >>= f).run D w = (f a).run D (p.run D w).2 := by
  rw [run_bind]
  rcases hp : p.run D w with ⟨r, w'⟩
  rw [hp] at h
  cases h; rfl

theorem run_bind_error {p : Prog α} {w : World σ} {e : Halt} (h : (p.run D w).1 = .error e)
    (f : α → Prog β) : (p >>= f).run D w = (.error e, (p.run D w).2) := by
  rw [run_bind]
  rcases hp : p.run D w with ⟨r, w'⟩
  rw [hp] at h
  cases h; rfl

end Prog

variable (D : Device σ)

@[simp] theorem run_readReg (n : Nat) (a : Addr) (w : World σ) :
    (readReg n a).run D w =
      (.ok (D.answer w.dev n a % 2 ^ n), w.record D (.read n a (D.answer w.dev n a % 2 ^ n))) :=
  rfl
@[simp] theorem run_writeReg (n : Nat) (a : Addr) (v : Nat) (w : World σ) :
    (writeReg n a v).run D w = (.ok (), w.record D (.write n a (v % 2 ^ n))) := rfl
@[simp] theorem run_emit (e : Effect) (w : World σ) :
    (emit e).run D w = (.ok (), w.record D (.effect e)) := rfl
@[simp] theorem run_memalign (n : Nat) (w : World σ) :
    (memalign n).run D w =
      (.ok w.brk, { w.record D (.effect (.memalign w.brk n)) with brk := w.brk + n + 1 }) := rfl

def Access.isRead : Access → Bool
  | .read .. => true
  | _ => false

namespace Prog

/-- Every access the program can make, whatever the controller answers, satisfies `P`. -/
def Only (P : Access → Prop) : Prog α → Prop
  | ret _ | halt _ => True
  | read n a k => ∀ v, P (.read n a v) ∧ (k v).Only P
  | write n a v k => P (.write n a (v % 2 ^ n)) ∧ k.Only P
  | effect e k => P (.effect e) ∧ k.Only P
  | memalign n k => ∀ p, P (.effect (.memalign p n)) ∧ (k p).Only P

/-- The program returns, or stops at an ASSERT, after at most `n` register reads,
whatever the controller answers. -/
def Ends : Nat → Prog α → Prop
  | _, ret _ => True
  | _, halt h => h = .assert
  | n, read _ _ k => 0 < n ∧ ∀ v, Ends (n - 1) (k v)
  | n, write _ _ _ k => Ends n k
  | n, effect _ k => Ends n k
  | n, memalign _ k => ∀ p, Ends n (k p)

def Returns : Prog α → Prop
  | ret _ => True
  | halt _ => False
  | read _ _ k => ∀ v, (k v).Returns
  | write _ _ _ k => k.Returns
  | effect _ k => k.Returns
  | memalign _ k => ∀ p, (k p).Returns

variable {P : Access → Prop}

theorem returns_bind {p : Prog α} {f : α → Prog β} (hp : p.Returns) (hf : ∀ a, (f a).Returns) :
    (p >>= f).Returns := by
  induction p with
  | ret a => exact hf a
  | read n a k ih => exact fun v => ih v (hp v)
  | write n a v k ih => exact ih hp
  | effect e k ih => exact ih hp
  | memalign n k ih => exact fun q => ih q (hp q)
  | halt h => exact hp

theorem only_bind {p : Prog α} {f : α → Prog β} (hp : p.Only P) (hf : ∀ a, (f a).Only P) :
    (p >>= f).Only P := by
  induction p with
  | ret a => exact hf a
  | read n a k ih => exact fun v => ⟨(hp v).1, ih v (hp v).2⟩
  | write n a v k ih => exact ⟨hp.1, ih hp.2⟩
  | effect e k ih => exact ⟨hp.1, ih hp.2⟩
  | memalign n k ih => exact fun q => ⟨(hp q).1, ih q (hp q).2⟩
  | halt h => trivial

theorem only_true (p : Prog α) : p.Only fun _ ↦ True := by
  induction p with
  | ret a => trivial
  | halt e => trivial
  | read n a k ih => exact fun v => ⟨trivial, ih v⟩
  | write n a v k ih => exact ⟨trivial, ih⟩
  | effect e k ih => exact ⟨trivial, ih⟩
  | memalign n k ih => exact fun q => ⟨trivial, ih q⟩

theorem Only.mono {Q : Access → Prop} {p : Prog α} (h : p.Only P) (hPQ : ∀ x, P x → Q x) :
    p.Only Q := by
  induction p with
  | ret a => trivial
  | halt e => trivial
  | read n a k ih => exact fun v => ⟨hPQ _ (h v).1, ih v (h v).2⟩
  | write n a v k ih => exact ⟨hPQ _ h.1, ih h.2⟩
  | effect e k ih => exact ⟨hPQ _ h.1, ih h.2⟩
  | memalign n k ih => exact fun q => ⟨hPQ _ (h q).1, ih q (h q).2⟩

theorem Ends.mono {n m : Nat} {p : Prog α} (h : p.Ends n) (hnm : n ≤ m) : p.Ends m := by
  induction p generalizing n m with
  | ret a => trivial
  | read w a k ih =>
    obtain ⟨h0, hk⟩ := h
    exact ⟨by omega, fun v => ih v (hk v) (by omega)⟩
  | write w a v k ih => exact ih h hnm
  | effect e k ih => exact ih h hnm
  | memalign s k ih => exact fun q => ih q (h q) hnm
  | halt e => exact h

theorem ends_bind {n m : Nat} {p : Prog α} {f : α → Prog β} (hp : p.Ends n)
    (hf : ∀ a, (f a).Ends m) : (p >>= f).Ends (n + m) := by
  induction p generalizing n with
  | ret a => exact (hf a).mono (by omega)
  | read w a k ih =>
    obtain ⟨h0, hk⟩ := hp
    exact ⟨by omega, fun v => by simpa only [Nat.sub_add_comm h0] using ih v (hk v)⟩
  | write w a v k ih => exact ih hp
  | effect e k ih => exact ih hp
  | memalign s k ih => exact fun q => ih q (hp q)
  | halt e => exact hp

theorem run_only {p : Prog α} (hp : p.Only P) (w : World σ) :
    ∃ t, (p.run D w).2.trace = w.trace ++ t ∧ ∀ x ∈ t, P x := by
  induction p generalizing w with
  | ret a => exact ⟨[], by simp, by simp⟩
  | halt h => exact ⟨[], by simp, by simp⟩
  | read n a k ih =>
    obtain ⟨t, ht, hP⟩ := ih _ ((hp _).2) (w.record D (.read n a _))
    exact ⟨_ :: t, by simpa [run] using ht, by
      simpa [forall_eq_or_imp] using ⟨(hp _).1, hP⟩⟩
  | write n a v k ih =>
    obtain ⟨t, ht, hP⟩ := ih hp.2 (w.record D _)
    exact ⟨_ :: t, by simpa [run] using ht, by simpa [forall_eq_or_imp] using ⟨hp.1, hP⟩⟩
  | effect e k ih =>
    obtain ⟨t, ht, hP⟩ := ih hp.2 (w.record D _)
    exact ⟨_ :: t, by simpa [run] using ht, by simpa [forall_eq_or_imp] using ⟨hp.1, hP⟩⟩
  | memalign n k ih =>
    obtain ⟨t, ht, hP⟩ := ih _ (hp _).2 { w.record D (.effect (.memalign w.brk n)) with
      brk := w.brk + n + 1 }
    exact ⟨_ :: t, by simpa [run] using ht, by simpa [forall_eq_or_imp] using ⟨(hp _).1, hP⟩⟩

theorem run_returns {p : Prog α} (hp : p.Returns) (w : World σ) : ∃ a, (p.run D w).1 = .ok a := by
  induction p generalizing w with
  | ret a => exact ⟨a, rfl⟩
  | halt h => exact hp.elim
  | read n a k ih => exact ih _ (hp _) _
  | write n a v k ih => exact ih hp _
  | effect e k ih => exact ih hp _
  | memalign n k ih => exact ih _ (hp _) _

def Yields (R : α → Prop) : Prog α → Prop
  | ret a => R a
  | halt _ => True
  | read _ _ k => ∀ v, (k v).Yields R
  | write _ _ _ k => k.Yields R
  | effect _ k => k.Yields R
  | memalign _ k => ∀ p, (k p).Yields R

theorem yields_bind {R : β → Prop} {p : Prog α} {f : α → Prog β}
    (hp : p.Yields fun a ↦ (f a).Yields R) : (p >>= f).Yields R := by
  induction p with
  | ret a => exact hp
  | read n a k ih => exact fun v => ih v (hp v)
  | write n a v k ih => exact ih hp
  | effect e k ih => exact ih hp
  | memalign n k ih => exact fun q => ih q (hp q)
  | halt h => trivial

theorem yields_of_forall {R : α → Prop} (h : ∀ a, R a) (p : Prog α) : p.Yields R := by
  induction p with
  | ret a => exact h a
  | halt e => trivial
  | read n a k ih => exact ih
  | write n a v k ih => exact ih
  | effect e k ih => exact ih
  | memalign n k ih => exact ih

theorem run_yields {R : α → Prop} {p : Prog α} (hp : p.Yields R) {w : World σ} {a : α}
    (h : (p.run D w).1 = .ok a) : R a := by
  induction p generalizing w with
  | ret b => cases h; exact hp
  | halt e => cases h
  | read n b k ih => exact ih _ (hp _) h
  | write n b v k ih => exact ih hp h
  | effect e k ih => exact ih hp h
  | memalign n k ih => exact ih _ (hp _) h

/-- On every controller, every run of `p` that returns a value satisfying `R` makes only
accesses satisfying `P`: what the failure paths of a function do, say. -/
def OnlyWhen (P : Access → Prop) (R : α → Prop) (p : Prog α) : Prop :=
  ∀ {τ : Type} (E : Device τ) (w : World τ) (a : α), (p.run E w).1 = .ok a → R a →
    ∃ t, (p.run E w).2.trace = w.trace ++ t ∧ ∀ x ∈ t, P x

theorem Only.onlyWhen {R : α → Prop} {p : Prog α} (h : p.Only P) : p.OnlyWhen P R :=
  fun E w _ _ _ ↦ run_only E h w

theorem Yields.onlyWhen {R : α → Prop} {p : Prog α} (h : p.Yields fun a ↦ ¬R a) :
    p.OnlyWhen P R :=
  fun E _ _ ha hR ↦ (run_yields E h ha hR).elim

theorem onlyWhen_bind {R' : α → Prop} {R : β → Prop} {p : Prog α} {f : α → Prog β}
    (hp : p.OnlyWhen P R') (hf : ∀ a, R' a → (f a).OnlyWhen P R)
    (hn : ∀ a, ¬R' a → (f a).Yields fun b ↦ ¬R b) : (p >>= f).OnlyWhen P R := by
  intro τ E w b hb hR
  rcases hrun : p.run E w with ⟨_ | a, w₁⟩
  · rw [run_bind, hrun] at hb; cases hb
  · have hpa : (p.run E w).1 = .ok a := by rw [hrun]
    rw [run_bind_ok E hpa] at hb ⊢
    by_cases ha : R' a
    · obtain ⟨t₁, ht₁, hP₁⟩ := hp E w a hpa ha
      obtain ⟨t₂, ht₂, hP₂⟩ := hf a ha E _ b hb hR
      refine ⟨t₁ ++ t₂, by rw [ht₂, ht₁, List.append_assoc], fun x hx ↦ ?_⟩
      rcases List.mem_append.1 hx with hx | hx
      exacts [hP₁ x hx, hP₂ x hx]
    · exact (run_yields E (hn a ha) hb hR).elim

theorem onlyWhen_bind_only {R : β → Prop} {p : Prog α} {f : α → Prog β} (hp : p.Only P)
    (hf : ∀ a, (f a).OnlyWhen P R) : (p >>= f).OnlyWhen P R :=
  onlyWhen_bind hp.onlyWhen (fun a _ ↦ hf a) (fun _ h ↦ (h trivial).elim)

theorem run_trace_append (p : Prog α) (w : World σ) : ∃ t, (p.run D w).2.trace = w.trace ++ t :=
  (run_only D (P := fun _ ↦ True) (p.only_true) w).imp fun _ h ↦ h.1

/-- What every access the program can make preserves holds of the controller after any
run. -/
theorem run_dev_inv {I : σ → Prop} {p : Prog α} (hp : p.Only P)
    (hI : ∀ s x, P x → I s → I (D.step s x)) (w : World σ) (h : I w.dev) :
    I (p.run D w).2.dev := by
  induction p generalizing w with
  | ret a => exact h
  | halt e => exact h
  | read n a k ih => exact ih _ (hp _).2 _ (hI _ _ (hp _).1 h)
  | write n a v k ih => exact ih hp.2 _ (hI _ _ hp.1 h)
  | effect e k ih => exact ih hp.2 _ (hI _ _ hp.1 h)
  | memalign n k ih => exact ih _ (hp _).2 _ (hI _ _ (hp _).1 h)

theorem mem_run_trace {x : Access} {w : World σ} (h : x ∈ w.trace) (p : Prog α) :
    x ∈ (p.run D w).2.trace := by
  obtain ⟨t, ht⟩ := run_trace_append D p w
  rw [ht]
  exact List.mem_append_left t h

theorem run_ends {n : Nat} {p : Prog α} (hp : p.Ends n) (w : World σ) :
    (p.run D w).1 ≠ .error .hang ∧
      ∃ t, (p.run D w).2.trace = w.trace ++ t ∧ t.countP Access.isRead ≤ n := by
  induction p generalizing n w with
  | ret a => exact ⟨by simp, [], by simp⟩
  | halt h =>
    cases (hp : h = .assert)
    exact ⟨by simp, [], by simp⟩
  | read m a k ih =>
    obtain ⟨hh, t, ht, hc⟩ := ih _ (hp.2 _) (w.record D (.read m a _))
    refine ⟨hh, _ :: t, by simpa [run] using ht, ?_⟩
    simp only [List.countP_cons, Access.isRead, if_true]
    have := hp.1
    omega
  | write m a v k ih =>
    obtain ⟨hh, t, ht, hc⟩ := ih hp (w.record D _)
    exact ⟨hh, _ :: t, by simpa [run] using ht, by simpa [Access.isRead] using hc⟩
  | effect e k ih =>
    obtain ⟨hh, t, ht, hc⟩ := ih hp (w.record D _)
    exact ⟨hh, _ :: t, by simpa [run] using ht, by simpa [Access.isRead] using hc⟩
  | memalign m k ih =>
    obtain ⟨hh, t, ht, hc⟩ := ih _ (hp _) { w.record D (.effect (.memalign w.brk m)) with
      brk := w.brk + m + 1 }
    exact ⟨hh, _ :: t, by simpa [run] using ht, by simpa [Access.isRead] using hc⟩

end Prog

end Sdhci
