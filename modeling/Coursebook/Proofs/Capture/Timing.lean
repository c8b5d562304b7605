/-
The timing of a wait whose looks are answered at once. The looks begin at
the multiples of the interval (`ticks`), and a look at the very end of the
time still counts: so the wait is over at the first look that sees the
marker, if that one begins in time, and else when the time is up
(`wait_timing`).

Looks that see nothing are taken off the front of the wait in one go
(`look_unseen`); what stands behind them is a single step.
-/
import Coursebook.Proofs.Capture.Discipline
import Mathlib.Data.Nat.Find

namespace Coursebook.Capture

/-- A browser in which each look is answered at once, as a script says for its index. -/
def Browser.scripted (b : Browser) (script : Nat → Except Failure Bool) : Browser :=
  { b with probe := fun index _ => ⟨0, script index⟩ }

/-- Look `k` is the first one that sees the marker. One that fails sees nothing. -/
structure FirstSeen (script : Nat → Except Failure Bool) (k : Nat) : Prop where
  seen : script k = .ok true
  first : ∀ j < k, script j ≠ .ok true

/-- The times of the first `n` looks. -/
def ticks (interval n : Nat) : List Nat := (List.range n).map (· * interval)

theorem Options.interval_pos (o : Options) : 0 < o.interval := Nat.le_max_left 1 o.pollInterval

/-! ## Looks in a row -/

section

variable {o : Options} {b : Browser} {script : Nat → Except Failure Bool}

theorem saw_scripted (index start : Nat) :
    ((b.scripted script).probe index start).saw = true ↔ script index = .ok true := by
  simp only [Browser.scripted, Probe.saw]
  cases script index <;> simp

/-- A look in time that sees nothing: the next one follows an interval later. -/
theorem look_of_unseen {i : Nat} (hin : i * o.interval ≤ o.timeout) (hno : script i ≠ .ok true) (fuel : Nat) :
    look o (b.scripted script).probe (fuel + 1) i (i * o.interval) =
      let rest := look o (b.scripted script).probe fuel (i + 1) ((i + 1) * o.interval)
      { rest with looks := i * o.interval :: rest.looks } := by
  have hduration : ((b.scripted script).probe i (i * o.interval)).duration = 0 := rfl
  rw [look_succ, hduration, Nat.add_zero, if_neg (Nat.not_lt.2 hin), if_neg (Nat.not_lt.2 hin),
    if_neg (mt (saw_scripted i _).1 hno), Nat.succ_mul]

/-- A look in time that sees the marker ends the wait. -/
theorem look_of_seen {i : Nat} (hin : i * o.interval ≤ o.timeout) (hyes : script i = .ok true) (fuel : Nat) :
    look o (b.scripted script).probe (fuel + 1) i (i * o.interval) = ⟨.ready, i * o.interval, [i * o.interval]⟩ := by
  have hduration : ((b.scripted script).probe i (i * o.interval)).duration = 0 := rfl
  rw [look_succ, hduration, Nat.add_zero, if_neg (Nat.not_lt.2 hin), if_neg (Nat.not_lt.2 hin),
    if_pos ((saw_scripted i _).2 hyes)]

/-- When the time is up there is no further look. -/
theorem look_of_late {now : Nat} (hlate : o.timeout < now) (probe : (index start : Nat) → Probe) (fuel i : Nat) :
    look o probe fuel i now = ⟨.timedOut, o.timeout, []⟩ := by
  cases fuel with
  | zero => rfl
  | succ fuel => rw [look_succ, if_pos hlate]

/-- The first `n` looks, if they are in time and see nothing. -/
theorem look_unseen {n : Nat} (hin : ∀ j < n, j * o.interval ≤ o.timeout) (hno : ∀ j < n, script j ≠ .ok true)
    (fuel : Nat) :
    look o (b.scripted script).probe (fuel + n) 0 0 =
      let rest := look o (b.scripted script).probe fuel n (n * o.interval)
      { rest with looks := ticks o.interval n ++ rest.looks } := by
  induction n generalizing fuel with
  | zero => simp [ticks]
  | succ n ih =>
    have hrest := ih (fun j hj => hin j (by omega)) (fun j hj => hno j (by omega)) (fuel + 1)
    rw [look_of_unseen (hin n (by omega)) (hno n (by omega))] at hrest
    rw [show fuel + (n + 1) = fuel + 1 + n by omega, hrest]
    simp [ticks, List.range_succ]

end

/-! ## The wait -/

/-- The wait for a marker that is first seen in time. -/
theorem wait_of_seen {o : Options} {script : Nat → Except Failure Bool} {k : Nat} (hk : FirstSeen script k)
    (hin : k * o.interval ≤ o.timeout) (b : Browser) :
    wait o (b.scripted script) = ⟨.ready, k * o.interval, ticks o.interval (k + 1)⟩ := by
  have hearly : ∀ j < k, j * o.interval ≤ o.timeout := fun j hj =>
    Nat.le_trans (Nat.mul_le_mul_right _ (Nat.le_of_lt hj)) hin
  obtain ⟨fuel, hfuel⟩ := Nat.exists_eq_add_of_le (Nat.le_trans (Nat.le_mul_of_pos_right k o.interval_pos) hin)
  rw [wait, show o.timeout + 1 = fuel + 1 + k by omega, look_unseen hearly hk.first, look_of_seen hin hk.seen]
  simp [ticks, List.range_succ]

/-- The wait for a marker that no look in time sees. -/
theorem wait_of_unseen {o : Options} {script : Nat → Except Failure Bool}
    (hno : ∀ j, j * o.interval ≤ o.timeout → script j ≠ .ok true) (b : Browser) :
    wait o (b.scripted script) = ⟨.timedOut, o.timeout, ticks o.interval (o.timeout / o.interval + 1)⟩ := by
  have hearly : ∀ j < o.timeout / o.interval + 1, j * o.interval ≤ o.timeout := fun j hj =>
    (Nat.le_div_iff_mul_le o.interval_pos).1 (Nat.le_of_lt_succ hj)
  have hlate : o.timeout < (o.timeout / o.interval + 1) * o.interval :=
    Nat.mul_comm _ _ ▸ Nat.lt_mul_div_succ o.timeout o.interval_pos
  obtain ⟨fuel, hfuel⟩ := Nat.exists_eq_add_of_le (Nat.div_le_self o.timeout o.interval)
  rw [wait, show o.timeout + 1 = fuel + (o.timeout / o.interval + 1) by omega,
    look_unseen hearly fun j hj => hno j (hearly j hj), look_of_late hlate]
  simp

/-- A look that sees the marker is the first one or has it in front of it. -/
theorem exists_firstSeen {script : Nat → Except Failure Bool} {j : Nat} (hj : script j = .ok true) :
    ∃ k ≤ j, FirstSeen script k := by
  classical
  have hex : ∃ k, script k = .ok true := ⟨j, hj⟩
  exact ⟨Nat.find hex, Nat.find_min' hex hj, Nat.find_spec hex, fun i hi => Nat.find_min hex hi⟩

/-- A wait of `n` looks that ends in some way after some time: the wait itself, the calls that a session makes
for it once its page is loaded, and what the session tells of it. -/
structure Timed (o : Options) (b : Browser) (readiness : Readiness) (waited n : Nat) : Prop where
  wait_eq : wait o b = ⟨readiness, waited, ticks o.interval n⟩
  calls : b.opening = .ok () → b.navigation = .ok () → ∀ target request, (run o b target request).1.map Prod.snd =
    .navigate target :: List.replicate n (.probe o.marker) ++ [.print request, .close]
  told : ∀ target request outcome, (run o b target request).2 = .ok outcome →
    outcome.readiness = readiness ∧ outcome.waited = waited

theorem Timed.of_wait {o : Options} {b : Browser} {readiness : Readiness} {waited n : Nat}
    (h : wait o b = ⟨readiness, waited, ticks o.interval n⟩) : Timed o b readiness waited n where
  wait_eq := h
  calls hopen hnav target request := by
    simp [run_loaded hopen hnav, h, ticks, Function.comp_def, List.map_const']
  told target request outcome hout := by
    cases hopen : b.opening with
    | error e => simp [run, hopen] at hout
    | ok =>
      cases hnav : b.navigation with
      | error e => simp [run_unloaded hopen hnav] at hout
      | ok =>
        rw [run_loaded hopen hnav, h] at hout
        cases hprinted : printed? b with
        | error e =>
          rw [hprinted] at hout
          cases hout
        | ok content =>
          rw [hprinted] at hout
          cases hout
          exact ⟨rfl, rfl⟩

/-- **The timing of a wait** whose looks are answered at once. If the first look that sees the marker is
look `k` and begins in time, the wait is over there, after `k + 1` looks; otherwise it takes all its time
and looks once at the start and then as often as the interval goes into it. -/
theorem wait_timing (o : Options) (b : Browser) (script : Nat → Except Failure Bool) :
    (∀ k, FirstSeen script k → k * o.interval ≤ o.timeout →
      Timed o (b.scripted script) .ready (k * o.interval) (k + 1)) ∧
    ((¬∃ k, FirstSeen script k ∧ k * o.interval ≤ o.timeout) →
      Timed o (b.scripted script) .timedOut o.timeout (o.timeout / o.interval + 1)) := by
  refine ⟨fun k hk hin => .of_wait (wait_of_seen hk hin b), fun hnone => .of_wait (wait_of_unseen (fun j hj hseen => ?_) b)⟩
  obtain ⟨k, hkj, hk⟩ := exists_firstSeen hseen
  exact hnone ⟨k, hk, Nat.le_trans (Nat.mul_le_mul_right _ hkj) hj⟩

/-- A look that fails, one that sees nothing, and one that sees the marker as the time is up; and the same
looks when there is a millisecond less. -/
theorem wait_timing_boundary :
    let b : Browser := ⟨.ok (), .ok (), 40, fun _ _ => ⟨0, .ok false⟩, .ok ['x'], .ok ()⟩
    let script : Nat → Except Failure Bool := fun n => if n = 0 then .error (.browser []) else .ok (n = 2)
    let o : Options := { timeout := 500 }
    let short : Options := { timeout := 499 }
    FirstSeen script 2 ∧ 2 * o.interval ≤ o.timeout ∧ Timed o (b.scripted script) .ready 500 3 ∧
      (¬∃ k, FirstSeen script k ∧ k * short.interval ≤ short.timeout) ∧
      Timed short (b.scripted script) .timedOut 499 2 := by
  intro b script o short
  have hfirst : FirstSeen script 2 := ⟨rfl, fun j hj => by
    obtain rfl | rfl : j = 0 ∨ j = 1 := by omega
    · simp [script]
    · simp [script]⟩
  have hlate : ¬∃ k, FirstSeen script k ∧ k * short.interval ≤ short.timeout := by
    rintro ⟨k, hk, hin⟩
    have hlt : k < 2 := by
      have : k * 250 ≤ 499 := hin
      omega
    exact hfirst.first k hlt hk.seen
  have hcount : short.timeout / short.interval + 1 = 2 := by decide
  have htimed := (wait_timing short b script).2 hlate
  rw [hcount] at htimed
  exact ⟨hfirst, by decide, (wait_timing o b script).1 2 hfirst (by decide), hlate, htimed⟩

end Coursebook.Capture
