/-
The discipline of a session, whatever the browser does: what is called, in
which order, and what comes of it (`run_discipline`).

The session is told by its list of calls. A look for the marker that fails
is one that saw nothing, and a page that cannot be closed is left behind;
so browsers that differ in no more than that give the same run
(`run_eq_of_alike`). The list is in the order of time as well
(`run_ordered`): no look begins before the page is loaded or after the wait
is over.
-/
import Coursebook.Capture.Session

namespace Coursebook.Capture

/-! ## The wait -/

/-- Whether a look saw the marker. One that failed did not. -/
def Probe.saw (p : Probe) : Bool :=
  match p.answer with
  | .ok seen => seen
  | .error _ => false

/-- The looks of a wait follow each other, none before `start` and none after its end. -/
structure Wait.Ordered (start : Nat) (w : Wait) : Prop where
  sorted : w.looks.Pairwise (· ≤ ·)
  within : ∀ t ∈ w.looks, start ≤ t ∧ t ≤ w.waited

/-- One look: the time may be up before it or during it, it may see the marker, or the wait goes on. -/
theorem look_succ (o : Options) (probe : (index start : Nat) → Probe) (fuel index now : Nat) :
    look o probe (fuel + 1) index now =
      if o.timeout < now then ⟨.timedOut, o.timeout, []⟩
      else if o.timeout < now + (probe index now).duration then ⟨.timedOut, o.timeout, [now]⟩
      else if (probe index now).saw then ⟨.ready, now + (probe index now).duration, [now]⟩
      else
        let rest := look o probe fuel (index + 1) (now + (probe index now).duration + o.interval)
        { rest with looks := now :: rest.looks } := by
  rw [look, Probe.saw]
  split
  · rfl
  · simp only
    split
    · rfl
    · cases (probe index now).answer with
      | error e => rfl
      | ok seen => cases seen <;> rfl

/-- A wait that begins in time has looked at least once. -/
theorem looks_ne_nil (o : Options) (probe : (index start : Nat) → Probe) (fuel index : Nat) {now : Nat}
    (h : now ≤ o.timeout) : (look o probe (fuel + 1) index now).looks ≠ [] := by
  rw [look_succ, if_neg (by omega)]
  split
  · simp
  · split <;> simp

theorem le_waited_look (o : Options) (probe : (index start : Nat) → Probe) (fuel index now : Nat) :
    min now o.timeout ≤ (look o probe fuel index now).waited := by
  induction fuel generalizing index now with
  | zero => exact Nat.min_le_right _ _
  | succ fuel ih =>
    have hrest := ih (index + 1) (now + (probe index now).duration + o.interval)
    rw [look_succ]
    split
    · exact Nat.min_le_right _ _
    · split
      · exact Nat.min_le_right _ _
      · split
        · simp only
          omega
        · simp only
          omega

theorem ordered_look (o : Options) (probe : (index start : Nat) → Probe) (fuel index now : Nat) :
    (look o probe fuel index now).Ordered now := by
  induction fuel generalizing index now with
  | zero => exact ⟨.nil, by simp [look]⟩
  | succ fuel ih =>
    obtain ⟨hsorted, hwithin⟩ := ih (index + 1) (now + (probe index now).duration + o.interval)
    have hend := le_waited_look o probe fuel (index + 1) (now + (probe index now).duration + o.interval)
    rw [look_succ]
    split
    · exact ⟨.nil, by simp⟩
    · split
      · exact ⟨List.pairwise_singleton _ _, by simp; omega⟩
      · split
        · exact ⟨List.pairwise_singleton _ _, by simp⟩
        · refine ⟨List.pairwise_cons.2 ⟨fun t ht => ?_, hsorted⟩, fun t ht => ?_⟩
          · have := (hwithin t ht).1
            omega
          · rcases List.mem_cons.1 ht with rfl | ht
            · simp only
              omega
            · have := hwithin t ht
              simp only
              omega

/-! ## Browsers that cannot be told apart -/

/-- Browsers that differ at most in how looks fail to see the marker and in how the page closes. -/
structure Browser.Alike (b c : Browser) : Prop where
  opening : b.opening = c.opening
  navigation : b.navigation = c.navigation
  navigationTime : b.navigationTime = c.navigationTime
  duration : ∀ index start, (b.probe index start).duration = (c.probe index start).duration
  saw : ∀ index start, (b.probe index start).saw = (c.probe index start).saw
  printing : b.printing = c.printing

variable {b c : Browser}

theorem look_eq_of_alike (h : b.Alike c) (o : Options) (fuel index now : Nat) :
    look o b.probe fuel index now = look o c.probe fuel index now := by
  induction fuel generalizing index now with
  | zero => rfl
  | succ fuel ih => rw [look_succ, look_succ, h.duration, h.saw, ih]

/-- **Failed looks and a page that does not close change nothing**, neither the result nor the calls. -/
theorem run_eq_of_alike (h : b.Alike c) (o : Options) (target : Target) (request : PrintRequest) :
    run o b target request = run o c target request := by
  have hwait : wait o b = wait o c := look_eq_of_alike h o _ 0 0
  have hprinted : printed? b = printed? c := by rw [printed?, printed?, h.printing]
  rw [run, run, attempt, attempt, h.opening, h.navigation, h.navigationTime, hwait, hprinted]

/-! ## Sessions -/

/-- What a session calls and what it gives, for each way the browser may answer. -/
structure Discipline (o : Options) (b : Browser) (target : Target) (request : PrintRequest) (calls : List Call)
    (result : Except Failure Outcome) : Prop where
  unopened : ∀ e, b.opening = .error e → calls = [] ∧ result = .error e
  unloaded : b.opening = .ok () → ∀ e, b.navigation = .error e →
    calls = [.navigate target, .close] ∧ result = .error e
  loaded : b.opening = .ok () → b.navigation = .ok () →
    ∃ n, calls = .navigate target :: List.replicate (n + 1) (.probe o.marker) ++ [.print request, .close]
  unprinted : b.opening = .ok () → b.navigation = .ok () → (∃ e, b.printing = .error e) ∨ b.printing = .ok [] →
    ∃ reason, result = .error (.capture reason)
  printed : b.opening = .ok () → b.navigation = .ok () → ∀ content, b.printing = .ok content → content ≠ [] →
    ∃ outcome, result = .ok outcome ∧ outcome.printed = content ∧
      (outcome.readiness = .timedOut → outcome.warnings = [timeoutWarning o]) ∧
      (outcome.readiness = .ready → outcome.warnings = [])

/-- A session whose page opens and does not load. -/
theorem run_unloaded {o : Options} {target : Target} {request : PrintRequest} {e : Failure} (h : b.opening = .ok ())
    (hnav : b.navigation = .error e) :
    run o b target request = ([(0, .navigate target), (b.navigationTime, .close)], .error e) := by
  rw [run, h, attempt, hnav]
  rfl

/-- A session whose page loads: the calls are timed from the opening of the page. -/
theorem run_loaded {o : Options} {target : Target} {request : PrintRequest} (h : b.opening = .ok ())
    (hnav : b.navigation = .ok ()) :
    run o b target request =
      ((0, .navigate target) :: (wait o b).looks.map (fun t => (b.navigationTime + t, .probe o.marker))
          ++ [(b.navigationTime + (wait o b).waited, .print request), (b.navigationTime + (wait o b).waited, .close)],
        (printed? b).map fun content =>
          ⟨content, (wait o b).readiness, (wait o b).waited,
            if (wait o b).readiness = .timedOut then [timeoutWarning o] else []⟩) := by
  rw [run, h, attempt, hnav]
  simp

/-- A session looks for the marker of its options. -/
theorem eq_of_probe_mem {o : Options} {target : Target} {request : PrintRequest} {id : Text}
    (h : Call.probe id ∈ (run o b target request).1.map Prod.snd) : id = o.marker := by
  cases hopen : b.opening with
  | error e => simp [run, hopen] at h
  | ok =>
    cases hnav : b.navigation with
    | error e => simp [run_unloaded hopen hnav] at h
    | ok =>
      have hlook : (∃ t, t ∈ (wait o b).looks) ∧ id = o.marker := by simpa [run_loaded hopen hnav, eq_comm] using h
      exact hlook.2

/-- The trace is told in the order of time. -/
theorem run_ordered (o : Options) (b : Browser) (target : Target) (request : PrintRequest) :
    ((run o b target request).1.map Prod.fst).Pairwise (· ≤ ·) := by
  cases hopen : b.opening with
  | error e => simp [run, hopen]
  | ok =>
    cases hnav : b.navigation with
    | error e => simp [run_unloaded hopen hnav]
    | ok =>
      obtain ⟨hsorted, hwithin⟩ : (wait o b).Ordered 0 := ordered_look o b.probe _ 0 0
      have hlooks : ((wait o b).looks.map (b.navigationTime + ·)).Pairwise (· ≤ ·) :=
        hsorted.map _ fun t u htu => Nat.add_le_add_left htu b.navigationTime
      have hend : ∀ t ∈ (wait o b).looks.map (b.navigationTime + ·), t ≤ b.navigationTime + (wait o b).waited := by
        intro t ht
        obtain ⟨u, hu, rfl⟩ := List.mem_map.1 ht
        exact Nat.add_le_add_left (hwithin u hu).2 b.navigationTime
      have hcalls : (run o b target request).1.map Prod.fst = 0 :: (wait o b).looks.map (b.navigationTime + ·) ++
          [b.navigationTime + (wait o b).waited, b.navigationTime + (wait o b).waited] := by
        simp [run_loaded hopen hnav, Function.comp_def]
      rw [hcalls, List.pairwise_append, List.pairwise_cons]
      refine ⟨⟨fun t _ => Nat.zero_le t, hlooks⟩, by simp, fun t ht u hu => ?_⟩
      have hu : u = b.navigationTime + (wait o b).waited := by simpa using hu
      rcases List.mem_cons.1 ht with rfl | ht
      · exact Nat.zero_le u
      · exact hu ▸ hend t ht

/-- The calls of a wait are looks, at least one. -/
theorem exists_calls_wait (o : Options) (b : Browser) :
    ∃ n, (wait o b).looks.map (fun _ => Call.probe o.marker) = List.replicate (n + 1) (.probe o.marker) := by
  have hne : (wait o b).looks ≠ [] := looks_ne_nil o b.probe o.timeout 0 (Nat.zero_le _)
  obtain ⟨t, ts, hts⟩ := List.exists_cons_of_ne_nil hne
  exact ⟨ts.length, by rw [hts, List.map_const', List.length_cons]⟩

theorem printed?_eq_error_iff : (∃ reason, printed? b = .error (.capture reason)) ↔
    (∃ e, b.printing = .error e) ∨ b.printing = .ok [] := by
  rw [printed?]
  split
  · next e he => simp [he]
  · next he => simp [he]
  · next content hne he => simpa [he] using hne

/-- **The discipline of a session.** If no page opens nothing is called. Otherwise the target is loaded
first and the page closed last, both once; in between a page that was loaded is looked at at least once and
then printed once, and one that was not is neither. What is printed is what the session gives; a failed
printing or an empty page is a failure of the capture, and a page that does not load fails with its own.
How looks fail and whether the page closes makes no difference. -/
theorem run_discipline (o : Options) (b : Browser) (target : Target) (request : PrintRequest) :
    Discipline o b target request ((run o b target request).1.map Prod.snd) (run o b target request).2 ∧
      ((run o b target request).1.map Prod.fst).Pairwise (· ≤ ·) ∧
      ∀ c, b.Alike c → run o c target request = run o b target request := by
  refine ⟨?_, run_ordered o b target request, fun c h => (run_eq_of_alike h o target request).symm⟩
  constructor
  · intro e h
    simp [run, h]
  · intro h e hnav
    simp [run_unloaded h hnav]
  · intro h hnav
    obtain ⟨n, hn⟩ := exists_calls_wait o b
    exact ⟨n, by simp [run_loaded h hnav, Function.comp_def, ← hn]⟩
  · intro h hnav hprint
    obtain ⟨reason, hreason⟩ := printed?_eq_error_iff.2 hprint
    exact ⟨reason, by rw [run_loaded h hnav, hreason]; rfl⟩
  · intro h hnav content hprint hne
    have hprinted : printed? b = .ok content := by
      rw [printed?, hprint]
      cases content with
      | nil => exact absurd rfl hne
      | cons => rfl
    refine ⟨_, by rw [run_loaded h hnav, hprinted]; rfl, rfl, fun hr => if_pos hr, fun hr => if_neg ?_⟩
    simp only at hr
    simp [hr]

end Coursebook.Capture
