/-
The handshake between the agents in a page and a session that prints it.
Any number of agents run at one page, a session looks for their marker, the
page changes by itself, and all of that is mixed in any order, one call at a
time (`World.play`).

A page that had no marker has one only behind a run that went through its
stages (`Safe.play`), since only runs put markers in and each of them has
prepared the page by then. So a session that found the marker prints a page
that is prepared (`print_prepared`). Two runs may both look before either
inserts; if no run begins while another one is under way, there is never more
than one marker (`Single.play`).
-/
import Coursebook.Proofs.Capture.Agent
import Coursebook.Proofs.Capture.Discipline
import Mathlib.Data.List.Basic

namespace Coursebook.Capture

open Agent (Runner Prepared)

/-! ## Interleavings -/

/-- A page, and the runs of the agents at it. -/
structure World where
  page : Page
  runners : List Runner

/-- What happens next: an agent makes the next call of its run, the page changes by itself, or a session
makes a call. -/
inductive Action where
  | agent (i : Nat)
  | page (disclosures : Nat) (mathActive : Bool)
  | session (c : Call)

namespace World

/-- A page with agents that have not begun. -/
def start (settings : List AgentOptions) (p : Page) : World := ⟨p, settings.map fun o => .ofAgent { options := o }⟩

def act (w : World) : Action → World
  | .agent i =>
    match w.runners[i]? with
    | some r => ⟨(r.advance w.page).2, w.runners.set i (r.advance w.page).1⟩
    | none => w
  | .page disclosures mathActive => { w with page := { w.page with disclosures, mathActive } }
  | .session _ => w

/-- The world after some actions. -/
def play (w : World) (acts : List Action) : World := acts.foldl act w

theorem play_append (w : World) (acts more : List Action) : w.play (acts ++ more) = (w.play acts).play more :=
  List.foldl_append

/-- **What an action can do**: a run goes on by one call, or neither runs nor markers change. -/
theorem act_cases (w : World) (a : Action) :
    (∃ i r, a = .agent i ∧ w.runners[i]? = some r ∧ r.stage ≠ .done ∧
      w.act a = ⟨(r.advance w.page).2, w.runners.set i (r.advance w.page).1⟩) ∨
    (w.act a).runners = w.runners ∧ (w.act a).page.markers = w.page.markers := by
  cases a with
  | agent i =>
    cases hr : w.runners[i]? with
    | none => exact .inr (by simp [act, hr])
    | some r =>
      by_cases hdone : r.stage = .done
      · obtain ⟨hi, rfl⟩ := List.getElem?_eq_some_iff.1 hr
        exact .inr (by simp [act, hi, Runner.advance_done hdone])
      · exact .inl ⟨i, r, rfl, hr, hdone, by simp [act, hr]⟩
  | page disclosures mathActive => exact .inr ⟨rfl, rfl⟩
  | session c => exact .inr ⟨rfl, rfl⟩

/-- What holds of a world and is kept by every action holds after any actions. -/
theorem play_induct {P : World → Prop} (step : ∀ w a, P w → P (w.act a)) {w : World} (h : P w) (acts : List Action) :
    P (w.play acts) := by
  induction acts generalizing w with
  | nil => exact h
  | cons a acts ih => exact ih (step w a h)

/-! ## Preparation -/

/-- Whether an agent for a marker has prepared the page. -/
def HasPrepared (w : World) (id : Text) : Prop :=
  ∃ r ∈ w.runners, r.agent.options.marker = id ∧ Prepared r.agent.options r.events

/-- A run that went on is as prepared as it was. -/
theorem HasPrepared.set {w : World} {id : Text} (h : w.HasPrepared id) {i : Nat} {r : Runner}
    (hr : w.runners[i]? = some r) (p p' : Page) : HasPrepared ⟨p', w.runners.set i (r.advance p).1⟩ id := by
  obtain ⟨s, hs, hid, hprepared⟩ := h
  obtain ⟨j, hj⟩ := List.getElem?_of_mem hs
  by_cases hij : i = j
  · subst hij
    obtain rfl : r = s := Option.some.inj (hr.symm.trans hj)
    have hi : i < w.runners.length := (List.getElem?_eq_some_iff.1 hr).1
    refine ⟨(r.advance p).1, List.mem_set hi _, by simpa using hid, ?_⟩
    rw [r.options_advance]
    exact hprepared.mono (r.events_advance p)
  · have hsame : (w.runners.set i (r.advance p).1)[j]? = some s := by rw [List.getElem?_set_ne hij, hj]
    exact ⟨s, List.mem_of_getElem? hsame, hid, hprepared⟩

/-- All runs went through their stages, and a marker that is there was prepared for. -/
structure Safe (id : Text) (w : World) : Prop where
  sound : ∀ r ∈ w.runners, r.Sound
  prepared : id ∈ w.page.markers → w.HasPrepared id

theorem safe_start {id : Text} {p : Page} (hid : id ∉ p.markers) (settings : List AgentOptions) :
    Safe id (start settings p) where
  sound := by
    intro r hr
    obtain ⟨o, -, rfl⟩ := List.mem_map.1 hr
    exact Runner.sound_ofAgent o
  prepared := fun h => absurd h hid

theorem Safe.act {id : Text} {w : World} (h : Safe id w) (a : Action) : Safe id (w.act a) := by
  rcases w.act_cases a with ⟨i, r, -, hr, -, hact⟩ | ⟨hrunners, hmarkers⟩
  · have hsound : r.Sound := h.sound r (List.mem_of_getElem? hr)
    have hi : i < w.runners.length := (List.getElem?_eq_some_iff.1 hr).1
    rw [hact]
    refine ⟨fun s hs => ?_, fun hid => ?_⟩
    · rcases List.mem_or_eq_of_mem_set hs with hs | rfl
      · exact h.sound s hs
      · exact hsound.advance w.page
    · rcases r.markers_advance w.page with hsame | ⟨hstage, hnew⟩
      · exact (h.prepared (hsame ▸ hid)).set hr w.page _
      · rw [hnew, List.mem_append, List.mem_singleton] at hid
        rcases hid with hold | rfl
        · exact (h.prepared hold).set hr w.page _
        · have hprepared : Prepared r.agent.options r.events := by simpa [hstage, Agent.Arrived] using hsound.arrived
          exact HasPrepared.set ⟨r, List.mem_of_getElem? hr, rfl, hprepared⟩ hr w.page _
  · exact ⟨hrunners ▸ h.sound, fun hid => by
      rw [HasPrepared, hrunners]
      exact h.prepared (hmarkers ▸ hid)⟩

/-- **A marker was prepared for**, whatever happened in which order. -/
theorem Safe.play {id : Text} {w : World} (h : Safe id w) (acts : List Action) : Safe id (w.play acts) :=
  play_induct (P := Safe id) (fun _ a h => h.act a) h acts

/-- Markers stay in their page. -/
theorem markers_play (w : World) (acts : List Action) {id : Text} (h : id ∈ w.page.markers) :
    id ∈ (w.play acts).page.markers := by
  refine play_induct (P := fun w => id ∈ w.page.markers) (fun w a hid => ?_) h acts
  rcases w.act_cases a with ⟨i, r, -, -, -, hact⟩ | ⟨-, hmarkers⟩
  · rw [hact]
    rcases r.markers_advance w.page with hsame | ⟨-, hnew⟩
    · exact hsame ▸ hid
    · exact hnew ▸ List.mem_append_left _ hid
  · exact hmarkers ▸ hid

/-- The agents keep their options. -/
theorem options_play (w : World) (acts : List Action) :
    (w.play acts).runners.map (·.agent.options) = w.runners.map (·.agent.options) := by
  refine play_induct (P := fun v => v.runners.map (·.agent.options) = w.runners.map (·.agent.options))
    (fun v a hv => ?_) rfl acts
  rw [← hv]
  rcases v.act_cases a with ⟨i, r, -, hr, -, hact⟩ | ⟨hrunners, -⟩
  · obtain ⟨hi, rfl⟩ := List.getElem?_eq_some_iff.1 hr
    rw [hact, List.map_set, Runner.options_advance, ← List.map_set, List.set_getElem_self hi]
  · rw [hrunners]

/-! ## Runs that do not overlap -/

/-- Whether a run has begun and is not over. -/
def underWay (r : Runner) : Bool := r.stage ≠ .opening && r.stage ≠ .done

/-- Whether no other run is under way when a run goes on. -/
def apart (w : World) : Action → Bool
  | .agent i => w.runners[i]?.all (·.stage = .done) || (w.runners.eraseIdx i).all (!underWay ·)
  | _ => true

/-- Whether no two runs overlap. -/
def separate : World → List Action → Bool
  | _, [] => true
  | w, a :: acts => w.apart a && separate (w.act a) acts

/-- There is at most one marker, and none while a run is about to put it in. -/
structure Single (id : Text) (w : World) : Prop where
  count : w.page.markers.count id ≤ 1
  absent : ∀ r ∈ w.runners, r.stage = .inserting → r.agent.options.marker = id → id ∉ w.page.markers

theorem single_start {id : Text} {p : Page} (hid : id ∉ p.markers) (settings : List AgentOptions) :
    Single id (start settings p) where
  count := by
    have : p.markers.count id = 0 := List.count_eq_zero.2 hid
    exact this ▸ Nat.zero_le 1
  absent := fun _ _ _ _ => hid

theorem Single.act {id : Text} {w : World} (h : Single id w) {a : Action} (ha : w.apart a = true) :
    Single id (w.act a) := by
  rcases w.act_cases a with ⟨i, r, rfl, hr, hdone, hact⟩ | ⟨hrunners, hmarkers⟩
  · have hmem : r ∈ w.runners := List.mem_of_getElem? hr
    rw [hact]
    refine ⟨?_, fun s hs hstage hid => ?_⟩
    · rcases r.markers_advance w.page with hsame | ⟨hinserting, hnew⟩
      · exact hsame ▸ h.count
      · rw [hnew, List.count_append]
        by_cases hid : r.agent.options.marker = id
        · have hnone : w.page.markers.count id = 0 := List.count_eq_zero.2 (h.absent r hmem hinserting hid)
          simp [hnone, hid]
        · simpa [hid] using h.count
    · obtain ⟨j, hj⟩ := List.getElem?_of_mem hs
      by_cases hij : i = j
      · subst hij
        have hlength : i < w.runners.length := (List.getElem?_eq_some_iff.1 hr).1
        rw [List.getElem?_set_self hlength] at hj
        cases hj
        obtain ⟨hnone, hpage⟩ := Runner.not_mem_of_inserting hstage
        rw [Runner.options_advance] at hid
        show id ∉ (r.advance w.page).2.markers
        rw [hpage, ← hid]
        exact hnone
      · -- Another run that is about to insert is under way, so this one does not go on.
        rw [List.getElem?_set_ne hij] at hj
        have hother : s ∈ w.runners.eraseIdx i := List.mem_eraseIdx_iff_getElem?.2 ⟨j, Ne.symm hij, hj⟩
        have hapart : (w.runners.eraseIdx i).all (!underWay ·) = true := by simpa [apart, hr, hdone] using ha
        have := List.all_eq_true.1 hapart s hother
        simp [underWay, hstage] at this
  · exact ⟨hmarkers ▸ h.count, hrunners ▸ hmarkers ▸ h.absent⟩

/-- **Runs that do not overlap put in one marker.** -/
theorem Single.play {id : Text} {w : World} (h : Single id w) {acts : List Action} (ha : w.separate acts = true) :
    Single id (w.play acts) := by
  induction acts generalizing w with
  | nil => exact h
  | cons a acts ih =>
    rw [separate, Bool.and_eq_true] at ha
    exact ih (h.act ha.1) ha.2

end World

/-! ## Sessions -/

def Action.call? : Action → Option Call
  | .session c => some c
  | _ => none

def sessionCalls (acts : List Action) : List Call := acts.filterMap Action.call?

def Call.isLook : Call → Bool
  | .probe _ => true
  | _ => false

/-- How many looks for the marker there were. -/
def looks (acts : List Action) : Nat := (sessionCalls acts).countP Call.isLook

/-- Whether a look of a session saw the marker. -/
def Browser.sawAt (b : Browser) (o : Options) (n : Nat) : Bool :=
  (wait o b).looks[n]?.any fun start => (b.probe n start).saw

/-- Whether an action is no look, or a look that saw no marker but one that is there; `n` looks were before it. -/
def Browser.honest (b : Browser) (o : Options) (w : World) (n : Nat) : Action → Bool
  | .session (.probe id) => !b.sawAt o n || id ∈ w.page.markers
  | _ => true

/-- Whether the looks of a session see nothing that is not there. Looks may fail. -/
def Browser.truthful (b : Browser) (o : Options) (w : World) (n : Nat) : List Action → Bool
  | [] => true
  | a :: acts => b.honest o w n a && truthful b o (w.act a) (n + looks [a]) acts

theorem looks_append (acts more : List Action) : looks (acts ++ more) = looks acts + looks more := by
  rw [looks, sessionCalls, List.filterMap_append, List.countP_append]
  rfl

theorem Browser.truthful_append (b : Browser) (o : Options) (w : World) (n : Nat) (acts more : List Action) :
    b.truthful o w n (acts ++ more) =
      (b.truthful o w n acts && b.truthful o (w.play acts) (n + looks acts) more) := by
  induction acts generalizing w n with
  | nil => rfl
  | cons a acts ih =>
    have hlooks : looks (a :: acts) = looks [a] + looks acts := looks_append [a] acts
    rw [List.cons_append, truthful, truthful, ih, hlooks, ← Nat.add_assoc, Bool.and_assoc]
    rfl

/-- A wait that found the marker ended with a look that saw it. -/
theorem saw_of_ready (o : Options) (probe : (index start : Nat) → Probe) (fuel index now : Nat)
    (h : (look o probe fuel index now).readiness = .ready) :
    ∃ earlier start, (look o probe fuel index now).looks = earlier ++ [start] ∧
      (probe (index + earlier.length) start).saw = true := by
  induction fuel generalizing index now with
  | zero => cases h
  | succ fuel ih =>
    rw [look_succ] at h ⊢
    split at h
    · cases h
    · rw [if_neg ‹_›]
      split at h
      · cases h
      · rw [if_neg ‹_›]
        split at h
        · next hsaw =>
          rw [if_pos hsaw]
          exact ⟨[], now, rfl, hsaw⟩
        · next hsaw =>
          rw [if_neg hsaw]
          obtain ⟨earlier, start, hlooks, hlast⟩ := ih _ _ h
          refine ⟨now :: earlier, start, by simp only [hlooks, List.cons_append], ?_⟩
          rwa [List.length_cons, Nat.add_comm earlier.length, ← Nat.add_assoc]

/-- The calls of a session that found the marker. -/
theorem calls_of_ready {o : Options} {b : Browser} {target : Target} {request : PrintRequest} (h : b.opening = .ok ())
    (hnav : b.navigation = .ok ()) {earlier : List Nat} {last : Nat} (hlooks : (wait o b).looks = earlier ++ [last]) :
    (run o b target request).1.map Prod.snd =
      (.navigate target :: List.replicate earlier.length (.probe o.marker) ++ [.probe o.marker]) ++
        [.print request, .close] := by
  simp [run_loaded h hnav, hlooks, Function.comp_def]

/-- A session that printed the page after finding the marker had it in front of itself by then. -/
theorem marker_mem_at_print {o : Options} {b : Browser} {target : Target} {request q : PrintRequest} {w : World}
    {before after : List Action}
    (hcalls : sessionCalls (before ++ .session (.print q) :: after) <+: (run o b target request).1.map Prod.snd)
    (htrue : b.truthful o w 0 (before ++ .session (.print q) :: after) = true) (hready : (wait o b).readiness = .ready) :
    o.marker ∈ (w.play before).page.markers := by
  have hsession : sessionCalls (before ++ .session (.print q) :: after) =
      sessionCalls before ++ .print q :: sessionCalls after := by
    simp [sessionCalls, Action.call?]
  rw [hsession] at hcalls
  have hprint : .print q ∈ (run o b target request).1.map Prod.snd := hcalls.subset (by simp)
  cases hopen : b.opening with
  | error e => simp [run, hopen] at hprint
  | ok =>
    cases hnav : b.navigation with
    | error e => simp [run_unloaded hopen hnav] at hprint
    | ok =>
      obtain ⟨earlier, last, hlooks, hsaw⟩ := saw_of_ready o b.probe _ 0 0 hready
      have hlooks : (wait o b).looks = earlier ++ [last] := hlooks
      obtain ⟨rest, hrest⟩ := hcalls
      rw [calls_of_ready hopen hnav hlooks, List.append_assoc, List.cons_append] at hrest
      -- Before the printing there are the navigation and the looks, the one that saw the marker in the end.
      have hbefore : sessionCalls before =
          .navigate target :: List.replicate earlier.length (.probe o.marker) ++ [.probe o.marker] :=
        ((List.append_cons_inj_of_notMem (by simp) (by simp)).1 hrest.symm).1.symm
      obtain ⟨first, second, rfl, hfirst, hsecond⟩ := List.filterMap_eq_append_iff.1 hbefore
      obtain ⟨skipped, a, others, rfl, hskipped, ha, -⟩ := List.filterMap_eq_cons_iff.1 hsecond
      obtain rfl : a = .session (.probe o.marker) := by
        cases a with
        | session c => rw [Option.some.inj ha]
        | _ => cases ha
      have hlook : looks (first ++ skipped) = earlier.length := by
        have hnone : sessionCalls skipped = [] := List.filterMap_eq_nil_iff.2 hskipped
        have hcount : sessionCalls (first ++ skipped) =
            .navigate target :: List.replicate earlier.length (.probe o.marker) := by
          rw [sessionCalls, List.filterMap_append, hfirst]
          exact (congrArg _ hnone).trans (List.append_nil _)
        rw [looks, hcount]
        simp [Call.isLook, List.countP_replicate]
      have hmem : o.marker ∈ (w.play (first ++ skipped)).page.markers := by
        have hsawAt : b.sawAt o earlier.length = true := by
          rw [Nat.zero_add] at hsaw
          simp [Browser.sawAt, hlooks, hsaw]
        rw [List.append_assoc, List.append_assoc, ← List.append_assoc first, b.truthful_append, hlook, Bool.and_eq_true,
          List.cons_append, Browser.truthful, Bool.and_eq_true, Nat.zero_add] at htrue
        simpa [Browser.honest, hsawAt] using htrue.2.1
      rw [← List.append_assoc, World.play_append]
      exact World.markers_play _ _ hmem

/-- **The handshake is safe.** Agents with any options run at a page that has no marker yet, and everything
happens in any order. A marker is there only if an agent for it has prepared the page. A session whose looks
do not see what is not there, and which takes the page for ready, prints it prepared. If no two runs overlap,
the marker is there once. An agent that has begun does not run again, and one that is left alone with its page
does what it does in one go. -/
theorem handshake_safe {id : Text} {p : Page} (hid : id ∉ p.markers) (settings : List AgentOptions)
    (acts : List Action) :
    let w := World.start settings p
    (id ∈ (w.play acts).page.markers → (w.play acts).HasPrepared id) ∧
    (∀ (o : Options) (b : Browser) (target : Target) (request : PrintRequest), o.marker = id →
      sessionCalls acts <+: (run o b target request).1.map Prod.snd → b.truthful o w 0 acts = true →
      (wait o b).readiness = .ready →
      ∀ before q after, acts = before ++ .session (.print q) :: after → (w.play before).HasPrepared id) ∧
    (w.separate acts = true → (w.play acts).page.markers.count id ≤ 1) ∧
    (∀ r ∈ (w.play acts).runners, r.events ≠ [] → ∀ p', r.agent.run p' = (r.agent, p', [])) ∧
    (w.play acts).runners.map (·.agent.options) = settings ∧
    ∀ (a : Agent) (p' : Page),
      (((Runner.ofAgent a).drive 8 p').1.agent, ((Runner.ofAgent a).drive 8 p').2,
        ((Runner.ofAgent a).drive 8 p').1.calls) = a.run p' := by
  have hsafe := World.safe_start hid settings
  refine ⟨(hsafe.play acts).prepared, ?_, ?_, ?_, ?_, Runner.drive_eq_run⟩
  · rintro o b target request rfl hcalls htrue hready before q after rfl
    exact (hsafe.play before).prepared (marker_mem_at_print hcalls htrue hready)
  · exact fun hseparate => ((World.single_start hid settings).play hseparate).count
  · intro r hr hevents p'
    have hsound := (hsafe.play acts).sound r hr
    refine Agent.run_of_started (fun hidle => hevents ?_) p'
    simpa [hsound.idle.1 hidle, Agent.Arrived] using hsound.arrived
  · rw [World.options_play]
    simp [World.start, Runner.ofAgent, Function.comp_def]

/-! ## A rehearsal -/

/-- Two agents for one marker at a page. -/
def rehearsalStart : World := .start [{}, { settleDelay := 50 }] { disclosures := 2 }

/-- A browser whose first look fails, whose second one sees nothing, and whose third one sees the marker. -/
def rehearsalBrowser : Browser :=
  ⟨.ok (), .ok (), 40, fun n _ => ⟨5, if n = 0 then .error (.browser []) else .ok (n = 2)⟩, .ok ['x'], .ok ()⟩

/-- What happens up to the printing: the engine for formulas comes up late, and the second agent begins when
the first is done. -/
def rehearsal : List Action :=
  .session (.navigate (.url [])) :: .agent 0 :: .session (.probe defaultMarker) :: .agent 0 :: .page 3 true ::
    .agent 0 :: .agent 0 :: .session (.probe defaultMarker) ::
    List.replicate 4 (.agent 0) ++ [.agent 1, .session (.probe defaultMarker)]

/-- The rehearsal with the printing and the rest of the second run. -/
def wholeRehearsal : List Action := rehearsal ++ .session (.print {}) :: List.replicate 7 (.agent 1)

theorem handshake_safe_rehearsal :
    sessionCalls wholeRehearsal <+: (run {} rehearsalBrowser (.url []) {}).1.map Prod.snd ∧
      rehearsalBrowser.truthful {} rehearsalStart 0 wholeRehearsal = true ∧
      (wait {} rehearsalBrowser).readiness = .ready ∧ rehearsalStart.separate wholeRehearsal = true ∧
      (rehearsalStart.play rehearsal).HasPrepared defaultMarker ∧
      (rehearsalStart.play wholeRehearsal).page.markers.count defaultMarker ≤ 1 := by
  have hlooks : (wait {} rehearsalBrowser).looks = [0, 255] ++ [510] := by decide +kernel
  have hcalls : sessionCalls wholeRehearsal <+: (run {} rehearsalBrowser (.url []) {}).1.map Prod.snd := by
    rw [calls_of_ready rfl rfl hlooks]
    exact ⟨[.close], rfl⟩
  have htrue : rehearsalBrowser.truthful {} rehearsalStart 0 wholeRehearsal = true := by decide +kernel
  have hready : (wait {} rehearsalBrowser).readiness = .ready := by decide +kernel
  have hseparate : rehearsalStart.separate wholeRehearsal = true := by decide +kernel
  have hnone : defaultMarker ∉ (rehearsalStart.page).markers := List.not_mem_nil
  obtain ⟨-, hprint, hsingle, -⟩ := handshake_safe hnone [{}, { settleDelay := 50 }] wholeRehearsal
  exact ⟨hcalls, htrue, hready, hseparate, hprint {} rehearsalBrowser (.url []) {} rfl hcalls htrue hready _ {} _ rfl,
    hsingle hseparate⟩

end Coursebook.Capture
