/-
The run of an agent, one call at a time. A run asks its page for one thing
after the other, and between two of its calls others may do something to
the page; so the look for the marker and its insertion are two calls.

Left alone with the page, a run that is made call by call is the run of the
agent (`drive_eq_run`). Whatever happens in between, a run goes through its
stages in order: what it has done is told by the stage it is at
(`Runner.Sound`), and in front of its look for the marker it has opened the
disclosures, waited, seen to the formulas and the images, and waited again
(`Prepared`).
-/
import Coursebook.Capture.Agent

namespace Coursebook.Agent

/-! ## Runs in one go -/

/-- The markers of a page that was asked to have one. -/
def addMarker (id : Text) (markers : List Text) : List Text := if id ∈ markers then markers else markers ++ [id]

/-- What an agent with its run in front of it does. -/
theorem run_idle (o : AgentOptions) (p : Page) :
    run { options := o } p =
      ({ options := o, state := .ready }, { p with disclosures := 0, markers := addMarker o.marker p.markers },
        [.openDisclosures p.disclosures, .wait o.settleDelay] ++ (if p.mathActive then [.awaitMath] else [])
          ++ [.awaitImages, .wait o.finalDelay]
          ++ if o.marker ∈ p.markers then [] else [.insertMarker o.marker]) := by
  by_cases hmath : p.mathActive = true <;> by_cases hid : o.marker ∈ p.markers <;>
    simp [run, steps, step, addMarker, hmath, hid]

/-- **A run happens once.** -/
theorem run_of_started {a : Agent} (h : a.state ≠ .idle) (p : Page) : a.run p = (a, p, []) := if_neg h

/-! ## Runs call by call -/

/-- The call that a run makes next. -/
inductive Stage where
  | opening
  | settling
  | askingEngine
  | typesetting
  | loadingImages
  | finishing
  | askingMarker
  | inserting
  | done
deriving DecidableEq

/-- What a run has done: it had its page do something, or it was told whether an engine for formulas is
at work, or whether there is a marker. -/
inductive Event where
  | call (c : AgentCall)
  | engine (active : Bool)
  | marker (present : Bool)
deriving DecidableEq

def Event.call? : Event → Option AgentCall
  | .call c => some c
  | _ => none

/-- A run under way, or yet to come: its agent, its next call, and what it has done. -/
structure Runner where
  agent : Agent
  stage : Stage
  events : List Event

namespace Runner

/-- The run of an agent. Once the agent has started nothing is left to do. -/
def ofAgent (a : Agent) : Runner := ⟨a, if a.state = .idle then .opening else .done, []⟩

/-- A run behind one more event. -/
def behind (r : Runner) (e : Event) (state : AgentState) (stage : Stage) : Runner :=
  ⟨{ r.agent with state }, stage, r.events ++ [e]⟩

/-- Makes the next call: the run and the page after it. -/
def advance (r : Runner) (p : Page) : Runner × Page :=
  let o := r.agent.options
  match r.stage with
  | .opening =>
    (r.behind (.call (.openDisclosures p.disclosures)) .disclosuresOpened .settling, { p with disclosures := 0 })
  | .settling => (r.behind (.call (.wait o.settleDelay)) .settled .askingEngine, p)
  | .askingEngine =>
    if p.mathActive then (r.behind (.engine true) r.agent.state .typesetting, p)
    else (r.behind (.engine false) .mathTypeset .loadingImages, p)
  | .typesetting => (r.behind (.call .awaitMath) .mathTypeset .loadingImages, p)
  | .loadingImages => (r.behind (.call .awaitImages) .imagesSettled .finishing, p)
  | .finishing => (r.behind (.call (.wait o.finalDelay)) r.agent.state .askingMarker, p)
  | .askingMarker =>
    if o.marker ∈ p.markers then (r.behind (.marker true) .ready .done, p)
    else (r.behind (.marker false) r.agent.state .inserting, p)
  | .inserting =>
    (r.behind (.call (.insertMarker o.marker)) .ready .done, { p with markers := p.markers ++ [o.marker] })
  | .done => (r, p)

/-- Makes a number of calls with nobody else at the page. -/
def drive : Nat → Runner → Page → Runner × Page
  | 0, r, p => (r, p)
  | n + 1, r, p => drive n (r.advance p).1 (r.advance p).2

def calls (r : Runner) : List AgentCall := r.events.filterMap Event.call?

/-- **Call by call is in one go** if nobody else is at the page. -/
theorem drive_eq_run (a : Agent) (p : Page) :
    (((ofAgent a).drive 8 p).1.agent, ((ofAgent a).drive 8 p).2, ((ofAgent a).drive 8 p).1.calls) = a.run p := by
  by_cases ha : a.state = .idle
  · obtain ⟨o, state⟩ := a
    cases ha
    rw [run_idle]
    by_cases hmath : p.mathActive = true <;> by_cases hid : o.marker ∈ p.markers <;>
      simp [ofAgent, drive, advance, behind, calls, List.filterMap_cons, Event.call?, addMarker, hmath, hid]
  · rw [run_of_started ha]
    simp [ofAgent, drive, advance, calls, ha]

/-! ## Stages -/

end Runner

/-- What a run does until the page has settled. -/
def opened (o : AgentOptions) (disclosures : Nat) : List Event :=
  [.call (.openDisclosures disclosures), .call (.wait o.settleDelay)]

/-- How a run sees to the formulas. -/
def typeset (active : Bool) : List Event := .engine active :: if active then [.call .awaitMath] else []

/-- What a run does in front of its look for the marker. -/
def preparation (o : AgentOptions) (disclosures : Nat) (active : Bool) : List Event :=
  opened o disclosures ++ typeset active ++ [.call .awaitImages, .call (.wait o.finalDelay)]

/-- Whether a run has opened the disclosures, waited, let an active engine finish its formulas and the
images load, and waited again, in this order and before anything else. -/
def Prepared (o : AgentOptions) (events : List Event) : Prop :=
  ∃ disclosures active, preparation o disclosures active <+: events

theorem Prepared.mono {o : AgentOptions} {events more : List Event} (h : Prepared o events) (hm : events <+: more) :
    Prepared o more := by
  obtain ⟨n, active, hp⟩ := h
  exact ⟨n, active, hp.trans hm⟩

/-- What is done when a run comes to a stage. -/
def Arrived (o : AgentOptions) (events : List Event) : Stage → Prop
  | .opening => events = []
  | .settling => ∃ n, events = [.call (.openDisclosures n)]
  | .askingEngine => ∃ n, events = opened o n
  | .typesetting => ∃ n, events = opened o n ++ [.engine true]
  | .loadingImages => ∃ n active, events = opened o n ++ typeset active
  | .finishing => ∃ n active, events = opened o n ++ typeset active ++ [.call .awaitImages]
  | .askingMarker | .inserting | .done => Prepared o events

namespace Runner

/-- A run that began with an idle agent and went through its stages in order. -/
structure Sound (r : Runner) : Prop where
  idle : r.agent.state = .idle ↔ r.stage = .opening
  arrived : Arrived r.agent.options r.events r.stage

theorem sound_ofAgent (o : AgentOptions) : (ofAgent { options := o }).Sound := ⟨by simp [ofAgent], rfl⟩

theorem advance_done {r : Runner} (h : r.stage = .done) (p : Page) : r.advance p = (r, p) := by
  rw [advance]
  simp only [h]

@[simp] theorem options_advance (r : Runner) (p : Page) : (r.advance p).1.agent.options = r.agent.options := by
  unfold advance
  cases r.stage <;> simp only [behind] <;> split <;> rfl

/-- What a run has done stays done. -/
theorem events_advance (r : Runner) (p : Page) : r.events <+: (r.advance p).1.events := by
  unfold advance
  cases r.stage with
  | askingEngine => simp only; split <;> exact List.prefix_append _ _
  | askingMarker => simp only; split <;> exact List.prefix_append _ _
  | done => exact List.prefix_rfl
  | _ => exact List.prefix_append _ _

theorem Sound.advance {r : Runner} (h : r.Sound) (p : Page) : (r.advance p).1.Sound := by
  obtain ⟨⟨o, state⟩, stage, events⟩ := r
  obtain ⟨hidle, harrived⟩ := h
  dsimp only at hidle harrived
  cases stage with
  | opening =>
    obtain rfl : events = [] := harrived
    exact ⟨by simp [Runner.advance, behind], p.disclosures, rfl⟩
  | settling =>
    obtain ⟨n, rfl⟩ := harrived
    exact ⟨by simp [Runner.advance, behind], n, rfl⟩
  | askingEngine =>
    obtain ⟨n, rfl⟩ := harrived
    have hstate : state ≠ .idle := by simpa using hidle
    by_cases hmath : p.mathActive = true
    · rw [Runner.advance]
      simp only [hmath, if_true]
      exact ⟨by simpa [behind] using hstate, n, rfl⟩
    · rw [Runner.advance]
      simp only [hmath]
      exact ⟨by simp [behind], n, false, rfl⟩
  | typesetting =>
    obtain ⟨n, rfl⟩ := harrived
    exact ⟨by simp [Runner.advance, behind], n, true, rfl⟩
  | loadingImages =>
    obtain ⟨n, active, rfl⟩ := harrived
    exact ⟨by simp [Runner.advance, behind], n, active, rfl⟩
  | finishing =>
    obtain ⟨n, active, rfl⟩ := harrived
    have hstate : state ≠ .idle := by simpa using hidle
    refine ⟨by simpa [Runner.advance, behind] using hstate, n, active, ?_⟩
    cases active <;> exact List.prefix_rfl
  | askingMarker =>
    have hprepared : Prepared o events := harrived
    have hstate : state ≠ .idle := by simpa using hidle
    by_cases hid : o.marker ∈ p.markers
    · rw [Runner.advance]
      simp only [hid, if_true]
      exact ⟨by simp [behind], hprepared.mono (List.prefix_append _ _)⟩
    · rw [Runner.advance]
      simp only [hid, if_false]
      exact ⟨by simpa [behind] using hstate, hprepared.mono (List.prefix_append _ _)⟩
  | inserting =>
    have hprepared : Prepared o events := harrived
    exact ⟨by simp [Runner.advance, behind], hprepared.mono (List.prefix_append _ _)⟩
  | done => exact ⟨hidle, harrived⟩

/-- A marker comes into a page by the insertion of a run, and only the one that the agent is for. -/
theorem markers_advance (r : Runner) (p : Page) :
    (r.advance p).2.markers = p.markers ∨
      r.stage = .inserting ∧ (r.advance p).2.markers = p.markers ++ [r.agent.options.marker] := by
  unfold advance
  cases hstage : r.stage with
  | askingEngine => exact .inl (by simp only; split <;> rfl)
  | askingMarker => exact .inl (by simp only; split <;> rfl)
  | inserting => exact .inr ⟨rfl, rfl⟩
  | _ => exact .inl rfl

/-- A run goes on to insert a marker only if there was none when it looked. -/
theorem not_mem_of_inserting {r : Runner} {p : Page} (h : (r.advance p).1.stage = .inserting) :
    r.agent.options.marker ∉ p.markers ∧ (r.advance p).2 = p := by
  unfold advance at h ⊢
  cases hstage : r.stage with
  | askingMarker =>
    simp only [hstage] at h ⊢
    split at h
    · cases h
    · next hid => exact ⟨hid, by rw [if_neg hid]⟩
  | askingEngine =>
    simp only [hstage] at h
    split at h <;> cases h
  | _ => simp [hstage, behind] at h

end Runner

end Coursebook.Agent
