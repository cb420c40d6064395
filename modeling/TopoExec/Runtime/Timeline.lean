import TopoExec.Lib.History
import TopoExec.Router.Fate
import TopoExec.Runtime.ExecutionOrder

/-! # The timeline of a run

The iterations that begin divide the trace of a run. `EventOk` says what each
event finds in the trace before it: a publication on an immediate edge between
regions comes before its target collects its triggers, nothing is handed over by
`begin_epoch` in the iteration that staged it, and at each point of the run the
bus holds what it should. From this alone follows when publications are visible.
-/

namespace TopoExec

open RuntimePublicationRouter

/-- What is fixed during a run. -/
structure RunFrame where
  specs : List EdgeSpec
  plan : GraphCompiledPlan
  /-- The number of the first publication of the run. -/
  first : Nat
  /-- The commits that failed before the run. -/
  failures : Nat

def TraceEvent.isIterationBegin : TraceEvent → Bool
  | .reached (.iterationBegin _) _ => true
  | _ => false

/-- How many iterations have begun. -/
def begun (trace : List TraceEvent) : Nat := trace.countP TraceEvent.isIterationBegin

theorem begun_append (trace events : List TraceEvent) :
    begun (trace ++ events) = begun trace + begun events :=
  List.countP_append

theorem begun_staged (pre since : List TraceEvent) (tag : Nat) (channelId : String)
    (kind : EdgeKind) (composite : Bool) :
    begun (pre ++ .staged tag channelId kind composite :: since) = begun pre + begun since := by
  rw [begun_append]
  exact congrArg _ (List.countP_cons_of_neg (by simp [TraceEvent.isIterationBegin]))

/-- The component has not collected its triggers in the current iteration. -/
def NotCollected (componentId : String) (trace : List TraceEvent) : Prop :=
  ∀ pre iteration channels since,
    trace = pre ++ .reached (.collect iteration componentId) channels :: since → 0 < begun since

/-- Only these components have collected their triggers in the current iteration. -/
def CollectedIn (names : List String) (trace : List TraceEvent) : Prop :=
  ∀ componentId ∉ names, NotCollected componentId trace

/-- What was staged in an earlier iteration of the run has left the router. -/
def OldSettled (first : Nat) (trace : List TraceEvent) : Prop :=
  ∀ pre tag channelId kind composite since,
    trace = pre ++ .staged tag channelId kind composite :: since → first ≤ tag →
      0 < begun since → Settled trace tag channelId kind

namespace RunFrame

variable (frame : RunFrame)

/-- What a point of the run finds in the trace before it. -/
def PointOk (pre : List TraceEvent) : RunPoint → Prop
  | .iterationBegin iteration => begun pre = iteration
  | .epochBegun iteration => begun pre = iteration + 1 ∧ OldSettled frame.first pre
  | .collect iteration componentId =>
      begun pre = iteration + 1 ∧ OldSettled frame.first pre ∧
        ∀ spec ∈ frame.specs, spec.target = componentId → ∀ tag composite, frame.first ≤ tag →
          .staged tag spec.id .immediate composite ∈ pre → Settled pre tag spec.id .immediate

/-- What an event finds in the trace before it. -/
def EventOk (pre : List TraceEvent) : TraceEvent → Prop
  | .staged tag channelId kind _ =>
      (0 < begun pre → frame.first ≤ tag) ∧
        (kind = .immediate → ∀ spec ∈ frame.specs, spec.id = channelId →
          Crosses frame.plan spec → NotCollected spec.target pre)
  | .handed _ _ call =>
      call = .beginEpoch → ∀ before tag channelId kind composite since,
        pre = before ++ .staged tag channelId kind composite :: since → frame.first ≤ tag →
          0 < begun since
  | .reached point channels =>
      (∃ bus, channels = some bus ∧ Tracks frame.first bus pre) ∧ frame.PointOk pre point
  | _ => True

/-- The trace inside an iteration, when these components may have collected. -/
structure TraceInv (iteration : Nat) (names : List String) (trace : List TraceEvent) : Prop where
  events : History.Each frame.EventOk trace
  begun : begun trace = iteration + 1
  collected : CollectedIn names trace
  settled : OldSettled frame.first trace

end RunFrame

/-! ## Events that change nothing on the timeline -/

/-- The event stages nothing, is no point of the run, and is not from
`begin_epoch` handing something over. -/
def TraceEvent.isQuiet : TraceEvent → Bool
  | .staged .. | .reached .. => false
  | .handed _ _ call => call ≠ .beginEpoch
  | _ => true

def Quiet (events : List TraceEvent) : Prop := ∀ e ∈ events, e.isQuiet = true

section

variable {trace events : List TraceEvent} {frame : RunFrame} {first iteration : Nat}
  {names : List String}

/-- Quiet events begin no iteration. -/
theorem begun_quiet (h : Quiet events) : begun events = 0 := by
  refine List.countP_eq_zero.mpr fun e he => ?_
  have hquiet := h e he
  cases e with
  | reached => cases hquiet
  | _ => simp [TraceEvent.isIterationBegin]

/-- What comes after collects for others only. -/
theorem NotCollected.append {componentId : String} (h : NotCollected componentId trace)
    (hevents : ∀ iteration channels, .reached (.collect iteration componentId) channels ∉ events) :
    NotCollected componentId (trace ++ events) := by
  intro pre iteration channels since hsplit
  rcases History.append_split hsplit with ⟨rest, htrace, rfl⟩ | ⟨rest, _, hnew⟩
  · rw [begun_append]
    exact Nat.add_pos_left (h pre iteration channels rest htrace) _
  · refine absurd ?_ (hevents iteration channels)
    rw [hnew]
    exact List.mem_append_right _ (List.mem_cons_self ..)

/-- No iteration begins among the events. -/
theorem OldSettled.append (h : OldSettled first trace) (hevents : begun events = 0) :
    OldSettled first (trace ++ events) := by
  intro pre tag channelId kind composite since hsplit hfirst hbegun
  rcases History.append_split hsplit with ⟨rest, htrace, rfl⟩ | ⟨rest, _, rfl⟩
  · rw [begun_append, hevents, Nat.add_zero] at hbegun
    exact (h pre tag channelId kind composite rest htrace hfirst hbegun).append events
  · -- staged among the new events, where nothing has begun since
    rw [begun_staged] at hevents
    omega

/-- A quiet event asks for nothing. -/
theorem RunFrame.eventOk_quiet {e : TraceEvent} (h : e.isQuiet = true) (pre : List TraceEvent) :
    frame.EventOk pre e := by
  cases e with
  | staged | reached => cases h
  | handed tag channelId call =>
      intro hcall
      simp [TraceEvent.isQuiet, hcall] at h
  | overwritten | discarded | returned => trivial

theorem events_quiet (h : History.Each frame.EventOk trace) (hevents : Quiet events) :
    History.Each frame.EventOk (trace ++ events) :=
  h.append_free fun e he pre => RunFrame.eventOk_quiet (hevents e he) pre

/-- Quiet events keep the timeline. -/
theorem RunFrame.TraceInv.quiet (h : frame.TraceInv iteration names trace)
    (hevents : Quiet events) : frame.TraceInv iteration names (trace ++ events) := by
  have hbegun := begun_quiet hevents
  refine ⟨events_quiet h.events hevents, ?_, ?_, h.settled.append hbegun⟩
  · rw [begun_append, hbegun, h.begun]
  · intro componentId hnot
    refine (h.collected componentId hnot).append fun iteration channels hmem => ?_
    cases hevents _ hmem

/-- A publication of the run that does not come too late for its target. -/
theorem RunFrame.TraceInv.staged (h : frame.TraceInv iteration names trace) {spec : EdgeSpec}
    (hone : OneEdge frame.specs spec.id) (hspec : spec ∈ frame.specs) {tag : Nat}
    (hfirst : frame.first ≤ tag)
    (hlate : spec.kind = .immediate → Crosses frame.plan spec → spec.target ∉ names)
    (composite : Bool) :
    frame.TraceInv iteration names (trace ++ [.staged tag spec.id spec.kind composite]) := by
  refine ⟨h.events.append_one ⟨fun _ => hfirst, ?_⟩, ?_, ?_, h.settled.append rfl⟩
  · intro hkind spec' hspec' hid hcrosses
    rw [hone spec' hspec' spec hspec hid rfl] at hcrosses ⊢
    exact h.collected spec.target (hlate hkind hcrosses)
  · rw [begun_append, h.begun]
    rfl
  · intro componentId hnot
    exact (h.collected componentId hnot).append (by simp)

/-- More components may have been visited. -/
theorem RunFrame.TraceInv.mono {names' : List String} (h : frame.TraceInv iteration names trace)
    (hsub : names ⊆ names') : frame.TraceInv iteration names' trace :=
  ⟨h.events, h.begun, fun componentId hnot => h.collected componentId fun hmem => hnot (hsub hmem),
    h.settled⟩

/-- A point of the run inside an iteration. -/
theorem RunFrame.TraceInv.reached (h : frame.TraceInv iteration names trace) {point : RunPoint}
    {channels : Option RuntimeChannelBus} (hok : frame.EventOk trace (.reached point channels))
    (hbegin : ∀ iteration, point ≠ .iterationBegin iteration)
    (hcollect : ∀ iteration componentId, point = .collect iteration componentId →
      componentId ∈ names) :
    frame.TraceInv iteration names (trace ++ [.reached point channels]) := by
  have hbegun : TopoExec.begun [.reached point channels] = 0 := by
    cases point with
    | iterationBegin iteration => exact absurd rfl (hbegin iteration)
    | epochBegun | collect => rfl
  refine ⟨h.events.append_one hok, ?_, ?_, h.settled.append hbegun⟩
  · rw [begun_append, hbegun, h.begun]
  · intro componentId hnot
    refine (h.collected componentId hnot).append fun iteration' channels' hmem => ?_
    rw [List.mem_singleton] at hmem
    cases hmem
    exact hnot (hcollect _ _ rfl)

end

end TopoExec
