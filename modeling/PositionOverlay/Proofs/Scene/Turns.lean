import PositionOverlay.Proofs.Tracker.Turns
import PositionOverlay.Scene.Run

/-! # Scenes take their charts through turns

Whatever a command does to a chart is done in turns, also what the scripts of subscriptions do
while the range changes, and what they do when they change the range again.
-/
namespace PositionOverlay.Scene

open ByTurns

variable {α : Type}

/-- Work on a scene takes its chart through turns. -/
abbrev InTurns (x : SceneM α) : Prop := ByTurns Scene.chart x

theorem onChart_inTurns {x : ChartM Item Listener α} (hx : OnChart x) : InTurns (onChart x) := by
  intro s a s' h
  unfold onChart at h
  split at h
  · rename_i b c hc
    obtain ⟨rfl, rfl⟩ := Prod.mk.inj (Except.ok.inj h)
    exact hx s.chart b c hc
  · exact nomatch h

theorem allow_inTurns (x : Except Fault α) : InTurns (allow x) := by
  cases x with
  | ok a => exact pure a
  | error f => exact throw _

theorem known_inTurns (x : Option α) : InTurns (known x) := by
  cases x with
  | some a => exact pure a
  | none => exact throw _

/-- Work that leaves the chart alone. -/
theorem apart_inTurns {f : Scene → Scene} (hf : ∀ s, (f s).chart = s.chart) :
    InTurns (modify f) :=
  ByTurns.modify fun s => hf s ▸ .refl _

theorem note_inTurns (source : Source) (severity : Severity) (text : String) :
    InTurns (onChart (modify (·.note source severity text))) :=
  onChart_inTurns (note_byTurns _ _ _)

/-! ## Ticks -/

theorem reanchorLabel_inTurns (key : Nat) : InTurns (reanchorLabel key) := by
  refine bind get fun s => ?_
  split
  · exact pure _
  · split
    · exact note_inTurns _ _ _
    · exact apart_inTurns fun _ => rfl

theorem settle_inTurns (key : Nat) (m : FreeMarker) : InTurns (settle key m) :=
  bind (apart_inTurns fun _ => rfl) fun _ => forM reanchorLabel_inTurns

theorem placeMarker_inTurns (key : Nat) (m : FreeMarker) : InTurns (placeMarker key m) :=
  bind get fun _ => bind (allow_inTurns _) fun _ => settle_inTurns _ _

theorem paintMarker_inTurns (key : Nat) (m : FreeMarker) : InTurns (paintMarker key m) := by
  unfold paintMarker
  split
  · exact bind get fun _ => bind (allow_inTurns _) fun _ => settle_inTurns _ _
  · exact pure _

theorem setTracker_inTurns (key : Nat) (t : Tracker) : InTurns (setTracker key t) :=
  apart_inTurns fun _ => rfl

section Scripts

variable {runScript : String → List (String × Command) → SceneM Unit}
  (hscript : ∀ name actions, InTurns (runScript name actions))

include hscript

theorem hear_inTurns (l : Listener) : InTurns (hear runScript l) := by
  cases l with
  | tracker key build =>
    refine bind get fun s => ?_
    split
    · split
      · exact bind (onChart_inTurns (Tracker.rangeChanged_byTurns _)) fun _ =>
          setTracker_inTurns _ _
      · exact pure _
    · exact pure _
  | marker key =>
    refine bind get fun s => ?_
    split
    · split
      · exact note_inTurns _ _ _
      · split
        · exact placeMarker_inTurns _ _
        · exact pure _
    · exact pure _
  | script name actions => exact hscript name actions

/-- The calls of a round, in the middle of other rounds. -/
theorem calls_byTurns {waiting taken : List (Nat × Listener)} {s s' : Scene}
    (h : (waiting.forM fun (_, l) => hear runScript l : SceneM Unit) s = .ok ((), s'))
    (rounds : List (Round Listener)) :
    ∃ ts, Dispatch.run? ⟨s.chart, ⟨taken, waiting⟩ :: rounds⟩ ts =
      some ⟨s'.chart, ⟨taken, []⟩ :: rounds⟩ := by
  induction waiting generalizing s with
  | nil =>
    obtain ⟨-, rfl⟩ := Prod.mk.inj (Except.ok.inj h)
    exact ⟨[], rfl⟩
  | cons e waiting ih =>
    obtain ⟨_, s₁, he, hrest⟩ := Work.bind_eq_ok.mp h
    obtain ⟨ts, hts⟩ := hear_inTurns hscript e.2 s _ s₁ he (⟨taken, waiting⟩ :: rounds)
    obtain ⟨ts', hts'⟩ := ih hrest
    refine ⟨.call :: (ts ++ ts'), ?_⟩
    change Dispatch.run? ⟨s.chart, ⟨taken, waiting⟩ :: rounds⟩ (ts ++ ts') = _
    rw [Dispatch.run?_append, hts]
    exact hts'

/-- A change of the view is a round. -/
theorem setView_inTurns (f : View → View) : InTurns (setView runScript f) := by
  intro s a s' h rounds
  obtain ⟨_, s₁, hview, h⟩ := Work.bind_eq_ok.mp h
  obtain ⟨-, rfl⟩ := Prod.mk.inj (Except.ok.inj hview)
  obtain ⟨running, s₂, htake, h⟩ := Work.bind_eq_ok.mp h
  obtain ⟨rfl, rfl⟩ := Prod.mk.inj (Except.ok.inj htake)
  obtain ⟨_, s₃, hcalls, hput⟩ := Work.bind_eq_ok.mp h
  obtain ⟨-, rfl⟩ := Prod.mk.inj (Except.ok.inj hput)
  obtain ⟨ts, hts⟩ := calls_byTurns hscript hcalls rounds
  refine ⟨.begin f :: (ts ++ [.finish]), ?_⟩
  change Dispatch.run? ⟨_, ⟨s.chart.listeners, s.chart.listeners⟩ :: rounds⟩ (ts ++ [.finish]) = _
  rw [Dispatch.run?_append, hts]
  rfl

end Scripts

theorem paintItem_inTurns (i : Item) : InTurns (paintItem i) := by
  cases i with
  | tracker key build =>
    refine bind get fun s => ?_
    split
    · exact bind (onChart_inTurns (Tracker.painted_byTurns _)) fun _ => setTracker_inTurns _ _
    · exact pure _
  | marker key =>
    refine bind get fun s => ?_
    split
    · split
      · exact note_inTurns _ _ _
      · split
        · exact paintMarker_inTurns _ _
        · exact pure _
    · exact pure _
  | counter key =>
    refine apart_inTurns fun s => ?_
    split
    · split <;> rfl
    · rfl

theorem paint_inTurns : InTurns paint :=
  bind get fun _ => forM fun e => paintItem_inTurns e.2

/-! ## Objects -/

theorem changeTracker_inTurns (name : String)
    {work : Entrance Item Listener → Tracker → ChartM Item Listener Tracker}
    (hwork : ∀ own t, OnChart (work own t)) : InTurns (changeTracker name work) :=
  bind get fun _ => bind (known_inTurns _) fun _ => bind (onChart_inTurns (hwork _ _)) fun _ =>
    bind (setTracker_inTurns _ _) fun _ => pure _

theorem retire_inTurns (t : Tracker) : InTurns (retire t) :=
  bind (onChart_inTurns t.drop_byTurns) fun _ => pure _

theorem makeTracker_inTurns (name symbol : String) (config : OverlayConfig) :
    InTurns (makeTracker name symbol config) := by
  refine bind get fun s => bind (onChart_inTurns (Tracker.create_byTurns _ _ _)) fun t =>
    bind (apart_inTurns fun _ => rfl) fun _ => ?_
  dsimp only
  split
  · exact bind (retire_inTurns _) fun _ => pure _
  · exact pure _

theorem dropTracker_inTurns (name : String) : InTurns (dropTracker name) := by
  refine bind get fun s => ?_
  split
  · exact pure _
  · exact bind (apart_inTurns fun _ => rfl) fun _ => bind (retire_inTurns _) fun _ => pure _

theorem makeLineOf_inTurns (name : String) (size level : Float) (keepAs : Option String) :
    InTurns (makeLineOf name size level keepAs) := by
  refine bind get fun s => bind (known_inTurns _) fun found => bind
    (onChart_inTurns (Tracker.positionLine_byTurns _ _ _ _)) fun made =>
      bind (setTracker_inTurns _ _) fun _ => ?_
  dsimp only
  split
  · exact bind (apart_inTurns fun _ => rfl) fun _ => pure _
  · exact pure _

theorem current_inTurns (name : String) : InTurns (runTracker.current name) :=
  bind get fun _ => bind (known_inTurns _) fun _ => pure _

theorem runTracker_inTurns (name : String) (c : TrackerCommand) : InTurns (runTracker name c) := by
  unfold runTracker
  cases c with
  | make symbol config => exact makeTracker_inTurns _ _ _
  | drop => exact dropTracker_inTurns _
  | update avgPrice size => exact changeTracker_inTurns _ fun own t => t.update_byTurns own _
  | updateLine price size =>
    exact changeTracker_inTurns _ fun own t => t.updateLine_byTurns own _ _
  | levelMarker size => exact changeTracker_inTurns _ fun own t => t.levelMarker_byTurns own _
  | «show» => exact changeTracker_inTurns _ fun _ t => lift _
  | hide => exact changeTracker_inTurns _ fun _ t => pure _
  | hideInfo => exact changeTracker_inTurns _ fun _ t => pure _
  | fill f => exact changeTracker_inTurns _ fun _ t => t.recordFill_byTurns _
  | positionLine size level keepAs => exact makeLineOf_inTurns _ _ _ _
  | _ => exact bind (current_inTurns name) fun _ => pure _

theorem markerReply_inTurns (key : Nat) : InTurns (markerReply key) :=
  bind get fun _ => bind (known_inTurns _) fun _ => pure _

theorem changeMarker_inTurns (name : String) (f : Marker Nat → Marker Nat) :
    InTurns (changeMarker name f) :=
  bind get fun _ => bind (known_inTurns _) fun _ => bind (apart_inTurns fun _ => rfl) fun _ =>
    markerReply_inTurns _

theorem moveMarker_inTurns (name : String)
    {work : Nat → Marker Nat → ChartM Item Listener (Marker Nat)}
    (hwork : ∀ key m, OnChart (work key m)) : InTurns (moveMarker name work) :=
  bind get fun _ => bind (known_inTurns _) fun _ => bind (onChart_inTurns (hwork _ _)) fun _ =>
    bind (apart_inTurns fun _ => rfl) fun _ => markerReply_inTurns _

theorem placeNamed_inTurns (name : String) : InTurns (placeNamed name) :=
  bind get fun _ => bind (known_inTurns _) fun _ => bind (placeMarker_inTurns _ _) fun _ =>
    markerReply_inTurns _

theorem runMarker_inTurns (name : String) (c : MarkerCommand) : InTurns (runMarker name c) := by
  unfold runMarker
  cases c with
  | make arrow price size keepInView =>
    exact bind (allow_inTurns _) fun _ => bind get fun _ =>
      bind (apart_inTurns fun _ => rfl) fun _ => markerReply_inTurns _
  | drop =>
    exact bind get fun _ => bind (known_inTurns _) fun _ =>
      bind (apart_inTurns fun _ => rfl) fun _ => pure _
  | live price =>
    exact bind get fun _ => bind (known_inTurns _) fun _ =>
      bind (apart_inTurns fun _ => rfl) fun _ => markerReply_inTurns _
  | paint =>
    exact bind get fun _ => bind (known_inTurns _) fun _ =>
      bind (paintMarker_inTurns _ _) fun _ => markerReply_inTurns _
  | delete => exact moveMarker_inTurns _ fun _ m => m.withdraw_byTurns
  | enter => exact moveMarker_inTurns _ fun _ m => m.enter_byTurns _
  | connect => exact moveMarker_inTurns _ fun _ m => m.connect_byTurns _
  | link label =>
    exact bind get fun _ => bind (known_inTurns _) fun _ => bind get fun _ =>
      bind (known_inTurns _) fun _ => changeMarker_inTurns _ _
  | extent =>
    exact bind get fun _ => bind (known_inTurns _) fun _ => bind (allow_inTurns _) fun _ => pure _
  | describe => exact bind get fun _ => bind (known_inTurns _) fun _ => pure _
  | _ => exact changeMarker_inTurns _ _

theorem changeLabel_inTurns (name : String) (f : Scene → Label Anchor → Label Anchor) :
    InTurns (changeLabel name f) :=
  bind get fun _ => bind (known_inTurns _) fun _ => bind (apart_inTurns fun _ => rfl) fun _ =>
    pure _

theorem runLabel_inTurns (name : String) (c : LabelCommand) : InTurns (runLabel name c) := by
  unfold runLabel
  cases c with
  | make template fields color follows =>
    exact bind (onChart_inTurns (ByTurns.modify fun c => .edit c .countLabel)) fun _ =>
      bind (apart_inTurns fun _ => rfl) fun _ => pure _
  | drop => exact bind get fun _ => bind (apart_inTurns fun _ => rfl) fun _ => pure _
  | field field => exact bind get fun _ => bind (known_inTurns _) fun _ => pure _
  | anchor anchor =>
    exact bind get fun _ => bind (known_inTurns _) fun _ => bind get fun _ =>
      bind (known_inTurns _) fun _ => changeLabel_inTurns _ _
  | _ => exact changeLabel_inTurns _ _

theorem changeLine_inTurns (name : String) (f : Line → Except Fault Line) :
    InTurns (changeLine name f) :=
  bind get fun _ => bind (known_inTurns _) fun _ => bind (allow_inTurns _) fun _ =>
    bind (apart_inTurns fun _ => rfl) fun _ => pure _

theorem runLine_inTurns (name : String) (c : LineCommand) : InTurns (runLine name c) := by
  unfold runLine
  cases c with
  | make level color options =>
    exact bind (onChart_inTurns (modifyGet fun c => .edit c (.makeLine _ _ _))) fun _ =>
      bind (apart_inTurns fun _ => rfl) fun _ => pure _
  | delete =>
    exact bind get fun _ => bind (known_inTurns _) fun _ =>
      bind (onChart_inTurns (Tracker.deleteLine_byTurns _)) fun _ =>
        bind (apart_inTurns fun _ => rfl) fun _ => pure _
  | _ => exact changeLine_inTurns _ _

theorem runCounter_inTurns (name : String) (c : CounterCommand) : InTurns (runCounter name c) := by
  unfold runCounter
  cases c with
  | make visible =>
    exact bind get fun _ => bind (onChart_inTurns (modifyGet fun c => .edit c (.addItem _)))
      fun _ => bind (apart_inTurns fun _ => rfl) fun _ => pure _
  | setVisible visible =>
    exact bind get fun _ => bind (known_inTurns _) fun _ =>
      bind (apart_inTurns fun _ => rfl) fun _ => pure _
  | drop => exact bind get fun _ => bind (apart_inTurns fun _ => rfl) fun _ => pure _

/-! ## Commands -/

section Scripts

variable {runScript : String → List (String × Command) → SceneM Unit}
  (hscript : ∀ name actions, InTurns (runScript name actions))

include hscript

theorem runTick_inTurns (t : Tick) : InTurns (runTick runScript t) := by
  unfold runTick
  cases t with
  | range yMin yMax => exact bind (setView_inTurns hscript _) fun _ => bind get fun _ => pure _
  | height y => exact bind (setView_inTurns hscript _) fun _ => bind get fun _ => pure _
  | paint => exact bind paint_inTurns fun _ => bind get fun _ => pure _
  | place marker => exact placeNamed_inTurns _

theorem runWith_inTurns (c : Command) : InTurns (runWith runScript c) := by
  have hunsubscribe (n : Nat) : InTurns (onChart (modify (·.unsubscribe n))) :=
    onChart_inTurns (ByTurns.modify fun c => .unsubscribe c n)
  unfold runWith
  cases c with
  | tick t => exact runTick_inTurns hscript t
  | hold h t =>
    exact bind get fun _ => bind (apart_inTurns fun _ => rfl) fun _ =>
      bind (runTick_inTurns hscript t) fun _ => bind (apart_inTurns fun _ => rfl) fun _ =>
        bind get fun _ => pure _
  | dump => exact bind get fun _ => pure _
  | map p => exact bind get fun _ => pure _
  | range => exact bind get fun _ => pure _
  | removeItem n =>
    exact bind (onChart_inTurns (ByTurns.modify fun c => .edit c (.removeItem n))) fun _ => pure _
  | subscribe name actions =>
    exact bind (onChart_inTurns (modifyGet fun c => .subscribe c _)) fun _ =>
      bind (apart_inTurns fun _ => rfl) fun _ => pure _
  | unsubscribe name =>
    exact bind get fun _ => bind (known_inTurns _) fun _ => bind (hunsubscribe _) fun _ => pure _
  | unsubscribeId n => exact bind (hunsubscribe n) fun _ => pure _
  | tracker name c => exact runTracker_inTurns name c
  | marker name c => exact runMarker_inTurns name c
  | label name c => exact runLabel_inTurns name c
  | line name c => exact runLine_inTurns name c
  | counter name c => exact runCounter_inTurns name c
  | unknown => exact throw _

end Scripts

theorem attempt_inTurns {x : SceneM Reply} (hx : InTurns x) :
    InTurns (MonadState.modifyGet (attempt x) : SceneM Reply) := by
  refine modifyGet fun s => ?_
  unfold attempt
  split
  · rename_i h
    exact hx s _ _ h
  · exact .refl _

theorem runScript_inTurns (depth : Nat) (name : String) (actions : List (String × Command)) :
    InTurns (runScript depth name actions) := by
  induction depth generalizing name actions with
  | zero => exact pure _
  | succ depth ih =>
    exact bind (apart_inTurns fun _ => rfl) fun _ => forM fun _ =>
      bind (attempt_inTurns (runWith_inTurns ih _)) fun _ => apart_inTurns fun _ => rfl

/-- A command takes the chart of a scene through turns. -/
theorem run_reaches (s : Scene) (c : Command) : s.chart.Reaches (s.run c).2.chart :=
  attempt_inTurns (runWith_inTurns (runScript_inTurns s.depth) c) s _ _ rfl

end PositionOverlay.Scene
