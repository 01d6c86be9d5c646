import PositionOverlay.Proofs.Scene.Commands
import PositionOverlay.Proofs.Scene.Markers
import PositionOverlay.Proofs.Scene.Registry
import PositionOverlay.Proofs.Scene.Subscriptions
import PositionOverlay.Proofs.Tracker.Safety

/-! # Scenes do not fault

Commands to trackers, ticks and subscriptions may be refused because a name is unknown, but never
because of a fault, however deeply the subscriptions of a scene are nested. What holds between
commands is that the lines of all trackers are whole, and that the scripts on the chart hold such
commands only.
-/
namespace PositionOverlay

/-- A command to a tracker that can be made and keeps its marker. -/
def TrackerCommand.lawful : TrackerCommand → Bool
  | .make _ config => config.isBuildable
  | .levelMarker _ => false
  | _ => true

/-- A tick of the whole chart. -/
def Tick.lawful : Tick → Bool
  | .place _ => false
  | _ => true

mutual

/-- A command that concerns trackers, ticks, subscriptions and items. -/
def Command.lawful : Command → Bool
  | .tick t => t.lawful
  | .hold _ t => t.lawful
  | .subscribe _ actions => lawfulActions actions
  | .tracker _ c => c.lawful
  | .marker _ _ => false
  | .label _ _ => false
  | .line _ _ => false
  | _ => true

def lawfulActions : List (String × Command) → Bool
  | [] => true
  | (_, c) :: rest => c.lawful && lawfulActions rest

end

theorem lawful_of_mem {actions : List (String × Command)} (h : lawfulActions actions = true)
    {e : String × Command} (he : e ∈ actions) : e.2.lawful = true := by
  induction actions with
  | nil => exact nomatch he
  | cons a rest ih =>
    obtain ⟨ha, hrest⟩ := Bool.and_eq_true_iff.mp h
    rcases List.mem_cons.mp he with rfl | he
    · exact ha
    · exact ih hrest he

namespace Scene

open Work Tracker

def Reply.isFault : Reply → Bool
  | .refused (.fault _) => true
  | _ => false

def Firing.isFault : Firing → Bool
  | .acted _ _ reply => reply.isFault
  | .heard _ => false

/-- A listener of a tracker or a marker, or a script of lawful commands. -/
def Listener.Lawful : Listener → Prop
  | .script _ actions => lawfulActions actions = true
  | _ => True

/-- A scene in which nothing can fault, and nothing has. -/
structure Safe (s : Scene) : Prop where
  trackers : s.trackers.All Whole
  listeners : s.chart.Hosts Listener.Lawful
  firings : ∀ f ∈ s.firings.toList, f.isFault = false

theorem safe_empty (view : View) : (empty view).Safe where
  trackers := Registry.all_empty
  listeners := by simp [Chart.Hosts, empty, Chart.empty]
  firings := by simp [empty]

variable {s : Scene} {α : Type} {name : String}

theorem Safe.tracker? (h : s.Safe) {key : Nat} {t : Tracker} (ht : s.tracker? key = some t) :
    t.Whole :=
  h.trackers (Registry.get?_of_reach? ht)

theorem Safe.find? (h : s.Safe) {p : Nat × Tracker} (hp : s.trackers.find? name = some p) :
    p.2.Whole :=
  h.trackers (Registry.get?_of_find? hp)

/-- Nothing else in a scene counts. -/
theorem Safe.congr {s' : Scene} (h : s.Safe) (hc : s'.chart = s.chart)
    (ht : s'.trackers = s.trackers) (hf : s'.firings = s.firings) : s'.Safe where
  trackers := ht ▸ h.trackers
  listeners := hc ▸ h.listeners
  firings := hf ▸ h.firings

/-- Work that leaves a scene safe and never faults. Its result is such that `Q` holds. -/
abbrev Harmless (x : SceneM α) (Q : α → Prop) : Prop := Upholds Safe (· = .unknown) x Q

theorem known_harmless (x : Option α) : Harmless (known x) fun a => x = some a := by
  cases x with
  | none => exact .throw rfl
  | some a => exact .pure rfl

theorem onChart_harmless {x : ChartM Item Listener α} {Q : α → Prop}
    (hx : Unfailing Listener.Lawful x Q) : Harmless (onChart x) Q := by
  intro s hs
  have h := hx hs.listeners
  unfold onChart
  rcases hrun : x s.chart with f | ⟨a, c⟩ <;> rw [hrun] at h
  · exact h.elim
  · exact ⟨h.1, hs.trackers, h.2, hs.firings⟩

/-- Work that concerns neither the chart nor the trackers. -/
theorem aside_harmless {f : Scene → Scene} (hf : ∀ s, (f s).chart = s.chart ∧
    (f s).trackers = s.trackers ∧ (f s).firings = s.firings) :
    Harmless (modify f) fun _ => True :=
  .modify fun s hs => hs.congr (hf s).1 (hf s).2.1 (hf s).2.2

theorem setTracker_harmless (key : Nat) {t : Tracker} (ht : t.Whole) :
    Harmless (setTracker key t) fun _ => True :=
  .modify fun _ hs => ⟨hs.trackers.set key ht, hs.listeners, hs.firings⟩

/-! ## Ticks -/

theorem ignoresMarkers_safe : IgnoresMarkers Safe where
  chart _ _ hs hc := ⟨hs.trackers, hs.listeners.noted hc, hs.firings⟩
  markers _ _ hs := hs.congr rfl rfl rfl
  labels _ _ hs := hs.congr rfl rfl rfl

theorem paintItem_harmless (i : Item) : Harmless (paintItem i) fun _ => True := by
  cases i with
  | tracker key build =>
    refine Upholds.get.bind fun s hs => ?_
    split
    · rename_i t ht
      refine .bind (onChart_harmless (painted_unfailing (hs.tracker? ht))) fun t' ht' => ?_
      exact setTracker_harmless key ht'
    · exact .pure trivial
  | marker key => exact paintItem_marker_upholds ignoresMarkers_safe key
  | counter key =>
    apply aside_harmless
    intro s
    split
    · split_ifs <;> exact ⟨rfl, rfl, rfl⟩
    · exact ⟨rfl, rfl, rfl⟩

theorem paint_harmless : Harmless paint fun _ => True :=
  Upholds.get.bind fun _ _ => .forM fun e _ => paintItem_harmless e.2

section Scripts

variable {runScript : String → List (String × Command) → SceneM Unit}
  (hscript : ∀ name actions, lawfulActions actions = true →
    Harmless (runScript name actions) fun _ => True)

include hscript

theorem hear_harmless {l : Listener} (hl : l.Lawful) :
    Harmless (hear runScript l) fun _ => True := by
  cases l with
  | tracker key build =>
    refine Upholds.get.bind fun s hs => ?_
    split
    · rename_i t ht
      split_ifs
      · refine .bind (onChart_harmless (rangeChanged_unfailing (hs.tracker? ht))) fun t' ht' => ?_
        exact setTracker_harmless key ht'
      · exact .pure trivial
    · exact .pure trivial
  | marker key => exact hear_marker_upholds ignoresMarkers_safe runScript key
  | script name actions => exact hscript name actions hl

/-- The listeners that a change of the view takes off the chart are put back after their calls. -/
theorem setView_harmless (f : View → View) :
    Harmless (setView runScript f) fun _ => True := by
  have htake : Unfailing Listener.Lawful
      (MonadState.modifyGet (·.takeListeners) : ChartM Item Listener (List (Nat × Listener)))
      fun running => ∀ e ∈ running, e.2.Lawful :=
    .modifyGet fun c hc => ⟨hc, nofun⟩
  have hput (running : List (Nat × Listener)) (hrunning : ∀ e ∈ running, e.2.Lawful) :
      Unfailing Listener.Lawful
        (modify (·.putListeners running) : ChartM Item Listener PUnit) fun _ => True :=
    .modify fun c hc => hc.putListeners hrunning
  refine .bind (.modify fun s hs => ⟨hs.trackers, hs.listeners, hs.firings⟩) fun _ _ => ?_
  refine .bind (onChart_harmless htake) fun running hrunning => ?_
  refine .bind (.forM fun e he => hear_harmless hscript (hrunning e he)) fun _ _ => ?_
  exact onChart_harmless (hput running hrunning)

theorem runTick_harmless {t : Tick} (ht : t.lawful = true) :
    Harmless (runTick runScript t) (·.isFault = false) := by
  cases t with
  | range yMin yMax =>
    exact (setView_harmless hscript _).bind fun _ _ => Upholds.get.bind fun _ _ => .pure rfl
  | height height =>
    exact (setView_harmless hscript _).bind fun _ _ => Upholds.get.bind fun _ _ => .pure rfl
  | paint => exact paint_harmless.bind fun _ _ => Upholds.get.bind fun _ _ => .pure rfl
  | place marker => exact nomatch ht

end Scripts

/-! ## Trackers -/

theorem changeTracker_harmless (name : String)
    {work : Entrance Item Listener → Tracker → ChartM Item Listener Tracker}
    (hwork : ∀ key t, t.Whole → Unfailing Listener.Lawful (work (entrance key) t) Whole) :
    Harmless (changeTracker name work) (·.isFault = false) := by
  refine Upholds.get.bind fun s hs => (known_harmless _).bind fun p hp => ?_
  refine .bind (onChart_harmless (hwork p.1 p.2 (hs.find? hp))) fun t ht => ?_
  exact (setTracker_harmless p.1 ht).bind fun _ _ => .pure rfl

theorem retire_harmless (t : Tracker) : Harmless (retire t) fun _ => True :=
  .bind (onChart_harmless t.drop_unfailing) fun _ _ => .pure trivial

theorem makeTracker_harmless (name symbol : String) {config : OverlayConfig}
    (hconfig : config.isBuildable = true) :
    Harmless (makeTracker name symbol config) (·.isFault = false) := by
  refine Upholds.get.bind fun s hs => ?_
  refine .bind (onChart_harmless (create_unfailing (entrance s.trackers.nextKey) symbol hconfig))
    fun t ht => ?_
  refine .bind (.modify fun s hs => ⟨hs.trackers.add name ht, hs.listeners, hs.firings⟩)
    fun _ _ => ?_
  dsimp only
  split
  · exact (retire_harmless _).bind fun _ _ => .pure rfl
  · exact .pure rfl

theorem dropTracker_harmless (name : String) :
    Harmless (dropTracker name) (·.isFault = false) := by
  refine Upholds.get.bind fun s hs => ?_
  split
  · exact .pure rfl
  · refine .bind (.modify fun s hs => ⟨hs.trackers.drop name, hs.listeners, hs.firings⟩)
      fun _ _ => ?_
    exact (retire_harmless _).bind fun _ _ => .pure rfl

theorem makeLineOf_harmless (name : String) (size level : Float) (keepAs : Option String) :
    Harmless (makeLineOf name size level keepAs) (·.isFault = false) := by
  refine Upholds.get.bind fun s hs => (known_harmless _).bind fun p hp => ?_
  have hown : ∀ build, ((entrance p.1).listener build).Lawful := fun _ => trivial
  refine .bind (onChart_harmless (positionLine_unfailing hown (hs.find? hp) size level))
    fun made hmade => ?_
  refine (setTracker_harmless p.1 hmade.2).bind fun _ _ => ?_
  dsimp only
  split
  · exact .bind (aside_harmless fun _ => ⟨rfl, rfl, rfl⟩) fun _ _ => .pure rfl
  · exact .pure rfl

theorem runTracker_harmless (name : String) {c : TrackerCommand} (hc : c.lawful = true) :
    Harmless (runTracker name c) (·.isFault = false) := by
  have hown (key : Nat) : ∀ build, ((entrance key).listener build).Lawful := fun _ => trivial
  have hcurrent : Harmless (runTracker.current name) fun _ => True :=
    Upholds.get.bind fun _ _ => (known_harmless _).bind fun _ _ => .pure trivial
  unfold runTracker
  cases c with
  | make symbol config => exact makeTracker_harmless name symbol hc
  | drop => exact dropTracker_harmless name
  | update avgPrice size =>
    exact changeTracker_harmless name fun key t ht => update_unfailing (hown key) ht _
  | updateLine price size =>
    exact changeTracker_harmless name fun key t ht => updateLine_unfailing (hown key) ht _ _
  | levelMarker size => exact nomatch hc
  | «show» => exact changeTracker_harmless name fun key t ht => show_unfailing ht
  | hide => exact changeTracker_harmless name fun key t ht => .pure ht.hide
  | hideInfo => exact changeTracker_harmless name fun key t ht => .pure (ht.congr rfl)
  | fill f => exact changeTracker_harmless name fun key t ht => recordFill_unfailing ht f
  | positionLine size level keepAs => exact makeLineOf_harmless name size level keepAs
  | _ => exact hcurrent.bind fun _ _ => .pure rfl

theorem runCounter_harmless (name : String) (c : CounterCommand) :
    Harmless (runCounter name c) (·.isFault = false) := by
  unfold runCounter
  cases c with
  | make visible =>
    refine Upholds.get.bind fun s _ => ?_
    refine .bind (Q := fun _ => True) (onChart_harmless ?_) fun _ _ => ?_
    · exact .modifyGet fun c hc => ⟨trivial, hc.congr rfl⟩
    · exact .bind (aside_harmless fun _ => ⟨rfl, rfl, rfl⟩) fun _ _ => .pure rfl
  | setVisible visible =>
    refine Upholds.get.bind fun s _ => (known_harmless _).bind fun p _ => ?_
    exact .bind (aside_harmless fun _ => ⟨rfl, rfl, rfl⟩) fun _ _ => .pure rfl
  | drop =>
    refine Upholds.get.bind fun s _ => ?_
    exact .bind (aside_harmless fun _ => ⟨rfl, rfl, rfl⟩) fun _ _ => .pure rfl

/-! ## Commands -/

/-- It does not matter who holds on to what. -/
theorem Safe.changeHolders (h : s.Safe) (g : Grip) (f : Nat → Nat) :
    (s.changeHolders g f).Safe := by
  refine ⟨?_, h.listeners, h.firings⟩
  apply Registry.All.modify
  · apply Registry.All.modify
    · exact h.trackers.modify g.trackerMarkers fun t ht => ht.congr rfl
    · exact fun t ht => ht.congr rfl
  · exact fun t ht => ht.congr rfl

theorem runWith_harmless {runScript : String → List (String × Command) → SceneM Unit}
    (hscript : ∀ name actions, lawfulActions actions = true →
      Harmless (runScript name actions) fun _ => True)
    {c : Command} (hc : c.lawful = true) :
    Harmless (runWith runScript c) (·.isFault = false) := by
  have hunsubscribe (n : Nat) : Harmless (onChart (modify (·.unsubscribe n))) fun _ => True :=
    onChart_harmless (.modify fun c hc => hc.unsubscribe n)
  unfold runWith
  cases c with
  | tick t => exact runTick_harmless hscript hc
  | hold h t =>
    refine Upholds.get.bind fun s _ => ?_
    refine .bind (.modify fun s hs => hs.changeHolders _ _) fun _ _ => ?_
    refine (runTick_harmless hscript hc).bind fun _ _ => ?_
    refine .bind (.modify fun s hs => hs.changeHolders _ _) fun _ _ => ?_
    exact Upholds.get.bind fun _ _ => .pure rfl
  | dump => exact Upholds.get.bind fun _ _ => .pure rfl
  | map p => exact Upholds.get.bind fun _ _ => .pure rfl
  | range => exact Upholds.get.bind fun _ _ => .pure rfl
  | removeItem n =>
    exact .bind (onChart_harmless (.modify fun c hc => hc.congr rfl)) fun _ _ => .pure rfl
  | subscribe name actions =>
    refine .bind (Q := fun _ => True) (onChart_harmless ?_) fun _ _ => ?_
    · exact .modifyGet fun c hc' => ⟨trivial, hc'.subscribe hc⟩
    · exact .bind (aside_harmless fun _ => ⟨rfl, rfl, rfl⟩) fun _ _ => .pure rfl
  | unsubscribe name =>
    refine Upholds.get.bind fun s _ => (known_harmless _).bind fun n _ => ?_
    exact (hunsubscribe n).bind fun _ _ => .pure rfl
  | unsubscribeId n => exact (hunsubscribe n).bind fun _ _ => .pure rfl
  | tracker name c => exact runTracker_harmless name hc
  | counter name c => exact runCounter_harmless name c
  | unknown => exact .throw rfl
  | _ => exact nomatch hc

/-- The reply to harmless work is no fault, even when it is refused. -/
theorem attempt_harmless {x : SceneM Reply} (hx : Harmless x (·.isFault = false)) :
    Harmless (MonadState.modifyGet (attempt x)) (·.isFault = false) := by
  refine .modifyGet fun s hs => ?_
  have h := hx hs
  unfold attempt
  rcases hrun : x s with e | ⟨reply, s'⟩ <;> rw [hrun] at h
  · subst h
    exact ⟨rfl, hs⟩
  · exact h

theorem record_harmless {f : Firing} (hf : f.isFault = false) :
    Harmless (record f) fun _ => True := by
  refine .modify fun s hs => ⟨hs.trackers, hs.listeners, ?_⟩
  rw [Array.toList_push]
  exact List.forall_mem_append.mpr ⟨hs.firings, List.forall_mem_singleton.mpr hf⟩

theorem runScript_harmless (depth : Nat) (name : String) (actions : List (String × Command))
    (h : lawfulActions actions = true) : Harmless (runScript depth name actions) fun _ => True := by
  induction depth generalizing name actions with
  | zero => exact .pure trivial
  | succ depth ih =>
    refine (record_harmless rfl).bind fun _ _ => .forM fun e he => ?_
    refine .bind (attempt_harmless (runWith_harmless ih (lawful_of_mem h he))) fun reply hr => ?_
    exact record_harmless hr

/-- A lawful command leaves a safe scene safe, and the reply to it is no fault. -/
theorem Safe.run (h : s.Safe) {c : Command} (hc : c.lawful = true) :
    (s.run c).1.isFault = false ∧ (s.run c).2.Safe :=
  attempt_harmless (runWith_harmless (runScript_harmless s.depth) hc) h

theorem Safe.runAll (h : s.Safe) {cs : List Command} (hcs : ∀ c ∈ cs, c.lawful = true) :
    (s.runAll cs).Safe := by
  induction cs generalizing s with
  | nil => exact h
  | cons c cs ih =>
    obtain ⟨hc, hcs⟩ := List.forall_mem_cons.mp hcs
    exact ih (h.run hc).2 hcs

end Scene

end PositionOverlay
