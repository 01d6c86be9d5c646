import PositionOverlay.Proofs.Scene.Rounds

/-! # Moments of a run

While commands are obeyed, scripts give further commands and ranges change inside range changes. A
moment is a scene in the middle of this, with all that is left to do, the innermost first: listeners
that are still to hear, items that are still to be painted, actions that are still to be given.
Every run goes from moment to moment, and what it ends with is the last of them.
-/
namespace PositionOverlay.Scene

open Work

/-- What is left to do of something that has begun. -/
inductive Task where
  /-- Listeners that are still to hear of a range change. -/
  | calls (depth : Nat) (waiting : List (Nat × Listener))
  /-- The end of a range change, when those that it has called are put back. -/
  | restore (taken : List (Nat × Listener))
  /-- Items that are still to be painted. -/
  | paints (waiting : List (Nat × Item))
  /-- The end of a tick during which objects were held. -/
  | loosen (grip : Grip)
  /-- Actions that a script is still to give. -/
  | actions (depth : Nat) (name : String) (waiting : List (String × Command))
  /-- The record of an action that was a tick. -/
  | answer (name action : String)
  | commands (waiting : List Command)

/-- A scene and what is left to do on it, the innermost first. -/
structure Moment where
  tasks : List Task
  scene : Scene

/-- The scene with the view changed, and the round that this begins. -/
def beginRound (depth : Nat) (s : Scene) (f : View → View) : List Task × Scene :=
  ([.calls depth s.chart.listeners, .restore s.chart.listeners],
    { s with chart := { s.chart with view := f s.chart.view, listeners := [] } })

/-- The beginning of a tick that takes more than one step. -/
def beginTick (depth : Nat) (s : Scene) : Tick → Option (List Task × Scene)
  | .range yMin yMax => some (s.beginRound depth fun v => { v with yMin, yMax })
  | .height height => some (s.beginRound depth fun v => { v with height })
  | .paint => some ([.paints (s.chart.items.filter fun e => s.isPresent e.2)], s)
  | .place _ => none

/-- The beginning of a command that takes more than one step. -/
def begin (depth : Nat) (s : Scene) : Command → Option (List Task × Scene)
  | .tick t => s.beginTick depth t
  | .hold h t => ((changeHolders (s.gripOf h) (· + 1) s).beginTick depth t).map fun begun =>
      (begun.1 ++ [.loosen (s.gripOf h)], begun.2)
  | _ => none

/-- Subscriptions whose scripts do nothing. -/
def mute : String → List (String × Command) → SceneM Unit := fun _ _ => pure ()

/-- A command that takes a single step. -/
def obey (s : Scene) (c : Command) : Reply × Scene := attempt (runWith mute c) s

/-- The scene after work; work that fails changes nothing. -/
def after {α : Type} (s : Scene) (x : SceneM α) : Scene :=
  match x s with
  | .ok (_, s') => s'
  | .error _ => s

def recorded (s : Scene) (f : Firing) : Scene := { s with firings := s.firings.push f }

/-- One step of whatever is innermost. -/
def Moment.next : Moment → Moment
  | ⟨[], s⟩ => ⟨[], s⟩
  | ⟨.calls _ [] :: rest, s⟩ => ⟨rest, s⟩
  | ⟨.calls (depth + 1) ((_, .script name actions) :: waiting) :: rest, s⟩ =>
    ⟨.actions depth name actions :: .calls (depth + 1) waiting :: rest, s.recorded (.heard name)⟩
  | ⟨.calls depth (e :: waiting) :: rest, s⟩ =>
    ⟨.calls depth waiting :: rest, s.after (hear mute e.2)⟩
  | ⟨.restore taken :: rest, s⟩ => ⟨rest, { s with chart := s.chart.putListeners taken }⟩
  | ⟨.paints [] :: rest, s⟩ => ⟨rest, s⟩
  | ⟨.paints (e :: waiting) :: rest, s⟩ => ⟨.paints waiting :: rest, s.after (paintItem e.2)⟩
  | ⟨.loosen grip :: rest, s⟩ => ⟨rest, changeHolders grip (· - 1) s⟩
  | ⟨.actions _ _ [] :: rest, s⟩ => ⟨rest, s⟩
  | ⟨.actions depth name ((action, c) :: waiting) :: rest, s⟩ =>
    match s.begin depth c with
    | some (tasks, s) => ⟨tasks ++ .answer name action :: .actions depth name waiting :: rest, s⟩
    | none => ⟨.actions depth name waiting :: rest,
        (s.obey c).2.recorded (.acted name action (s.obey c).1)⟩
  | ⟨.answer name action :: rest, s⟩ => ⟨rest, s.recorded (.acted name action (.dump s.dump))⟩
  | ⟨.commands [] :: rest, s⟩ => ⟨rest, s⟩
  | ⟨.commands (c :: waiting) :: rest, s⟩ =>
    match s.begin s.depth c with
    | some (tasks, s) => ⟨tasks ++ .commands waiting :: rest, s⟩
    | none => ⟨.commands waiting :: rest, (s.obey c).2⟩

/-- The moment some steps later. -/
def Moment.later (m : Moment) (n : Nat) : Moment := Moment.next^[n] m

theorem Moment.later_succ (m : Moment) (n : Nat) : m.later (n + 1) = (m.later n).next :=
  Function.iterate_succ_apply' _ _ _

theorem Moment.later_add (m : Moment) (n k : Nat) : m.later (n + k) = (m.later k).later n :=
  Function.iterate_add_apply _ _ _ _

/-! ## Runs are made of moments -/

/-- The calls of a round. -/
abbrev callAll (depth : Nat) (waiting : List (Nat × Listener)) : SceneM Unit :=
  waiting.forM fun e => hear (runScript depth) e.2

/-- The actions of a script. -/
abbrev giveAll (depth : Nat) (name : String) (actions : List (String × Command)) : SceneM Unit :=
  actions.forM fun (action, c) => do
    let reply ← modifyGet (attempt (runWith (runScript depth) c))
    record (.acted name action reply)

/-- Some steps do all that the tasks ask for, whatever is to be done later. -/
def Leads (tasks : List Task) (s s' : Scene) : Prop :=
  ∀ rest, ∃ n, Moment.later ⟨tasks ++ rest, s⟩ n = ⟨rest, s'⟩

/-- Work that ends well, with the scene to which the tasks lead from another. -/
def AmountsTo (x : SceneM Unit) (s : Scene) (tasks : List Task) (s₁ : Scene) : Prop :=
  ∃ s', x s = .ok ((), s') ∧ Leads tasks s₁ s'

variable {tasks tasks' : List Task} {task : Task} {s s₁ s' : Scene} {c : Command} {depth : Nat}

theorem Leads.refl (s : Scene) : Leads [] s s := fun _ => ⟨0, rfl⟩

theorem Leads.trans (h : Leads tasks s s₁) (h' : Leads tasks' s₁ s') :
    Leads (tasks ++ tasks') s s' := by
  intro rest
  obtain ⟨n, hn⟩ := h (tasks' ++ rest)
  obtain ⟨n', hn'⟩ := h' rest
  refine ⟨n' + n, ?_⟩
  rw [Moment.later_add, List.append_assoc, hn, hn']

/-- A step and what it leaves to do. -/
theorem Leads.step (hstep : ∀ rest, Moment.next ⟨task :: rest, s⟩ = ⟨tasks ++ rest, s₁⟩)
    (h : Leads tasks s₁ s') : Leads [task] s s' := by
  intro rest
  obtain ⟨n, hn⟩ := h rest
  refine ⟨n + 1, ?_⟩
  rw [Moment.later, Function.iterate_succ_apply, List.singleton_append, hstep]
  exact hn

theorem Leads.done (hstep : ∀ rest, Moment.next ⟨task :: rest, s⟩ = ⟨rest, s'⟩) :
    Leads [task] s s' := by
  have hnone : Leads [] s' s' := .refl s'
  refine .step ?_ hnone
  exact hstep

theorem ignoresMarkers_true : IgnoresMarkers fun _ => True :=
  ⟨fun _ _ _ _ => trivial, fun _ _ _ => trivial, fun _ _ _ => trivial⟩

theorem after_of_ok {x : SceneM Unit} (h : x s = .ok ((), s')) : s.after x = s' := by
  rw [after, h]

theorem attempt_snd (x : SceneM Reply) (s : Scene) : (attempt x s).2 = s.after x := by
  unfold attempt after
  rcases x s with e | ⟨reply, s'⟩ <;> rfl

/-- Painting an item never fails. -/
theorem paintItem_total (i : Item) (s : Scene) : ∃ s', paintItem i s = .ok ((), s') := by
  cases i with
  | tracker key build =>
    rcases ht : s.tracker? key with _ | t
    · exact ⟨s, (bind_of_ok (get_run s) _).trans (by rw [ht]; rfl)⟩
    · obtain ⟨c, hrun, -⟩ := t.painted_eq s.chart
      refine ⟨{ s with chart := c, trackers := s.trackers.set key (t.repainted s.chart.view) }, ?_⟩
      refine (bind_of_ok (get_run s) _).trans ?_
      rw [ht]
      exact bind_of_ok (onChart_eq_ok.mpr ⟨c, hrun, rfl⟩) _
  | marker key =>
    obtain ⟨_, s', hrun, -⟩ := (paintItem_marker_upholds ignoresMarkers_true key).exists_ok trivial
      (s := s)
    exact ⟨s', hrun⟩
  | counter key => exact ⟨_, rfl⟩

theorem paints_amountTo (items : List (Nat × Item)) (s : Scene) :
    AmountsTo (items.forM fun e => paintItem e.2) s [.paints items] s := by
  induction items generalizing s with
  | nil => exact ⟨s, rfl, .done fun _ => rfl⟩
  | cons e items ih =>
    obtain ⟨s₁, hfirst⟩ := paintItem_total e.2 s
    obtain ⟨s', hrun, hleads⟩ := ih s₁
    refine ⟨s', (bind_of_ok hfirst _).trans hrun, .step (fun rest => ?_) hleads⟩
    rw [← after_of_ok hfirst]
    rfl

section Scripts

variable (hcalls : ∀ waiting s, AmountsTo (callAll depth waiting) s [.calls depth waiting] s)

include hcalls

/-- A change of the view is the round that it begins. -/
theorem setView_amountsTo (s : Scene) (f : View → View) :
    AmountsTo (setView (runScript depth) f) s (s.beginRound depth f).1
      (s.beginRound depth f).2 := by
  obtain ⟨s₁, hrun, hleads⟩ := hcalls s.chart.listeners (s.beginRound depth f).2
  refine ⟨{ s₁ with chart := s₁.chart.putListeners s.chart.listeners }, ?_, ?_⟩
  · refine (bind_of_ok rfl _).trans ?_
    refine (bind_of_ok rfl _).trans ?_
    exact bind_of_ok hrun _
  · exact hleads.trans (.done fun _ => rfl)

theorem leads_tick {t : Tick} (h : s.beginTick depth t = some (tasks, s₁)) :
    ∃ s', runTick (runScript depth) t s = .ok (.dump s'.dump, s') ∧ Leads tasks s₁ s' := by
  cases t with
  | range yMin yMax =>
    obtain ⟨rfl, rfl⟩ := Prod.mk.inj (Option.some.inj h)
    obtain ⟨s', hrun, hleads⟩ := setView_amountsTo hcalls s fun v => { v with yMin, yMax }
    exact ⟨s', bind_of_ok hrun _, hleads⟩
  | height y =>
    obtain ⟨rfl, rfl⟩ := Prod.mk.inj (Option.some.inj h)
    obtain ⟨s', hrun, hleads⟩ := setView_amountsTo hcalls s fun v => { v with height := y }
    exact ⟨s', bind_of_ok hrun _, hleads⟩
  | paint =>
    obtain ⟨rfl, rfl⟩ := Prod.mk.inj (Option.some.inj h)
    obtain ⟨s', hrun, hleads⟩ := paints_amountTo (s.chart.items.filter fun e => s.isPresent e.2) s
    have hpaint : paint s = .ok ((), s') := (bind_of_ok (get_run s) _).trans hrun
    exact ⟨s', bind_of_ok hpaint _, hleads⟩
  | place marker => exact nomatch h

/-- A command that takes more than one step is never refused. -/
theorem leads_command (h : s.begin depth c = some (tasks, s₁)) :
    ∃ s', runWith (runScript depth) c s = .ok (.dump s'.dump, s') ∧ Leads tasks s₁ s' := by
  cases c with
  | tick t => exact leads_tick hcalls h
  | hold holdings t =>
    obtain ⟨⟨begun, s₂⟩, hbegin, h⟩ := Option.map_eq_some_iff.mp h
    obtain ⟨rfl, rfl⟩ := Prod.mk.inj h
    obtain ⟨s', hrun, hleads⟩ := leads_tick hcalls hbegin
    refine ⟨changeHolders (s.gripOf holdings) (· - 1) s', ?_, hleads.trans (.done fun _ => rfl)⟩
    refine (bind_of_ok (get_run s) _).trans ?_
    refine (bind_of_ok rfl _).trans ?_
    exact bind_of_ok hrun _
  | _ => exact nomatch h

omit hcalls in
/-- Other commands do not ask what scripts do. -/
theorem attempt_of_begin (h : s.begin depth c = none)
    (runScript : String → List (String × Command) → SceneM Unit) :
    attempt (runWith runScript c) s = s.obey c := by
  cases c with
  | tick t =>
    cases t with
    | place marker => rfl
    | _ => exact nomatch h
  | hold holdings t =>
    cases t with
    | place marker => rfl
    | _ => exact nomatch h
  | _ => rfl

theorem actions_amountTo (name : String) (actions : List (String × Command)) (s : Scene) :
    AmountsTo (giveAll depth name actions) s [.actions depth name actions] s := by
  induction actions generalizing s with
  | nil => exact ⟨s, rfl, .done fun _ => rfl⟩
  | cons a actions ih =>
    obtain ⟨action, c⟩ := a
    rcases hbegin : s.begin depth c with _ | ⟨tasks, s₁⟩
    · have hfirst := attempt_of_begin hbegin (runScript depth)
      obtain ⟨s', hrun, hleads⟩ := ih ((s.obey c).2.recorded (.acted name action (s.obey c).1))
      refine ⟨s', ?_, .step (fun rest => ?_) hleads⟩
      · rw [← hfirst] at hrun
        exact hrun
      · simp only [Moment.next, hbegin, List.singleton_append]
    · obtain ⟨s₂, hfirst, hcommand⟩ := leads_command hcalls hbegin
      obtain ⟨s', hrun, hleads⟩ := ih (s₂.recorded (.acted name action (.dump s₂.dump)))
      have hattempt : attempt (runWith (runScript depth) c) s = (.dump s₂.dump, s₂) := by
        rw [attempt, hfirst]
      refine ⟨s', ?_, .step (fun rest => ?_)
        (hcommand.trans ((Leads.done fun _ => rfl : Leads [.answer name action] _ _).trans hleads))⟩
      · have hobeyed : (do
            let reply ← modifyGet (attempt (runWith (runScript depth) c))
            record (.acted name action reply) : SceneM Unit) s =
              .ok ((), s₂.recorded (.acted name action (.dump s₂.dump))) := by
          rw [bind_run, modifyGet_run, hattempt]
          rfl
        exact (bind_of_ok hobeyed _).trans hrun
      · simp [Moment.next, hbegin]

end Scripts

/-- A listener that hears of a range change has its part done in the step that calls it, or is a
script, whose actions are then innermost. -/
theorem hear_amountsTo
    (hinner : ∀ d, depth = d + 1 →
      ∀ waiting s, AmountsTo (callAll d waiting) s [.calls d waiting] s)
    (l : Listener) (s : Scene) :
    ∃ tasks s₁, AmountsTo (hear (runScript depth) l) s tasks s₁ ∧
      ∀ n waiting rest, Moment.next ⟨.calls depth ((n, l) :: waiting) :: rest, s⟩ =
        ⟨tasks ++ .calls depth waiting :: rest, s₁⟩ := by
  have hatOnce {s' : Scene} (h : hear mute l s = .ok ((), s')) : s.after (hear mute l) = s' :=
    after_of_ok h
  cases l with
  | tracker key build =>
    obtain ⟨_, s', hrun, -⟩ := (hear_tracker_upholds ignoresMarkers_true
      (fun _ _ _ => trivial) (runScript depth) key build).exists_ok (s := s) trivial
    refine ⟨[], s', ⟨s', hrun, .refl s'⟩, fun n waiting rest => ?_⟩
    rw [← hatOnce hrun]
    cases depth <;> rfl
  | marker key =>
    obtain ⟨_, s', hrun, -⟩ := (hear_marker_upholds ignoresMarkers_true (runScript depth)
      key).exists_ok (s := s) trivial
    refine ⟨[], s', ⟨s', hrun, .refl s'⟩, fun n waiting rest => ?_⟩
    rw [← hatOnce hrun]
    cases depth <;> rfl
  | script name actions =>
    cases depth with
    | zero => exact ⟨[], s, ⟨s, rfl, .refl s⟩, fun _ _ _ => rfl⟩
    | succ depth =>
      obtain ⟨s', hrun, hleads⟩ :=
        actions_amountTo (hinner depth rfl) name actions (s.recorded (.heard name))
      exact ⟨_, _, ⟨s', hrun, hleads⟩, fun _ _ _ => rfl⟩

/-- Listeners that hear of a range change, by induction on how deeply their scripts are nested. -/
theorem calls_amountTo (depth : Nat) (waiting : List (Nat × Listener)) (s : Scene) :
    AmountsTo (callAll depth waiting) s [.calls depth waiting] s := by
  induction depth using Nat.strongRecOn generalizing waiting s with
  | ind depth hdepth =>
    induction waiting generalizing s with
    | nil => exact ⟨s, rfl, .done fun _ => rfl⟩
    | cons e waiting ih =>
      have hinner (d : Nat) (hd : depth = d + 1) := hdepth d (by omega)
      obtain ⟨tasks, s₁, ⟨s₂, hfirst, hcall⟩, hstep⟩ := hear_amountsTo hinner e.2 s
      obtain ⟨s', hrun, hleads⟩ := ih s₂
      refine ⟨s', (bind_of_ok hfirst _).trans hrun, .step (fun rest => ?_) (hcall.trans hleads)⟩
      rw [List.append_assoc]
      exact hstep e.1 waiting rest

/-- Commands that are obeyed one after the other. -/
theorem leads_commands (cs : List Command) (s : Scene) :
    Leads [.commands cs] s (s.runAll cs) := by
  induction cs generalizing s with
  | nil => exact .done fun _ => rfl
  | cons c cs ih =>
    have hrest : Leads [.commands cs] (s.run c).2 (s.runAll (c :: cs)) := ih (s.run c).2
    rcases hbegin : s.begin s.depth c with _ | ⟨tasks, s₁⟩
    · refine .step (fun rest => ?_) hrest
      have hrun : s.run c = s.obey c := attempt_of_begin hbegin (runScript s.depth)
      simp only [Moment.next, hbegin, List.singleton_append, hrun]
    · obtain ⟨s', hrun, hleads⟩ := leads_command (calls_amountTo s.depth) hbegin
      have hfirst : (s.run c).2 = s' := by rw [run, attempt, hrun]
      rw [hfirst] at hrest
      refine .step (fun rest => ?_) (hleads.trans hrest)
      simp [Moment.next, hbegin]

/-- A run is over after some steps, and has left the scene that they have made. -/
theorem exists_later (cs : List Command) (s : Scene) :
    ∃ n, Moment.later ⟨[.commands cs], s⟩ n = ⟨[], s.runAll cs⟩ :=
  leads_commands cs s []

/-! ## What holds at every moment -/

/-- What is kept by each step that is taken at once holds at every later moment. -/
structure Lasting (I : Scene → Prop) : Prop where
  chart : ∀ s c, I s → I { s with chart := c }
  recorded : ∀ s f, I s → I (s.recorded f)
  changeHolders : ∀ s g f, I s → I (s.changeHolders g f)
  hear : ∀ s l, I s → I (s.after (hear mute l))
  paintItem : ∀ s i, I s → I (s.after (paintItem i))
  obey : ∀ s c, I s → I (s.obey c).2

namespace Lasting

variable {I : Scene → Prop}

theorem beginTick (hI : Lasting I) (hs : I s) {t : Tick}
    (h : s.beginTick depth t = some (tasks, s₁)) : I s₁ := by
  cases t with
  | range yMin yMax =>
    obtain ⟨-, rfl⟩ := Prod.mk.inj (Option.some.inj h)
    exact hI.chart s _ hs
  | height y =>
    obtain ⟨-, rfl⟩ := Prod.mk.inj (Option.some.inj h)
    exact hI.chart s _ hs
  | paint =>
    obtain ⟨-, rfl⟩ := Prod.mk.inj (Option.some.inj h)
    exact hs
  | place marker => exact nomatch h

theorem begin (hI : Lasting I) (hs : I s) (h : s.begin depth c = some (tasks, s₁)) : I s₁ := by
  cases c with
  | tick t => exact hI.beginTick hs h
  | hold holdings t =>
    obtain ⟨begun, hbegin, h⟩ := Option.map_eq_some_iff.mp h
    obtain ⟨-, rfl⟩ := Prod.mk.inj h
    exact hI.beginTick (hI.changeHolders s _ _ hs) hbegin
  | _ => exact nomatch h

theorem next (hI : Lasting I) {m : Moment} (hm : I m.scene) : I m.next.scene := by
  obtain ⟨tasks, s⟩ := m
  cases tasks with
  | nil => exact hm
  | cons task rest =>
    cases task with
    | calls depth waiting =>
      cases waiting with
      | nil => exact hm
      | cons e waiting =>
        obtain ⟨n, l⟩ := e
        have hheard := hI.hear s l hm
        cases depth with
        | zero => cases l <;> exact hheard
        | succ depth =>
          cases l with
          | script name actions => exact hI.recorded s _ hm
          | _ => exact hheard
    | restore taken => exact hI.chart s _ hm
    | paints waiting =>
      cases waiting with
      | nil => exact hm
      | cons e waiting => exact hI.paintItem s e.2 hm
    | loosen grip => exact hI.changeHolders s grip (· - 1) hm
    | actions depth name waiting =>
      cases waiting with
      | nil => exact hm
      | cons a waiting =>
        simp only [Moment.next]
        rcases hbegin : s.begin depth a.2 with _ | ⟨tasks, s₁⟩
        · exact hI.recorded _ _ (hI.obey s a.2 hm)
        · exact hI.begin hm hbegin
    | answer name action => exact hI.recorded s _ hm
    | commands waiting =>
      cases waiting with
      | nil => exact hm
      | cons c waiting =>
        simp only [Moment.next]
        rcases hbegin : s.begin s.depth c with _ | ⟨tasks, s₁⟩
        · exact hI.obey s c hm
        · exact hI.begin hm hbegin

theorem later (hI : Lasting I) {m : Moment} (hm : I m.scene) (n : Nat) : I (m.later n).scene := by
  induction n with
  | zero => exact hm
  | succ n ih =>
    rw [m.later_succ]
    exact hI.next ih

end Lasting

end PositionOverlay.Scene
