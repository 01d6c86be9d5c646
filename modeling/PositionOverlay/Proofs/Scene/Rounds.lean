import PositionOverlay.Proofs.Chart.Settlement
import PositionOverlay.Proofs.Scene.Commands
import PositionOverlay.Proofs.Scene.Markers
import PositionOverlay.Proofs.Scene.Subscriptions

/-! # Changes of the view

A change of the view calls each listener that is on the chart when it begins, once and in the order
of their numbers. If the scripts among them add and remove items and subscriptions and do nothing
else, then the subscriptions at its end are those at its beginning after all that the scripts have
done, except those that were marked before it began.
-/
namespace PositionOverlay

/-- A command that does no more than to add or remove an item or a subscription. -/
def Command.registers : Command → Bool
  | .subscribe _ _ => true
  | .unsubscribe _ => true
  | .unsubscribeId _ => true
  | .removeItem _ => true
  | .counter _ (.make _) => true
  | _ => false

/-- A change of the view. -/
def Tick.changesView : Tick → Bool
  | .range _ _ => true
  | .height _ => true
  | _ => false

namespace Scene

open Work

/-- What has been done about subscriptions by a command with such a reply. -/
def dealsOf : Command → Reply → List (Deal Listener)
  | .subscribe name actions, .number n => [.join n (.script name actions)]
  | .unsubscribe _, .number n => [.leave n]
  | .unsubscribeId _, .number n => [.leave n]
  | _, _ => []

def Listener.actions : Listener → List (String × Command)
  | .script _ actions => actions
  | _ => []

/-- The scripts of the listener do no more than to add and remove items and subscriptions. -/
def Listener.Registers (l : Listener) : Prop := ∀ a ∈ l.actions, a.2.registers = true

instance (l : Listener) : Decidable l.Registers :=
  inferInstanceAs (Decidable (∀ a ∈ l.actions, a.2.registers = true))

/-- A listener that has been called, and the replies to its actions. -/
structure Call where
  listener : Listener
  replies : List Reply

namespace Call

/-- Each action has a reply. -/
def Complete (call : Call) : Prop := call.replies.length = call.listener.actions.length

/-- What is recorded of a call. -/
def firings : Call → List Firing
  | ⟨.script name actions, replies⟩ =>
    .heard name :: actions.zipWith (fun a reply => .acted name a.1 reply) replies
  | _ => []

/-- What the call has done about subscriptions. -/
def deals (call : Call) : List (Deal Listener) :=
  (call.listener.actions.zipWith (fun a reply => dealsOf a.2 reply) call.replies).flatten

end Call

/-! ## One round -/

/-- The chart in a round that has taken some listeners. -/
def dispatch (taken : List (Nat × Listener)) (s : Scene) : Dispatch Item Listener :=
  ⟨s.chart, [⟨taken, taken⟩]⟩

/-- The later scene has come about by deals, one after the other, and their record. -/
structure Follows (taken : List (Nat × Listener)) (s : Scene) (deals : List (Deal Listener))
    (record : List Firing) (s' : Scene) : Prop where
  ascending : (s.dispatch taken).Ascending → (s'.dispatch taken).Ascending
  standing : (s.dispatch taken).Ascending →
    s'.chart.standing taken = deals.foldl Deal.settle (s.chart.standing taken)
  firings : s'.firings.toList = s.firings.toList ++ record

variable {taken : List (Nat × Listener)} {s s' s'' : Scene} {ds ds' : List (Deal Listener)}
  {fs fs' : List Firing} {c : Command}

theorem Follows.trans (h : s.Follows taken ds fs s') (h' : s'.Follows taken ds' fs' s'') :
    s.Follows taken (ds ++ ds') (fs ++ fs') s'' where
  ascending ha := h'.ascending (h.ascending ha)
  standing ha := by rw [h'.standing (h.ascending ha), h.standing ha, List.foldl_append]
  firings := by rw [h'.firings, h.firings, List.append_assoc]

/-- Nothing was done about subscriptions. -/
theorem Follows.of_still (hl : s'.chart.listeners = s.chart.listeners)
    (hc : s'.chart.cancelled = s.chart.cancelled) (hid : s.chart.nextId ≤ s'.chart.nextId)
    (hf : s'.firings = s.firings) : s.Follows taken [] [] s' where
  ascending ha := ha.congr (congrArg (List.map Prod.fst) hl) hid
  standing _ := by rw [Chart.standing_eq, Chart.standing_eq, hl, hc, List.foldl_nil]
  firings := by rw [hf, List.append_nil]

theorem Follows.refl (taken : List (Nat × Listener)) (s : Scene) : s.Follows taken [] [] s :=
  .of_still rfl rfl (Nat.le_refl _) rfl

theorem follows_record (f : Firing) :
    s.Follows taken [] [f] { s with firings := s.firings.push f } where
  ascending := id
  standing _ := rfl
  firings := Array.toList_push

theorem follows_unsubscribe (n : Nat) :
    s.Follows taken [.leave n] [] { s with chart := s.chart.unsubscribe n } where
  ascending ha := ha.unsubscribe n
  standing ha := Chart.standing_unsubscribe (Chart.nodup_of_ascending ha) n
  firings := (List.append_nil _).symm

/-- A command that is obeyed has done what its reply tells, and nothing if it is refused. -/
theorem attempt_follows (taken : List (Nat × Listener))
    (runScript : String → List (String × Command) → SceneM Unit) (hc : c.registers = true)
    (s : Scene) :
    s.Follows taken (dealsOf c (attempt (runWith runScript c) s).1) []
      (attempt (runWith runScript c) s).2 := by
  cases c with
  | removeItem n => exact .of_still rfl rfl (Nat.le_refl _) rfl
  | subscribe name actions =>
    exact {
      ascending := fun ha => ha.subscribe _
      standing := fun _ => s.chart.standing_subscribe taken _
      firings := (List.append_nil _).symm }
  | unsubscribe name =>
    cases hn : s.subscriptions.reverse.lookup name with
    | none =>
      have hrun : attempt (runWith runScript (.unsubscribe name)) s =
          (.refused .unknown, s) := by
        simp only [attempt, runWith, bind_run, get_run, hn]
        rfl
      rw [hrun]
      exact .refl taken s
    | some n =>
      have hrun : attempt (runWith runScript (.unsubscribe name)) s =
          (.number n, { s with chart := s.chart.unsubscribe n }) := by
        simp only [attempt, runWith, bind_run, get_run, hn]
        rfl
      rw [hrun]
      exact follows_unsubscribe n
  | unsubscribeId n => exact follows_unsubscribe n
  | counter name command =>
    cases command with
    | make visible => exact .of_still rfl rfl (Nat.le_succ _) rfl
    | _ => exact nomatch hc
  | _ => exact nomatch hc

/-- A script gives one command after the other. -/
theorem actions_follow (taken : List (Nat × Listener))
    (runScript : String → List (String × Command) → SceneM Unit) (name : String)
    {actions : List (String × Command)} (h : ∀ a ∈ actions, a.2.registers = true) (s : Scene) :
    ∃ replies s', replies.length = actions.length ∧
      (actions.forM fun (action, c) => do
        let reply ← modifyGet (attempt (runWith runScript c))
        record (.acted name action reply) : SceneM Unit) s = .ok ((), s') ∧
      s.Follows taken (actions.zipWith (fun a reply => dealsOf a.2 reply) replies).flatten
        (actions.zipWith (fun a reply => .acted name a.1 reply) replies) s' := by
  induction actions generalizing s with
  | nil => exact ⟨[], s, rfl, rfl, .refl taken s⟩
  | cons a actions ih =>
    obtain ⟨ha, hactions⟩ := List.forall_mem_cons.mp h
    have hfirst := (attempt_follows taken runScript ha s).trans
      (follows_record (.acted name a.1 (attempt (runWith runScript a.2) s).1))
    obtain ⟨replies, s', hlength, hrun, hrest⟩ := ih hactions
      { (attempt (runWith runScript a.2) s).2 with
        firings := (attempt (runWith runScript a.2) s).2.firings.push
          (.acted name a.1 (attempt (runWith runScript a.2) s).1) }
    refine ⟨(attempt (runWith runScript a.2) s).1 :: replies, s', by simp [hlength], ?_, ?_⟩
    · exact (bind_of_ok rfl _).trans hrun
    · simpa using hfirst.trans hrest

theorem hear_script_follows (taken : List (Nat × Listener)) (depth : Nat) (name : String)
    {actions : List (String × Command)} (h : ∀ a ∈ actions, a.2.registers = true) (s : Scene) :
    ∃ call : Call, ∃ s', call.listener = .script name actions ∧ call.Complete ∧
      hear (runScript (depth + 1)) (.script name actions) s = .ok ((), s') ∧
      s.Follows taken call.deals call.firings s' := by
  obtain ⟨replies, s', hlength, hrun, hrest⟩ := actions_follow taken (runScript depth) name h
    { s with firings := s.firings.push (.heard name) }
  refine ⟨⟨.script name actions, replies⟩, s', rfl, hlength, ?_, ?_⟩
  · exact (bind_of_ok rfl _).trans hrun
  · exact (follows_record (.heard name)).trans hrest

theorem ignoresMarkers_follows (taken : List (Nat × Listener)) (s : Scene) :
    IgnoresMarkers (s.Follows taken [] []) where
  chart s' c hs hc := by
    obtain ⟨journal, rfl⟩ := hc
    exact hs.trans (.of_still rfl rfl (Nat.le_refl _) rfl)
  markers _ _ hs := hs.trans (.of_still rfl rfl (Nat.le_refl _) rfl)
  labels _ _ hs := hs.trans (.of_still rfl rfl (Nat.le_refl _) rfl)

theorem hear_tracker_upholds {I : Scene → Prop} {E : Refusal → Prop} (hI : IgnoresMarkers I)
    (htrackers : ∀ s r, I s → I { s with trackers := r })
    (runScript : String → List (String × Command) → SceneM Unit) (key build : Nat) :
    Upholds I E (hear runScript (.tracker key build)) fun _ => True := by
  refine Upholds.get.bind fun s _ => ?_
  split
  · rename_i t _
    split_ifs
    · have hmove : Upholds I E (onChart t.rangeChanged) fun _ => True := by
        intro s hs
        obtain ⟨c, hrun, hn⟩ := t.rangeChanged_eq s.chart
        rw [onChart, hrun]
        exact ⟨trivial, hI.chart s c hs hn⟩
      exact hmove.bind fun t' _ => .modify fun s hs => htrackers s _ hs
    · exact .pure trivial
  · exact .pure trivial

/-- A listener that is called does its part. -/
theorem hear_follows (taken : List (Nat × Listener)) {depth : Nat} {l : Listener} (hl : l.Registers)
    (hdepth : ∀ name actions, l = .script name actions → 0 < depth) (s : Scene) :
    ∃ call : Call, ∃ s', call.listener = l ∧ call.Complete ∧
      hear (runScript depth) l s = .ok ((), s') ∧ s.Follows taken call.deals call.firings s' := by
  have hI := ignoresMarkers_follows taken s
  cases l with
  | tracker key build =>
    obtain ⟨_, s', hrun, -, hs'⟩ := (hear_tracker_upholds hI
      (fun _ _ hs => hs.trans (.of_still rfl rfl (Nat.le_refl _) rfl)) (runScript depth) key
      build).exists_ok (Follows.refl taken s)
    exact ⟨⟨.tracker key build, []⟩, s', rfl, rfl, hrun, hs'⟩
  | marker key =>
    obtain ⟨_, s', hrun, -, hs'⟩ :=
      (hear_marker_upholds hI (runScript depth) key).exists_ok (Follows.refl taken s)
    exact ⟨⟨.marker key, []⟩, s', rfl, rfl, hrun, hs'⟩
  | script name actions =>
    obtain ⟨n, rfl⟩ := Nat.exists_eq_succ_of_ne_zero (Nat.ne_of_gt (hdepth name actions rfl))
    exact hear_script_follows taken n name hl s

/-- All listeners that wait are called, one after the other. -/
theorem calls_follow (taken : List (Nat × Listener)) {depth : Nat}
    {waiting : List (Nat × Listener)} (hl : ∀ e ∈ waiting, e.2.Registers)
    (hdepth : ∀ e ∈ waiting, ∀ name actions, e.2 = .script name actions → 0 < depth) (s : Scene) :
    ∃ calls : List Call, ∃ s', calls.map Call.listener = waiting.map Prod.snd ∧
      (∀ call ∈ calls, call.Complete) ∧
      (waiting.forM fun e => hear (runScript depth) e.2 : SceneM Unit) s = .ok ((), s') ∧
      s.Follows taken (calls.flatMap Call.deals) (calls.flatMap Call.firings) s' := by
  induction waiting generalizing s with
  | nil => exact ⟨[], s, rfl, nofun, rfl, .refl taken s⟩
  | cons e waiting ih =>
    obtain ⟨hle, hl⟩ := List.forall_mem_cons.mp hl
    obtain ⟨hde, hdepth⟩ := List.forall_mem_cons.mp hdepth
    obtain ⟨call, s₁, hlistener, hcomplete, hrun, hcall⟩ := hear_follows taken hle hde s
    obtain ⟨calls, s', hlisteners, hcompletes, hrest, hcalls⟩ := ih hl hdepth s₁
    refine ⟨call :: calls, s', ?_, List.forall_mem_cons.mpr ⟨hcomplete, hcompletes⟩, ?_, ?_⟩
    · simp [hlistener, hlisteners]
    · exact (bind_of_ok hrun _).trans hrest
    · exact hcall.trans hcalls

theorem depth_pos {name : String} {actions : List (String × Command)} {e : Nat × Listener}
    (he : e ∈ s.chart.listeners) (hscript : e.2 = .script name actions) : 0 < s.depth := by
  have hgrows (es : List (Nat × Listener)) (m : Nat) :
      m ≤ es.foldl (fun n e =>
        match e.2 with
        | .script _ actions => max n (actionsDepth actions + 1)
        | _ => n) m := by
    induction es generalizing m with
    | nil => exact Nat.le_refl m
    | cons e es ih =>
      refine Nat.le_trans ?_ (ih _)
      obtain ⟨n, l⟩ := e
      cases l with
      | script name actions => exact Nat.le_max_left _ _
      | _ => exact Nat.le_refl m
  obtain ⟨n, l⟩ := e
  obtain rfl : l = .script name actions := hscript
  obtain ⟨before, after, hsplit⟩ := List.append_of_mem he
  rw [depth, hsplit, List.foldl_append, List.foldl_cons]
  refine Nat.lt_of_lt_of_le ?_ (hgrows after _)
  exact Nat.lt_of_lt_of_le (Nat.succ_pos _) (Nat.le_max_right _ _)

/-- A change of the view is one round. -/
theorem setView_follows (hs : Dispatch.Ascending ⟨s.chart, []⟩)
    (hl : ∀ e ∈ s.chart.listeners, e.2.Registers) (f : View → View) :
    ∃ calls : List Call, ∃ s', calls.map Call.listener = s.chart.listeners.map Prod.snd ∧
      (∀ call ∈ calls, call.Complete) ∧
      setView (runScript s.depth) f s = .ok ((), s') ∧
      s'.chart.listeners = (calls.flatMap Call.deals).foldl Deal.settle
        (s.chart.listeners.filter fun e => !s.chart.cancelled.contains e.1) ∧
      s'.chart.cancelled = [] ∧
      s'.firings.toList = s.firings.toList ++ calls.flatMap Call.firings := by
  let taken := s.chart.listeners
  let s₀ : Scene := { s with chart := { s.chart with view := f s.chart.view, listeners := [] } }
  have hascending : (s₀.dispatch taken).Ascending := hs.step (t := .begin f) rfl
  have hstanding : s₀.chart.standing taken =
      taken.filter fun e => !s.chart.cancelled.contains e.1 := List.append_nil _
  obtain ⟨calls, s', hlisteners, hcomplete, hrun, hcalls⟩ :=
    calls_follow taken hl (fun e he name actions hscript => depth_pos he hscript) s₀
  refine ⟨calls, { s' with chart := s'.chart.putListeners taken }, hlisteners, hcomplete, ?_, ?_,
    rfl, hcalls.firings⟩
  · change ((taken.forM fun e => hear (runScript s.depth) e.2) >>= fun _ =>
      onChart (modify (·.putListeners taken))) s₀ = _
    exact (bind_of_ok hrun _).trans rfl
  · rw [← hstanding]
    exact hcalls.standing hascending

/-- A change of the view calls the listeners that are on the chart when it begins, each once and in
the order of their numbers, and nothing else is recorded. If the scripts among them add and remove
items and subscriptions and do nothing else, then it leaves the subscriptions at its beginning, but
for the marked ones, after all that was done meanwhile. What has joined is there, and what has left
is not, unless a number was ended before it was issued. No mark stays. -/
theorem step_calls (view : View) (before : List Command) {t : Tick} (ht : t.changesView = true)
    (hl : ∀ e ∈ ((empty view).runAll before).chart.listeners, e.2.Registers) :
    let s := (empty view).runAll before
    let unmarked := s.chart.listeners.filter fun e => !s.chart.cancelled.contains e.1
    let out := s.step (.tick t)
    ∃ calls : List Call, calls.map Call.listener = s.chart.listeners.map Prod.snd ∧
      s.chart.listed.Pairwise (· < ·) ∧ (∀ call ∈ calls, call.Complete) ∧
      out.1.2 = calls.flatMap Call.firings ∧ (∃ dump, out.1.1 = .dump dump) ∧
      let deals := calls.flatMap Call.deals
      out.2.chart.listeners = deals.foldl Deal.settle unmarked ∧
      (deals.Pairwise Deal.InTime → out.2.chart.listeners =
        (unmarked ++ Deal.joined deals).filter fun e => e.1 ∉ Deal.left deals) ∧
      out.2.chart.cancelled = [] := by
  intro s unmarked out
  obtain ⟨ts, hts⟩ := (empty view).runAll_reaches before []
  have hs : Dispatch.Ascending ⟨s.chart, []⟩ := (Dispatch.ascending_empty view).run hts
  have hround := setView_follows (s := { s with firings := #[] }) hs hl
  have hsorted : s.chart.listed.Pairwise (· < ·) := hs.sorted
  have htick : ∃ f, runTick (runScript { s with firings := #[] }.depth) t = do
      setView (runScript { s with firings := #[] }.depth) f
      return .dump (← get).dump := by
    cases t with
    | range yMin yMax => exact ⟨_, rfl⟩
    | height height => exact ⟨_, rfl⟩
    | _ => exact nomatch ht
  obtain ⟨f, htick⟩ := htick
  obtain ⟨calls, s', hlisteners, hcomplete, hrun, hsettled, hcancelled, hfirings⟩ := hround f
  have hout : out = ((.dump s'.dump, s'.firings.toList), s') := by
    have hwork : runWith (runScript { s with firings := #[] }.depth) (.tick t)
        { s with firings := #[] } = .ok (.dump s'.dump, s') := by
      rw [runWith, htick]
      exact (bind_of_ok hrun _).trans rfl
    simp only [out, step, run, attempt, hwork]
  rw [hout]
  refine ⟨calls, hlisteners, hsorted, hcomplete, by simpa using hfirings, ⟨s'.dump, rfl⟩,
    hsettled, fun hdeals => ?_, hcancelled⟩
  rw [hsettled, Deal.foldl_settle hdeals]

/-- Two scripts end each other's subscription, and both have been called. -/
theorem step_calls_mutual :
    let before := [.subscribe "A" [("end", .unsubscribe "B"), ("join", .subscribe "C" [])],
      .subscribe "B" [("end", .unsubscribe "A")]]
    let s := (empty .standard).runAll before
    (∀ e ∈ s.chart.listeners, e.2.Registers) ∧ s.chart.listed = [1, 2] ∧
      (s.step (.tick (.range 0.0 10.0))).2.chart.listed = [3] ∧
      ∃ calls : List Call, calls.map Call.listener = s.chart.listeners.map Prod.snd ∧
        (s.step (.tick (.range 0.0 10.0))).1.2 = calls.flatMap Call.firings := by
  intro before s
  have hl : ∀ e ∈ s.chart.listeners, e.2.Registers := by decide +kernel
  obtain ⟨calls, hlisteners, -, -, hfirings, -⟩ :=
    step_calls .standard before (t := .range 0.0 10.0) rfl hl
  exact ⟨hl, by decide +kernel, by decide +kernel, calls, hlisteners, hfirings⟩

/-- A number is ended before it is issued. The subscription that gets it later is called once and is
gone then, though nothing has ended it since. -/
theorem step_loses_subscription :
    let s := (empty .standard).runAll [.unsubscribeId 1, .subscribe "A" []]
    let out := s.step (.tick (.range 0.0 10.0))
    (∀ e ∈ s.chart.listeners, e.2.Registers) ∧ s.chart.listed = [1] ∧ out.1.2.length = 1 ∧
      out.2.chart.listed = [] ∧
      (out.2.step (.tick (.range 0.0 20.0))).1.2.isEmpty = true := by
  decide +kernel

end Scene

end PositionOverlay
