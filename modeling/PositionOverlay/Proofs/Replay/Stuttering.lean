import PositionOverlay.Proofs.Replay.Faults
import PositionOverlay.Proofs.Session.Stutter

/-! # Lines without consequences

A paint event repeats the snapshot before it, and an execution repeats it with one execution more.
So the lines of paint events can be struck out together with their snapshots, and the lines of
executions can be struck out or moved, and nothing else of the replay changes but the number of
executions so far.
-/
namespace PositionOverlay.Replay

open Event Session

variable {settings : Settings} {symbol : String} {es : List Event} {bytes : List UInt8}
  {shots : List Snapshot} {s₀ : Session}

/-- The marks of those lines that are events. -/
def eventMarks (symbol : String) (marked : List (List UInt8 × Bool)) : List (Event × Bool) :=
  marked.filterMap fun x => (Verdict.ofLine symbol x.1).event?.map fun e => (e, x.2)

/-- The lines that are not those of executions. -/
def withoutFills (symbol : String) (lines : List (List UInt8)) : List (List UInt8) :=
  lines.filter fun line => !(Verdict.ofLine symbol line).event?.any isFill

theorem eventMarks_fst (marked : List (List UInt8 × Bool)) :
    (eventMarks symbol marked).map Prod.fst = accepted symbol (marked.map Prod.fst) := by
  rw [eventMarks, List.map_filterMap, accepted, List.filterMap_map]
  refine congrArg (List.filterMap · marked) (funext fun x => ?_)
  rw [Option.map_map]
  exact Option.map_id'

theorem unmarked_eventMarks (marked : List (List UInt8 × Bool)) :
    unmarked (eventMarks symbol marked) = accepted symbol (unmarked marked) := by
  simp only [unmarked, eventMarks, accepted, List.filter_filterMap, List.map_filterMap,
    List.filterMap_map, List.filterMap_filter]
  refine congrArg (List.filterMap · marked) (funext fun x => ?_)
  obtain ⟨line, mark⟩ := x
  cases mark <;> cases h : (Verdict.ofLine symbol line).event? <;> simp [h]

/-- Marks that stand at the lines of paint events only stand at paint events only. -/
theorem eventMarks_paint {marked : List (List UInt8 × Bool)}
    (hmarked : ∀ x ∈ marked, x.2 = true → (Verdict.ofLine symbol x.1).event? = some .paint) :
    ∀ m ∈ eventMarks symbol marked, m.2 = true → m.1 = .paint := by
  intro m hm hmark
  obtain ⟨x, hx, hm⟩ := List.mem_filterMap.mp hm
  obtain ⟨e, he, rfl⟩ := Option.map_eq_some_iff.mp hm
  exact Option.some.inj (he.symm.trans (hmarked x hx hmark))

theorem accepted_withoutFills (lines : List (List UInt8)) :
    accepted symbol (withoutFills symbol lines) =
      (accepted symbol lines).filter fun e => !e.isFill := by
  simp only [accepted, withoutFills, List.filter_filterMap, List.filterMap_filter]
  refine congrArg (List.filterMap · lines) (funext fun line => ?_)
  cases (Verdict.ofLine symbol line).event? <;> simp [Option.filter]

theorem film_after (hs : s₀.film es = .ok shots) {i : Nat} {shot : Snapshot}
    (hi : shots[i]? = some shot) :
    ∃ s, after s₀ (es.take (i + 1)) = .ok s ∧ shot = s.tracker.snapshot := by
  induction es generalizing s₀ shots i with
  | nil =>
    obtain rfl := Except.ok.inj hs
    exact nomatch hi
  | cons e es ih =>
    obtain ⟨s₁, rest, hs₁, hrest, rfl⟩ := film_cons_eq_ok.mp hs
    cases i with
    | zero =>
      obtain rfl := Option.some.inj hi
      exact ⟨s₁, Work.except_bind_eq_ok.mpr ⟨s₁, hs₁, rfl⟩, rfl⟩
    | succ i =>
      obtain ⟨s, hs, hshot⟩ := ih hrest hi
      exact ⟨s, Work.except_bind_eq_ok.mpr ⟨s₁, hs₁, hs⟩, hshot⟩

/-- The snapshots of a replay without a fault are those of its events. -/
theorem run_eq_film (h : Session.start settings.view settings.overlay symbol = .ok s₀)
    (hfree : ∀ line ∈ Text.byteLines bytes, ∀ cause, ¬ Faulty line cause) :
    ∃ shots, (run settings symbol (some bytes)).result = .ok shots ∧
      s₀.film (accepted symbol (Text.byteLines bytes)) = .ok shots := by
  obtain ⟨shots, hrun, hlength, hshots⟩ := run_of_free h hfree
  obtain ⟨shots', hfilm, hlength'⟩ := (rested_start h).film (accepted symbol (Text.byteLines bytes))
  refine ⟨shots, hrun, ?_⟩
  rw [hfilm]
  congr 1
  refine List.ext_getElem (hlength'.trans hlength.symm) fun i hi hi' => ?_
  obtain ⟨s, hs, he⟩ := hshots i _ (List.getElem?_eq_getElem hi')
  obtain ⟨s', hs', he'⟩ := film_after hfilm (List.getElem?_eq_getElem hi)
  rw [he, he', Except.ok.inj (hs'.symm.trans hs)]

/-- A replay that ends well has no line at fault. -/
theorem free_of_run (h : (run settings symbol (some bytes)).result = .ok shots) :
    ∀ line ∈ Text.byteLines bytes, ∀ cause, ¬ Faulty line cause := by
  obtain ⟨s₀, -, -, hs, -⟩ := run_eq_ok h
  rcases free_or_faulty (Text.byteLines bytes) with hfree | ⟨before, line, rest, cause, hlines,
    hbefore, hcause⟩
  · exact hfree
  · rw [run_of_faulty hs hlines hbefore hcause] at h
    exact nomatch h

theorem not_faulty_of_event {e : Event} {line : List UInt8}
    (h : (Verdict.ofLine symbol line).event? = some e) (cause : Cause) : ¬ Faulty line cause := by
  intro hfault
  rw [(ofLine_eq_faulty_iff symbol).mpr hfault] at h
  exact nomatch h

theorem free_of_unmarked {marked : List (List UInt8 × Bool)}
    (hfree : ∀ line ∈ marked.map Prod.fst, ∀ cause, ¬ Faulty line cause) :
    ∀ line ∈ unmarked marked, ∀ cause, ¬ Faulty line cause := by
  intro line hline
  obtain ⟨x, hx, rfl⟩ := List.mem_map.mp hline
  exact hfree x.1 (List.mem_map_of_mem (List.mem_filter.mp hx).1)

/-- Lines without a fault are free of faults with executions in other places. -/
theorem free_of_withoutFills {lines lines' : List (List UInt8)}
    (hsame : withoutFills symbol lines' = withoutFills symbol lines)
    (hfree : ∀ line ∈ lines, ∀ cause, ¬ Faulty line cause) :
    ∀ line ∈ lines', ∀ cause, ¬ Faulty line cause := by
  intro line hline
  by_cases hfill : (Verdict.ofLine symbol line).event?.any isFill = true
  · obtain ⟨e, he, -⟩ := (Option.any_eq_true _ _).mp hfill
    exact not_faulty_of_event he
  · have hmem : line ∈ withoutFills symbol lines' :=
      List.mem_filter.mpr ⟨hline, by simpa using hfill⟩
    rw [hsame] at hmem
    exact hfree line (List.mem_filter.mp hmem).1

/-- Paint events and executions have no consequences. In a replay that ends well, a paint event has
the snapshot before its own once more, where the first snapshot of all is that of the new and flat
tracker, and paint events that are struck out take their snapshots with them and no others. An
execution has the snapshot before its own with one execution more, and if executions are left out,
put in or moved, then all other snapshots stay as they are, apart from the number of executions. -/
theorem run_stutters (h : (run settings symbol (some bytes)).result = .ok shots) :
    let lines := Text.byteLines bytes
    let es := accepted symbol lines
    ∃ s₀ : Session, Session.start settings.view settings.overlay symbol = .ok s₀ ∧
      s₀.tracker.info = .flat symbol ∧ shots.length = es.length ∧
      (∀ i : Nat, es[i]? = some .paint → shots[i]? = (s₀.tracker.snapshot :: shots)[i]?) ∧
      (∀ (i : Nat) f, es[i]? = some (.fill f) → shots[i]? =
        ((s₀.tracker.snapshot :: shots)[i]?).map fun shot =>
          { shot with fills := shot.fills + 1 }) ∧
      (∀ marked bytes', lines = marked.map Prod.fst →
        (∀ x ∈ marked, x.2 = true → (Verdict.ofLine symbol x.1).event? = some .paint) →
        Text.byteLines bytes' = unmarked marked →
          (run settings symbol (some bytes')).result =
            .ok (unmarked (shots.zip ((eventMarks symbol marked).map Prod.snd)))) ∧
      ∀ bytes', withoutFills symbol (Text.byteLines bytes') = withoutFills symbol lines →
        ∃ shots', (run settings symbol (some bytes')).result = .ok shots' ∧
          uncounted (accepted symbol (Text.byteLines bytes')) shots' = uncounted es shots := by
  intro lines es
  have hfree := free_of_run h
  obtain ⟨s₀, -, -, hs, -⟩ := run_eq_ok h
  have hrested := rested_start hs
  obtain ⟨shots₀, hrun, hfilm⟩ := run_eq_film hs hfree
  obtain rfl := Except.ok.inj (h.symm.trans hrun)
  obtain ⟨shots₀, hfilm₀, hlength⟩ := hrested.film es
  obtain rfl := Except.ok.inj (hfilm.symm.trans hfilm₀)
  refine ⟨s₀, hs, info_start hs, hlength, fun i => hrested.film_paint hfilm,
    fun i f => hrested.film_fill hfilm, ?_, ?_⟩
  · intro marked bytes' hlines hmarked hbytes'
    have hfree' : ∀ line ∈ Text.byteLines bytes', ∀ cause, ¬ Faulty line cause := by
      rw [hbytes']
      refine free_of_unmarked ?_
      rw [← hlines]
      exact hfree
    obtain ⟨shots', hrun', hfilm'⟩ := run_eq_film hs hfree'
    have hunmarked : s₀.film (unmarked (eventMarks symbol marked)) =
        .ok (unmarked (shots.zip ((eventMarks symbol marked).map Prod.snd))) := by
      refine hrested.film_unmarked (eventMarks_paint hmarked) ?_
      rw [eventMarks_fst, ← hlines]
      exact hfilm
    rw [unmarked_eventMarks, ← hbytes'] at hunmarked
    rw [hrun', ← Except.ok.inj (hunmarked.symm.trans hfilm')]
  · intro bytes' hsame
    obtain ⟨shots', hrun', hfilm'⟩ := run_eq_film hs (free_of_withoutFills hsame hfree)
    refine ⟨shots', hrun', hrested.uncounted_eq ?_ hfilm hfilm'⟩
    rw [← accepted_withoutFills, ← accepted_withoutFills, hsame]

/-- A long position with one execution, which is painted once more. -/
theorem run_stutters_long :
    let report := "[\"position\",null,null,null,2,50]".toUTF8.data.toList
    let fill := "[\"fill\",1,50]".toUTF8.data.toList
    let paint := "[\"paint\"]".toUTF8.data.toList
    let bytes := report ++ 10 :: fill ++ 10 :: paint
    let bytes' := report ++ 10 :: fill
    let bytes'' := report ++ 10 :: paint ++ 10 :: fill
    let marked := [(report, false), (fill, false), (paint, true)]
    ∃ shots, (run .standard "BTC" (some bytes)).result = .ok shots ∧ shots.length = 3 ∧
      shots[2]? = shots[1]? ∧
      (run .standard "BTC" (some bytes')).result =
        .ok (unmarked (shots.zip ((eventMarks "BTC" marked).map Prod.snd))) ∧
      ∃ shots', (run .standard "BTC" (some bytes'')).result = .ok shots' ∧
        uncounted (accepted "BTC" (Text.byteLines bytes'')) shots' =
          uncounted (accepted "BTC" (Text.byteLines bytes)) shots := by
  intro report fill paint bytes bytes' bytes'' marked
  have hrun : (run .standard "BTC" (some bytes)).result.isOk = true := by decide +kernel
  have hcount : (accepted "BTC" (Text.byteLines bytes)).length = 3 := by decide +kernel
  have hkind {e? : Option Event} (h : e?.any Event.isPaint = true) : e? = some .paint := by
    obtain ⟨e, rfl, he⟩ := (Option.any_eq_true _ _).mp h
    cases e with
    | paint => rfl
    | _ => exact nomatch he
  have hpaint : (Verdict.ofLine "BTC" paint).event? = some .paint := hkind (by decide +kernel)
  have hlines : Text.byteLines bytes = marked.map Prod.fst := by decide +kernel
  have hlines' : Text.byteLines bytes' = unmarked marked := by decide +kernel
  have hfills : withoutFills "BTC" (Text.byteLines bytes'') =
      withoutFills "BTC" (Text.byteLines bytes) := by decide +kernel
  have hlast : (accepted "BTC" (Text.byteLines bytes))[2]? = some .paint :=
    hkind (by decide +kernel)
  rcases hr : (run .standard "BTC" (some bytes)).result with failure | shots
  · rw [hr] at hrun
    exact absurd hrun Bool.false_ne_true
  · obtain ⟨s₀, -, -, hlength, hpaints, -, hstrike, hmove⟩ := run_stutters hr
    refine ⟨shots, rfl, hlength.trans hcount, hpaints 2 hlast,
      hstrike marked bytes' hlines ?_ hlines', hmove bytes'' hfills⟩
    simp only [marked, List.forall_mem_cons]
    exact ⟨nofun, nofun, fun _ => hpaint, nofun⟩

end PositionOverlay.Replay
