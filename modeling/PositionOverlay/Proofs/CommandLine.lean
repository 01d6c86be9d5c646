import PositionOverlay.CommandLine
import PositionOverlay.Proofs.Text
import PositionOverlay.Proofs.Tracker.Documents
import PositionOverlay.Proofs.Work

/-! # Runs of the program

The program prints the snapshots of a whole replay or no snapshot at all, whatever stands in its
files and in its environment, and its exit code tells which. Its environment goes before what the
nearest file of assignments says, and settings in TOML are loaded from the text of their file.
-/
namespace PositionOverlay

/-! ## What a run is told -/

namespace EnvironmentFile

variable {env env' earlier : Environment} {name value : String}

theorem assign_lookup {n v : String} (h : assign env n v = .ok env')
    (hset : env.lookup name = some value) : env'.lookup name = some value := by
  unfold assign at h
  split_ifs at h
  · cases h
    exact hset
  · cases h
    rw [List.lookup_append, hset, Option.some_or]

/-- Names that are set keep their values. -/
theorem loadLines_lookup {ls : List (Option (List Char))} (h : loadLines env earlier ls = .ok env')
    (hset : env.lookup name = some value) : env'.lookup name = some value := by
  induction ls generalizing env earlier with
  | nil =>
    cases h
    exact hset
  | cons line ls ih =>
    cases line with
    | none =>
      cases h
      exact hset
    | some line =>
      rw [loadLines] at h
      split at h
      next =>
        cases h
        exact hset
      next => exact ih h hset
      next n v _ =>
        rcases hassign : assign env n v with refusal | env₁
        · rw [hassign] at h
          cases h
        · rw [hassign] at h
          exact ih h (assign_lookup hassign hset)

end EnvironmentFile

namespace Settings

/-- The file that is meant by a path is one of some format, whose extension it has. Its path is the
given one, or that with the extension added. -/
theorem locate?_eq_some {isFile : String → Bool} {directory : List String} {formats : List Format}
    {path found : String} {format : Format}
    (h : locate? isFile directory formats path = some (found, format)) :
    isFile found = true ∧ format ∈ formats ∧
      (found = path ∧ extensionOf path ∈ format.extensions ∨
        isFile path = false ∧ ∃ stem e, stemOf? directory path = some stem ∧
          e ∈ format.extensions ∧ found = stem ++ "." ++ e) := by
  unfold locate? at h
  split_ifs at h with hpath
  · obtain ⟨f, hf, heq⟩ := Option.map_eq_some_iff.mp h
    cases heq
    have hextension := List.find?_some hf
    exact ⟨hpath, List.mem_of_find?_eq_some hf, .inl ⟨rfl, List.contains_iff_mem.mp hextension⟩⟩
  · obtain ⟨stem, hstem, hfind⟩ := Option.bind_eq_some_iff.mp h
    obtain ⟨f, hf, hmem⟩ := List.mem_flatMap.mp (List.mem_of_find?_eq_some hfind)
    obtain ⟨e, he, heq⟩ := List.mem_map.mp hmem
    cases heq
    have hfound := List.find?_some hfind
    exact ⟨hfound, hf,
      .inr ⟨Bool.eq_false_iff.mpr hpath, stem, e, hstem, he, rfl⟩⟩

/-- A directory goes on with the file beside it. -/
example : (locate? (· == "demos/c.toml") [] [.toml] "demos/c/").map Prod.fst =
    some "demos/c.toml" := by decide +kernel

/-- A file in TOML is loaded from its text. -/
theorem loadAs_toml {text : String} (h : text.toList.head? ≠ some '\ufeff')
    (env : List (String × String)) :
    loadAs .toml (some text.toUTF8.data.toList) env = load (some text) env := by
  have hmark : withoutMark text.toUTF8.data.toList = text.toUTF8.data.toList := by
    unfold withoutMark
    split
    next bytes hbytes =>
      have htext := Text.decodeLossy_toUTF8 text
      rw [hbytes] at htext
      refine absurd ?_ h
      rw [← htext, Text.decodeLossy, String.toList_ofList]
      rfl
    next => rfl
  change (do
    let layer ← fileLayer (Text.decodeLossy (withoutMark text.toUTF8.data.toList))
    ofLayers [layer, environmentLayer env]) = _
  rw [hmark, Text.decodeLossy_toUTF8]
  rfl

end Settings

namespace CommandLine

variable {s : Surroundings} {setup : Setup} {env : EnvironmentFile.Environment}
  {shots : List Snapshot}

/-- Variables of the surroundings go before those of a file. -/
theorem fullEnvironment_lookup {name value : String} (h : fullEnvironment s setup = .ok env)
    (hset : s.environment.lookup name = some value) : env.lookup name = some value := by
  unfold fullEnvironment at h
  split at h
  · exact EnvironmentFile.loadLines_lookup h hset
  · cases h
    exact hset

/-- The assignments are those of the nearest directory that has a file of them. -/
theorem fullEnvironment_nearest {n : Nat} {bytes : List UInt8} (hn : n ≤ setup.directory.length)
    (hfile : s.file (environmentPath n) = .content bytes)
    (hnearer : ∀ m < n, (s.file (environmentPath m)).isFile = false) :
    fullEnvironment s setup = EnvironmentFile.load s.environment bytes := by
  have hfirst : (List.range (setup.directory.length + 1)).find?
      (fun m => (s.file (environmentPath m)).isFile) = some n := by
    rw [List.find?_range_eq_some, hfile, List.mem_range]
    exact ⟨rfl, Nat.lt_succ_of_le hn, fun m hm => by rw [hnearer m hm]; rfl⟩
  have hfind : ((environmentPaths setup).map s.file).find? File.isFile = some (.content bytes) := by
    rw [environmentPaths, List.map_map, List.find?_map]
    exact (congrArg (Option.map _) hfirst).trans (congrArg some hfile)
  rw [fullEnvironment, hfind]
  rfl

/-- A path of a file in TOML stands for the settings of its text. -/
theorem settingsOf_toml {path text : String} {formats : List Settings.Format}
    (hfile : s.file path = .content text.toUTF8.data.toList)
    (hextension : Settings.extensionOf path = "toml") (hformats : setup.formats = .toml :: formats)
    (hmark : text.toList.head? ≠ some '\ufeff') :
    settingsOf s setup env path = Settings.load (some text) env := by
  have hlocate : Settings.locate? (fun p => (s.file p).isFile) setup.directory setup.formats path =
      some (path, .toml) := by
    rw [Settings.locate?, if_pos (by rw [hfile]; rfl), hformats, hextension]
    rfl
  rw [settingsOf, hlocate]
  dsimp only
  rw [hfile]
  exact Settings.loadAs_toml hmark env

/-- With the tag of a severity as filter, the notes of that severity and those that are more severe
are printed. -/
theorem printed_ofSpec_tag (least : Severity) (j : Journal) :
    printed (.ofSpec least.tag) j.toList = (j.upTo least).map fun n => setIn n.render := by
  have hdirectives : (Journal.Filter.ofSpec least.tag).directives = [⟨none, least.rank⟩] := by
    cases least <;> decide +kernel
  have hpattern : (Journal.Filter.ofSpec least.tag).pattern = none := by
    rw [← Option.isNone_iff_eq_none]
    cases least <;> decide +kernel
  have hadmits (n : Note) : (Journal.Filter.ofSpec least.tag).admits n =
      decide (n.severity.rank ≤ least.rank) := by
    rw [Journal.Filter.admits, Journal.Filter.mostFor, hdirectives, hpattern, Option.all_none,
      Bool.and_true]
    rfl
  rw [printed, Journal.upTo, funext hadmits]

/-! ## All or nothing -/

/-- The path of the configuration. -/
def configPath (s : Surroundings) : String := (s.arguments[0]?).getD defaultConfig

/-- The symbol whose position is replayed. -/
def symbol (s : Surroundings) : String := (s.arguments[2]?).getD defaultSymbol

/-- Two files are named that exist, the settings load from the first and an environment, and the
replay of the second has some snapshots. -/
structure SucceedsWith (s : Surroundings) (setup : Setup) (env : EnvironmentFile.Environment)
    (eventsPath : String) (settings : Settings) (shots : List Snapshot) : Prop where
  named : s.arguments[1]? = some eventsPath
  config : (s.file (configPath s)).exists = true
  events : (s.file eventsPath).exists = true
  loaded : settingsOf s setup env (configPath s) = .ok settings
  replayed : (Replay.run settings (symbol s) (s.file eventsPath).bytes?).result = .ok shots

/-- The same with the environment that the program sets up. -/
def Succeeds (s : Surroundings) (setup : Setup) (shots : List Snapshot) : Prop :=
  ∃ env eventsPath settings, fullEnvironment s setup = .ok env ∧
    SucceedsWith s setup env eventsPath settings shots

theorem Succeeds.unique {shots' : List Snapshot} (h : Succeeds s setup shots)
    (h' : Succeeds s setup shots') : shots = shots' := by
  obtain ⟨env, path, settings, henv, h⟩ := h
  obtain ⟨env', path', settings', henv', h'⟩ := h'
  obtain rfl := Except.ok.inj (henv.symm.trans henv')
  obtain rfl := Option.some.inj (h.named.symm.trans h'.named)
  obtain rfl := Except.ok.inj (h.loaded.symm.trans h'.loaded)
  exact Except.ok.inj (h.replayed.symm.trans h'.replayed)

/-- The report of a run that has not succeeded. -/
structure Fails (report : Report) : Prop where
  code : report.code ≠ 0
  output : report.output = []

/-- The report of a run that has some snapshots. -/
structure Prints (report : Report) (shots : List Snapshot) : Prop where
  code : report.code = 0
  output : report.output = shots.map fun shot => shot.toJson.render

/-- Events that cannot be read have no snapshots. -/
theorem bytes?_of_replayed {settings : Settings} {symbol : String} {events : Option (List UInt8)}
    (h : (Replay.run settings symbol events).result = .ok shots) :
    ∃ bytes, events = some bytes := by
  cases events with
  | some bytes => exact ⟨bytes, rfl⟩
  | none =>
    unfold Replay.run at h
    split at h
    · cases h
    · cases h

theorem replay_of_ok {settings : Settings} {config path : String}
    (h : (Replay.run settings (symbol s) (s.file path).bytes?).result = .ok shots) :
    Prints (replay s env settings config path) shots := by
  obtain ⟨bytes, hbytes⟩ := bytes?_of_replayed h
  unfold symbol at h
  unfold replay
  dsimp only
  split
  next hlocked =>
    rw [hlocked] at hbytes
    cases hbytes
  next =>
    rw [h]
    exact ⟨rfl, rfl⟩

theorem replay_of_error {settings : Settings} {config path : String} {failure : Replay.Failure}
    (h : (Replay.run settings (symbol s) (s.file path).bytes?).result = .error failure) :
    Fails (replay s env settings config path) := by
  unfold symbol at h
  unfold replay
  dsimp only
  split
  next => exact ⟨Nat.one_ne_zero, rfl⟩
  next =>
    rw [h]
    cases failure with
    | fault f => exact ⟨Nat.succ_ne_zero 100, rfl⟩
    | line n cause => exact ⟨Nat.one_ne_zero, rfl⟩
    | unreadable => exact ⟨Nat.one_ne_zero, rfl⟩

/-- With an environment, a run succeeds and prints its snapshots, or it fails. -/
theorem runWith_cases (s : Surroundings) (setup : Setup) (env : EnvironmentFile.Environment) :
    (∃ path settings shots, SucceedsWith s setup env path settings shots ∧
        Prints (runWith s setup env) shots) ∨
      (∀ path settings shots, ¬ SucceedsWith s setup env path settings shots) ∧
        Fails (runWith s setup env) := by
  have hconfig : (s.arguments[0]?).getD defaultConfig = configPath s := rfl
  unfold runWith
  rcases harg : s.arguments[1]? with _ | path
  · refine .inr ⟨fun path settings shots h => ?_, Nat.one_ne_zero, rfl⟩
    exact nomatch harg.symm.trans h.named
  dsimp only
  rw [hconfig]
  rcases hmissing : [configPath s, path].find? fun p => !(s.file p).exists with _ | missing
  · rw [List.find?_eq_none] at hmissing
    simp only [List.forall_mem_cons, Bool.not_eq_true', Bool.not_eq_false] at hmissing
    obtain ⟨hconfigFile, heventsFile, -⟩ := hmissing
    rcases hload : settingsOf s setup env (configPath s) with fault | settings
    · refine .inr ⟨fun path settings shots h => ?_, Nat.one_ne_zero, rfl⟩
      exact nomatch hload.symm.trans h.loaded
    · rcases hrun : (Replay.run settings (symbol s) (s.file path).bytes?).result with
        failure | shots
      · refine .inr ⟨fun path' settings' shots h => ?_, replay_of_error hrun⟩
        obtain rfl := Option.some.inj (harg.symm.trans h.named)
        obtain rfl := Except.ok.inj (hload.symm.trans h.loaded)
        exact nomatch hrun.symm.trans h.replayed
      · exact .inl ⟨path, settings, shots, ⟨harg, hconfigFile, heventsFile, hload, hrun⟩,
          replay_of_ok hrun⟩
  · refine .inr ⟨fun path' settings shots h => ?_, Nat.one_ne_zero, rfl⟩
    obtain rfl := Option.some.inj (harg.symm.trans h.named)
    have hnot := List.find?_some hmissing
    rcases List.mem_pair.mp (List.mem_of_find?_eq_some hmissing) with rfl | rfl
    · simp [h.config] at hnot
    · simp [h.events] at hnot

/-- A run succeeds and prints its snapshots, or it fails. -/
theorem run_cases (s : Surroundings) (setup : Setup) :
    (∃ shots, Succeeds s setup shots ∧ Prints (run s setup) shots) ∨
      (∀ shots, ¬ Succeeds s setup shots) ∧ Fails (run s setup) := by
  unfold run
  rcases henv : fullEnvironment s setup with refusal | env
  · refine .inr ⟨?_, Nat.succ_ne_zero 100, rfl⟩
    rintro shots ⟨env, path, settings, henv', -⟩
    exact nomatch henv.symm.trans henv'
  · rcases runWith_cases s setup env with ⟨path, settings, shots, h, hprints⟩ | ⟨hnot, hfails⟩
    · exact .inl ⟨shots, ⟨env, path, settings, henv, h⟩, hprints⟩
    · refine .inr ⟨?_, hfails⟩
      rintro shots ⟨env', path, settings, henv', h⟩
      obtain rfl := Except.ok.inj (henv.symm.trans henv')
      exact hnot path settings shots h

/-- A run of the program is all or nothing. Its exit code is zero if and only if a file of events
is named, both files exist, the settings load, and the replay ends with snapshots. Then it prints
one line for each snapshot, in order, which is the object of the snapshot; else it prints nothing.
-/
theorem run_all_or_nothing (s : Surroundings) (setup : Setup) :
    ((run s setup).code = 0 ↔ ∃ shots, Succeeds s setup shots) ∧
      (∀ shots, Succeeds s setup shots →
        (run s setup).output = (shots.map fun shot => shot.toJson.render) ∧
          List.Forall₂ Snapshot.Line shots (run s setup).output) ∧
      ((run s setup).code ≠ 0 → (run s setup).output = []) := by
  rcases run_cases s setup with ⟨shots, hs, hprints⟩ | ⟨hnot, hfails⟩
  · refine ⟨iff_of_true hprints.code ⟨shots, hs⟩, fun shots' hs' => ?_, absurd hprints.code⟩
    obtain rfl := hs.unique hs'
    refine ⟨hprints.output, ?_⟩
    rw [hprints.output, List.forall₂_map_right_iff]
    exact List.forall₂_same.mpr fun shot _ => shot.line_render
  · exact ⟨iff_of_false hfails.code fun ⟨shots, hs⟩ => hnot shots hs,
      fun shots hs => absurd hs (hnot shots), fun _ => hfails.output⟩

/-- The settings have a comment that is not text, and a variable for them is set in a file of the
directory around. The events are a long position and its end. -/
theorem run_all_or_nothing_two :
    let files : List (String × File) := [
      ("c.toml", .content ([0x23, 0xFF, 0x0A] ++ "log.level=\"off\"".toUTF8.data.toList)),
      ("e", .content ("[\"position\",null,null,null,2,50]\n" ++
        "[\"position\",null,null,null,0,50]").toUTF8.data.toList),
      ("../.env", .content "PP__VIEW__HEIGHT=100".toUTF8.data.toList)]
    let s : Surroundings := ⟨["c.toml", "e"], [], fun path => (files.lookup path).getD .absent⟩
    let setup : Setup := { directory := ["demo"] }
    ∃ opened closed line line', Succeeds s setup [opened, closed] ∧
      opened.lineVisible = true ∧ closed.lineVisible = false ∧
      (run s setup).code = 0 ∧ (run s setup).output = [line, line'] ∧
      opened.Line line ∧ closed.Line line' := by
  intro files s setup
  have hvisible : (do
      let env ← (fullEnvironment s setup).toOption
      let settings ← (settingsOf s setup env "c.toml").toOption
      let shots ← (Replay.run settings "pp" (s.file "e").bytes?).result.toOption
      return shots.map Snapshot.lineVisible) = some [true, false] := by decide +kernel
  obtain ⟨env, henv, hvisible⟩ := Option.bind_eq_some_iff.mp hvisible
  obtain ⟨settings, hload, hvisible⟩ := Option.bind_eq_some_iff.mp hvisible
  obtain ⟨shots, hrun, hvisible⟩ := Option.bind_eq_some_iff.mp hvisible
  obtain ⟨opened, shots, rfl, hopened, hrest⟩ :=
    List.map_eq_cons_iff.mp (Option.some.inj hvisible)
  obtain ⟨closed, _, rfl, hclosed, hnone⟩ := List.map_eq_cons_iff.mp hrest
  obtain rfl := List.map_eq_nil_iff.mp hnone
  have hsucceeds : Succeeds s setup [opened, closed] :=
    ⟨env, "e", settings, Work.except_toOption_eq_some.mp henv, rfl, rfl, rfl,
      Work.except_toOption_eq_some.mp hload, Work.except_toOption_eq_some.mp hrun⟩
  obtain ⟨hcode, hlines, -⟩ := run_all_or_nothing s setup
  obtain ⟨-, hlines⟩ := hlines _ hsucceeds
  obtain ⟨line, _, hline, hlines, hrest⟩ := List.forall₂_cons_left_iff.mp hlines
  obtain ⟨line', _, hline', hnil, rfl⟩ := List.forall₂_cons_left_iff.mp hlines
  rw [List.forall₂_nil_left_iff.mp hnil] at hrest
  exact ⟨opened, closed, line, line', hsucceeds, hopened, hclosed, hcode.mpr ⟨_, hsucceeds⟩, hrest,
    hline, hline'⟩

end CommandLine

end PositionOverlay
