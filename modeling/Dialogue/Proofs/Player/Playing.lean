import Dialogue.Proofs.Player.Retracing

/-! Playing: what playing a file comes to, beside a replay of its text. -/
namespace Dialogue

namespace Replay
open Session
variable {script : Script} {title text : String} {answers : List Answer}

/-- The trace of a replay from a title. -/
def traceFrom (script : Script) (title : String) (answers : List Answer) : Trace :=
  match Session.start script {} title with
  | .error _ => []
  | .ok s => trace script (maxEvents - 1) s none answers

def driveFrom (script : Script) (title : String) (answers : List Answer) :
    Except Session.Failure Playback :=
  match Session.start script {} title with
  | .error f => .error f
  | .ok s => drive script (maxEvents - 1) s none answers

/-- The trace of a replay of a text. -/
def traceOf (text : String) (start : Start) (answers : List Answer) : Trace :=
  match Script.readStrict text with
  | .error _ => []
  | .ok script =>
    match startTitle script start with
    | .error _ => []
    | .ok title => traceFrom script title answers

theorem ofScript_eq {start : Start} (h : startTitle script start = .ok title) :
    ofScript script start answers =
      match driveFrom script title answers with
      | .error f => .error (.session f)
      | .ok p => .ok ⟨title, p⟩ := by
  rw [ofScript, h, driveFrom]
  dsimp only
  cases Session.start script {} title <;> rfl

theorem events_of_driveFrom {p : Playback} (h : driveFrom script title answers = .ok p) :
    p.events = (traceFrom script title answers).map Prod.fst := by
  unfold driveFrom at h
  unfold traceFrom
  cases hstart : Session.start script {} title with
  | error f => simp [hstart] at h
  | ok s =>
    rw [hstart] at h
    exact (driven script _ s none answers).events_eq h

theorem startTitle_ofTitle? {n : Node} {ns : List Node} (h : script.nodes = n :: ns)
    (start : Option String) :
    startTitle script (.ofTitle? start) = .ok ((Settings.given? start).getD n.title) := by
  cases start with
  | none => simp [startTitle, Start.ofTitle?, h, Settings.given?]
  | some name =>
    rw [Start.ofTitle?]
    split_ifs with he
    · simp [startTitle, h, Settings.given?, Option.filter, he]
    · simp [startTitle, Settings.given?, Option.filter, he]

end Replay

namespace Player
open Session

/-- A performance retraces a replay from the same title that is not cut short. -/
theorem perform_retraces {script : Script} {title : String} {choices : List Int} (columns : Nat)
    (hsize : ∀ node ∈ script.nodes, ∀ visited,
      (node.compile visited).options.length < 10 ^ Text.maxIntegerDigits)
    (hcut : ∀ p, Replay.driveFrom script title (choices.map .ofInt) = .ok p →
      p.ending ≠ .truncated)
    (hfits : Replay.Fits (Replay.traceFrom script title (choices.map .ofInt))) :
    (perform script title columns (choices.map typed)).events =
        (Replay.traceFrom script title (choices.map .ofInt)).map Prod.fst ∧
      (perform script title columns (choices.map typed)).ending =
        .ofReplay (Replay.driveFrom script title (choices.map .ofInt)) := by
  unfold perform
  unfold Replay.traceFrom at hfits ⊢
  unfold Replay.driveFrom at hcut ⊢
  cases hstart : Session.start script {} title with
  | error f => exact ⟨rfl, rfl⟩
  | ok s =>
    rw [hstart] at hfits hcut
    have hbound : Replay.maxEvents - 1 < eventBound script (choices.map typed).length := by
      have hpos : 0 < Replay.maxEvents := by decide
      unfold eventBound
      omega
    exact drive_retraces (Replay.driven script _ s none _) hbound (coherent_start hstart) hsize hcut
      hfits rfl none []

end Player

namespace Program
open Player Terminal Session

/-- The performance that playing a file comes to. -/
def performance (w : World) (p : Path) (start : Option String) :
    Except PlayFailure Performance :=
  match readScript w p with
  | .error f => .error (.script f)
  | .ok script =>
    match script.nodes with
    | [] => .error (.noNodes p.text)
    | n :: _ => .ok (perform script ((Settings.given? start).getD n.title) w.width w.lines)

/-- What is shown of a performance. -/
def Showing.ofPerformance : Except PlayFailure Performance → Showing
  | .error f => { failure := some f }
  | .ok q =>
    { output := q.output
      wantsInput := q.ending = .unanswered
      failure := match q.ending with
        | .failed f => some (.session f)
        | _ => none }

theorem playFile_eq (w : World) (p : Path) (start : Option String) : playFile w p start =
    { Showing.ofPerformance (performance w p start) with
      output := notes (readScriptLog w p) ++
        (Showing.ofPerformance (performance w p start)).output } := by
  unfold playFile performance
  cases readScript w p with
  | error f => simp [Showing.ofPerformance]
  | ok script =>
    obtain ⟨nodes, speakers⟩ := script
    cases nodes <;> rfl

theorem failure_playFile (w : World) (p : Path) (start : Option String) :
    (playFile w p start).failure = (Showing.ofPerformance (performance w p start)).failure := by
  rw [playFile_eq]

/-- The events of a performance; there are none without a script. -/
def eventsOf : Except PlayFailure Performance → List Event
  | .error _ => []
  | .ok q => q.events

/-- A replay and a player who fail for the same reason. -/
inductive SameFailure : Replay.Failure → PlayFailure → Prop
  | structural (i : Issue) : SameFailure (.structural i) (.script (.structural i))
  | session (f : Session.Failure) : SameFailure (.session f) (.session f)

theorem SameFailure.message_eq {f : Replay.Failure} {g : PlayFailure} (h : SameFailure f g) :
    g.message = f.message := by
  cases h <;> rfl

/-- A player at the file of a text, who types what a replay of the text is answered. The replay is
not cut short, and the answers that it takes name options. The length of the text is a number that
can be typed. -/
structure Retracing (w : World) (p : Path) (text : String) (start : Option String)
    (choices : List Int) : Prop where
  file : ∃ place, w.tree.locate w.cwd p.text = .ok place ∧
    w.tree.entry? place = some (.file text.toUTF8)
  nodes : (Script.read text).1.nodes ≠ []
  size : text.length < 10 ^ Text.maxIntegerDigits
  input : w.input = Text.unlines (choices.map typed)
  whole : ∀ r, Replay.run text (.ofTitle? start) (choices.map .ofInt) = .ok r →
    r.playback.ending ≠ .truncated
  fits : Replay.Fits (Replay.traceOf text (.ofTitle? start) (choices.map .ofInt))

/-- A player and a replay who see the same events and come to the same end. -/
structure Retraced (w : World) (p : Path) (text : String) (start : Option String)
    (choices : List Int) : Prop where
  traced : ∀ r, Replay.run text (.ofTitle? start) (choices.map .ofInt) = .ok r →
    r.playback.events =
      (Replay.traceOf text (.ofTitle? start) (choices.map .ofInt)).map Prod.fst
  events : eventsOf (performance w p start) =
    (Replay.traceOf text (.ofTitle? start) (choices.map .ofInt)).map Prod.fst
  ended : (∃ q, performance w p start = .ok q ∧ q.ending = .over) ↔
    ∃ r, Replay.run text (.ofTitle? start) (choices.map .ofInt) = .ok r ∧
      r.playback.ending = .ended
  quits : (∃ q, performance w p start = .ok q ∧ (q.ending = .quit ∨ q.ending = .unanswered)) ↔
    ∃ r, Replay.run text (.ofTitle? start) (choices.map .ofInt) = .ok r ∧
      r.playback.ending = .waiting
  fails : ∀ g, (playFile w p start).failure = some g ↔
    ∃ f, Replay.run text (.ofTitle? start) (choices.map .ofInt) = .error f ∧
      SameFailure f g ∧ g.message = f.message

section Retracing
variable {w : World} {p : Path} {text : String} {start : Option String} {choices : List Int}

theorem Retracing.lines (h : Retracing w p text start choices) :
    w.lines = choices.map typed := by
  rw [World.lines, h.input]
  refine Text.linesEnded_unlines (fun l hl => ?_) (fun l hl => ?_)
  · obtain ⟨choice, -, rfl⟩ := List.mem_map.mp hl
    exact not_mem_feed_typed choice
  · obtain ⟨choice, -, rfl⟩ := List.mem_map.mp (List.mem_of_mem_head? hl)
    exact typed_ne_empty choice

theorem Retracing.readScript_eq (h : Retracing w p text start choices) :
    readScript w p = (Script.readStrict text).mapError .structural := by
  obtain ⟨place, hpath, hfile⟩ := h.file
  rw [readScript, FileTree.readText_of_file hpath hfile]
  dsimp only
  rw [Script.readStrict_normalizeBreaks]

/-- Without a script there is nothing to see. -/
theorem retraced_of_structural {i : Issue}
    (hrun : Replay.run text (.ofTitle? start) (choices.map .ofInt) = .error (.structural i))
    (htrace : Replay.traceOf text (.ofTitle? start) (choices.map .ofInt) = [])
    (hperf : performance w p start = .error (.script (.structural i))) :
    Retraced w p text start choices where
  traced r hr := by simp [hrun] at hr
  events := by rw [hperf, htrace]; rfl
  ended := by simp [hperf, hrun]
  quits := by simp [hperf, hrun]
  fails g := by
    rw [failure_playFile, hperf, hrun]
    constructor
    · intro hg
      obtain rfl := Option.some.inj hg
      exact ⟨_, rfl, .structural i, (SameFailure.structural i).message_eq⟩
    · rintro ⟨f, hf, hsame, -⟩
      obtain rfl := Except.error.inj hf
      cases hsame
      rfl

/-- A performance that ends as a replay does. -/
theorem retraced_of_ending {r : Except Session.Failure Replay.Playback} {title : String}
    {q : Performance}
    (hrun : Replay.run text (.ofTitle? start) (choices.map .ofInt) =
      match r with
      | .error f => .error (.session f)
      | .ok p => .ok ⟨title, p⟩)
    (htraced : ∀ p, r = .ok p → p.events =
      (Replay.traceOf text (.ofTitle? start) (choices.map .ofInt)).map Prod.fst)
    (hperf : performance w p start = .ok q)
    (hevents : q.events =
      (Replay.traceOf text (.ofTitle? start) (choices.map .ofInt)).map Prod.fst)
    (hending : q.ending = .ofReplay r) (hcut : ∀ p, r = .ok p → p.ending ≠ .truncated) :
    Retraced w p text start choices := by
  cases r with
  | error f =>
    have hfailed : q.ending = .failed f := hending
    refine ⟨fun r hr => by simp [hrun] at hr, by rw [hperf]; exact hevents, ?_, ?_, fun g => ?_⟩
    · simp [hperf, hrun, hfailed]
    · simp [hperf, hrun, hfailed]
    · rw [failure_playFile, hperf, hrun, Showing.ofPerformance, hfailed]
      constructor
      · intro hg
        obtain rfl := Option.some.inj hg
        exact ⟨_, rfl, .session f, (SameFailure.session f).message_eq⟩
      · rintro ⟨g', hg', hsame, -⟩
        obtain rfl := Except.error.inj hg'
        cases hsame
        rfl
  | ok playback =>
    have hwhole := hcut playback rfl
    have hnone : (Showing.ofPerformance (.ok q)).failure = none := by
      rw [Showing.ofPerformance, hending, Ending.ofReplay]
      cases playback.ending <;> rfl
    rw [Ending.ofReplay] at hending
    refine ⟨fun r hr => ?_, by rw [hperf]; exact hevents, ?_, ?_, fun g => ?_⟩
    · obtain rfl := Except.ok.inj (hrun.symm.trans hr)
      exact htraced playback rfl
    · cases he : playback.ending <;> simp [hperf, hrun, hending, he] at hwhole ⊢
    · cases he : playback.ending <;> simp [hperf, hrun, hending, he] at hwhole ⊢
    · simp [failure_playFile, hperf, hrun, hnone]

theorem Retracing.retraced (h : Retracing w p text start choices) :
    Retraced w p text start choices := by
  have hread := h.readScript_eq
  cases hs : Script.readStrict text with
  | error i =>
    rw [hs] at hread
    exact retraced_of_structural (i := i) (by rw [Replay.run, hs]) (by rw [Replay.traceOf, hs])
      (by rw [performance, hread]; rfl)
  | ok script =>
    have hscript : (Script.read text).1 = script := Script.read_of_readStrict hs
    rw [hs] at hread
    obtain ⟨n, ns, hnodes⟩ := List.exists_cons_of_ne_nil h.nodes
    rw [hscript] at hnodes
    have htitle := Replay.startTitle_ofTitle? hnodes start
    have hrun : Replay.run text (.ofTitle? start) (choices.map .ofInt) =
        match Replay.driveFrom script ((Settings.given? start).getD n.title)
          (choices.map .ofInt) with
        | .error f => .error (.session f)
        | .ok p => .ok ⟨(Settings.given? start).getD n.title, p⟩ := by
      rw [Replay.run, hs]
      exact Replay.ofScript_eq htitle
    have htrace : Replay.traceOf text (.ofTitle? start) (choices.map .ofInt) =
        Replay.traceFrom script ((Settings.given? start).getD n.title) (choices.map .ofInt) := by
      rw [Replay.traceOf, hs]
      dsimp only
      rw [htitle]
    have hperf : performance w p start = .ok (perform script
        ((Settings.given? start).getD n.title) w.width (choices.map typed)) := by
      rw [performance, hread, h.lines]
      simp only [Except.mapError, hnodes]
    have hcut : ∀ p, Replay.driveFrom script ((Settings.given? start).getD n.title)
        (choices.map .ofInt) = .ok p → p.ending ≠ .truncated := by
      intro p hp
      exact h.whole ⟨_, p⟩ (by rw [hrun, hp])
    have hsize : ∀ node ∈ script.nodes, ∀ visited,
        (node.compile visited).options.length < 10 ^ Text.maxIntegerDigits := by
      intro node hnode visited
      rw [← hscript] at hnode
      exact (Script.length_options_le hnode visited).trans_lt h.size
    obtain ⟨hevents, hending⟩ := perform_retraces w.width hsize hcut (htrace ▸ h.fits)
    refine retraced_of_ending hrun (fun p hp => ?_) hperf (by rw [hevents, htrace]) hending hcut
    rw [htrace]
    exact Replay.events_of_driveFrom hp

theorem keeps_protocol {f : Session.Failure}
    (h : (playFile w p start).failure = some (.session f)) : f.kind ≠ .protocol := by
  rw [failure_playFile, performance] at h
  cases hread : readScript w p with
  | error g =>
    rw [hread] at h
    cases h
  | ok script =>
    rw [hread] at h
    obtain ⟨nodes, speakers⟩ := script
    cases nodes with
    | nil => cases h
    | cons n ns =>
      simp only [Showing.ofPerformance] at h
      split at h
      · next g hg =>
        obtain rfl := PlayFailure.session.inj (Option.some.inj h)
        exact perform_keeps_protocol hg
      · cases h

end Retracing

/-- A player who types what a replay was answered sees the same events as the replay, and comes to
the same end, waits at the same choice or fails for the same reason. And whatever is typed, a player
never acts out of turn. -/
theorem playFile_retraces :
    (∀ w p text start choices, Retracing w p text start choices →
      Retraced w p text start choices) ∧
    ∀ w p start f, (playFile w p start).failure = some (.session f) → f.kind ≠ .protocol :=
  ⟨fun _ _ _ _ _ h => h.retraced, fun _ _ _ _ h => keeps_protocol h⟩

/-- A script with a choice between an end and a way back. -/
private def lobbyText : String :=
  "title: Lobby\n---\nWhere to?\n-> Out\n<<jump Street>>\n-> Wait\n<<jump Lobby>>\n===\n" ++
    "title: Street\n---\nIt rains.\n==="

private def lobby : World where
  tree := ⟨[(["lobby.gab"], .file lobbyText.toUTF8)]⟩
  cwd := []
  input := "2\n1\n"

private def endingOf (r : Except Replay.Failure Replay.Result) : Option Replay.Ending :=
  r.toOption.map (·.playback.ending)

private def fitting : Event × Option Answer → Bool
  | (.choice options _, some a) => (List.range options.length).any fun i => a == .ofInt i
  | _ => true

/-- Who waits once and then goes out comes to the end, and who starts nowhere fails for the lack of
a node. -/
theorem playFile_retraces_lobby :
    (∃ q, performance lobby (.ofString "lobby.gab") none = .ok q ∧ q.ending = .over) ∧
    ∃ f, (playFile lobby (.ofString "lobby.gab") (some "Roof")).failure = some (.session f) ∧
      f.kind ≠ .protocol := by
  have hended : endingOf (Replay.run lobbyText (.ofTitle? none) ([1, 0].map .ofInt)) =
      some .ended := by decide +kernel
  have hfitting : (Replay.traceOf lobbyText (.ofTitle? none) ([1, 0].map .ofInt)).all fitting =
      true := by decide +kernel
  have hfailed : (playFile lobby (.ofString "lobby.gab") (some "Roof")).failure =
      some (.session (.missingNode "Roof")) := by decide +kernel
  cases hrun : Replay.run lobbyText (.ofTitle? none) ([1, 0].map .ofInt) with
  | error f =>
    rw [hrun] at hended
    cases hended
  | ok r =>
    rw [hrun] at hended
    have hr : r.playback.ending = .ended := Option.some.inj hended
    have h : Retracing lobby (.ofString "lobby.gab") lobbyText none [1, 0] := by
      refine ⟨⟨["lobby.gab"], by decide +kernel, rfl⟩, by decide +kernel, by decide +kernel,
        by decide +kernel, fun r' hr' => ?_, fun options node a ha => ?_⟩
      · obtain rfl := Except.ok.inj (hrun.symm.trans hr')
        simp [hr]
      · obtain ⟨i, hi, ha⟩ := List.any_eq_true.mp (List.all_eq_true.mp hfitting _ ha)
        exact ⟨i, beq_iff_eq.mp ha, List.mem_range.mp hi⟩
    exact ⟨(playFile_retraces.1 _ _ _ _ _ h).ended.mpr ⟨r, hrun, hr⟩, _, hfailed,
      playFile_retraces.2 _ _ _ _ hfailed⟩

end Program
end Dialogue
