import Dialogue.Proofs.Files.Reading
import Dialogue.Proofs.Player.Options
import Dialogue.Proofs.Player.Protocol

/-! Retracing: a player who types what a replay was answered sees what the replay shows. -/
namespace Dialogue

namespace Text

theorem flatMap_feed (ls : List String) : ls.flatMap (fun l => l.toList ++ ['\n']) =
    ['\n'].intercalate ((ls ++ [""]).map String.toList) := by
  induction ls with
  | nil => rfl
  | cons l ls ih =>
    rw [List.flatMap_cons, ih, List.cons_append, List.map_cons,
      List.intercalate_cons_of_ne_nil (by simp)]

/-- Lines that end in line feeds are found again. -/
theorem linesEnded_unlines {ls : List String} (hfeed : ∀ l ∈ ls, '\n' ∉ l.toList)
    (hfront : ∀ l, ls.head? = some l → l ≠ "") : linesEnded (unlines ls) = ls := by
  rcases eq_or_ne ls [] with rfl | hne
  · rfl
  · have hjoin : unlines ls = "\n".intercalate (ls ++ [""]) := by
      have hfeed : "\n".toList = ['\n'] := rfl
      rw [← String.toList_inj, unlines, String.toList_ofList, String.toList_intercalate, hfeed,
        flatMap_feed]
    have hpieces : pieces (unlines ls) = ls ++ [""] := by
      rw [hjoin]
      refine pieces_intercalate (fun l hl => ?_) (fun l hl => ?_)
      · rcases List.mem_append.mp hl with hl | hl
        · exact hfeed l hl
        · obtain rfl := List.mem_singleton.mp hl
          exact List.not_mem_nil
      · exact hfront l (by rwa [List.head?_append_of_ne_nil _ hne] at hl)
    rw [linesEnded, hpieces]
    simp

end Text

namespace Replay
open Session

/-- The answers that were given name options of their choices. -/
def Fits (trace : Trace) : Prop :=
  ∀ options node a, (Event.choice options node, some a) ∈ trace →
    ∃ i : Nat, a = .ofInt i ∧ i < options.length

theorem Fits.tail {e : Event × Option Answer} {t : Trace}
    (h : Fits (e :: t)) : Fits t :=
  fun options node a ha => h options node a (List.mem_cons_of_mem _ ha)

end Replay

namespace Player
open Session

/-- The line by which a player gives an answer: options are counted from one. -/
def typed (choice : Int) : String := toString (choice + 1)

/-- How a performance ends that retraces a drive. -/
def Ending.ofReplay : Except Failure Replay.Playback → Ending
  | .error f => .failed f
  | .ok p =>
    match p.ending with
    | .ended => .over
    | .waiting => .unanswered
    | .truncated => .endless

theorem Ending.ofReplay_map_cons (r : Except Failure Replay.Playback) (e : Event) :
    ofReplay (r.map (·.cons e)) = ofReplay r := by
  cases r <;> rfl

section Drive
variable {script : Script} {columns n m : Nat} {s : State} {input : Option Answer}

theorem typed_natCast (i : Nat) : typed i = (i + 1).repr := rfl

theorem not_mem_feed_typed (choice : Int) : '\n' ∉ (typed choice).toList := by
  have hrepr : ∀ n : Nat, '\n' ∉ n.repr.toList := fun n hc => by
    simpa [Char.isDigit] using Text.isDigit_of_mem_repr hc
  cases h : choice + 1 with
  | ofNat n =>
    rw [typed, h]
    exact hrepr n
  | negSucc n =>
    have hnegative : typed choice = "-" ++ (n + 1).repr := by rw [typed, h]; rfl
    rw [hnegative, String.toList_append, List.mem_append, not_or]
    exact ⟨by decide, hrepr (n + 1)⟩

theorem typed_ne_empty (choice : Int) : typed choice ≠ "" := by
  intro hempty
  cases h : choice + 1 with
  | ofNat n =>
    have hrepr : n.repr = "" := by rw [← hempty, typed, h]; rfl
    exact Text.toList_repr_ne_nil n (by rw [hrepr]; rfl)
  | negSucc n =>
    have hnegative : "-" ++ (n + 1).repr = "" := by rw [← hempty, typed, h]; rfl
    simp at hnegative

/-- The options of a choice that was just shown are those of some node of the script. -/
theorem asked_length_lt (hc : Coherent script s)
    (hsize : ∀ node ∈ script.nodes, ∀ visited,
      (node.compile visited).options.length < 10 ^ Text.maxIntegerDigits) {s' : State}
    {options : List Choice} {node : Compiled}
    (h : step script s input = .ok (s', some (.choice options node))) :
    options.length < 10 ^ Text.maxIntegerDigits := by
  have hpending : s'.pending = some options := pending_of_step hc h
  obtain ⟨n, before, ho, -, rfl⟩ := (hc.step h).pending_eq_some hpending
  exact hsize n (mem_of_openNode ho.opens) before

theorem not_truncated_of_cons {r : Except Failure Replay.Playback} {e : Event}
    (h : ∀ p, r.map (·.cons e) = .ok p → p.ending ≠ .truncated) :
    ∀ p, r = .ok p → p.ending ≠ .truncated := by
  rintro p rfl
  exact h (p.cons e) rfl

/-- A drive that is not cut short is retraced by a player who types what it was answered. -/
theorem drive_retraces {answers : List Answer} {t : Replay.Trace}
    {r : Except Failure Replay.Playback} (h : Replay.Driven script n s input answers t r)
    (hnm : n < m) (hc : Coherent script s)
    (hsize : ∀ node ∈ script.nodes, ∀ visited,
      (node.compile visited).options.length < 10 ^ Text.maxIntegerDigits)
    (hcut : ∀ p, r = .ok p → p.ending ≠ .truncated) (hfits : Replay.Fits t)
    {choices : List Int} (hchoices : answers = choices.map .ofInt)
    (shown : Option String) (commands : List String) :
    (drive script columns m s input (choices.map typed) shown commands).events =
        t.map Prod.fst ∧
      (drive script columns m s input (choices.map typed) shown commands).ending =
        .ofReplay r := by
  induction h generalizing m choices shown commands with
  | failed h =>
    obtain ⟨m, rfl⟩ := Nat.exists_eq_add_of_lt hnm
    rw [drive, h]
    exact ⟨rfl, rfl⟩
  | ended h =>
    obtain ⟨m, rfl⟩ := Nat.exists_eq_add_of_lt hnm
    rw [drive, h]
    exact ⟨rfl, rfl⟩
  | truncated => exact absurd rfl (hcut _ rfl)
  | @shown n s s' input answers e t r h he _ ih =>
    obtain ⟨m, rfl⟩ := Nat.exists_eq_add_of_lt hnm
    have hnext := ih (m := n + 1 + m) (by omega) (hc.step h) (not_truncated_of_cons hcut) hfits.tail
      hchoices
    rw [drive, h, Ending.ofReplay_map_cons]
    cases e with
    | line speaker text node => exact ⟨congrArg _ (hnext _ _).1, (hnext _ _).2⟩
    | command c node => exact ⟨congrArg _ (hnext _ _).1, (hnext _ _).2⟩
    | choice options node => cases he
  | waiting h =>
    obtain ⟨m, rfl⟩ := Nat.exists_eq_add_of_lt hnm
    obtain rfl : choices = [] := List.map_eq_nil_iff.mp hchoices.symm
    rw [drive, h]
    exact ⟨rfl, rfl⟩
  | @answered n s s' input a rest options node t r h _ ih =>
    obtain ⟨m, rfl⟩ := Nat.exists_eq_add_of_lt hnm
    obtain ⟨choice, choices, rfl, ha, hrest⟩ := List.map_eq_cons_iff.mp hchoices.symm
    obtain ⟨i, rfl, hi⟩ := hfits options node a List.mem_cons_self
    obtain rfl : choice = i := Option.some.inj (congrArg Answer.index? ha)
    have hlength := asked_length_lt hc hsize h
    have hnext := ih (m := n + 1 + m) (by omega) (hc.step h) (not_truncated_of_cons hcut) hfits.tail
      hrest.symm
    have hpick : ∀ commands, (ask columns s' commands options
        ((i + 1).repr :: choices.map typed)).2 = .option i (choices.map typed) :=
      fun commands => ask_repr hi (by omega) _
    rw [drive, h, List.map_cons, typed_natCast, Ending.ofReplay_map_cons]
    dsimp only
    rw [hpick]
    exact ⟨congrArg _ (hnext _ _).1, (hnext _ _).2⟩

end Drive
end Player
end Dialogue
