import Dialogue.Editor.Service
import Dialogue.Proofs.Files.Path

/-! Requests: what a request for the path of a service is answered is what the service answers. -/
namespace Dialogue

namespace Web
variable {names : List String}

/-- A request that can be sent, with its method and the path that it asks for. -/
structure Asks (r : Request) (m : Method) (path : String) : Prop where
  verb : r.verb = m
  target : ∃ t, r.target = .ok t ∧ t.isSocket = false ∧ t.decodedPath = path

theorem Asks.of_target {r : Request} {m : Method} {path : String} (hverb : r.verb = m)
    (h : (r.target.toOption.map fun t => (t.isSocket, t.decodedPath)) = some (false, path)) :
    Asks r m path := by
  cases ht : r.target with
  | error f => simp [ht, Except.toOption] at h
  | ok t =>
    rw [ht] at h
    obtain ⟨hsocket, hpath⟩ := Prod.mk.inj (Option.some.inj h)
    exact ⟨hverb, t, ht, hsocket, hpath⟩

theorem Asks.method_ne_head {r : Request} {m : Method} {path : String} (h : Asks r m path)
    (hm : m ≠ .head) : r.method ≠ Method.head.text := by
  intro hhead
  have hverb : r.verb = .head := by
    rw [Request.verb, hhead]
    decide +kernel
  exact hm (h.verb.symm.trans hverb)

/-- Names behind a service's path are the text of a path to it. -/
theorem fileName?_of_proper {p : Path} (hp : p.Proper) (hrelative : p.anchor = "")
    (hne : p.parts ≠ []) (hline : '\n' ∉ p.text.toList.tail) :
    Route.fileName? p.parts = some p.text := by
  have htext : "/".intercalate p.parts = p.text := by
    rw [Path.text_eq hne, hrelative, String.empty_append]
  have hslashes : "/".toList = ['/'] := rfl
  have hfront : p.text.toList.takeWhile (· == '/') = [] := by
    rw [← htext, String.toList_intercalate, hslashes]
    exact Path.takeWhile_slash_of_intercalate hp.parts
  obtain ⟨c, cs, hcs⟩ := List.exists_cons_of_ne_nil
    (by simpa using hp.text_ne_empty hne : p.text.toList ≠ [])
  rw [hcs] at hfront hline
  have hslash : c ≠ '/' := by
    rintro rfl
    simp at hfront
  simp only [Route.fileName?, htext, hcs]
  rw [if_neg]
  simpa [hslash] using hline

theorem ofPath?_dialogues : Route.ofPath? "/api/dialogues" = some .dialogues := by decide +kernel

theorem ofPath?_save : Route.ofPath? "/api/save" = some .save := by decide +kernel

/-- The path of a file's service leads to the file. -/
theorem ofPath?_file {p : Path} (hp : p.Proper) (hrelative : p.anchor = "")
    (hne : p.parts ≠ []) (hline : '\n' ∉ p.text.toList.tail) :
    Route.ofPath? ("/api/file/" ++ p.text) = some (.file p.text) := by
  have hproper : Path.Proper ⟨"/", "api" :: "file" :: p.parts⟩ := by
    refine ⟨.inr (.inl rfl), ?_⟩
    simp only [List.forall_mem_cons]
    exact ⟨by decide +kernel, by decide +kernel, hp.parts⟩
  have htext : "/api/file/" ++ p.text = Path.text ⟨"/", "api" :: "file" :: p.parts⟩ := by
    rw [Path.text_eq hne, Path.text_eq (by simp), hrelative]
    dsimp only
    rw [String.intercalate_cons_of_ne_nil (by simp), String.intercalate_cons_of_ne_nil hne]
    simp only [← String.append_assoc, String.empty_append]
    rfl
  have hraw : Path.rawParts (Path.text ⟨"/", "api" :: "file" :: p.parts⟩) =
      "" :: "api" :: "file" :: p.parts := by
    have hslash : "/".length = 1 := rfl
    rw [hproper.rawParts_text (by simp), hslash]
    rfl
  rw [Route.ofPath?, htext, hraw, Route.ofSegments?, fileName?_of_proper hp hrelative hne hline]
  rfl

end Web

namespace Editor
open Web

/-- A request that its route takes is answered by the service. -/
theorem handle_of_asks {r : Request} {m : Method} {path : String} {route : Route}
    (h : Asks r m path) (hroute : Route.ofPath? path = some route)
    (htakes : route.takes m = true) (hm : m = .get ∨ m = .post) (s : Store)
    (terminating : List String) (hitch : Option Hitch) :
    handle s terminating r hitch = .ok (routed s terminating ⟨r, path⟩ route hitch) := by
  obtain ⟨t, ht, hsocket, rfl⟩ := h.target
  have hhead : r.method ≠ Method.head.text :=
    h.method_ne_head (by rcases hm with rfl | rfl <;> decide)
  have hoptions : m ≠ .options := by rcases hm with rfl | rfl <;> decide
  rw [handle, ht]
  simp only [Except.map, dispatched, Routing.ofRequest, hroute, Routing.ofRoute, h.verb, htakes,
    hsocket, Bool.not_true, Bool.false_eq_true, if_false, if_neg hoptions, if_neg hhead]

end Editor
end Dialogue
