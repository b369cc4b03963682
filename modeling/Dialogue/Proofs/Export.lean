import Dialogue.Export
import Dialogue.Proofs.Files.Reading
import Dialogue.Proofs.Json.Documents
import Dialogue.Proofs.Script.Sizes
import Dialogue.Proofs.Script.Titles

/-! Exporting: what is written of a script that was read is read back as it was. -/
namespace Dialogue.Export
open Json

section Values
variable {room : Nat}

theorem plain_arr_map {α : Type} {f : α → Json} {xs : List α} (h : ∀ x, Plain room (f x)) :
    Plain (room + 1) (arr (xs.map f)) := by
  apply Plain.arr
  intro v hv
  obtain ⟨x, -, rfl⟩ := List.mem_map.mp hv
  exact h x

theorem plain_strings (xs : List String) : Plain (room + 1) (strings xs) :=
  plain_arr_map .str

theorem plain_ofOption {α : Type} {f : α → Json} {o : Option α}
    (h : ∀ a, o = some a → Plain room (f a)) : Plain room (ofOption f o) := by
  cases o with
  | none => exact .null
  | some a => exact h a rfl

/-- A table with plain values is a plain object. -/
theorem plain_obj_map {α : Type} {f : α → Json} {t : Table α} (ht : t.keys.Nodup)
    (h : ∀ e ∈ t, Plain room (f e.2)) : Plain (room + 1) (obj (t.map fun e => (e.1, f e.2))) := by
  apply Plain.obj
  · rw [List.map_map]
    exact ht
  · intro m hm
    obtain ⟨e, he, rfl⟩ := List.mem_map.mp hm
    exact h e he

theorem plain_record {ms : List (String × Json)} (hkeys : (ms.map Prod.fst).Nodup)
    (h : ms.Forall fun m => Plain room m.2) : Plain (room + 1) (obj ms) :=
  .obj hkeys (List.forall_iff_forall_mem.mp h)

theorem plain_ofChoice (c : Choice) : Plain (room + 1) (ofChoice c) :=
  plain_record (by simp) ⟨.str _, plain_ofOption fun _ _ => .str _, .bool _⟩

theorem plain_ofCommand (c : Command) : Plain (room + 2) (ofCommand c) :=
  plain_record (by simp) ⟨.str _, plain_strings _⟩

theorem plain_ofLink (l : Link) : Plain (room + 1) (ofLink l) :=
  plain_record (by simp) ⟨.str _, .bool _⟩

theorem plain_ofSpeaker (s : Speaker) : Plain (room + 1) (ofSpeaker s) :=
  plain_record (by simp) (plain_ofOption fun _ _ => .str _)

theorem plain_ofNode {n : Node} (hline : n.line < 10 ^ maxDigits)
    (hkeys : n.metadata.keys.Nodup) : Plain (room + 3) (ofNode n) :=
  plain_record (by simp)
    ⟨.str _, .int hline, plain_obj_map hkeys fun _ _ => .str _, plain_strings _, plain_strings _,
      plain_arr_map plain_ofChoice, plain_ofOption fun _ _ => .str _,
      plain_ofOption fun c _ => plain_ofCommand c, plain_arr_map plain_ofLink⟩

end Values

section Scripts
variable {source : String}

/-- The exporter puts nodes under their titles as the table of nodes does. -/
theorem ofList_ofNode (s : Script) : Table.ofList (s.nodes.map fun n => (n.title, ofNode n)) =
    s.nodeTable.map fun e => (e.1, ofNode e.2) := by
  have hmap := Table.ofList_map ofNode (s.nodes.map fun n => (n.title, n))
  rw [List.map_map] at hmap
  exact hmap

theorem nodes_ofScript (s : Script) : (ofScript s).member? "nodes" =
    some (.obj (s.nodeTable.map fun e => (e.1, ofNode e.2))) := by
  rw [← ofList_ofNode]
  rfl

theorem nodup_metadata {n : Node} (hn : n ∈ (Script.read source).1.nodes) :
    n.metadata.keys.Nodup := by
  obtain ⟨b, hb, hnode⟩ := List.mem_filterMap.mp hn
  rw [(Block.node?_eq_some hnode).2]
  exact Table.nodup_keys_ofList _

/-- A script that was read is plain as it is exported, as long as its lines can be counted with
the digits that are read. -/
theorem plain_ofScript {room : Nat} (h : source.length < 10 ^ maxDigits) :
    Plain (room + 5) (ofScript (Script.read source).1) := by
  have hnodes : ∀ e ∈ (Script.read source).1.nodeTable, Plain (room + 3) (ofNode e.2) := by
    intro e he
    obtain ⟨n, hn, rfl⟩ := List.mem_map.mp (Table.mem_of_mem_ofList he)
    exact plain_ofNode ((Script.line_le hn).trans_lt h) (nodup_metadata hn)
  have htable : (Script.read source).1.nodeTable.keys.Nodup := Table.nodup_keys_ofList _
  have hspeakers : (Script.read source).1.speakers.keys.Nodup := Table.nodup_keys_ofList _
  have hcount : (Script.read source).1.nodes.length < 10 ^ maxDigits :=
    (Script.length_nodes_le source).trans_lt h
  have hspeaking : (Script.read source).1.speakers.length < 10 ^ maxDigits :=
    (Script.length_speakers_le source).trans_lt h
  rw [ofScript, ofList_ofNode]
  exact plain_record (by simp) ⟨plain_obj_map hspeakers fun _ _ => plain_ofSpeaker _,
    plain_obj_map htable hnodes, plain_record (by simp) ⟨.str _, .int hcount, .int hspeaking,
      plain_ofOption fun _ _ => .str _⟩⟩

end Scripts

/-- Exporting loses nothing: what was written of a script that was read is read as what was
exported, and a file holds it as it was written. Under the titles, each at the place where it came
first, stand the nodes that the titles stand for, and under the names of the speakers the speakers.
No number of more than `maxDigits` digits is read, so the source has to be short enough for its
lines to be counted with them, as every text is that a memory holds. -/
theorem read_text (source : String) (h : source.length < 10 ^ maxDigits) :
    let s := (Script.read source).1
    Json.read (text s) = .ok (ofScript s) ∧
    (∀ (t t' : FileTree) (cwd : Place) (p : Path), p.Proper →
      t.writeText cwd p (text s) = .ok t' → t'.readText cwd p = .ok (text s)) ∧
    (∃ nodes : Table Json, (ofScript s).member? "nodes" = some (.obj nodes) ∧
      nodes.keys = s.titles.eraseDups ∧ s.nodeTable.keys = s.titles.eraseDups ∧
      ∀ title, s.nodeTable.get? title = s.node? title ∧
        nodes.get? title = (s.node? title).map ofNode) ∧
    (∃ speakers : Table Json, (ofScript s).member? "speakers" = some (.obj speakers) ∧
      speakers.keys = s.speakers.keys ∧ s.speakers.keys.Nodup ∧
      ∀ name, speakers.get? name = (s.speakers.get? name).map ofSpeaker) := by
  intro s
  have hplain : Plain maxNesting (ofScript s) := plain_ofScript h
  have hread : Json.read (text s) = .ok (ofScript s) := read_render hplain
  refine ⟨hread, ?_, ?_, ?_⟩
  · intro t t' cwd p hp hwrite
    rw [FileTree.readText_of_writeText hp hwrite, text, normalizeBreaks_render hplain]
  · refine ⟨s.nodeTable.map fun e => (e.1, ofNode e.2), nodes_ofScript s, ?_, s.keys_nodeTable, ?_⟩
    · rw [Table.keys_map]
      exact s.keys_nodeTable
    · intro title
      rw [Table.get?_map, Script.get?_nodeTable]
      exact ⟨rfl, rfl⟩
  · refine ⟨s.speakers.map fun e => (e.1, ofSpeaker e.2), rfl, ?_, ?_, ?_⟩
    · exact Table.keys_map _ _
    · exact Table.nodup_keys_ofList _
    · exact Table.get?_map _ _

/-- A café whose title has quotes, a backslash and a control, and two nodes of one title. -/
private def cafeText : String :=
  "title: \"Café\" \\ \x01\ntags: inn\n---\nZoë: \"Hi\"\n-> Über\n<<jump Bar>>\n===\n" ++
    "title: Bar\n===\nspeaker: Zoë\ntalkAnim: wave\n===\ntitle: Bar\n---\nBye.\n===\n"

theorem read_text_cafe :
    let s := (Script.read cafeText).1
    cafeText.length < 10 ^ maxDigits ∧ Json.read (text s) = .ok (ofScript s) ∧
    (∃ t : FileTree, (⟨[]⟩ : FileTree).writeText [] (.ofString "out/cafe.json") (text s) = .ok t ∧
      t.readText [] (.ofString "out/cafe.json") = .ok (text s)) ∧
    (∃ nodes : Table Json, (ofScript s).member? "nodes" = some (.obj nodes) ∧
      nodes.keys = ["\"Café\" \\ \x01", "Bar"]) ∧
    ∃ speakers : Table Json, (ofScript s).member? "speakers" = some (.obj speakers) ∧
      speakers.keys = ["Zoë"] := by
  intro s
  have hlength : cafeText.length < 10 ^ maxDigits := by
    have hfew : cafeText.length < 10 ^ 3 := by decide +kernel
    exact hfew.trans (Nat.pow_lt_pow_right (by decide) (by decide))
  have htitles : s.titles.eraseDups = ["\"Café\" \\ \x01", "Bar"] := by decide +kernel
  have hnames : s.speakers.keys = ["Zoë"] := by decide +kernel
  have hwrite : ∃ t : FileTree,
      (⟨[]⟩ : FileTree).writeText [] (.ofString "out/cafe.json") (text s) = .ok t := ⟨_, rfl⟩
  obtain ⟨hread, hfile, ⟨nodes, hnodes, hkeys, -⟩, speakers, hspeakers, hspeaking, -⟩ :=
    read_text cafeText hlength
  obtain ⟨t, ht⟩ := hwrite
  refine ⟨hlength, hread, ⟨t, ht, ?_⟩, ⟨nodes, hnodes, ?_⟩, speakers, hspeakers, ?_⟩
  · exact hfile _ t [] _ (Path.ofString_proper _) ht
  · rw [hkeys, htitles]
  · rw [hspeaking, hnames]

end Dialogue.Export
