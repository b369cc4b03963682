import Dialogue.Proofs.Script.Division

/-! Parsing: a text read in one pass from line to line, which goes on after a problem or gives up at
the first. What it comes to is what the blocks of the text come to. -/
namespace Dialogue

/-- Tells of a problem: it is noted where notes are kept, and otherwise ends the reading. -/
def noteIssue (notes : Option (List Issue)) (i : Issue) : Except Issue (Option (List Issue)) :=
  match notes with
  | none => .error i
  | some noted => .ok (some (noted ++ [i]))

/-- Tells of problems in turn. -/
def noteIssues (notes : Option (List Issue)) : List Issue → Except Issue (Option (List Issue))
  | [] => .ok notes
  | i :: is =>
    match noteIssue notes i with
    | .error f => .error f
    | .ok notes' => noteIssues notes' is

/-- What has been read of a node below its title. -/
structure Draft where
  metadata : Table String := []
  body : List String := []
  bodyLine : Nat := 0
  inBody : Bool := false
  deriving DecidableEq, Repr

/-- The node of a draft: blank lines at both ends of its body go. -/
def Draft.node (d : Draft) (title : String) (line : Nat) : Node where
  title
  metadata := d.metadata
  body := ((d.body.dropWhile Text.isBlankText).reverse.dropWhile Text.isBlankText).reverse
  line
  bodyLine := d.bodyLine + (d.body.takeWhile Text.isBlankText).length

/-- Reads the lines below a title, numbered from `n`: fields down to a separator, then the body,
down to the terminator or the end. What is left is given with its number. -/
def parseNode (title : String) (notes : Option (List Issue)) (n : Nat) (d : Draft) :
    List String → Except Issue (Draft × Option (List Issue) × Nat × List String)
  | [] => .ok (d, notes, n, [])
  | l :: ls =>
    if Source.isTerminator l then .ok (d, notes, n + 1, ls)
    else if d.inBody then parseNode title notes (n + 1) { d with body := d.body ++ [l] } ls
    else if Source.isSeparator l then
      parseNode title notes (n + 1) { d with inBody := true, bodyLine := n + 1 } ls
    else if (Text.trim l).isEmpty then parseNode title notes (n + 1) d ls
    else
      match readField (Text.trim l) with
      | .ok (key, value) =>
        parseNode title notes (n + 1) { d with metadata := d.metadata.put key value } ls
      | .error fault =>
        match noteIssue notes ⟨n, title, fault⟩ with
        | .error i => .error i
        | .ok notes' => parseNode title notes' (n + 1) d ls

/-- Reads the lines below the name of a speaker, numbered from `n`, for the last animation named. -/
def parseSpeaker (n : Nat) (talk : Option String) :
    List String → Option String × Nat × List String
  | [] => (talk, n, [])
  | l :: ls =>
    if Source.isTerminator l then (talk, n + 1, ls)
    else if (Text.trim l).isEmpty || Source.isSeparator l then parseSpeaker (n + 1) talk ls
    else
      match Block.property? (Text.trim l) with
      | some (name, value) =>
        parseSpeaker (n + 1) (if name = "talkAnim" then some (Text.trim value) else talk) ls
      | none => parseSpeaker (n + 1) talk ls

namespace Block
variable {h : Head} {n : Nat} {l : String} {c : List String}

section Separator
variable (hl : Source.isSeparator l = true)
include hl

theorem fields_of_separator : fields ⟨h, n, l :: c⟩ = [] := by
  simp [fields, header, hl]

theorem rawBody_of_separator : rawBody ⟨h, n, l :: c⟩ = c := by
  simp [rawBody, hl]

theorem hasSeparator_of_separator : hasSeparator ⟨h, n, l :: c⟩ = true := by
  simp [hasSeparator, hl]

theorem header_of_separator : header ⟨h, n, l :: c⟩ = [] := by
  simp [header, hl]

end Separator

section Line
variable (hl : Source.isSeparator l = false)
include hl

theorem rawBody_of_line : rawBody ⟨h, n, l :: c⟩ = rawBody ⟨h, n + 1, c⟩ := by
  simp [rawBody, hl]

theorem hasSeparator_of_line : hasSeparator ⟨h, n, l :: c⟩ = hasSeparator ⟨h, n + 1, c⟩ := by
  simp [hasSeparator, hl]

theorem header_of_line : header ⟨h, n, l :: c⟩ = l :: header ⟨h, n + 1, c⟩ := by
  simp [header, hl]

theorem fields_of_blank (hb : (Text.trim l).isEmpty = true) :
    fields ⟨h, n, l :: c⟩ = fields ⟨h, n + 1, c⟩ := by
  simp only [fields, header_of_line hl, List.zipIdx_cons]
  exact List.filterMap_cons_none (if_pos hb)

theorem fields_of_line (hb : ¬ (Text.trim l).isEmpty = true) :
    fields ⟨h, n, l :: c⟩ = (n + 1, readField (Text.trim l)) :: fields ⟨h, n + 1, c⟩ := by
  simp only [fields, header_of_line hl, List.zipIdx_cons]
  exact List.filterMap_cons_some (if_neg hb)

end Line

section Issues
variable {title : String}

theorem issues_of_separator (hl : Source.isSeparator l = true) :
    issues ⟨.title title, n, l :: c⟩ = [] := by
  simp only [issues, fields_of_separator hl, List.filterMap_nil]

variable (hl : Source.isSeparator l = false)
include hl

theorem issues_of_blank (hb : (Text.trim l).isEmpty = true) :
    issues ⟨.title title, n, l :: c⟩ = issues ⟨.title title, n + 1, c⟩ := by
  simp only [issues, fields_of_blank hl hb]

variable (hb : ¬ (Text.trim l).isEmpty = true)
include hb

theorem issues_of_field {field : String × String} (hf : readField (Text.trim l) = .ok field) :
    issues ⟨.title title, n, l :: c⟩ = issues ⟨.title title, n + 1, c⟩ := by
  simp only [issues, fields_of_line hl hb, hf, List.filterMap_cons]

theorem issues_of_fault {fault : MetadataFault} (hf : readField (Text.trim l) = .error fault) :
    issues ⟨.title title, n, l :: c⟩ =
      ⟨n + 1, title, fault⟩ :: issues ⟨.title title, n + 1, c⟩ := by
  simp only [issues, fields_of_line hl hb, hf, List.filterMap_cons]

end Issues

/-- The animation that a line of a speaker block names. -/
def named? (l : String) : Option String :=
  match property? (Text.trim l) with
  | some (name, value) => if name = "talkAnim" then some (Text.trim value) else none
  | none => none

theorem talk_eq (b : Block) : b.talk = (b.content.filterMap named?).getLast? := by
  refine congrArg List.getLast? (List.filterMap_congr fun l _ => ?_)
  unfold named?
  rcases property? (Text.trim l) with _ | ⟨name, value⟩ <;> rfl

theorem talk_cons : talk ⟨h, n, l :: c⟩ = (talk ⟨h, n, c⟩).or (named? l) := by
  rw [talk_eq, talk_eq, List.filterMap_cons]
  cases named? l with
  | none => rw [Option.or_none]
  | some a => cases hc : (c.filterMap named?).getLast? <;> simp [List.getLast?_cons, hc]

theorem property?_of_separator (hl : Source.isSeparator l = true) :
    property? (Text.trim l) = none := by
  obtain hs : Text.trim l = "---" := by simpa [Source.isSeparator] using hl
  rw [hs]
  rfl

theorem property?_of_blank (hl : (Text.trim l).isEmpty = true) :
    property? (Text.trim l) = none := by
  rw [String.isEmpty_iff.mp hl]
  rfl

end Block

theorem parseSpeaker_eq (n : Nat) (h : Head) (line : Nat) (talk : Option String)
    (ls : List String) : parseSpeaker n talk ls =
      ((Block.talk ⟨h, line, Source.inside ls⟩).or talk, n + Source.extent ls,
        ls.drop (Source.extent ls)) := by
  induction ls generalizing n talk with
  | nil => simp [parseSpeaker, Block.talk, Source.extent]
  | cons l ls ih =>
    rw [parseSpeaker]
    cases ht : Source.isTerminator l with
    | true =>
      rw [Source.inside_of_terminator ls ht, Source.extent_of_terminator ls ht]
      simp [Block.talk]
    | false =>
      have hnext : ∀ talk', parseSpeaker (n + 1) talk' ls =
          ((Block.talk ⟨h, line, Source.inside ls⟩).or talk', n + (Source.extent ls + 1),
            ls.drop (Source.extent ls)) := by
        intro talk'
        rw [ih, Nat.add_right_comm, Nat.add_assoc]
      rw [Source.inside_of_line ls ht, Source.extent_of_line ls ht, List.drop_succ_cons,
        Block.talk_cons, Option.or_assoc]
      simp only [Bool.false_eq_true, if_false, hnext]
      by_cases hskip : ((Text.trim l).isEmpty || Source.isSeparator l) = true
      · have hnone : Block.property? (Text.trim l) = none := by
          rcases Bool.or_eq_true_iff.mp hskip with hb | hs
          · exact Block.property?_of_blank hb
          · exact Block.property?_of_separator hs
        rw [if_pos hskip, Block.named?, hnone, Option.none_or]
      · rw [if_neg hskip, Block.named?]
        rcases Block.property? (Text.trim l) with _ | ⟨name, value⟩
        · rw [Option.none_or]
        · dsimp only
          split_ifs <;> simp

/-- Below the separator nothing but the terminator counts. -/
theorem parseNode_inBody (title : String) (notes : Option (List Issue)) (n : Nat)
    (metadata : Table String) (body : List String) (bodyLine : Nat) (ls : List String) :
    parseNode title notes n ⟨metadata, body, bodyLine, true⟩ ls =
      .ok (⟨metadata, body ++ Source.inside ls, bodyLine, true⟩, notes, n + Source.extent ls,
        ls.drop (Source.extent ls)) := by
  induction ls generalizing n body with
  | nil => simp [parseNode, Source.extent]
  | cons l ls ih =>
    rw [parseNode]
    cases ht : Source.isTerminator l with
    | true => simp [Source.inside_of_terminator ls ht, Source.extent_of_terminator ls ht]
    | false =>
      rw [Source.inside_of_line ls ht, Source.extent_of_line ls ht, List.drop_succ_cons]
      simp only [Bool.false_eq_true, if_false, if_true]
      rw [ih, List.append_assoc, List.singleton_append, Nat.add_right_comm, Nat.add_assoc]

/-- What reading a block that starts with a title comes to, on top of fields read before. -/
def Draft.ofBlock (metadata : Table String) (b : Block) : Draft where
  metadata := (b.fields.filterMap (·.2.toOption)).foldl (fun t (k, v) => t.put k v) metadata
  body := b.rawBody
  bodyLine := if b.hasSeparator then b.line + b.header.length + 2 else 0
  inBody := b.hasSeparator

namespace Draft
variable {metadata : Table String} {h : Head} {n : Nat} {l : String} {c : List String}

theorem ofBlock_separator (hl : Source.isSeparator l = true) :
    ofBlock metadata ⟨h, n, l :: c⟩ = ⟨metadata, c, n + 2, true⟩ := by
  simp [ofBlock, Block.fields_of_separator hl, Block.rawBody_of_separator hl,
    Block.hasSeparator_of_separator hl, Block.header_of_separator hl]

variable (hl : Source.isSeparator l = false)
include hl

theorem ofBlock_line (metadata' : Table String)
    (hm : ((Block.fields ⟨h, n, l :: c⟩).filterMap (·.2.toOption)).foldl
      (fun t (k, v) => t.put k v) metadata =
      ((Block.fields ⟨h, n + 1, c⟩).filterMap (·.2.toOption)).foldl
        (fun t (k, v) => t.put k v) metadata') :
    ofBlock metadata ⟨h, n, l :: c⟩ = ofBlock metadata' ⟨h, n + 1, c⟩ := by
  have hlines : n + (Block.header ⟨h, n + 1, c⟩).length + 1 + 2 =
      n + 1 + (Block.header ⟨h, n + 1, c⟩).length + 2 := by omega
  simp only [ofBlock, hm, Block.rawBody_of_line hl, Block.hasSeparator_of_line hl,
    Block.header_of_line hl, List.length_cons, ← Nat.add_assoc, hlines]

theorem ofBlock_blank (hb : (Text.trim l).isEmpty = true) :
    ofBlock metadata ⟨h, n, l :: c⟩ = ofBlock metadata ⟨h, n + 1, c⟩ :=
  ofBlock_line hl metadata (by rw [Block.fields_of_blank hl hb])

variable (hb : ¬ (Text.trim l).isEmpty = true)
include hb

theorem ofBlock_field {key value : String}
    (hf : readField (Text.trim l) = .ok (key, value)) :
    ofBlock metadata ⟨h, n, l :: c⟩ = ofBlock (metadata.put key value) ⟨h, n + 1, c⟩ :=
  ofBlock_line hl _ (by simp [Block.fields_of_line hl hb, hf, Except.toOption])

theorem ofBlock_fault {fault : MetadataFault}
    (hf : readField (Text.trim l) = .error fault) :
    ofBlock metadata ⟨h, n, l :: c⟩ = ofBlock metadata ⟨h, n + 1, c⟩ :=
  ofBlock_line hl _ (by simp [Block.fields_of_line hl hb, hf, Except.toOption])

end Draft

theorem parseNode_eq (title : String) (notes : Option (List Issue)) (n : Nat)
    (metadata : Table String) (ls : List String) :
    parseNode title notes (n + 1) { metadata } ls =
      (noteIssues notes (Block.issues ⟨.title title, n, Source.inside ls⟩)).map fun notes' =>
        (.ofBlock metadata ⟨.title title, n, Source.inside ls⟩, notes',
          n + 1 + Source.extent ls, ls.drop (Source.extent ls)) := by
  induction ls generalizing n notes metadata with
  | nil => rfl
  | cons l ls ih =>
    rw [parseNode]
    cases ht : Source.isTerminator l with
    | true =>
      rw [Source.inside_of_terminator ls ht, Source.extent_of_terminator ls ht]
      rfl
    | false =>
      have hnext : n + 1 + (Source.extent ls + 1) = n + 1 + 1 + Source.extent ls := by omega
      rw [Source.inside_of_line ls ht, Source.extent_of_line ls ht, List.drop_succ_cons, hnext]
      simp only [Bool.false_eq_true, if_false]
      cases hs : Source.isSeparator l with
      | true =>
        rw [if_pos rfl, parseNode_inBody, Draft.ofBlock_separator hs, Block.issues_of_separator hs]
        rfl
      | false =>
        rw [if_neg Bool.false_ne_true]
        by_cases hb : (Text.trim l).isEmpty = true
        · rw [if_pos hb, ih, Draft.ofBlock_blank hs hb, Block.issues_of_blank hs hb]
        · rw [if_neg hb]
          cases hf : readField (Text.trim l) with
          | ok field =>
            obtain ⟨key, value⟩ := field
            dsimp only
            rw [ih, Draft.ofBlock_field hs hb hf, Block.issues_of_field hs hb hf]
          | error fault =>
            dsimp only
            rw [Draft.ofBlock_fault hs hb hf, Block.issues_of_fault hs hb hf, noteIssues]
            cases noteIssue notes ⟨n + 1, title, fault⟩ with
            | error i => rfl
            | ok notes' => exact ih notes' (n + 1) metadata

theorem rest_of_parseNode {title : String} {notes notes' : Option (List Issue)} {n n' : Nat}
    {d : Draft} {ls rest : List String}
    (h : parseNode title notes (n + 1) {} ls = .ok (d, notes', n', rest)) :
    rest = ls.drop (Source.extent ls) := by
  rw [parseNode_eq] at h
  cases hr : noteIssues notes (Block.issues ⟨.title title, n, Source.inside ls⟩) with
  | error i => simp [hr, Except.map] at h
  | ok noted =>
    simp only [hr, Except.map, Except.ok.injEq, Prod.mk.injEq] at h
    exact h.2.2.2.symm

/-- Reads lines numbered from `n` on top of a script: the blocks of nodes and speakers one after the
other, and nothing of the lines between them. -/
def parseLines (notes : Option (List Issue)) (n : Nat) (script : Script) :
    List String → Except Issue (Script × Option (List Issue))
  | [] => .ok (script, notes)
  | l :: ls =>
    match Source.head? l with
    | none => parseLines notes (n + 1) script ls
    | some (.title title) =>
      match _h : parseNode title notes (n + 1) {} ls with
      | .error i => .error i
      | .ok (d, notes', n', rest) =>
        parseLines notes' n' { script with nodes := script.nodes ++ [d.node title n] } rest
    | some (.speaker name) =>
      let r := parseSpeaker (n + 1) none ls
      parseLines notes r.2.1
        { script with speakers := script.speakers.put name ⟨name, r.1, n⟩ } r.2.2
termination_by ls => ls.length
decreasing_by
  · simp
  · rw [rest_of_parseNode _h, List.length_cons, List.length_drop]
    omega
  · rw [parseSpeaker_eq (n + 1) (.speaker name) n none ls, List.length_cons, List.length_drop]
    omega

theorem noteIssues_append (notes : Option (List Issue)) (is js : List Issue) :
    noteIssues notes (is ++ js) =
      match noteIssues notes is with
      | .error i => .error i
      | .ok notes' => noteIssues notes' js := by
  induction is generalizing notes with
  | nil => rfl
  | cons i is ih =>
    rw [List.cons_append, noteIssues, noteIssues]
    cases noteIssue notes i with
    | error f => rfl
    | ok notes' => exact ih notes'

theorem noteIssues_some (noted is : List Issue) :
    noteIssues (some noted) is = .ok (some (noted ++ is)) := by
  induction is generalizing noted with
  | nil => rw [noteIssues, List.append_nil]
  | cons i is ih =>
    rw [noteIssues, noteIssue]
    exact (ih _).trans (by rw [List.append_assoc, List.singleton_append])

/-- A script with the nodes and speakers of further blocks. -/
def Script.extend (s : Script) (bs : List Block) : Script where
  nodes := s.nodes ++ bs.filterMap Block.node?
  speakers := (bs.filterMap Block.speaker?).foldl (fun t sp => t.put sp.name sp) s.speakers

theorem Draft.node_ofBlock (title : String) (n : Nat) (c : List String) :
    Block.node? ⟨.title title, n, c⟩ =
      some ((Draft.ofBlock [] ⟨.title title, n, c⟩).node title n) := by
  have hline : Block.bodyLine ⟨.title title, n, c⟩ =
      (if Block.hasSeparator ⟨.title title, n, c⟩ then
        n + (Block.header ⟨.title title, n, c⟩).length + 2 else 0) +
        ((Block.rawBody ⟨.title title, n, c⟩).takeWhile Text.isBlankText).length := by
    rw [Block.bodyLine]
    split_ifs with hs
    · rfl
    · rw [Block.rawBody_of_no_separator hs]
      rfl
  simp only [Block.node?, Draft.node, Draft.ofBlock, Block.metadata, Table.ofList, Block.body,
    hline]

theorem Script.extend_cons (s : Script) (b : Block) (bs : List Block) :
    s.extend (b :: bs) = (s.extend [b]).extend bs := by
  rw [← List.singleton_append]
  simp only [extend, List.filterMap_append, List.foldl_append, List.append_assoc]

theorem Script.extend_title (s : Script) (title : String) (n : Nat) (c : List String) :
    s.extend [⟨.title title, n, c⟩] =
      { s with nodes := s.nodes ++ [(Draft.ofBlock [] ⟨.title title, n, c⟩).node title n] } := by
  rw [extend, List.filterMap_cons_some (Draft.node_ofBlock title n c)]
  rfl

theorem Script.extend_speaker (s : Script) (name : String) (n : Nat) (c : List String) :
    s.extend [⟨.speaker name, n, c⟩] =
      { s with speakers := s.speakers.put name ⟨name, Block.talk ⟨.speaker name, n, c⟩, n⟩ } := by
  rw [extend, List.filterMap_cons_none rfl, List.filterMap_nil, List.append_nil]
  rfl

/-- A head is read with all that belongs to its block. -/
theorem parseLines_of_head (notes : Option (List Issue)) (n : Nat) (script : Script) {l : String}
    {h : Head} (hl : Source.head? l = some h) (ls : List String) :
    parseLines notes n script (l :: ls) =
      match noteIssues notes (Block.issues ⟨h, n, Source.inside ls⟩) with
      | .error i => .error i
      | .ok notes' => parseLines notes' (n + 1 + Source.extent ls)
        (script.extend [⟨h, n, Source.inside ls⟩]) (ls.drop (Source.extent ls)) := by
  rw [parseLines]
  cases h with
  | title title =>
    simp only [hl]
    split
    · next i hnode =>
      rw [parseNode_eq] at hnode
      cases hr : noteIssues notes (Block.issues ⟨.title title, n, Source.inside ls⟩) with
      | error f => simpa [hr, Except.map, eq_comm] using hnode
      | ok noted => simp [hr, Except.map] at hnode
    · next d noted n' rest hnode =>
      rw [parseNode_eq] at hnode
      cases hr : noteIssues notes (Block.issues ⟨.title title, n, Source.inside ls⟩) with
      | error f => simp [hr, Except.map] at hnode
      | ok noted' =>
        simp only [hr, Except.map, Except.ok.injEq, Prod.mk.injEq] at hnode
        obtain ⟨rfl, rfl, rfl, rfl⟩ := hnode
        rw [Script.extend_title]
  | speaker name =>
    simp only [hl]
    rw [parseSpeaker_eq (n + 1) (.speaker name) n none ls, Option.or_none]
    rw [Script.extend_speaker]
    rfl

theorem parseLines_eq (notes : Option (List Issue)) (n : Nat) (script : Script)
    (ls : List String) : parseLines notes n script ls =
      (noteIssues notes ((Block.scan n none ls).flatMap Block.issues)).map fun notes' =>
        (script.extend (Block.scan n none ls), notes') := by
  revert notes script
  apply Block.scan_induction (P := fun n ls bs => ∀ notes script, parseLines notes n script ls =
    (noteIssues notes (bs.flatMap Block.issues)).map fun notes' => (script.extend bs, notes'))
  · intro n notes script
    simp [parseLines, noteIssues, Script.extend, Except.map]
  · intro n l ls hl ih notes script
    rw [parseLines]
    simp only [hl]
    exact ih notes script
  · intro n l ls h hl ih notes script
    rw [parseLines_of_head notes n script hl ls, List.flatMap_cons, noteIssues_append,
      Script.extend_cons script ⟨h, n, Source.inside ls⟩ (Block.scan _ none _)]
    cases noteIssues notes (Block.issues ⟨h, n, Source.inside ls⟩) with
    | error f => rfl
    | ok notes' => exact ih notes' (script.extend [⟨h, n, Source.inside ls⟩])

namespace Script

/-- Reads a text in one pass. -/
def parse (notes : Option (List Issue)) (text : String) :
    Except Issue (Script × Option (List Issue)) :=
  parseLines notes 1 {} (Source.lines text)

theorem parse_eq (notes : Option (List Issue)) (text : String) : parse notes text =
    (noteIssues notes (read text).2).map fun notes' => ((read text).1, notes') := by
  have hscript : Script.extend {} (Block.ofText text) = (read text).1 := by
    simp only [extend, read, ofBlocks, Table.ofList, List.nil_append, List.foldl_map]
  rw [parse, parseLines_eq, ← hscript]
  rfl

theorem parse_strict (text : String) : parse none text = (readStrict text).map (·, none) := by
  rw [parse_eq, readStrict]
  rcases read text with ⟨script, _ | ⟨i, is⟩⟩ <;> rfl

theorem parse_collecting (text : String) :
    parse (some []) text = .ok ((read text).1, some (read text).2) := by
  rw [parse_eq, noteIssues_some]
  rfl

end Script

end Dialogue
