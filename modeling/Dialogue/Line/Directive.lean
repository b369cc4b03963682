import Dialogue.Text.Match

/-! Directives: jumps, detours and commands between double angle brackets. -/
namespace Dialogue

structure Command where
  name : String
  args : List String := []
  deriving DecidableEq, Repr

structure Link where
  target : String
  detour : Bool := false
  deriving DecidableEq, Repr

def commandNames : List String := ["loadPuzzle", "loadLevel", "return"]

namespace Directive
open Text

def mark : String := "<<"

/-- What follows the opening mark and its blanks. -/
def opened? (cs : List Char) : Option (List Char) := (after? mark cs).map dropBlank

/-- Blanks, the closing mark, and the end. -/
def closes (cs : List Char) : Bool :=
  match after? ">>" (dropBlank cs) with
  | some rest => atEnd rest
  | none => false

/-- The title after `keyword` in a directive that holds nothing else. -/
def target? (keyword : String) (s : String) : Option String := do
  let r ← opened? s.toList
  let r ← after? keyword r
  let r ← blanks? r
  let (title, r) ← word? r
  if closes r then some (.ofList title) else none

def jump? (s : String) : Option String := target? "jump" s

def link? (s : String) : Option Link :=
  match jump? s with
  | some title => some ⟨title, false⟩
  | none => (target? "detour" s).map (⟨·, true⟩)

/-- The words after `keyword`, up to the first closing bracket. A blank separates them from the
keyword; two blanks with nothing behind them hold no word and are taken all the same. -/
def args? (keyword : String) (s : String) : Option (List String) := do
  let r ← opened? s.toList
  let r ← after? keyword r
  let (inside, rest) := r.span (· ≠ '>')
  let _ ← blanks? inside
  if 2 ≤ inside.length && closes rest then some ((words inside).map .ofList) else none

def isReturn (s : String) : Bool :=
  match (opened? s.toList).bind (after? "return") with
  | some r => closes r
  | none => false

def command? (s : String) : Option Command :=
  match args? "loadPuzzle" s with
  | some args => some ⟨"loadPuzzle", args⟩
  | none =>
    match args? "loadLevel" s with
    | some args => some ⟨"loadLevel", args⟩
    | none => if isReturn s then some ⟨"return", []⟩ else none

end Directive
end Dialogue
