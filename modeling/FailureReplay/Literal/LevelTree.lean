import FailureReplay.Literal.Error
import FailureReplay.Text.Blank

/-!
# Tree literals

A binary tree is written level by level between braces: first the root, then the
left and right child of each node in turn, a placeholder standing for an absent
child. Trailing placeholders may be left out. A decoded tree is the list of its
nodes in that order, root and children given by their position in the list.
-/

namespace FailureReplay

/-- A node and the positions of its children. -/
structure TreeNode where
  value : Int32
  left : Option Nat
  right : Option Nat
  deriving DecidableEq, Repr

/-- A binary tree as the list of its nodes, level by level, with the position of its root. -/
structure LevelTree where
  nodes : List TreeNode
  root : Option Nat
  deriving DecidableEq, Repr

namespace LevelTree

/-- One child slot: absent for the placeholder, else the child's value. -/
def slot (placeholder token : Text) : Except Literal.Fault (Option Int32) :=
  if token = placeholder then .ok none else (Literal.numeral token).map some

/-- The position of a value, when there is one: the next free position. -/
def position (next : Nat) : Option Int32 → Option Nat
  | none => none
  | some _ => some next

/-- Nodes for the values that wait in `queue`, which take the tokens as children two at a time;
`next` is the position of the next child. -/
def grow (placeholder : Text) :
    (queue : List Int32) → (next : Nat) → (tokens : List Text) →
      Except Literal.Fault (List TreeNode)
  | [], _, [] => .ok []
  | [], _, _ :: _ => .error .surplusTokens
  | value :: queue, next, [] => do
    let rest ← grow placeholder queue next []
    return ⟨value, none, none⟩ :: rest
  | value :: queue, next, [l] => do
    let left ← slot placeholder l
    let rest ← grow placeholder (queue ++ left.toList) (next + left.toList.length) []
    return ⟨value, position next left, none⟩ :: rest
  | value :: queue, next, l :: r :: tokens => do
    let left ← slot placeholder l
    let right ← slot placeholder r
    let rest ← grow placeholder (queue ++ left.toList ++ right.toList)
      (next + left.toList.length + right.toList.length) tokens
    return ⟨value, position next left, position (next + left.toList.length) right⟩ :: rest
termination_by queue _ tokens => (tokens.length, queue.length)

def tree? (placeholder trimmed : Text) : Except Literal.Fault LevelTree :=
  match Text.enclosed? '{' '}' trimmed with
  | none => .error .noBraces
  | some inner =>
    match Text.words inner with
    | [] => .ok ⟨[], none⟩
    | root :: tokens =>
      if root = placeholder then .error .rootPlaceholder
      else do
        let value ← Literal.numeral root
        let nodes ← grow placeholder [value] 1 tokens
        return ⟨nodes, position 0 (some value)⟩

def parse (placeholder literal : Text) : Except Literal.Error LevelTree :=
  match tree? placeholder (Text.trim literal) with
  | .ok t => .ok t
  | .error fault => .error { kind := .tree, literal, fault }

/-- The node at the root, if there is one. -/
def root? (t : LevelTree) : Option TreeNode := t.root.bind fun i => t.nodes[i]?

def token (t : LevelTree) (placeholder : Text) (child : Option Nat) : Text :=
  match child.bind fun i => t.nodes[i]? with
  | some node => Numeral.write node.value
  | none => placeholder

/-- Child tokens of the nodes at the queued positions and of all nodes reached from them;
at most `fuel` nodes are visited. -/
def childTokens (t : LevelTree) (placeholder : Text) : (fuel : Nat) → List Nat → List Text
  | 0, _ => []
  | _, [] => []
  | fuel + 1, i :: queue =>
    match t.nodes[i]? with
    | none => childTokens t placeholder fuel queue
    | some node =>
      t.token placeholder node.left :: t.token placeholder node.right ::
        childTokens t placeholder fuel (queue ++ node.left.toList ++ node.right.toList)

/-- All tokens of a tree, level by level from its root. -/
def tokens (t : LevelTree) (placeholder : Text) : List Text :=
  match t.root with
  | none => []
  | some i => t.token placeholder (some i) :: t.childTokens placeholder t.nodes.length [i]

/-- Write a tree literal without trailing placeholders. -/
def render (t : LevelTree) (placeholder : Text) : Text :=
  '{' :: Text.join " "
    ((t.tokens placeholder).reverse.dropWhile (· == placeholder)).reverse ++ ['}']

end LevelTree
end FailureReplay
