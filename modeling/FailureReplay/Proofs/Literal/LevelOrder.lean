import FailureReplay.Literal.LevelTree
import Mathlib.Algebra.Ring.Nat

/-!
# Level order

A list of nodes is in level order when the positions given to children, read off
node by node and left before right, are the next free ones, and every node has
been given out before it is reached. A binary tree of any shape is laid out in
this order by a queue of its subtrees, and the links of the layout lead back to
the tree.
-/

namespace FailureReplay

inductive BinaryTree where
  | empty
  | node (value : Int32) (left right : BinaryTree)
  deriving DecidableEq, Repr

namespace BinaryTree

def values : BinaryTree → List Int32
  | empty => []
  | node value left right => value :: (left.values ++ right.values)

/-- The number of positions a tree takes in the row of its siblings: one unless it is empty. -/
def width : BinaryTree → Nat
  | empty => 0
  | node _ _ _ => 1

/-- The link to a tree whose position is the next free one. -/
def link (next : Nat) : BinaryTree → Option Nat
  | empty => none
  | node _ _ _ => some next

/-- A measure that the front of a queue loses when its children are queued behind the others. -/
def weight : BinaryTree → Nat
  | empty => 1
  | node _ left right => left.weight + right.weight + 1

/-- The nodes of the queued trees and of all trees below them, breadth first: the children of the
front are queued behind the others, and take the next free positions. -/
def nodesFrom (next : Nat) (queue : List BinaryTree) : List TreeNode :=
  match queue with
  | [] => []
  | empty :: queue => nodesFrom next queue
  | node value left right :: queue =>
    ⟨value, left.link next, right.link (next + left.width)⟩ ::
      nodesFrom (next + left.width + right.width) (queue ++ [left, right])
termination_by (queue.map weight).sum
decreasing_by
  · simp [weight]
  · simp [weight]
    omega

theorem length_toList_link (next : Nat) (b : BinaryTree) :
    (b.link next).toList.length = b.width := by
  cases b <;> rfl

end BinaryTree

/-- The layout of a tree, level by level from its root. -/
def LevelTree.ofTree (b : BinaryTree) : LevelTree := ⟨BinaryTree.nodesFrom 1 [b], b.link 0⟩

/-! ## The links of a layout -/

/-- Following links from a position spells out a tree; an absent link spells the empty one. -/
def LevelTree.SpellsAt (t : LevelTree) : Option Nat → BinaryTree → Prop
  | position, .empty => position = none
  | position, .node value left right =>
    ∃ i child, position = some i ∧ t.nodes[i]? = some child ∧ child.value = value ∧
      t.SpellsAt child.left left ∧ t.SpellsAt child.right right

/-- The links spell out the tree from the root. -/
def LevelTree.Spells (t : LevelTree) (b : BinaryTree) : Prop := t.SpellsAt t.root b

/-- The trees of a queue are spelled out at consecutive positions; empty ones take none. -/
def LevelTree.SpellsFrom (t : LevelTree) : Nat → List BinaryTree → Prop
  | _, [] => True
  | i, b :: queue => t.SpellsAt (b.link i) b ∧ t.SpellsFrom (i + b.width) queue

namespace LevelTree

open FailureReplay.BinaryTree (nodesFrom width link)

theorem spellsFrom_append (t : LevelTree) (i : Nat) (queue rest : List BinaryTree) :
    t.SpellsFrom i (queue ++ rest) ↔
      t.SpellsFrom i queue ∧ t.SpellsFrom (i + (queue.map width).sum) rest := by
  induction queue generalizing i with
  | nil => simp [SpellsFrom]
  | cons b queue ih => simp [SpellsFrom, ih, and_assoc, Nat.add_assoc]

/-- The queued trees stand at the positions that follow the nodes already laid out. -/
theorem spellsFrom_nodesFrom (t : LevelTree) {next : Nat} {queue : List BinaryTree}
    {done : List TreeNode} (hnodes : t.nodes = done ++ nodesFrom next queue)
    (hnext : done.length + (queue.map width).sum = next) : t.SpellsFrom done.length queue := by
  fun_induction nodesFrom next queue generalizing done with
  | case1 next => trivial
  | case2 next queue ih => exact ⟨rfl, ih hnodes (by simpa [width] using hnext)⟩
  | case3 next value left right queue ih =>
    simp only [List.map_cons, List.sum_cons, width] at hnext
    let front : TreeNode := ⟨value, left.link next, right.link (next + left.width)⟩
    have hgrown : t.nodes = (done ++ [front]) ++
        nodesFrom (next + left.width + right.width) (queue ++ [left, right]) := by
      simpa using hnodes
    have hrest := ih hgrown (by simp; omega)
    rw [List.length_append, List.length_singleton, spellsFrom_append] at hrest
    obtain ⟨hqueue, hleft, hright, -⟩ := hrest
    have hposition : done.length + 1 + (queue.map width).sum = next := by omega
    rw [hposition] at hleft hright
    refine ⟨⟨done.length, front, rfl, ?_, rfl, hleft, hright⟩, hqueue⟩
    rw [hnodes, List.getElem?_append_right (Nat.le_refl _), Nat.sub_self]
    rfl

theorem spells_ofTree (b : BinaryTree) : (ofTree b).Spells b := by
  have hnodes : (ofTree b).nodes = [] ++ nodesFrom 1 [b] := rfl
  cases b with
  | empty => rfl
  | node value left right => exact (spellsFrom_nodesFrom _ hnodes rfl).1

/-! ## The positions of a layout -/

/-- The nodes from position `i` on are in level order, `next` being the next free position. -/
def LevelOrderFrom (i next : Nat) : List TreeNode → Prop
  | [] => i = next
  | node :: rest =>
    i < next ∧ (∀ c ∈ node.left, c = next) ∧
      (∀ c ∈ node.right, c = next + node.left.toList.length) ∧
      LevelOrderFrom (i + 1) (next + node.left.toList.length + node.right.toList.length) rest

/-- A tree without nodes and without a root, or one whose root is the first of its nodes and these
are in level order. -/
def LevelOrder (t : LevelTree) : Prop :=
  t.nodes = [] ∧ t.root = none ∨ t.root = some 0 ∧ LevelOrderFrom 0 1 t.nodes

theorem LevelOrderFrom.bounds {i next : Nat} {nodes : List TreeNode}
    (h : LevelOrderFrom i next nodes) : i ≤ next ∧ next ≤ i + nodes.length := by
  induction nodes generalizing i next with
  | nil =>
    obtain rfl : i = next := h
    simp
  | cons node rest ih =>
    obtain ⟨hlt, -, -, hrest⟩ := h
    have hbounds := ih hrest
    simp only [List.length_cons]
    omega

theorem levelOrderFrom_nodesFrom {i next : Nat} {queue : List BinaryTree}
    (hnext : i + (queue.map width).sum = next) :
    LevelOrderFrom i next (nodesFrom next queue) := by
  fun_induction nodesFrom next queue generalizing i with
  | case1 next => exact hnext
  | case2 next queue ih => exact ih (by simpa [width] using hnext)
  | case3 next value left right queue ih =>
    simp only [List.map_cons, List.sum_cons, width] at hnext
    refine ⟨by omega, ?_, ?_, ?_⟩
    · intro c hc
      cases left with
      | empty => cases hc
      | node _ _ _ => exact (Option.some.inj hc).symm
    · intro c hc
      cases right with
      | empty => cases hc
      | node _ _ _ =>
        rw [BinaryTree.length_toList_link]
        exact (Option.some.inj hc).symm
    · rw [BinaryTree.length_toList_link, BinaryTree.length_toList_link]
      exact ih (by simp; omega)

theorem levelOrder_ofTree (b : BinaryTree) : (ofTree b).LevelOrder := by
  cases b with
  | empty => exact .inl ⟨by simp [ofTree, nodesFrom], rfl⟩
  | node value left right => exact .inr ⟨rfl, levelOrderFrom_nodesFrom rfl⟩

theorem value_mem_of_mem_nodesFrom {next : Nat} {queue : List BinaryTree} {node : TreeNode}
    (h : node ∈ nodesFrom next queue) : ∃ b ∈ queue, node.value ∈ b.values := by
  fun_induction nodesFrom next queue with
  | case1 next => cases h
  | case2 next queue ih =>
    obtain ⟨b, hb, hv⟩ := ih h
    exact ⟨b, List.mem_cons_of_mem _ hb, hv⟩
  | case3 next value left right queue ih =>
    rcases List.mem_cons.mp h with rfl | h
    · exact ⟨.node value left right, by simp, by simp [BinaryTree.values]⟩
    · obtain ⟨b, hb, hv⟩ := ih h
      simp only [List.mem_append, List.mem_cons, List.not_mem_nil, or_false] at hb
      rcases hb with hb | rfl | rfl
      · exact ⟨b, List.mem_cons_of_mem _ hb, hv⟩
      · exact ⟨.node value b right, by simp, by simp [BinaryTree.values, hv]⟩
      · exact ⟨.node value left b, by simp, by simp [BinaryTree.values, hv]⟩

theorem value_mem_of_mem_ofTree {b : BinaryTree} {node : TreeNode}
    (h : node ∈ (ofTree b).nodes) : node.value ∈ b.values := by
  obtain ⟨b', hb, hv⟩ := value_mem_of_mem_nodesFrom h
  rwa [List.mem_singleton.mp hb] at hv

end LevelTree
end FailureReplay
