import FailureReplay.Proofs.Literal.TreeFormat
import Mathlib.Data.List.Nodup

/-!
# The links of a decoded tree

Decoding makes the root first and gives out the positions of children in order, so
the links of a decoded tree, read off node by node, count up from the position
behind the root. A
rendering follows them with a queue that would take them wherever they led. On a
decoded tree the queue always holds the positions between the current node and
the next free one: it runs empty after the last node, each node has then been
taken once, in the order of the list, and no position was outside it.
-/

namespace FailureReplay

/-- The positions of the children of a node, left before right. -/
def TreeNode.links (node : TreeNode) : List Nat := node.left.toList ++ node.right.toList

theorem TreeNode.mem_links {node : TreeNode} {c : Nat} :
    c ∈ node.links ↔ c ∈ node.left ∨ c ∈ node.right := by
  simp [TreeNode.links]

namespace LevelTree

/-! ## Links -/

/-- The child slots of all nodes, filled or not. -/
def slots (t : LevelTree) : List (Option Nat) :=
  t.nodes.flatMap fun node => [node.left, node.right]

theorem count_slots (t : LevelTree) (c : Nat) :
    t.slots.count (some c) = (t.nodes.flatMap TreeNode.links).count c := by
  have hnode : ∀ node : TreeNode, [node.left, node.right].count (some c) = node.links.count c := by
    intro node
    obtain ⟨value, left, right⟩ := node
    cases left <;> cases right <;> simp [TreeNode.links, List.count_cons]
  rw [slots, List.count_flatMap, List.count_flatMap]
  exact congrArg List.sum (List.map_congr_left fun node _ => hnode node)

/-- From a node on, the links run through the positions that are not given out yet. -/
theorem LevelOrderFrom.links_eq {i next : Nat} {nodes : List TreeNode}
    (h : LevelOrderFrom i next nodes) :
    nodes.flatMap TreeNode.links = positions next (i + nodes.length) := by
  induction nodes generalizing i next with
  | nil =>
    obtain rfl : i = next := h
    simp [positions]
  | cons node rest ih =>
    obtain ⟨hlt, hleft, hright, hrest⟩ := h
    have hbounds := hrest.bounds
    have hnode : node.links =
        positions next (next + node.left.toList.length + node.right.toList.length) := by
      have hfirst := positions_append_links (Nat.le_refl next) hleft hright
      simpa [positions, TreeNode.links] using hfirst
    rw [List.flatMap_cons, ih hrest, hnode, positions_append (by omega) (by omega),
      List.length_cons, Nat.add_right_comm, Nat.add_assoc]

/-- How the nodes of a tree hang together: the root is the first node, the links count up from the
second, and so each leads to a later node and no two lead to the same one. -/
structure Linked (t : LevelTree) : Prop where
  root_absent : t.root = none ↔ t.nodes = []
  root_first : t.nodes ≠ [] → t.root = some 0
  root_node : t.root? = t.nodes.head?
  links : t.nodes.flatMap TreeNode.links = List.range' 1 (t.nodes.length - 1)
  later : ∀ i node, t.nodes[i]? = some node →
    ∀ c ∈ node.links, i < c ∧ c < t.nodes.length
  one_slot : ∀ c, 0 < c → c < t.nodes.length → t.slots.count (some c) = 1

/-- The root is where the nodes start, or missing with them. -/
theorem LevelOrder.root_eq {t : LevelTree} (h : t.LevelOrder) :
    t.root = if t.nodes = [] then none else some 0 := by
  obtain ⟨hnil, hnone⟩ | ⟨hroot, h⟩ := h
  · rw [hnone, if_pos hnil]
  · rw [hroot, if_neg (List.ne_nil_of_length_pos h.length_pos)]

theorem LevelOrder.root?_eq {t : LevelTree} (h : t.LevelOrder) : t.root? = t.nodes.head? := by
  obtain ⟨hnil, hnone⟩ | ⟨hroot, -⟩ := h
  · rw [root?, hnone, hnil]
    rfl
  · rw [root?, hroot, List.head?_eq_getElem?]
    rfl

/-- In level order, the links of all nodes in turn count up from one. -/
theorem LevelOrder.links_eq {t : LevelTree} (h : t.LevelOrder) :
    t.nodes.flatMap TreeNode.links = List.range' 1 (t.nodes.length - 1) := by
  obtain ⟨hnil, -⟩ | ⟨-, h⟩ := h
  · simp [hnil]
  · rw [h.links_eq, Nat.zero_add, positions]

theorem LevelOrder.linked {t : LevelTree} (h : t.LevelOrder) : t.Linked where
  root_absent := by simp [h.root_eq]
  root_first hne := by rw [h.root_eq, if_neg hne]
  root_node := h.root?_eq
  links := h.links_eq
  later i node hnode c hc := by
    obtain ⟨hnil, -⟩ | ⟨-, h⟩ := h
    · simp [hnil] at hnode
    · simpa using h.link_bounds hnode (TreeNode.mem_links.mp hc)
  one_slot c hpos hlt := by
    rw [count_slots, h.links_eq]
    apply List.count_eq_one_of_mem List.nodup_range'
    rw [List.mem_range'_1]
    omega

/-! ## Following the links -/

/-- The run of a queue of positions: the front is taken and its children join behind the others,
until none is left. Every position that is taken or joins is the position of a node. -/
inductive Visits (t : LevelTree) : (queue visited : List Nat) → Prop where
  | done : Visits t [] []
  | take {i : Nat} {node : TreeNode} {queue visited : List Nat}
      (node_at : t.nodes[i]? = some node) (inside : ∀ c ∈ node.links, c < t.nodes.length)
      (rest : Visits t (queue ++ node.links) visited) : Visits t (i :: queue) (i :: visited)

/-- The tokens written when a position is taken. -/
def tokensAt (t : LevelTree) (mark : Text) (i : Nat) : List Text :=
  t.nodes[i]?.toList.flatMap (t.nodeTokens mark)

/-- A queue that runs empty is written out in full, however much fuel is left over. -/
theorem Visits.childTokens_eq {t : LevelTree} {queue visited : List Nat}
    (h : t.Visits queue visited) (mark : Text) {fuel : Nat} (hfuel : visited.length ≤ fuel) :
    t.childTokens mark fuel queue = visited.flatMap (t.tokensAt mark) := by
  induction h generalizing fuel with
  | done => cases fuel <;> rfl
  | @take i node queue visited node_at inside rest ih =>
    cases fuel with
    | zero => simp at hfuel
    | succ fuel =>
      rw [List.length_cons] at hfuel
      have hrest := ih (show visited.length ≤ fuel by omega)
      rw [TreeNode.links, ← List.append_assoc] at hrest
      rw [childTokens, node_at]
      simp only [hrest, List.flatMap_cons, tokensAt, node_at, Option.toList_some,
        List.flatMap_nil, nodeTokens, List.append_nil, List.cons_append, List.nil_append]

/-- From the current node on, the queue of given out positions takes every node once. -/
theorem visits_levelOrder {t : LevelTree} {i next : Nat} {nodes : List TreeNode}
    (h : LevelOrderFrom i next nodes) (hdrop : t.nodes.drop i = nodes) :
    t.Visits (positions i next) (positions i (i + nodes.length)) := by
  induction nodes generalizing i next with
  | nil =>
    obtain rfl : i = next := h
    simpa [positions] using Visits.done
  | cons node rest ih =>
    have hget : t.nodes[i]? = some node := getElem?_of_drop hdrop
    have hlength : t.nodes.length = i + (node :: rest).length := by
      have hlen := congrArg List.length hdrop
      rw [List.length_drop, List.length_cons] at hlen
      rw [List.length_cons]
      omega
    have hinside : ∀ c ∈ node.links, c < t.nodes.length := by
      intro c hc
      have hbounds := h.link_bounds (k := 0) rfl (TreeNode.mem_links.mp hc)
      omega
    obtain ⟨hlt, hleft, hright, hrest⟩ := h
    have hgrown := positions_append_links (Nat.succ_le_of_lt hlt) hleft hright
    rw [List.append_assoc] at hgrown
    have hvisits := ih hrest (drop_succ hdrop)
    rw [← hgrown, show i + 1 + rest.length = i + (node :: rest).length by
      rw [List.length_cons]; omega] at hvisits
    rw [positions_eq_cons hlt, positions_eq_cons (show i < i + (node :: rest).length by simp)]
    exact .take hget hinside hvisits

/-- How a rendering goes through a tree: its queue takes every node once, in the order of the list,
and writes two tokens for each behind the token of the root. The literal holds these tokens without
the placeholders at the end. -/
structure Walked (t : LevelTree) (mark : Text) : Prop where
  visits : t.Visits t.root.toList (List.range t.nodes.length)
  childTokens : ∀ fuel, t.nodes.length ≤ fuel →
    t.childTokens mark fuel t.root.toList =
      (List.range t.nodes.length).flatMap (t.tokensAt mark)
  tokens : ∀ root, t.root? = some root →
    t.tokens mark =
        Numeral.write root.value :: (List.range t.nodes.length).flatMap (t.tokensAt mark) ∧
      (t.tokens mark).length = 2 * t.nodes.length + 1
  render : ∀ root, t.root? = some root →
    t.render mark =
      '{' :: Text.join " " ((Numeral.write root.value ::
        (List.range t.nodes.length).flatMap (t.tokensAt mark)).rdropWhile (· == mark)) ++ ['}']
  render_empty : t.root? = none → t.render mark = "\x7b\x7d".toList

/-- The queue meets the nodes in the order in which they are listed. -/
theorem LevelOrder.visits {t : LevelTree} (h : t.LevelOrder) :
    t.Visits t.root.toList (List.range t.nodes.length) := by
  obtain ⟨hnil, hnone⟩ | ⟨hroot, h⟩ := h
  · simpa [hnone, hnil] using Visits.done
  · rw [hroot, List.range_eq_range']
    have hvisits := visits_levelOrder h List.drop_zero
    rw [Nat.zero_add] at hvisits
    exact hvisits

/-- Behind the token of the root, two tokens are written for each node, in list order. -/
theorem LevelOrder.tokens_eq {t : LevelTree} (h : t.LevelOrder) {root : TreeNode}
    (hroot : t.root? = some root) (mark : Text) :
    t.tokens mark =
        Numeral.write root.value :: (List.range t.nodes.length).flatMap (t.tokensAt mark) ∧
      (t.tokens mark).length = 2 * t.nodes.length + 1 := by
  have hfuel : (List.range t.nodes.length).length ≤ t.nodes.length := by simp
  have hwalk := h.visits.childTokens_eq mark hfuel
  obtain ⟨-, hnone⟩ | ⟨hfirst, horder⟩ := h
  · simp [root?, hnone] at hroot
  · rw [hfirst] at hwalk
    have hget : t.nodes[0]? = some root := by simpa [root?, hfirst] using hroot
    obtain ⟨rest, hcons⟩ : ∃ rest, t.nodes = root :: rest := by
      rwa [← List.head?_eq_getElem?, List.head?_eq_some_iff] at hget
    refine ⟨?_, ?_⟩
    · simp only [LevelTree.tokens, hfirst, token, Option.bind_some, hget]
      exact congrArg _ hwalk
    · rw [LevelTree.tokens_eq hcons hfirst horder mark, List.length_cons, List.length_flatMap]
      simp [nodeTokens, Nat.mul_comm]

theorem LevelOrder.walked {t : LevelTree} (h : t.LevelOrder) (mark : Text) : t.Walked mark where
  visits := h.visits
  childTokens fuel hfuel := h.visits.childTokens_eq mark (by simpa using hfuel)
  tokens root hroot := h.tokens_eq hroot mark
  render root hroot := by
    rw [← (h.tokens_eq hroot mark).1]
    rfl
  render_empty hroot := by
    obtain ⟨-, hnone⟩ | ⟨hfirst, horder⟩ := h
    · rw [LevelTree.render, LevelTree.tokens, hnone]
      rfl
    · have hpos := horder.length_pos
      simp [root?, hfirst] at hroot
      simp [hroot] at hpos

/-- The root of a decoded tree is its first node and the links are the positions behind it in their
order, so a rendering with any placeholder takes every node once. -/
theorem linked_and_walked_of_parse {placeholder literal : Text} {t : LevelTree}
    (h : parse placeholder literal = .ok t) : t.Linked ∧ ∀ mark, t.Walked mark :=
  ⟨(levelOrder_of_parse h).linked, (levelOrder_of_parse h).walked⟩

/-- The second child of the root is a leaf, and the first has only a right child. -/
theorem linked_and_walked_of_parse_four_nodes :
    ∃ t, parse "x".toList "\x7b1 2 3 x 4\x7d".toList = .ok t ∧
      t.nodes = [⟨1, some 1, some 2⟩, ⟨2, none, some 3⟩, ⟨3, none, none⟩, ⟨4, none, none⟩] ∧
      t.root = some 0 ∧ t.nodes.flatMap TreeNode.links = [1, 2, 3] ∧
      t.Visits [0] [0, 1, 2, 3] ∧ (t.tokens "#".toList).length = 9 ∧
      t.render "#".toList = "\x7b1 2 3 # 4\x7d".toList := by
  let t : LevelTree :=
    ⟨[⟨1, some 1, some 2⟩, ⟨2, none, some 3⟩, ⟨3, none, none⟩, ⟨4, none, none⟩], some 0⟩
  have hparse : parse "x".toList "\x7b1 2 3 x 4\x7d".toList = .ok t := by
    have hrest : grow "x".toList [2, 3] 3 ["x".toList, "4".toList] =
        .ok [⟨2, none, some 3⟩, ⟨3, none, none⟩, ⟨4, none, none⟩] :=
      grow_cons_cons (slot_placeholder "x".toList) (by decide : slot _ "4".toList = .ok (some 4)) 2
        (grow_nil ..)
    have hgrow : grow "x".toList [1] 1 ["2".toList, "3".toList, "x".toList, "4".toList] =
        .ok t.nodes :=
      grow_cons_cons (by decide : slot _ "2".toList = .ok (some 2))
        (by decide : slot _ "3".toList = .ok (some 3)) 1 hrest
    exact parse_eq_ok_iff.mpr ⟨"1 2 3 x 4".toList, by decide +kernel,
      .inr ⟨"1".toList, _, 1, _, by decide +kernel, by decide, by decide, hgrow, rfl⟩⟩
  obtain ⟨hlinked, hwalked⟩ := linked_and_walked_of_parse hparse
  have hroot : t.root = some 0 := hlinked.root_first (by simp [t])
  have hwalk := hwalked "#".toList
  have hvisits := hwalk.visits
  rw [hroot] at hvisits
  have hrender := hwalk.render _ rfl
  refine ⟨t, hparse, rfl, hroot, hlinked.links, hvisits, (hwalk.tokens _ rfl).2, ?_⟩
  rw [hrender]
  decide +kernel

end LevelTree
end FailureReplay
