import FailureReplay.Proofs.Literal.LevelOrder
import FailureReplay.Proofs.Numeral

/-!
# Tree literals read back

Rendering a tree in level order visits its nodes in the order of the list and
writes two child tokens for each. Decoding gives every node of the list its two
tokens back; placeholders at the end make no difference to it, so the trimmed
literal decodes to the same nodes.
-/

namespace FailureReplay.LevelTree

def nodeTokens (t : LevelTree) (placeholder : Text) (node : TreeNode) : List Text :=
  [t.token placeholder node.left, t.token placeholder node.right]

theorem drop_succ {t : LevelTree} {i : Nat} {node : TreeNode} {rest : List TreeNode}
    (h : t.nodes.drop i = node :: rest) : t.nodes.drop (i + 1) = rest := by
  rw [← List.tail_drop, h]
  rfl

theorem getElem?_of_drop {t : LevelTree} {i : Nat} {node : TreeNode} {rest : List TreeNode}
    (h : t.nodes.drop i = node :: rest) : t.nodes[i]? = some node := by
  rw [← List.head?_drop, h]
  rfl

/-! ## Rendering -/

def positions (i e : Nat) : List Nat := List.range' i (e - i)

theorem positions_append {i j k : Nat} (hij : i ≤ j) (hjk : j ≤ k) :
    positions i j ++ positions j k = positions i k := by
  have hj : j = i + (j - i) := by omega
  have hk : k - i = (j - i) + (k - j) := by omega
  rw [positions, positions, positions, hk, ← List.range'_append_1, ← hj]

theorem toList_eq_positions {child : Option Nat} {next : Nat} (h : ∀ c ∈ child, c = next) :
    child.toList = positions next (next + child.toList.length) := by
  cases child with
  | none => simp [positions]
  | some c =>
    obtain rfl : c = next := h c rfl
    simp [positions]

/-- The children of a node take the next free positions, the left child before the right one. -/
theorem positions_append_links {i next : Nat} {node : TreeNode} (hle : i ≤ next)
    (hleft : ∀ c ∈ node.left, c = next)
    (hright : ∀ c ∈ node.right, c = next + node.left.toList.length) :
    positions i next ++ node.left.toList ++ node.right.toList =
      positions i (next + node.left.toList.length + node.right.toList.length) := by
  have hl := toList_eq_positions hleft
  have hr := toList_eq_positions hright
  calc positions i next ++ node.left.toList ++ node.right.toList
      = positions i next ++ positions next (next + node.left.toList.length) ++
          positions (next + node.left.toList.length)
            (next + node.left.toList.length + node.right.toList.length) := by
        rw [← hl, ← hr]
    _ = positions i (next + node.left.toList.length + node.right.toList.length) := by
        rw [positions_append (by omega) (by omega), positions_append (by omega) (by omega)]

theorem positions_eq_cons {i next : Nat} (h : i < next) :
    positions i next = i :: positions (i + 1) next := by
  rw [positions, show next - i = (next - (i + 1)) + 1 by omega]
  rfl

/-- The queue of a rendering holds the positions from the current node to the next free one. -/
theorem childTokens_levelOrder {t : LevelTree} (placeholder : Text) {i next : Nat}
    {nodes : List TreeNode} (h : LevelOrderFrom i next nodes) (hdrop : t.nodes.drop i = nodes) :
    t.childTokens placeholder nodes.length (positions i next) =
      nodes.flatMap (t.nodeTokens placeholder) := by
  induction nodes generalizing i next with
  | nil => rfl
  | cons node rest ih =>
    obtain ⟨hlt, hleft, hright, hrest⟩ := h
    have hget : t.nodes[i]? = some node := getElem?_of_drop hdrop
    have hdrop' : t.nodes.drop (i + 1) = rest := drop_succ hdrop
    have hgrown := positions_append_links (Nat.succ_le_of_lt hlt) hleft hright
    rw [positions_eq_cons hlt, List.length_cons, childTokens]
    simp only [hget, hgrown, ih hrest hdrop', List.flatMap_cons, nodeTokens, List.cons_append,
      List.nil_append]

/-- The tokens are those of the nodes in list order, two for each. -/
theorem tokens_eq {t : LevelTree} {root : TreeNode} {rest : List TreeNode}
    (hcons : t.nodes = root :: rest) (hroot : t.root = some 0) (h : LevelOrderFrom 0 1 t.nodes)
    (placeholder : Text) :
    t.tokens placeholder =
      Numeral.write root.value :: t.nodes.flatMap (t.nodeTokens placeholder) := by
  rw [← childTokens_levelOrder placeholder h List.drop_zero, tokens, hroot]
  simp only [token, hcons, Option.bind_some]
  rfl

/-! ## Decoding -/

/-- The value that the token of a child stands for, if there is a child. -/
def childValue (t : LevelTree) (child : Option Nat) : Option Int32 :=
  (child.bind fun i => t.nodes[i]?).map TreeNode.value

/-- The values at the positions from `i` up to but not including `e`. -/
def valuesBetween (t : LevelTree) (i e : Nat) : List Int32 :=
  ((t.nodes.drop i).take (e - i)).map TreeNode.value

theorem valuesBetween_append (t : LevelTree) {i j k : Nat} (hij : i ≤ j) (hjk : j ≤ k) :
    t.valuesBetween i j ++ t.valuesBetween j k = t.valuesBetween i k := by
  have hj : j = i + (j - i) := by omega
  have hk : k - i = (j - i) + (k - j) := by omega
  rw [valuesBetween, valuesBetween, valuesBetween, hk, List.take_add, List.drop_drop, ← hj,
    List.map_append]

theorem slot_token {t : LevelTree} {placeholder : Text}
    (hvalues : ∀ node ∈ t.nodes, Numeral.write node.value ≠ placeholder) (child : Option Nat) :
    slot placeholder (t.token placeholder child) = .ok (t.childValue child) := by
  simp only [token, childValue]
  cases hchild : child.bind fun i => t.nodes[i]? with
  | none => simp [slot]
  | some node =>
    obtain ⟨i, -, hi⟩ := Option.bind_eq_some_iff.mp hchild
    have hne := hvalues node (List.mem_of_getElem? hi)
    simp only [slot, hne, if_false, Literal.numeral, Numeral.read_write]
    rfl

/-- A child at the next free position has the value that stands there. -/
theorem childValue_toList {t : LevelTree} {child : Option Nat} {next : Nat}
    (h : ∀ c ∈ child, c = next) (hlt : next + child.toList.length ≤ t.nodes.length) :
    (t.childValue child).toList = t.valuesBetween next (next + child.toList.length) ∧
      (t.childValue child).toList.length = child.toList.length ∧
      position next (t.childValue child) = child := by
  cases child with
  | none => simp [childValue, valuesBetween, position]
  | some c =>
    obtain rfl : c = next := h c rfl
    rw [Option.toList_some, List.length_singleton] at hlt
    have hvalue : t.childValue (some c) = some t.nodes[c].value := by
      rw [childValue, Option.bind_some, List.getElem?_eq_getElem hlt, Option.map_some]
    have hbetween : t.valuesBetween c (c + 1) = [t.nodes[c].value] := by
      rw [valuesBetween, Nat.add_sub_cancel_left, List.drop_eq_getElem_cons hlt]
      rfl
    rw [hvalue]
    exact ⟨hbetween.symm, rfl, rfl⟩

/-- One round of decoding takes the two children of the node in front. -/
theorem grow_cons_cons {placeholder l r : Text} {left right : Option Int32}
    (hl : slot placeholder l = .ok left) (hr : slot placeholder r = .ok right) (value : Int32)
    {queue : List Int32} {next : Nat} {tokens : List Text} {rest : List TreeNode}
    (hrest : grow placeholder (queue ++ left.toList ++ right.toList)
      (next + left.toList.length + right.toList.length) tokens = .ok rest) :
    grow placeholder (value :: queue) next (l :: r :: tokens) =
      .ok (⟨value, position next left, position (next + left.toList.length) right⟩ :: rest) := by
  rw [grow, hl, hr]
  simp only [bind, Except.bind, hrest]
  rfl

/-- Decoding the child tokens of nodes in level order gives the nodes back. The queue holds the
values from the current node up to the next free position. -/
theorem grow_levelOrder {t : LevelTree} {placeholder : Text}
    (hvalues : ∀ node ∈ t.nodes, Numeral.write node.value ≠ placeholder) {i next : Nat}
    {nodes : List TreeNode} (h : LevelOrderFrom i next nodes) (hdrop : t.nodes.drop i = nodes) :
    grow placeholder (t.valuesBetween i next) next (nodes.flatMap (t.nodeTokens placeholder)) =
      .ok nodes := by
  induction nodes generalizing i next with
  | nil => simp [valuesBetween, hdrop, grow]
  | cons node rest ih =>
    obtain ⟨hlt, hleft, hright, hrest⟩ := h
    have hbound := hrest.bounds
    have hlength : t.nodes.length = i + (rest.length + 1) := by
      have hlen := congrArg List.length hdrop
      rw [List.length_drop, List.length_cons] at hlen
      omega
    have hdrop' : t.nodes.drop (i + 1) = rest := drop_succ hdrop
    obtain ⟨hl, hllen, hlpos⟩ := childValue_toList (t := t) hleft (by omega)
    obtain ⟨hr, hrlen, hrpos⟩ := childValue_toList (t := t) hright (by omega)
    have hqueue : t.valuesBetween i next = node.value :: t.valuesBetween (i + 1) next := by
      rw [valuesBetween, valuesBetween, hdrop, hdrop',
        show next - i = (next - (i + 1)) + 1 by omega]
      rfl
    have hgrown : t.valuesBetween (i + 1) next ++ (t.childValue node.left).toList ++
          (t.childValue node.right).toList =
        t.valuesBetween (i + 1)
          (next + node.left.toList.length + node.right.toList.length) := by
      rw [hl, hr, t.valuesBetween_append (by omega) (by omega),
        t.valuesBetween_append (by omega) (by omega)]
    have htail : grow placeholder (t.valuesBetween (i + 1) next ++
          (t.childValue node.left).toList ++ (t.childValue node.right).toList)
        (next + (t.childValue node.left).toList.length + (t.childValue node.right).toList.length)
        (rest.flatMap (t.nodeTokens placeholder)) = .ok rest := by
      rw [hgrown, hllen, hrlen]
      exact ih hrest hdrop'
    have hstep := grow_cons_cons (slot_token hvalues node.left) (slot_token hvalues node.right)
      node.value htail
    rw [hllen, hlpos, hrpos] at hstep
    rw [hqueue]
    exact hstep

/-! ## Trailing placeholders -/

theorem slot_placeholder (placeholder : Text) : slot placeholder placeholder = .ok none :=
  if_pos rfl

theorem exists_of_grow_cons_cons {placeholder l r : Text} {value : Int32} {queue : List Int32}
    {next : Nat} {tokens : List Text} {nodes : List TreeNode}
    (h : grow placeholder (value :: queue) next (l :: r :: tokens) = .ok nodes) :
    ∃ left right rest, slot placeholder l = .ok left ∧ slot placeholder r = .ok right ∧
      grow placeholder (queue ++ left.toList ++ right.toList)
        (next + left.toList.length + right.toList.length) tokens = .ok rest ∧
      nodes = ⟨value, position next left, position (next + left.toList.length) right⟩ :: rest := by
  rw [grow] at h
  cases hl : slot placeholder l with
  | error fault => rw [hl] at h; cases h
  | ok left =>
    cases hr : slot placeholder r with
    | error fault => rw [hl, hr] at h; cases h
    | ok right =>
      rw [hl, hr] at h
      simp only [bind, Except.bind] at h
      split at h
      · cases h
      · next rest hrest => exact ⟨left, right, rest, rfl, rfl, hrest, (Except.ok.inj h).symm⟩

/-- A placeholder after the last token changes nothing that decodes. -/
theorem grow_of_concat_placeholder {placeholder : Text} {queue : List Int32} {next : Nat}
    {tokens : List Text} {nodes : List TreeNode}
    (h : grow placeholder queue next (tokens ++ [placeholder]) = .ok nodes) :
    grow placeholder queue next tokens = .ok nodes := by
  induction queue, next, tokens using grow.induct generalizing nodes with
  | case1 next => simp [grow] at h
  | case2 next head tail => simp [grow] at h
  | case3 value queue next ih =>
    simpa [grow, slot_placeholder, position, bind, Except.bind] using h
  | case4 value queue next l ih =>
    simpa [grow, slot_placeholder, position, bind, Except.bind] using h
  | case5 value queue next l r tokens ih =>
    obtain ⟨left, right, rest, hl, hr, hrest, rfl⟩ := exists_of_grow_cons_cons h
    exact grow_cons_cons hl hr value (ih left right hrest)

/-- Decoding is not changed by dropping the placeholders at the end. -/
theorem grow_rdropWhile_placeholder {placeholder : Text} {queue : List Int32} {next : Nat}
    {tokens : List Text} {nodes : List TreeNode}
    (h : grow placeholder queue next tokens = .ok nodes) :
    grow placeholder queue next (tokens.rdropWhile (· == placeholder)) = .ok nodes := by
  induction tokens using List.reverseRecOn with
  | nil => simpa using h
  | append_singleton tokens token ih =>
    rw [List.rdropWhile_concat]
    split
    · next heq =>
      rw [eq_of_beq heq] at h
      exact ih (grow_of_concat_placeholder h)
    · exact h

/-! ## Round trip -/

theorem rdropWhile_cons_of_false {α : Type} {p : α → Bool} {a : α} (ha : p a = false)
    (l : List α) : (a :: l).rdropWhile p = a :: l.rdropWhile p := by
  induction l using List.reverseRecOn with
  | nil => simp [List.rdropWhile_singleton, ha]
  | append_singleton l b ih =>
    rw [← List.cons_append, List.rdropWhile_concat, List.rdropWhile_concat, ih]
    split <;> rfl

theorem trim_braces (inner : Text) :
    Text.trim ('{' :: inner ++ ['}']) = '{' :: inner ++ ['}'] :=
  Text.trim_enclosing (by decide) (by decide) inner

theorem enclosed?_trim_braces (inner : Text) :
    Text.enclosed? '{' '}' (Text.trim ('{' :: inner ++ ['}'])) = some inner := by
  rw [trim_braces, Text.enclosed?_enclosing]

theorem tree?_braces {placeholder inner root : Text} {tokens : List Text} {value : Int32}
    {nodes : List TreeNode} (hwords : Text.words inner = root :: tokens)
    (hroot : root ≠ placeholder) (hvalue : Literal.numeral root = .ok value)
    (hgrow : grow placeholder [value] 1 tokens = .ok nodes) :
    tree? placeholder (Text.trim ('{' :: inner ++ ['}'])) = .ok ⟨nodes, some 0⟩ := by
  simp only [tree?, enclosed?_trim_braces, hwords, hroot, if_false, hvalue, bind, Except.bind,
    hgrow]
  rfl

theorem isToken_token {t : LevelTree} {placeholder : Text} (hp : Text.IsToken placeholder)
    (child : Option Nat) : Text.IsToken (t.token placeholder child) := by
  unfold token
  split
  · exact Numeral.isToken_write _
  · exact hp

theorem isToken_of_mem_nodeTokens {t : LevelTree} {placeholder : Text}
    (hp : Text.IsToken placeholder) {nodes : List TreeNode} {token : Text}
    (h : token ∈ nodes.flatMap (t.nodeTokens placeholder)) : Text.IsToken token := by
  obtain ⟨node, -, hmem⟩ := List.mem_flatMap.mp h
  simp only [nodeTokens, List.mem_cons, List.not_mem_nil, or_false] at hmem
  rcases hmem with rfl | rfl
  · exact isToken_token hp _
  · exact isToken_token hp _

/-- The words of a rendering: the root's token, then those of the nodes up to the last child. -/
theorem words_join_tokens {t : LevelTree} {root : TreeNode} {rest : List TreeNode}
    (hcons : t.nodes = root :: rest) (hfirst : t.root = some 0) (h : LevelOrderFrom 0 1 t.nodes)
    {placeholder : Text} (hp : Text.IsToken placeholder)
    (hroot : Numeral.write root.value ≠ placeholder) :
    Text.words (Text.join " " ((t.tokens placeholder).rdropWhile (· == placeholder))) =
      Numeral.write root.value ::
        (t.nodes.flatMap (t.nodeTokens placeholder)).rdropWhile (· == placeholder) := by
  rw [tokens_eq hcons hfirst h placeholder, rdropWhile_cons_of_false (by simpa using hroot)]
  apply Text.words_join_space
  intro token htoken
  rcases List.mem_cons.mp htoken with rfl | htoken
  · exact Numeral.isToken_write _
  · have hpre := List.rdropWhile_prefix (· == placeholder)
      (t.nodes.flatMap (t.nodeTokens placeholder))
    exact isToken_of_mem_nodeTokens hp (hpre.subset htoken)

/-- A tree in level order is read back from its literal, whatever its shape, if the placeholder is
a token and not the numeral of one of its values. -/
theorem parse_render_of_levelOrder {t : LevelTree} (h : t.LevelOrder) {placeholder : Text}
    (hp : Text.IsToken placeholder)
    (hvalues : ∀ node ∈ t.nodes, Numeral.write node.value ≠ placeholder) :
    parse placeholder (t.render placeholder) = .ok t := by
  suffices htree : tree? placeholder (Text.trim (t.render placeholder)) = .ok t by
    rw [parse, htree]
  rcases h with ⟨hnil, hnone⟩ | ⟨hfirst, h⟩
  · have htokens : t.tokens placeholder = [] := by rw [tokens, hnone]
    have hempty : t = ⟨[], none⟩ := by rw [← hnil, ← hnone]
    rw [render, htokens, hempty]
    rfl
  · obtain ⟨root, rest, hcons⟩ : ∃ root rest, t.nodes = root :: rest := by
      apply List.exists_cons_of_ne_nil
      intro hnil
      rw [hnil] at h
      cases h
    have hroot : Numeral.write root.value ≠ placeholder := hvalues root (by simp [hcons])
    have hwords := words_join_tokens hcons hfirst h hp hroot
    have hvalue : Literal.numeral (Numeral.write root.value) = .ok root.value := by
      rw [Literal.numeral, Numeral.read_write]
      rfl
    have hqueue : t.valuesBetween 0 1 = [root.value] := by
      rw [valuesBetween, hcons]
      rfl
    have hgrow := grow_rdropWhile_placeholder (grow_levelOrder hvalues h List.drop_zero)
    rw [hqueue] at hgrow
    have htree : t = ⟨t.nodes, some 0⟩ := by rw [← hfirst]
    exact (tree?_braces hwords hroot hvalue hgrow).trans (congrArg Except.ok htree.symm)

/-- A binary tree of any shape, laid out level by level, is spelled out by its layout, and the
layout is read back from its literal. -/
theorem parse_render_ofTree (b : BinaryTree) {placeholder : Text}
    (hp : Text.IsToken placeholder)
    (hvalues : ∀ value ∈ b.values, Numeral.write value ≠ placeholder) :
    (ofTree b).Spells b ∧
      parse placeholder ((ofTree b).render placeholder) = .ok (ofTree b) :=
  ⟨spells_ofTree b, parse_render_of_levelOrder (levelOrder_ofTree b) hp fun node hnode =>
    hvalues node.value (value_mem_of_mem_ofTree hnode)⟩

/-- A left child is missing and the least value stands below it. -/
theorem parse_render_ofTree_missing_left :
    Text.IsToken "x".toList ∧
      (∀ value ∈ (BinaryTree.node 1 .empty (.node (-2147483648) .empty .empty)).values,
        Numeral.write value ≠ "x".toList) ∧
      parse "x".toList
          ((ofTree (.node 1 .empty (.node (-2147483648) .empty .empty))).render "x".toList) =
        .ok (ofTree (.node 1 .empty (.node (-2147483648) .empty .empty))) := by
  have hp : Text.IsToken "x".toList := by decide
  have hvalues : ∀ value ∈ (BinaryTree.node 1 .empty (.node (-2147483648) .empty .empty)).values,
      Numeral.write value ≠ "x".toList := by
    intro value hvalue
    simp only [BinaryTree.values, List.nil_append, List.append_nil, List.mem_cons,
      List.not_mem_nil, or_false] at hvalue
    rcases hvalue with rfl | rfl <;> decide
  exact ⟨hp, hvalues, (parse_render_ofTree _ hp hvalues).2⟩

end FailureReplay.LevelTree
