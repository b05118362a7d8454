import FailureReplay.Proofs.Literal.Decoded

/-!
# The format of tree literals

A tree literal is accepted by a count alone: the root opens two child slots, every
token after it takes one, and a value opens two more. A literal is well formed as
long as a slot is open when a token is due. The queue of the decoder holds one
value for every two slots that are still to be filled, which ties the two.

Rendering a decoded tree writes the tokens of its literal again, each numeral in
its shortest form, and leaves out the placeholders at the end.
-/

namespace FailureReplay.LevelTree

/-! ## Open slots -/

/-- The child slots that are open once the tokens are taken: each takes one slot, and a value opens
two. -/
def openSlots (placeholder : Text) (slots : Int) (taken : List Text) : Int :=
  slots - taken.length + 2 * taken.countP (· ≠ placeholder)

/-- A slot is open whenever a token is taken. -/
def SlotsSuffice (placeholder : Text) (slots : Int) (tokens : List Text) : Prop :=
  ∀ k < tokens.length, 1 ≤ openSlots placeholder slots (tokens.take k)

def opened (placeholder token : Text) : Int := if token = placeholder then 0 else 2

theorem openSlots_cons (placeholder : Text) (slots : Int) (token : Text) (taken : List Text) :
    openSlots placeholder slots (token :: taken) =
      openSlots placeholder (slots - 1 + opened placeholder token) taken := by
  by_cases h : token = placeholder
  · simp [openSlots, opened, h]
    omega
  · simp [openSlots, opened, h]
    omega

theorem slotsSuffice_nil (placeholder : Text) (slots : Int) :
    SlotsSuffice placeholder slots [] := by
  simp [SlotsSuffice]

/-- Taking a token closes the slot it takes before it opens its own. -/
theorem slotsSuffice_cons {placeholder : Text} {slots : Int} {token : Text} {tokens : List Text} :
    SlotsSuffice placeholder slots (token :: tokens) ↔
      1 ≤ slots ∧ SlotsSuffice placeholder (slots - 1 + opened placeholder token) tokens := by
  rw [SlotsSuffice, List.length_cons, Nat.forall_lt_succ_left]
  simp only [List.take_zero, List.take_succ_cons, openSlots_cons]
  simp [openSlots, SlotsSuffice]

/-! ## What the decoder accepts -/

theorem slot_eq_ok_iff {placeholder token : Text} {child : Option Int32} :
    slot placeholder token = .ok child ↔
      token = placeholder ∧ child = none ∨
        token ≠ placeholder ∧ ∃ value, child = some value ∧ Numeral.Denotes token value := by
  constructor
  · intro h
    obtain hnone | ⟨hne, value, hchild, hread⟩ := eq_or_read_of_slot h
    · exact .inl hnone
    · exact .inr ⟨hne, value, hchild, Numeral.read_eq_ok_iff.mp hread⟩
  · intro h
    obtain ⟨rfl, rfl⟩ | ⟨hne, value, rfl, hvalue⟩ := h
    · exact slot_placeholder token
    · rw [slot, if_neg hne, Literal.numeral_eq_ok_iff.mpr hvalue]
      rfl

theorem exists_slot_iff {placeholder token : Text} :
    (∃ child, slot placeholder token = .ok child) ↔
      (token ≠ placeholder → ∃ value, Numeral.Denotes token value) := by
  simp only [slot_eq_ok_iff]
  by_cases h : token = placeholder
  · simp [h]
  · simp [h]

/-- A value opens two slots, a placeholder none. -/
theorem opened_of_slot {placeholder token : Text} {child : Option Int32}
    (h : slot placeholder token = .ok child) :
    opened placeholder token = 2 * (child.toList.length : Int) := by
  obtain ⟨heq, rfl⟩ | ⟨hne, value, rfl, -⟩ := slot_eq_ok_iff.mp h
  · simp [opened, heq]
  · simp [opened, hne]

theorem exists_grow_singleton_iff {placeholder l : Text} {value : Int32} {queue : List Int32}
    {next : Nat} :
    (∃ nodes, grow placeholder (value :: queue) next [l] = .ok nodes) ↔
      ∃ left, slot placeholder l = .ok left := by
  constructor
  · intro h
    obtain ⟨nodes, h⟩ := h
    obtain ⟨left, rest, hl, -⟩ := exists_of_grow_singleton h
    exact ⟨left, hl⟩
  · intro h
    obtain ⟨left, hl⟩ := h
    rw [grow, hl]
    simp only [bind, Except.bind, grow_nil]
    exact ⟨_, rfl⟩

theorem exists_grow_cons_cons_iff {placeholder l r : Text} {value : Int32} {queue : List Int32}
    {next : Nat} {tokens : List Text} :
    (∃ nodes, grow placeholder (value :: queue) next (l :: r :: tokens) = .ok nodes) ↔
      ∃ left right, slot placeholder l = .ok left ∧ slot placeholder r = .ok right ∧
        ∃ rest, grow placeholder (queue ++ left.toList ++ right.toList)
          (next + left.toList.length + right.toList.length) tokens = .ok rest := by
  constructor
  · intro h
    obtain ⟨nodes, h⟩ := h
    obtain ⟨left, right, rest, hl, hr, hrest, -⟩ := exists_of_grow_cons_cons h
    exact ⟨left, right, hl, hr, rest, hrest⟩
  · intro h
    obtain ⟨left, right, hl, hr, rest, hrest⟩ := h
    exact ⟨_, grow_cons_cons hl hr value hrest⟩

/-- The decoder accepts child tokens exactly if those that are no placeholders are numerals and the
slots of the waiting values, two for each, suffice. -/
theorem exists_grow_iff {placeholder : Text} {queue : List Int32} {next : Nat}
    {tokens : List Text} :
    (∃ nodes, grow placeholder queue next tokens = .ok nodes) ↔
      (∀ token ∈ tokens, token ≠ placeholder → ∃ value, Numeral.Denotes token value) ∧
        SlotsSuffice placeholder (2 * queue.length) tokens := by
  induction queue, next, tokens using grow.induct with
  | case1 next => simp [grow, slotsSuffice_nil]
  | case2 next head tail => simp [grow, slotsSuffice_cons]
  | case3 value queue next ih => simp [grow_nil, slotsSuffice_nil]
  | case4 value queue next l ih =>
    have hopen : (1 : Int) ≤ 2 * (value :: queue).length := by
      rw [List.length_cons]
      omega
    rw [exists_grow_singleton_iff, exists_slot_iff, slotsSuffice_cons]
    simpa [slotsSuffice_nil] using fun _ => hopen
  | case5 value queue next l r tokens ih =>
    rw [exists_grow_cons_cons_iff, slotsSuffice_cons, slotsSuffice_cons]
    -- A node leaves the queue with its two slots, and its children join it with two slots each.
    have hcount : ∀ left right, slot placeholder l = .ok left → slot placeholder r = .ok right →
        2 * ((value :: queue).length : Int) - 1 + opened placeholder l - 1 +
          opened placeholder r = 2 * ((queue ++ left.toList ++ right.toList).length : Int) := by
      intro left right hl hr
      rw [opened_of_slot hl, opened_of_slot hr]
      simp only [List.length_cons, List.length_append]
      omega
    constructor
    · intro h
      obtain ⟨left, right, hl, hr, hrest⟩ := h
      obtain ⟨hnumerals, hslots⟩ := (ih left right).mp hrest
      refine ⟨?_, ?_, ?_, hcount left right hl hr ▸ hslots⟩
      · exact List.forall_mem_cons.mpr ⟨exists_slot_iff.mp ⟨left, hl⟩,
          List.forall_mem_cons.mpr ⟨exists_slot_iff.mp ⟨right, hr⟩, hnumerals⟩⟩
      · rw [List.length_cons]
        omega
      · rw [opened_of_slot hl, List.length_cons]
        omega
    · intro h
      obtain ⟨hnumerals, -, -, hslots⟩ := h
      obtain ⟨hleft, hnumerals⟩ := List.forall_mem_cons.mp hnumerals
      obtain ⟨hright, hnumerals⟩ := List.forall_mem_cons.mp hnumerals
      obtain ⟨left, hl⟩ := exists_slot_iff.mpr hleft
      obtain ⟨right, hr⟩ := exists_slot_iff.mpr hright
      exact ⟨left, right, hl, hr, (ih left right).mpr
        ⟨hnumerals, hcount left right hl hr ▸ hslots⟩⟩

/-! ## The format of a literal -/

/-- The words of a literal: a root that is a value, then placeholders and values that find a slot
open. -/
structure WellFormedWords (placeholder root : Text) (tokens : List Text) : Prop where
  root_value : root ≠ placeholder
  numerals : ∀ token ∈ root :: tokens, token ≠ placeholder → ∃ value, Numeral.Denotes token value
  slots : SlotsSuffice placeholder 2 tokens

/-- The format of a literal: braces around white space, or around words that are well formed. -/
def WellFormed (placeholder literal : Text) : Prop :=
  ∃ inner, Text.trim literal = '{' :: inner ++ ['}'] ∧
    (Text.allBlank inner = true ∨
      ∃ root tokens, Text.words inner = root :: tokens ∧
        WellFormedWords placeholder root tokens)

theorem parse_eq_ok_iff {placeholder literal : Text} {t : LevelTree} :
    parse placeholder literal = .ok t ↔
      ∃ inner, Text.trim literal = '{' :: inner ++ ['}'] ∧
        (Text.words inner = [] ∧ t = ⟨[], none⟩ ∨
          ∃ root tokens value nodes, Text.words inner = root :: tokens ∧ root ≠ placeholder ∧
            Numeral.Denotes root value ∧ grow placeholder [value] 1 tokens = .ok nodes ∧
            t = ⟨nodes, some 0⟩) := by
  constructor
  · intro h
    obtain ⟨inner, htrim, hinner⟩ := exists_of_parse h
    refine ⟨inner, htrim, ?_⟩
    obtain ⟨hwords, hnodes, hnone⟩ | ⟨root, tokens, value, hwords, hroot, hgrow, hfirst⟩ := hinner
    · exact .inl ⟨hwords, by rw [← hnodes, ← hnone]⟩
    · refine .inr ⟨root, tokens, value, t.nodes, hwords, ?_, Numeral.read_eq_ok_iff.mp hroot, hgrow,
        by rw [← hfirst]⟩
      intro hplaceholder
      simp only [parse, htrim, tree?, Text.enclosed?_enclosing, hwords, hplaceholder, if_true] at h
      cases h
  · intro h
    obtain ⟨inner, htrim,
      ⟨hwords, rfl⟩ | ⟨root, tokens, value, nodes, hwords, hne, hroot, hgrow, rfl⟩⟩ := h
    · have hread : tree? placeholder (Text.trim literal) = .ok ⟨[], none⟩ := by
        simp only [tree?, htrim, Text.enclosed?_enclosing, hwords]
      rw [parse, hread]
    · have hread : tree? placeholder (Text.trim literal) = .ok ⟨nodes, some 0⟩ := by
        rw [htrim, ← trim_braces,
          tree?_braces hwords hne (Literal.numeral_eq_ok_iff.mpr hroot) hgrow]
      rw [parse, hread]

/-- A tree literal is decoded exactly if it is in the format. -/
theorem exists_parse_iff {placeholder literal : Text} :
    (∃ t, parse placeholder literal = .ok t) ↔ WellFormed placeholder literal := by
  constructor
  · intro h
    obtain ⟨t, h⟩ := h
    obtain ⟨inner, htrim,
      ⟨hwords, -⟩ | ⟨root, tokens, value, nodes, hwords, hne, hroot, hgrow, -⟩⟩ :=
      parse_eq_ok_iff.mp h
    · exact ⟨inner, htrim, .inl (Text.words_eq_nil_iff.mp hwords)⟩
    · obtain ⟨hnumerals, hslots⟩ := exists_grow_iff.mp ⟨nodes, hgrow⟩
      exact ⟨inner, htrim, .inr ⟨root, tokens, hwords, hne,
        List.forall_mem_cons.mpr ⟨fun _ => ⟨value, hroot⟩, hnumerals⟩, hslots⟩⟩
  · intro h
    obtain ⟨inner, htrim, hblank | ⟨root, tokens, hwords, hne, hnumerals, hslots⟩⟩ := h
    · exact ⟨⟨[], none⟩, parse_eq_ok_iff.mpr
        ⟨inner, htrim, .inl ⟨Text.words_eq_nil_iff.mpr hblank, rfl⟩⟩⟩
    · obtain ⟨hroot, hnumerals⟩ := List.forall_mem_cons.mp hnumerals
      obtain ⟨value, hvalue⟩ := hroot hne
      obtain ⟨nodes, hgrow⟩ : ∃ nodes, grow placeholder [value] 1 tokens = .ok nodes :=
        exists_grow_iff.mpr ⟨hnumerals, hslots⟩
      exact ⟨⟨nodes, some 0⟩, parse_eq_ok_iff.mpr
        ⟨inner, htrim, .inr ⟨root, tokens, value, nodes, hwords, hne, hvalue, hgrow, rfl⟩⟩⟩

/-! ## Rendering a decoded tree -/

/-- How a token is written again: a placeholder as it is, a numeral in its shortest form. -/
def Shows (placeholder token shown : Text) : Prop :=
  token = placeholder ∧ shown = placeholder ∨
    token ≠ placeholder ∧ ∃ value, Numeral.Denotes token value ∧ shown = Numeral.write value

theorem token_eq (t : LevelTree) (placeholder : Text) (child : Option Nat) :
    t.token placeholder child = (t.childValue child).elim placeholder Numeral.write := by
  rw [token, childValue]
  cases child.bind fun i => t.nodes[i]? with
  | none => rfl
  | some node => rfl

theorem exists_node_of_childValue {t : LevelTree} {child : Option Nat} {value : Int32}
    (h : t.childValue child = some value) : ∃ node ∈ t.nodes, node.value = value := by
  obtain ⟨node, hnode, rfl⟩ := Option.map_eq_some_iff.mp h
  obtain ⟨i, -, hi⟩ := Option.bind_eq_some_iff.mp hnode
  exact ⟨node, List.mem_of_getElem? hi, rfl⟩

/-- The values that wait come first among the nodes. -/
theorem queue_isPrefix_of_grow {placeholder : Text} {queue : List Int32} {next : Nat}
    {tokens : List Text} {nodes : List TreeNode}
    (h : grow placeholder queue next tokens = .ok nodes) : queue <+: nodes.map TreeNode.value := by
  induction queue, next, tokens using grow.induct generalizing nodes with
  | case1 next => exact List.nil_prefix
  | case2 next head tail => exact List.nil_prefix
  | case3 value queue next ih =>
    rw [grow_nil] at h
    obtain rfl := Except.ok.inj h
    simp [leaf, Function.comp_def]
  | case4 value queue next l ih =>
    obtain ⟨left, rest, -, hrest, rfl⟩ := exists_of_grow_singleton h
    have hqueue := (List.prefix_append queue left.toList).trans (ih left hrest)
    simpa using hqueue
  | case5 value queue next l r tokens ih =>
    obtain ⟨left, right, rest, -, -, hrest, rfl⟩ := exists_of_grow_cons_cons h
    have hfront : queue <+: queue ++ left.toList ++ right.toList := by simp
    simpa using hfront.trans (ih left right hrest)

/-- A child that joins the queue behind `before` is the node at the position it was given. -/
theorem childValue_position {t : LevelTree} {i : Nat} {rest : List TreeNode}
    (hdrop : t.nodes.drop i = rest) {before : List Int32} {child : Option Int32}
    (h : before ++ child.toList <+: rest.map TreeNode.value) :
    t.childValue (position (i + before.length) child) = child := by
  cases child with
  | none => rfl
  | some value =>
    obtain ⟨after, hafter⟩ := h
    have hget : (rest.map TreeNode.value)[before.length]? = some value := by
      simp [← hafter]
    rw [← hdrop, List.getElem?_map, List.getElem?_drop] at hget
    exact hget

/-- Tokens and what is written for them; no value is written like a placeholder. -/
def Rewritten (placeholder token shown : Text) : Prop :=
  Shows placeholder token shown ∧ (token = placeholder ↔ shown = placeholder)

/-- A token that was read is written back in its shortest form. -/
theorem rewritten_of_slot {t : LevelTree} {placeholder token : Text}
    (hvalues : ∀ node ∈ t.nodes, Numeral.write node.value ≠ placeholder)
    {child : Option Int32} (hslot : slot placeholder token = .ok child) {link : Option Nat}
    (hlink : t.childValue link = child) :
    Rewritten placeholder token (t.token placeholder link) := by
  rw [token_eq, hlink]
  obtain ⟨htoken, rfl⟩ | ⟨hne, value, rfl, hvalue⟩ := slot_eq_ok_iff.mp hslot
  · exact ⟨.inl ⟨htoken, rfl⟩, by simp [htoken]⟩
  · obtain ⟨node, hnode, rfl⟩ := exists_node_of_childValue hlink
    refine ⟨.inr ⟨hne, node.value, hvalue, rfl⟩, ?_⟩
    simp [hne, hvalues node hnode]

/-- The child tokens of the nodes are the tokens they were read from, and placeholders after
them. -/
theorem exists_rewritten_of_grow {t : LevelTree} {placeholder : Text}
    (hvalues : ∀ node ∈ t.nodes, Numeral.write node.value ≠ placeholder) {queue : List Int32}
    {next i : Nat} {tokens : List Text} {nodes : List TreeNode}
    (h : grow placeholder queue next tokens = .ok nodes) (hdrop : t.nodes.drop i = nodes)
    (hnext : i + queue.length = next) :
    ∃ shown k, List.Forall₂ (Rewritten placeholder) tokens shown ∧
      nodes.flatMap (t.nodeTokens placeholder) = shown ++ List.replicate k placeholder := by
  have hnone : t.token placeholder none = placeholder := rfl
  induction queue, next, tokens using grow.induct generalizing nodes i with
  | case1 next =>
    rw [grow] at h
    obtain rfl := Except.ok.inj h
    exact ⟨[], 0, .nil, rfl⟩
  | case2 next head tail => rw [grow] at h; cases h
  | case3 value queue next ih =>
    rw [grow_nil] at h
    obtain rfl := Except.ok.inj h
    rw [List.length_cons] at hnext
    obtain ⟨shown, k, hshown, hrest⟩ := ih (grow_nil ..) (drop_succ hdrop) (by omega)
    refine ⟨shown, k + 2, hshown, ?_⟩
    cases hshown
    simp [nodeTokens, leaf, hnone, hrest, List.replicate_succ]
  | case4 value queue next l ih =>
    obtain ⟨left, rest, hl, hrest, rfl⟩ := exists_of_grow_singleton h
    rw [List.length_cons] at hnext
    have hposition : i + 1 + queue.length = next := by omega
    have hdrop' := drop_succ hdrop
    have hleft := childValue_position hdrop' (queue_isPrefix_of_grow hrest)
    rw [hposition] at hleft
    obtain ⟨shown, k, hshown, htail⟩ := ih left hrest hdrop' (by
      rw [List.length_append]
      omega)
    refine ⟨[t.token placeholder (position next left)], k + 1,
      .cons (rewritten_of_slot hvalues hl hleft) .nil, ?_⟩
    cases hshown
    simp [nodeTokens, hnone, htail, List.replicate_succ]
  | case5 value queue next l r tokens ih =>
    obtain ⟨left, right, rest, hl, hr, hrest, rfl⟩ := exists_of_grow_cons_cons h
    rw [List.length_cons] at hnext
    have hposition : i + 1 + queue.length = next := by omega
    have hdrop' := drop_succ hdrop
    have hqueue := queue_isPrefix_of_grow hrest
    have hleft := childValue_position hdrop' ((List.prefix_append _ _).trans hqueue)
    have hright := childValue_position hdrop' hqueue
    rw [hposition] at hleft
    rw [List.length_append, ← Nat.add_assoc, hposition] at hright
    obtain ⟨shown, k, hshown, htail⟩ := ih left right hrest hdrop' (by
      simp only [List.length_append]
      omega)
    refine ⟨t.token placeholder (position next left) ::
        t.token placeholder (position (next + left.toList.length) right) :: shown, k,
      .cons (rewritten_of_slot hvalues hl hleft) (.cons (rewritten_of_slot hvalues hr hright)
        hshown), ?_⟩
    simp [nodeTokens, htail]

theorem forall₂_rdropWhile {α β : Type} {R : α → β → Prop} {p : α → Bool} {q : β → Bool}
    (hpq : ∀ a b, R a b → p a = q b) {as : List α} {bs : List β} (h : List.Forall₂ R as bs) :
    List.Forall₂ R (as.rdropWhile p) (bs.rdropWhile q) := by
  have hdrop : ∀ {as : List α} {bs : List β}, List.Forall₂ R as bs →
      List.Forall₂ R (as.dropWhile p) (bs.dropWhile q) := by
    intro as bs h
    induction h with
    | nil => exact .nil
    | @cons a b as bs hab hrest ih =>
      rw [List.dropWhile_cons, List.dropWhile_cons, hpq a b hab]
      split
      · exact ih
      · exact .cons hab hrest
  exact List.forall₂_reverse_iff.mpr (hdrop (List.forall₂_reverse_iff.mpr h))

theorem rdropWhile_append_replicate (placeholder : Text) (tokens : List Text) (k : Nat) :
    (tokens ++ List.replicate k placeholder).rdropWhile (· == placeholder) =
      tokens.rdropWhile (· == placeholder) := by
  induction k with
  | zero => simp
  | succ k ih =>
    rw [List.replicate_succ', ← List.append_assoc, List.rdropWhile_concat_pos _ _ _ (by simp), ih]

/-- The tokens of a decoded tree are the words of its literal, and placeholders after them. -/
theorem exists_rewritten_of_parse {placeholder literal : Text} {t : LevelTree}
    (h : parse placeholder literal = .ok t)
    (hvalues : ∀ node ∈ t.nodes, Numeral.write node.value ≠ placeholder) :
    ∃ inner shown k, Text.trim literal = '{' :: inner ++ ['}'] ∧
      List.Forall₂ (Rewritten placeholder) (Text.words inner) shown ∧
      t.tokens placeholder = shown ++ List.replicate k placeholder := by
  obtain ⟨inner, htrim,
    ⟨hwords, rfl⟩ | ⟨root, tokens, value, nodes, hwords, hne, hroot, hgrow, rfl⟩⟩ :=
    parse_eq_ok_iff.mp h
  · exact ⟨inner, [], 0, htrim, by rw [hwords]; exact .nil, rfl⟩
  · obtain ⟨shown, k, hshown, htokens⟩ :=
      exists_rewritten_of_grow hvalues hgrow List.drop_zero (Nat.zero_add 1)
    obtain ⟨first, rest, rfl, hfirst⟩ : ∃ first rest, nodes = first :: rest ∧
        first.value = value := by
      obtain ⟨after, hafter⟩ := queue_isPrefix_of_grow hgrow
      cases nodes with
      | nil => simp at hafter
      | cons first rest => exact ⟨first, rest, rfl, (List.cons.inj hafter).1.symm⟩
    have hwritten : Numeral.write value ≠ placeholder := hfirst ▸ hvalues first (by simp)
    refine ⟨inner, Numeral.write value :: shown, k, htrim, ?_, ?_⟩
    · rw [hwords]
      exact .cons ⟨.inr ⟨hne, value, hroot, rfl⟩, by simp [hne, hwritten]⟩ hshown
    · rw [tokens_eq rfl rfl (levelOrderFrom_of_grow hgrow rfl) placeholder, htokens, hfirst]
      rfl

/-- A literal is decoded exactly if it is well formed. Rendering the tree with the same placeholder
writes the words of the literal up to the last value, numerals in their shortest form. -/
theorem parse_accepts_format (placeholder literal : Text) :
    ((∃ t, parse placeholder literal = .ok t) ↔ WellFormed placeholder literal) ∧
      ∀ t, parse placeholder literal = .ok t →
        (∀ node ∈ t.nodes, Numeral.write node.value ≠ placeholder) →
        ∃ inner shown, Text.trim literal = '{' :: inner ++ ['}'] ∧
          List.Forall₂ (Shows placeholder)
            ((Text.words inner).rdropWhile (· == placeholder)) shown ∧
          t.render placeholder = '{' :: Text.join " " shown ++ ['}'] := by
  refine ⟨exists_parse_iff, ?_⟩
  intro t hparse hvalues
  obtain ⟨inner, shown, k, htrim, hshown, htokens⟩ := exists_rewritten_of_parse hparse hvalues
  have hends : ∀ token written, Rewritten placeholder token written →
      (token == placeholder) = (written == placeholder) := by
    intro token written h
    rw [Bool.eq_iff_iff, beq_iff_eq, beq_iff_eq]
    exact h.2
  refine ⟨inner, shown.rdropWhile (· == placeholder), htrim, ?_, ?_⟩
  · exact (forall₂_rdropWhile hends hshown).imp fun _ _ h => h.1
  · show '{' :: Text.join " " ((t.tokens placeholder).rdropWhile (· == placeholder)) ++ ['}'] = _
    rw [htokens, rdropWhile_append_replicate]

/-- A signed root, a missing left child, a leading zero and a placeholder at the end. -/
theorem parse_accepts_format_signed_root :
    parse "x".toList " \x7b+1 x 02 x\x7d\n".toList =
        .ok ⟨[⟨1, none, some 1⟩, ⟨2, none, none⟩], some 0⟩ ∧
      WellFormed "x".toList " \x7b+1 x 02 x\x7d\n".toList ∧
      ∃ inner shown, Text.trim " \x7b+1 x 02 x\x7d\n".toList = '{' :: inner ++ ['}'] ∧
        List.Forall₂ (Shows "x".toList)
          ((Text.words inner).rdropWhile (· == "x".toList)) shown ∧
        '{' :: Text.join " " shown ++ ['}'] = "\x7b1 x 2\x7d".toList := by
  have hparse : parse "x".toList " \x7b+1 x 02 x\x7d\n".toList =
      .ok ⟨[⟨1, none, some 1⟩, ⟨2, none, none⟩], some 0⟩ := by
    have hrest : grow "x".toList [2] 2 ["x".toList] = .ok [⟨2, none, none⟩] := by
      rw [grow, slot_placeholder]
      simp only [bind, Except.bind, grow_nil]
      rfl
    have hvalue : slot "x".toList "02".toList = .ok (some 2) := by decide
    have hgrow : grow "x".toList [1] 1 ["x".toList, "02".toList, "x".toList] =
        .ok [⟨1, none, some 1⟩, ⟨2, none, none⟩] :=
      grow_cons_cons (slot_placeholder "x".toList) hvalue 1 hrest
    exact parse_eq_ok_iff.mpr ⟨"+1 x 02 x".toList, by decide +kernel,
      .inr ⟨"+1".toList, _, 1, _, by decide +kernel, by decide, by decide, hgrow, rfl⟩⟩
  obtain ⟨haccepts, hrenders⟩ := parse_accepts_format "x".toList " \x7b+1 x 02 x\x7d\n".toList
  obtain ⟨inner, shown, htrim, hshown, hrender⟩ := hrenders _ hparse (by decide)
  refine ⟨hparse, haccepts.mp ⟨_, hparse⟩, inner, shown, htrim, hshown, ?_⟩
  rw [← hrender]
  decide +kernel

end FailureReplay.LevelTree
