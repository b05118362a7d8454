import FailureReplay.Literal.LinkedList
import FailureReplay.Proofs.Literal.TreeRoundTrip
import FailureReplay.Proofs.Text.Pieces
import Mathlib.Data.List.Forall2

/-!
# Decoded literals

What is known of a literal once it has been decoded: it is enclosed, its tokens
are numerals and placeholders, and so no other characters stand in it. The nodes
of a decoded tree are in level order, and nodes in level order spell out a tree,
since every link leads to a later node.
-/

namespace FailureReplay

theorem Text.eq_of_enclosed? {opening closing : Char} {t inner : Text}
    (h : Text.enclosed? opening closing t = some inner) : t = opening :: inner ++ [closing] := by
  cases t with
  | nil => cases h
  | cons c rest =>
    by_cases hc : c = opening
    · rw [Text.enclosed?, if_pos hc] at h
      rw [hc, ← Text.append_of_beforeEnding? h]
      rfl
    · rw [Text.enclosed?, if_neg hc] at h
      cases h

/-- A character of an enclosed literal is blank, encloses it or stands inside. -/
theorem Text.mem_of_enclosed {opening closing : Char} {literal inner : Text}
    (h : Text.trim literal = opening :: inner ++ [closing]) {c : Char} (hc : c ∈ literal) :
    Text.isBlank c = true ∨ c = opening ∨ c = closing ∨ c ∈ Text.visible inner := by
  by_cases hblank : Text.isBlank c = true
  · exact .inl hblank
  · have hmem : c ∈ Text.visible (Text.trim literal) := by
      rw [Text.visible_trim]
      exact List.mem_filter.mpr ⟨hc, by simpa using hblank⟩
    rw [h] at hmem
    have hmem' : c ∈ opening :: inner ++ [closing] := (List.mem_filter.mp hmem).1
    simp only [List.cons_append, List.mem_cons, List.mem_append, List.not_mem_nil,
      or_false] at hmem'
    rcases hmem' with rfl | hinner | rfl
    · exact .inr (.inl rfl)
    · exact .inr (.inr (.inr (List.mem_filter.mpr ⟨hinner, by simpa using hblank⟩)))
    · exact .inr (.inr (.inl rfl))

theorem Literal.read_of_numeral {token : Text} {value : Int32}
    (h : Literal.numeral token = .ok value) : Numeral.read token = .ok value := by
  rw [Literal.numeral] at h
  cases hread : Numeral.read token with
  | error fault => rw [hread] at h; cases h
  | ok v =>
    rw [hread] at h
    exact congrArg Except.ok (Except.ok.inj h)

/-- A part of a literal is a value exactly if it is a numeral of it. -/
theorem Literal.numeral_eq_ok_iff {token : Text} {value : Int32} :
    Literal.numeral token = .ok value ↔ Numeral.Denotes token value := by
  rw [← Numeral.read_eq_ok_iff]
  refine ⟨Literal.read_of_numeral, ?_⟩
  intro h
  rw [Literal.numeral, h]
  rfl

/-- The characters that list and tree literals are made of, placeholders apart. -/
def Literal.isPart (c : Char) : Bool :=
  Text.isBlank c || c.isDigit || c ∈ ['{', '}', '[', ']', ',', '+', '-']

theorem Literal.isPart_of_read {token : Text} {value : Int32}
    (h : Numeral.read token = .ok value) : ∀ c ∈ token, Literal.isPart c = true := by
  intro c hc
  rcases Numeral.mem_of_read h c hc with hdigit | rfl | rfl
  · simp [Literal.isPart, hdigit]
  · decide
  · decide

namespace LevelTree

/-! ## The tokens of a decoded tree -/

theorem eq_or_read_of_slot {placeholder token : Text} {child : Option Int32}
    (h : slot placeholder token = .ok child) :
    token = placeholder ∧ child = none ∨
      token ≠ placeholder ∧ ∃ value, child = some value ∧ Numeral.read token = .ok value := by
  rw [slot] at h
  split at h
  · next heq => exact .inl ⟨heq, (Except.ok.inj h).symm⟩
  · next hne =>
    cases hnumeral : Literal.numeral token with
    | error fault => rw [hnumeral] at h; cases h
    | ok value =>
      rw [hnumeral] at h
      exact .inr ⟨hne, value, (Except.ok.inj h).symm, Literal.read_of_numeral hnumeral⟩

/-- A node whose children are not known yet. -/
def leaf (value : Int32) : TreeNode := ⟨value, none, none⟩

/-- Without tokens, what waits in the queue has no children. -/
theorem grow_nil (placeholder : Text) (queue : List Int32) (next : Nat) :
    grow placeholder queue next [] = .ok (queue.map leaf) := by
  induction queue with
  | nil => rw [grow]; rfl
  | cons value queue ih =>
    rw [grow, ih]
    rfl

theorem exists_of_grow_singleton {placeholder l : Text} {value : Int32} {queue : List Int32}
    {next : Nat} {nodes : List TreeNode}
    (h : grow placeholder (value :: queue) next [l] = .ok nodes) :
    ∃ left rest, slot placeholder l = .ok left ∧
      grow placeholder (queue ++ left.toList) (next + left.toList.length) [] = .ok rest ∧
      nodes = ⟨value, position next left, none⟩ :: rest := by
  rw [grow] at h
  cases hl : slot placeholder l with
  | error fault => rw [hl] at h; cases h
  | ok left =>
    rw [hl] at h
    simp only [bind, Except.bind, grow_nil] at h
    exact ⟨left, _, rfl, grow_nil .., (Except.ok.inj h).symm⟩

/-- The tokens that were taken are placeholders and numerals. -/
theorem eq_or_read_of_grow {placeholder : Text} {queue : List Int32} {next : Nat}
    {tokens : List Text} {nodes : List TreeNode}
    (h : grow placeholder queue next tokens = .ok nodes) :
    ∀ token ∈ tokens, token = placeholder ∨ ∃ value, Numeral.read token = .ok value := by
  have hslot : ∀ {token : Text} {child : Option Int32}, slot placeholder token = .ok child →
      token = placeholder ∨ ∃ value, Numeral.read token = .ok value := by
    intro token child h
    obtain ⟨heq, -⟩ | ⟨-, value, -, hread⟩ := eq_or_read_of_slot h
    · exact .inl heq
    · exact .inr ⟨value, hread⟩
  induction queue, next, tokens using grow.induct generalizing nodes with
  | case1 next => simp
  | case2 next head tail => rw [grow] at h; cases h
  | case3 value queue next ih => simp
  | case4 value queue next l ih =>
    obtain ⟨left, rest, hl, -⟩ := exists_of_grow_singleton h
    simpa using hslot hl
  | case5 value queue next l r tokens ih =>
    obtain ⟨left, right, rest, hl, hr, hrest, -⟩ := exists_of_grow_cons_cons h
    intro token htoken
    rcases List.mem_cons.mp htoken with rfl | htoken
    · exact hslot hl
    · rcases List.mem_cons.mp htoken with rfl | htoken
      · exact hslot hr
      · exact ih left right hrest token htoken

/-- A decoded tree literal: braces around words, the first of which is the root's numeral. -/
theorem exists_of_parse {placeholder literal : Text} {t : LevelTree}
    (h : parse placeholder literal = .ok t) :
    ∃ inner, Text.trim literal = '{' :: inner ++ ['}'] ∧
      (Text.words inner = [] ∧ t.nodes = [] ∧ t.root = none ∨
        ∃ root tokens value, Text.words inner = root :: tokens ∧
          Numeral.read root = .ok value ∧ grow placeholder [value] 1 tokens = .ok t.nodes ∧
          t.root = some 0) := by
  rw [parse] at h
  cases htree : tree? placeholder (Text.trim literal) with
  | error fault => rw [htree] at h; cases h
  | ok tree =>
    rw [htree] at h
    obtain rfl : tree = t := Except.ok.inj h
    rw [tree?] at htree
    split at htree
    · cases htree
    · next inner hinner =>
      refine ⟨inner, Text.eq_of_enclosed? hinner, ?_⟩
      split at htree
      · next hwords =>
        obtain rfl := Except.ok.inj htree
        exact .inl ⟨hwords, rfl, rfl⟩
      · next root tokens hwords =>
        split at htree
        · cases htree
        · cases hnumeral : Literal.numeral root with
          | error fault => rw [hnumeral] at htree; cases htree
          | ok value =>
            cases hgrow : grow placeholder [value] 1 tokens with
            | error fault =>
              simp only [hnumeral, hgrow, bind, Except.bind] at htree
              cases htree
            | ok nodes =>
              simp only [hnumeral, hgrow, bind, Except.bind] at htree
              obtain rfl := Except.ok.inj htree
              exact .inr ⟨root, tokens, value, hwords, Literal.read_of_numeral hnumeral, hgrow, rfl⟩

/-- A decoded literal holds numerals, placeholders and layout, nothing else. -/
theorem isPart_of_parse {placeholder literal : Text} {t : LevelTree}
    (h : parse placeholder literal = .ok t) :
    ∀ c ∈ literal, Literal.isPart c = true ∨ c ∈ placeholder := by
  intro c hc
  obtain ⟨inner, htrim, hinner⟩ := exists_of_parse h
  obtain hblank | rfl | rfl | hvisible := Text.mem_of_enclosed htrim hc
  · exact .inl (by simp [Literal.isPart, hblank])
  · exact .inl (by decide)
  · exact .inl (by decide)
  · rw [← Text.flatten_words] at hvisible
    obtain ⟨w, hw, hcw⟩ := List.mem_flatten.mp hvisible
    have htoken : w = placeholder ∨ ∃ value, Numeral.read w = .ok value := by
      obtain ⟨hwords, -⟩ | ⟨root, tokens, value, hwords, hroot, hgrow, -⟩ := hinner
      · rw [hwords] at hw
        cases hw
      · rw [hwords] at hw
        rcases List.mem_cons.mp hw with rfl | hw
        · exact .inr ⟨value, hroot⟩
        · exact eq_or_read_of_grow hgrow w hw
    obtain rfl | ⟨value, hread⟩ := htoken
    · exact .inr hcw
    · exact .inl (Literal.isPart_of_read hread c hcw)

/-! ## The shape of a decoded tree -/

theorem position_eq {next : Nat} {child : Option Int32} :
    (∀ c ∈ position next child, c = next) ∧
      (position next child).toList.length = child.toList.length := by
  cases child with
  | none => simp [position]
  | some value => simp [position]

/-- Nodes are numbered as they are queued: `next` counts all that were queued so far. -/
theorem levelOrderFrom_of_grow {placeholder : Text} {queue : List Int32} {next i : Nat}
    {tokens : List Text} {nodes : List TreeNode}
    (h : grow placeholder queue next tokens = .ok nodes) (hnext : i + queue.length = next) :
    LevelOrderFrom i next nodes := by
  induction queue, next, tokens using grow.induct generalizing nodes i with
  | case1 next =>
    rw [grow] at h
    obtain rfl : [] = nodes := Except.ok.inj h
    exact hnext
  | case2 next head tail => rw [grow] at h; cases h
  | case3 value queue next ih =>
    rw [grow_nil] at h
    obtain rfl := Except.ok.inj h
    rw [List.length_cons] at hnext
    refine ⟨by omega, by simp [leaf], by simp [leaf], ?_⟩
    exact ih (grow_nil ..) (by omega)
  | case4 value queue next l ih =>
    obtain ⟨left, rest, -, hrest, rfl⟩ := exists_of_grow_singleton h
    obtain ⟨hleft, hlength⟩ := @position_eq next left
    rw [List.length_cons] at hnext
    refine ⟨by omega, hleft, by simp, ?_⟩
    have horder := ih left hrest (i := i + 1) (by rw [List.length_append]; omega)
    simpa [hlength] using horder
  | case5 value queue next l r tokens ih =>
    obtain ⟨left, right, rest, -, -, hrest, rfl⟩ := exists_of_grow_cons_cons h
    obtain ⟨hleft, hlength⟩ := @position_eq next left
    obtain ⟨hright, hlength'⟩ := @position_eq (next + left.toList.length) right
    rw [List.length_cons] at hnext
    refine ⟨by omega, hleft, by simpa [hlength] using hright, ?_⟩
    have horder := ih left right hrest (i := i + 1) (by simp only [List.length_append]; omega)
    simpa [hlength, hlength'] using horder

theorem levelOrder_of_parse {placeholder literal : Text} {t : LevelTree}
    (h : parse placeholder literal = .ok t) : t.LevelOrder := by
  obtain ⟨inner, -, ⟨-, hempty⟩ | ⟨root, tokens, value, -, -, hgrow, hroot⟩⟩ := exists_of_parse h
  · exact .inl hempty
  · exact .inr ⟨hroot, levelOrderFrom_of_grow hgrow rfl⟩

/-- A link leads to a later node. -/
theorem LevelOrderFrom.link_bounds {i next : Nat} {nodes : List TreeNode}
    (h : LevelOrderFrom i next nodes) {k : Nat} {node : TreeNode} (hk : nodes[k]? = some node)
    {c : Nat} (hc : c ∈ node.left ∨ c ∈ node.right) : i + k < c ∧ c < i + nodes.length := by
  induction nodes generalizing i next k with
  | nil => cases hk
  | cons first rest ih =>
    obtain ⟨hlt, hleft, hright, hrest⟩ := h
    rw [List.length_cons]
    cases k with
    | zero =>
      obtain rfl : first = node := Option.some.inj hk
      have hbounds := hrest.bounds
      rcases hc with hc | hc
      · have hone : first.left.toList.length = 1 := by rw [Option.mem_def.mp hc]; rfl
        rw [hleft c hc]
        omega
      · have hone : first.right.toList.length = 1 := by rw [Option.mem_def.mp hc]; rfl
        rw [hright c hc]
        omega
    | succ k =>
      have hbounds := ih hrest (by simpa using hk)
      omega

theorem exists_spellsAt {t : LevelTree} (h : LevelOrderFrom 0 1 t.nodes) {i : Nat}
    (hi : i < t.nodes.length) : ∃ b, t.SpellsAt (some i) b := by
  have hget : t.nodes[i]? = some t.nodes[i] := List.getElem?_eq_getElem hi
  -- The links of the node at `i` lead to nodes with fewer nodes after them.
  have hchild : ∀ child : Option Nat, (∀ c ∈ child, i < c ∧ c < t.nodes.length) →
      ∃ b, t.SpellsAt child b := by
    intro child hbounds
    cases child with
    | none => exact ⟨.empty, rfl⟩
    | some c =>
      obtain ⟨hlt, hc⟩ := hbounds c rfl
      exact exists_spellsAt h hc
  obtain ⟨left, hleft⟩ := hchild t.nodes[i].left fun c hc => by
    simpa using h.link_bounds hget (.inl hc)
  obtain ⟨right, hright⟩ := hchild t.nodes[i].right fun c hc => by
    simpa using h.link_bounds hget (.inr hc)
  exact ⟨.node t.nodes[i].value left right, i, t.nodes[i], rfl, hget, rfl, hleft, hright⟩
termination_by t.nodes.length - i

theorem LevelOrderFrom.length_pos {nodes : List TreeNode} (h : LevelOrderFrom 0 1 nodes) :
    0 < nodes.length := by
  have hbounds := h.bounds
  omega

/-- A decoded tree spells out a binary tree. -/
theorem exists_spells_of_parse {placeholder literal : Text} {t : LevelTree}
    (h : parse placeholder literal = .ok t) : ∃ b, t.Spells b := by
  rcases levelOrder_of_parse h with ⟨-, hnone⟩ | ⟨hroot, horder⟩
  · exact ⟨.empty, hnone⟩
  · obtain ⟨b, hb⟩ := exists_spellsAt horder horder.length_pos
    exact ⟨b, by rwa [Spells, hroot]⟩

end LevelTree

namespace LinkedList

/-! ## Decoded lists -/

/-- A piece of a list literal that is the numeral of a value, blanks around it apart. -/
def ReadsAs (piece : Text) (value : Int32) : Prop := Numeral.read (Text.trim piece) = .ok value

theorem forall₂_of_mapM {values : List Int32} {pieces : List Text}
    (h : pieces.mapM (fun piece => Literal.numeral (Text.trim piece)) = .ok values) :
    List.Forall₂ ReadsAs pieces values := by
  induction pieces generalizing values with
  | nil =>
    obtain rfl : [] = values := by simpa [pure, Except.pure] using h
    exact .nil
  | cons piece pieces ih =>
    rw [List.mapM_cons] at h
    cases hnumeral : Literal.numeral (Text.trim piece) with
    | error fault => rw [hnumeral] at h; cases h
    | ok value =>
      cases hrest : pieces.mapM fun piece => Literal.numeral (Text.trim piece) with
      | error fault => rw [hnumeral, hrest] at h; cases h
      | ok rest =>
        rw [hnumeral, hrest] at h
        obtain rfl : value :: rest = values := Except.ok.inj h
        exact .cons (Literal.read_of_numeral hnumeral) (ih hrest)

theorem exists_read_of_mem {pieces : List Text} {values : List Int32}
    (h : List.Forall₂ ReadsAs pieces values) {piece : Text} (hpiece : piece ∈ pieces) :
    ∃ value, ReadsAs piece value := by
  induction h with
  | nil => cases hpiece
  | cons hread _ ih =>
    rcases List.mem_cons.mp hpiece with rfl | hpiece
    · exact ⟨_, hread⟩
    · exact ih hpiece

/-- A decoded list literal: brackets around blanks, or around numerals between commas. -/
theorem exists_of_parse {literal : Text} {l : LinkedList} (h : parse literal = .ok l) :
    ∃ inner, Text.trim literal = '[' :: inner ++ [']'] ∧
      (Text.allBlank inner = true ∧ l.values = [] ∨
        Text.allBlank inner = false ∧ List.Forall₂ ReadsAs (inner.splitOn ',') l.values) := by
  rw [parse] at h
  cases hvalues : values? (Text.trim literal) with
  | error fault => rw [hvalues] at h; cases h
  | ok values =>
    rw [hvalues] at h
    obtain rfl : LinkedList.mk values = l := Except.ok.inj h
    rw [values?] at hvalues
    split at hvalues
    · cases hvalues
    · next inner hinner =>
      refine ⟨inner, Text.eq_of_enclosed? hinner, ?_⟩
      split at hvalues
      · next hblank => exact .inl ⟨hblank, (Except.ok.inj hvalues).symm⟩
      · next hblank => exact .inr ⟨by simpa using hblank, forall₂_of_mapM hvalues⟩

theorem isPart_of_parse {literal : Text} {l : LinkedList} (h : parse literal = .ok l) :
    ∀ c ∈ literal, Literal.isPart c = true := by
  intro c hc
  obtain ⟨inner, htrim, hinner⟩ := exists_of_parse h
  obtain hblank | rfl | rfl | hvisible := Text.mem_of_enclosed htrim hc
  · simp [Literal.isPart, hblank]
  · decide
  · decide
  · obtain ⟨hmem, hblank⟩ := List.mem_filter.mp hvisible
    obtain ⟨hall, -⟩ | ⟨-, hvalues⟩ := hinner
    · simp [Literal.isPart, List.all_eq_true.mp hall c hmem]
    · rcases Text.eq_or_mem_of_splitOn ',' hmem with rfl | ⟨piece, hpiece, hcp⟩
      · decide
      · obtain ⟨value, hread⟩ := exists_read_of_mem hvalues hpiece
        have htrimmed : c ∈ Text.visible (Text.trim piece) := by
          rw [Text.visible_trim]
          exact List.mem_filter.mpr ⟨hcp, hblank⟩
        exact Literal.isPart_of_read hread c (List.mem_filter.mp htrimmed).1

end LinkedList
end FailureReplay
