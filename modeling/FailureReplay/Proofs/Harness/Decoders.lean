import FailureReplay.Argument
import FailureReplay.Harness.Emit
import FailureReplay.Proofs.Harness.Strings
import FailureReplay.Proofs.Literal.Decoded

/-!
# Decoders of a harness

The two decoders that a harness carries, statement by statement as the template
has them. Objects are named by the order in which they are made, and a decoder
gives the reference it returns with all objects made so far. On every printable
token that the library decodes they raise nothing and build the same tree or the
same list.
-/

namespace FailureReplay.Harness

/-! ## The tree decoder -/

/-- The nodes made so far, and the references in `queue`. -/
structure Growth where
  heap : List TreeNode
  queue : List Nat

def setLeft (child : Nat) (node : TreeNode) : TreeNode := { node with left := some child }

def setRight (child : Nat) (node : TreeNode) : TreeNode := { node with right := some child }

/-- One guarded read of `vals[index]`: a node is made for the token, unless it is the placeholder,
then assigned to `node` by `assign` and queued. -/
def Growth.child (placeholder : Text) (vals : List Text) (assign : Nat → TreeNode → TreeNode)
    (node index : Nat) (g : Growth) : Except Exception Growth :=
  match vals[index]? with
  | none => .ok g
  | some token =>
    if token = placeholder then .ok g
    else do
      let value ← Strings.parseInt token
      let made := g.heap.length
      return ⟨g.heap.modify node (assign made) ++ [LevelTree.leaf value], g.queue ++ [made]⟩

/-- `for (int i = 0; i < queue.size() && index < vals.length; i++)` -/
def Growth.loop (placeholder : Text) (vals : List Text) (i index : Nat) (g : Growth) :
    Except Exception Growth :=
  if h : i < g.queue.length ∧ index < vals.length then do
    let node := g.queue[i]
    -- `index` goes up after each read, made or not, and so by two in a round.
    let g ← g.child placeholder vals setLeft node index
    let g ← g.child placeholder vals setRight node (index + 1)
    g.loop placeholder vals (i + 1) (index + 2)
  else .ok g
termination_by vals.length - index

def deserializeTreeNode (placeholder data : Text) : Except Exception (Option Nat × List TreeNode) :=
  let body := Strings.trim data
  if body.length < 2 then .ok (none, [])
  else do
    let body := Strings.trim (← Strings.substring body 1 (body.length - 1))
    if body.isEmpty then return (none, [])
    let vals := Strings.splitSpaces body
    match vals with
    | [] => throw .indexOutOfBounds
    | first :: _ =>
      let value ← Strings.parseInt first
      let g ← Growth.loop placeholder vals 0 1 ⟨[LevelTree.leaf value], [0]⟩
      return (some 0, g.heap)

/-! ## The list decoder -/

/-- A node of a linked list and the reference in it. -/
structure ListNode where
  value : Int32
  next : Option Nat
  deriving DecidableEq, Repr

/-- `for (String val : values)`: a node is made for each value and assigned to `current.next`. -/
def appendNodes : List Text → (current : Nat) → List ListNode → Except Exception (List ListNode)
  | [], _, heap => .ok heap
  | val :: values, current, heap => do
    let value ← Strings.parseInt (Strings.trim val)
    let made := heap.length
    let linked := heap.modify current fun node => { node with next := some made }
    appendNodes values made (linked ++ [⟨value, none⟩])

def deserializeListNode (data : Text) : Except Exception (Option Nat × List ListNode) := do
  let data := Strings.trim data
  let data ← Strings.substring data 1 (data.length - 1)
  if (Strings.trim data).isEmpty then return (none, [])
  -- The node at reference 0 is `dummy`.
  let heap ← appendNodes (Strings.splitCommas data) 0 [⟨0, none⟩]
  return (heap.head?.bind ListNode.next, heap)

/-- Following references from one gives the values of a list; an absent one ends it. -/
def Holds (heap : List ListNode) : Option Nat → List Int32 → Prop
  | ref, [] => ref = none
  | ref, value :: values =>
    ∃ i node, ref = some i ∧ heap[i]? = some node ∧ node.value = value ∧
      Holds heap node.next values

/-! ## What the tree decoder builds -/

theorem modify_length_append_cons {α : Type} (f : α → α) (done rest : List α) (a : α) :
    (done ++ a :: rest).modify done.length f = done ++ f a :: rest := by
  induction done with
  | nil => rfl
  | cons b done ih => exact congrArg (b :: ·) ih

theorem range_append_position (next : Nat) (c : Option Int32) :
    List.range next ++ (LevelTree.position next c).toList =
      List.range (next + c.toList.length) := by
  cases c with
  | none => simp [LevelTree.position]
  | some value => simp [LevelTree.position, List.range_succ]

/-- The child that a guarded read of `vals[index]` makes: none past the last token. -/
def slotAt (placeholder : Text) (vals : List Text) (index : Nat) :
    Except Literal.Fault (Option Int32) :=
  (vals[index]?).elim (.ok none) (LevelTree.slot placeholder)

/-- A guarded read on the node at `done.length`. The references in the queue are those of all
nodes, so a node that is made is queued behind them under the next number. -/
theorem child_eq {placeholder : Text} {vals : List Text} {index next : Nat} {c : Option Int32}
    (hslot : slotAt placeholder vals index = .ok c) (assign : Nat → TreeNode → TreeNode)
    (done rest : List TreeNode) (node : TreeNode)
    (hnext : (done ++ node :: rest).length = next) :
    Growth.child placeholder vals assign done.length index
        ⟨done ++ node :: rest, List.range next⟩ =
      .ok ⟨done ++ (LevelTree.position next c).elim node (assign · node) ::
          (rest ++ c.toList.map LevelTree.leaf), List.range (next + c.toList.length)⟩ := by
  rw [slotAt] at hslot
  rw [Growth.child, ← range_append_position]
  cases hget : vals[index]? with
  | none =>
    rw [hget] at hslot
    obtain rfl : none = c := Except.ok.inj hslot
    simp [LevelTree.position]
  | some token =>
    rw [hget] at hslot
    obtain ⟨heq, rfl⟩ | ⟨hne, value, rfl, hread⟩ := LevelTree.eq_or_read_of_slot hslot
    · simp [heq, LevelTree.position]
    · simp only [hne, if_false, Strings.parseInt_of_read hread, hnext, bind, Except.bind,
        modify_length_append_cons]
      simp [LevelTree.position, pure, Except.pure]

/-- One round of the loop: the node whose turn it is gets both children. -/
theorem round_eq {placeholder : Text} {vals : List Text} {index next : Nat}
    {left right : Option Int32} (hleft : slotAt placeholder vals index = .ok left)
    (hright : slotAt placeholder vals (index + 1) = .ok right) (done : List TreeNode)
    (value : Int32) (queue : List Int32) (hnext : done.length + (queue.length + 1) = next) :
    (Growth.child placeholder vals setLeft done.length index
        ⟨done ++ (value :: queue).map LevelTree.leaf, List.range next⟩ >>=
      Growth.child placeholder vals setRight done.length (index + 1)) =
    .ok ⟨(done ++ [⟨value, LevelTree.position next left,
          LevelTree.position (next + left.toList.length) right⟩]) ++
        (queue ++ left.toList ++ right.toList).map LevelTree.leaf,
      List.range (next + left.toList.length + right.toList.length)⟩ := by
  have hfirst : (LevelTree.position next left).elim (LevelTree.leaf value)
      (setLeft · (LevelTree.leaf value)) = ⟨value, LevelTree.position next left, none⟩ := by
    cases left <;> rfl
  have hsecond : ∀ (link : Option Nat) (at' : Nat), (LevelTree.position at' right).elim
      (TreeNode.mk value link none) (setRight · ⟨value, link, none⟩) =
        ⟨value, link, LevelTree.position at' right⟩ := by
    intro link at'
    cases right <;> rfl
  rw [List.map_cons, child_eq hleft setLeft _ _ _ (by simpa using hnext), hfirst]
  simp only [bind, Except.bind]
  rw [child_eq hright setRight _ _ _ (by simp; omega), hsecond]
  simp

/-- One round of the loop takes two tokens for the node in front of the queue. -/
theorem loop_round {placeholder : Text} {vals : List Text} {index next : Nat}
    {left right : Option Int32} (hindex : index < vals.length)
    (hleft : slotAt placeholder vals index = .ok left)
    (hright : slotAt placeholder vals (index + 1) = .ok right) (done : List TreeNode)
    (value : Int32) (queue : List Int32) (hnext : done.length + (queue.length + 1) = next) :
    Growth.loop placeholder vals done.length index
        ⟨done ++ (value :: queue).map LevelTree.leaf, List.range next⟩ =
      Growth.loop placeholder vals (done.length + 1) (index + 2)
        ⟨(done ++ [⟨value, LevelTree.position next left,
            LevelTree.position (next + left.toList.length) right⟩]) ++
          (queue ++ left.toList ++ right.toList).map LevelTree.leaf,
        List.range (next + left.toList.length + right.toList.length)⟩ := by
  have hturn : done.length < (List.range next).length ∧ index < vals.length := by
    rw [List.length_range]
    omega
  rw [Growth.loop, dif_pos hturn]
  simp only [List.getElem_range]
  rw [← bind_assoc, round_eq hleft hright done value queue hnext]
  rfl

/-- The loop runs in step with the library's decoding: what waits in its queue are the nodes after
`done`, and the tokens from `index` on are left. -/
theorem loop_eq {placeholder : Text} {vals tokens : List Text} {queue : List Int32}
    {next : Nat} {nodes : List TreeNode}
    (h : LevelTree.grow placeholder queue next tokens = .ok nodes) (done : List TreeNode)
    (index : Nat) (htokens : vals.drop index = tokens)
    (hnext : done.length + queue.length = next) :
    ∃ refs, Growth.loop placeholder vals done.length index
      ⟨done ++ queue.map LevelTree.leaf, List.range next⟩ = .ok ⟨done ++ nodes, refs⟩ := by
  have hlength : vals.length - index = tokens.length := by
    rw [← htokens, List.length_drop]
  induction queue, next, tokens using LevelTree.grow.induct generalizing nodes index done with
  | case1 next =>
    rw [LevelTree.grow] at h
    obtain rfl : [] = nodes := Except.ok.inj h
    rw [Growth.loop, dif_neg (by rw [List.length_range]; simp at hnext; omega)]
    exact ⟨_, rfl⟩
  | case2 next head tail => rw [LevelTree.grow] at h; cases h
  | case3 value queue next ih =>
    rw [LevelTree.grow_nil] at h
    obtain rfl := Except.ok.inj h
    rw [List.length_nil] at hlength
    rw [Growth.loop, dif_neg (by omega)]
    exact ⟨_, rfl⟩
  | case4 value queue next l ih =>
    obtain ⟨left, rest, hl, hrest, rfl⟩ := LevelTree.exists_of_grow_singleton h
    rw [List.length_cons] at hnext
    rw [List.length_singleton] at hlength
    have hleft : slotAt placeholder vals index = .ok left := by
      rw [slotAt, ← List.head?_drop, htokens]
      exact hl
    have hright : slotAt placeholder vals (index + 1) = .ok none := by
      rw [slotAt, List.getElem?_eq_none (by omega)]
      rfl
    rw [loop_round (by omega) hleft hright done value queue hnext]
    have hgrown := ih left hrest (done ++ [⟨value, LevelTree.position next left, none⟩])
      (index + 2) (List.drop_eq_nil_iff.mpr (by omega)) (by simp; omega) (by simp; omega)
    simpa [LevelTree.position] using hgrown
  | case5 value queue next l r tokens ih =>
    obtain ⟨left, right, rest, hl, hr, hrest, rfl⟩ := LevelTree.exists_of_grow_cons_cons h
    rw [List.length_cons] at hnext
    rw [List.length_cons, List.length_cons] at hlength
    have hleft : slotAt placeholder vals index = .ok left := by
      rw [slotAt, ← List.head?_drop, htokens]
      exact hl
    have hnext' : vals.drop (index + 1) = r :: tokens := by
      rw [← List.tail_drop, htokens]
      rfl
    have hright : slotAt placeholder vals (index + 1) = .ok right := by
      rw [slotAt, ← List.head?_drop, hnext']
      exact hr
    have hlast : vals.drop (index + 2) = tokens := by
      rw [← List.tail_drop, hnext']
      rfl
    rw [loop_round (by omega) hleft hright done value queue hnext]
    have hgrown := ih left right hrest (done ++ [⟨value, LevelTree.position next left,
      LevelTree.position (next + left.toList.length) right⟩]) (index + 2) hlast
      (by simp; omega) (by omega)
    simpa using hgrown

theorem substring_enclosed (opening closing : Char) (inner : Text) :
    Strings.substring (opening :: inner ++ [closing]) 1
      ((opening :: inner ++ [closing]).length - 1) = .ok inner := by
  have hstop : ((opening :: inner ++ [closing]).length - 1 : Int) = (inner.length + 1 : Nat) := by
    simp only [List.cons_append, List.length_cons, List.length_append, List.length_nil]
    omega
  have hbounds : (0 : Int) ≤ 1 ∧ 1 ≤ ((inner.length + 1 : Nat) : Int) ∧
      ((inner.length + 1 : Nat) : Int) ≤ (opening :: inner ++ [closing]).length := by
    simp only [List.cons_append, List.length_cons, List.length_append, List.length_nil]
    omega
  rw [Strings.substring, hstop, if_pos hbounds]
  simp

/-- Reading a token that the library decodes to a tree makes the nodes of the tree, in order. -/
theorem deserializeTreeNode_eq {placeholder token : Text} {t : LevelTree}
    (hprintable : Strings.Printable token) (h : LevelTree.parse placeholder token = .ok t) :
    deserializeTreeNode placeholder token = .ok (t.root, t.nodes) := by
  obtain ⟨inner, htrim, hinner⟩ := LevelTree.exists_of_parse h
  have hprintable' : Strings.Printable inner := hprintable.of_enclosed htrim
  have hlength : ¬ ('{' :: inner ++ ['}']).length < 2 := by simp
  rw [deserializeTreeNode, hprintable.trim_eq, htrim]
  simp only [hlength, if_false, substring_enclosed, hprintable'.trim_eq, bind, Except.bind]
  obtain ⟨hwords, hnil, hnone⟩ | ⟨root, tokens, value, hwords, hroot, hgrow, hfirst⟩ := hinner
  · have hblank : Text.trim inner = [] := by
      rw [Text.trim_eq_nil_iff, ← Text.visible_eq_nil_iff, ← Text.flatten_words, hwords]
      rfl
    simp [hblank, hnil, hnone, pure, Except.pure]
  · have hwords' : Text.words (Text.trim inner) = root :: tokens := by rw [Text.words_trim, hwords]
    have hne : Text.trim inner ≠ [] := by
      intro hnil
      rw [hnil] at hwords'
      cases hwords'
    have hspace : ∀ c ∈ Text.trim inner, Strings.isSpace c = Text.isBlank c := by
      intro c hc
      obtain ⟨hlow, hhigh⟩ := hprintable' c ((Text.trim_isInfix inner).subset hc)
      exact (Strings.classes_of_printable hlow hhigh).2.1
    have hsplit : Strings.splitSpaces (Text.trim inner) = root :: tokens := by
      rw [Strings.splitSpaces_eq_words hspace hne (Text.head?_trim inner)
        (Text.getLast?_trim inner), hwords']
    have hempty : (Text.trim inner).isEmpty = false := by simpa using hne
    have hrest : (root :: tokens).drop 1 = tokens := rfl
    obtain ⟨refs, hloop⟩ := loop_eq hgrow [] 1 hrest rfl
    simp only [hempty, hsplit, Strings.parseInt_of_read hroot, Bool.false_eq_true, if_false]
    rw [show Growth.loop placeholder (root :: tokens) 0 1 ⟨[LevelTree.leaf value], [0]⟩ = _
      from hloop, hfirst]
    rfl

/-! ## What the list decoder builds -/

/-- The nodes of a list, made one after the other from reference `first` on. -/
def chain (first : Nat) : List Int32 → List ListNode
  | [] => []
  | [value] => [⟨value, none⟩]
  | value :: values => ⟨value, some (first + 1)⟩ :: chain (first + 1) values

theorem holds_chain {heap : List ListNode} {values : List Int32} (done : List ListNode)
    (value : Int32) (hheap : heap = done ++ chain done.length (value :: values)) :
    Holds heap (some done.length) (value :: values) := by
  induction values generalizing done value with
  | nil =>
    refine ⟨done.length, ⟨value, none⟩, rfl, ?_, rfl, rfl⟩
    simp [hheap, chain]
  | cons next values ih =>
    have hnext := ih (done ++ [⟨value, some (done.length + 1)⟩]) next (by simp [hheap, chain])
    refine ⟨done.length, ⟨value, some (done.length + 1)⟩, rfl, ?_, rfl, by simpa using hnext⟩
    simp [hheap, chain]

/-- The loop over the values links each new node behind the last one. -/
theorem appendNodes_eq {pieces : List Text} {values : List Int32}
    (h : List.Forall₂ LinkedList.ReadsAs pieces values)
    (hprintable : ∀ piece ∈ pieces, Strings.Printable piece) (done : List ListNode)
    (last : Int32) :
    appendNodes pieces done.length (done ++ [⟨last, none⟩]) =
      .ok (done ++ chain done.length (last :: values)) := by
  induction h generalizing done last with
  | nil => rfl
  | @cons piece value pieces values hread _ ih =>
    have htrim : Strings.trim piece = Text.trim piece := (hprintable piece (by simp)).trim_eq
    have hmodify : (done ++ [(⟨last, none⟩ : ListNode)]).modify done.length
          (fun node => { node with next := some (done.length + 1) }) =
        done ++ [⟨last, some (done.length + 1)⟩] := modify_length_append_cons _ done [] _
    have hrest := ih (fun s hs => hprintable s (List.mem_cons_of_mem _ hs))
      (done ++ [⟨last, some (done.length + 1)⟩]) value
    rw [appendNodes, htrim, Strings.parseInt_of_read hread]
    simp only [bind, Except.bind, List.length_append, List.length_singleton, hmodify] at hrest ⊢
    rw [hrest]
    simp [chain]

/-- Reading a token that the library decodes to a list makes a chain of nodes with its values. -/
theorem deserializeListNode_eq {token : Text} {l : LinkedList}
    (hprintable : Strings.Printable token) (h : LinkedList.parse token = .ok l) :
    ∃ ref heap, deserializeListNode token = .ok (ref, heap) ∧ Holds heap ref l.values := by
  obtain ⟨inner, htrim, hinner⟩ := LinkedList.exists_of_parse h
  have hprintable' : Strings.Printable inner := hprintable.of_enclosed htrim
  rw [deserializeListNode, hprintable.trim_eq, htrim]
  simp only [substring_enclosed, hprintable'.trim_eq, bind, Except.bind]
  obtain ⟨hblank, hnil⟩ | ⟨hblank, hvalues⟩ := hinner
  · have hempty : Text.trim inner = [] :=
      (Text.trim_eq_nil_iff inner).mpr (List.all_eq_true.mp hblank)
    refine ⟨none, [], ?_, by rw [hnil]; rfl⟩
    rw [hempty]
    rfl
  · have hempty : (Text.trim inner).isEmpty = false := by
      rw [List.isEmpty_eq_false_iff]
      intro hnil
      have hall : Text.allBlank inner = true :=
        List.all_eq_true.mpr ((Text.trim_eq_nil_iff inner).mp hnil)
      rw [hall] at hblank
      cases hblank
    have hpieces : ∀ piece ∈ inner.splitOn ',', piece ≠ [] := by
      intro piece hpiece
      obtain ⟨value, hread⟩ := LinkedList.exists_read_of_mem hvalues hpiece
      rintro rfl
      cases hread
    have hbuilt := appendNodes_eq hvalues
      (fun piece hpiece => hprintable'.subset (Text.of_mem_splitOn hpiece).2.subset) [] 0
    simp only [hempty, Strings.splitCommas_eq_splitOn hpieces, Bool.false_eq_true, if_false]
    rw [show appendNodes (inner.splitOn ',') 0 [⟨0, none⟩] = _ from hbuilt]
    -- A text has at least one piece, so the list is not empty and `dummy` has a successor.
    cases hl : l.values with
    | nil =>
      rw [hl] at hvalues
      exact absurd (List.forall₂_nil_right_iff.mp hvalues) (List.splitOn_ne_nil ',' inner)
    | cons value values =>
      refine ⟨some 1, chain 0 (0 :: value :: values), rfl, ?_⟩
      exact holds_chain [⟨0, some 1⟩] value rfl

/-! ## The literal around a token -/

/-- A source that goes on after `opening` with a string literal for `token`, then with `after`. -/
def WritesLiteral (source opening token after : Text) : Prop :=
  ∃ literal, source = opening ++ literal ∧ Strings.literal? literal = some (token, after)

theorem writesLiteral_quoted {token : Text}
    (h : ∀ c ∈ token, c ≠ '"' ∧ c ≠ '\\' ∧ c ≠ '\n' ∧ c ≠ '\r') (opening after : Text) :
    WritesLiteral (opening ++ ['"'] ++ token ++ '"' :: after) opening token after :=
  ⟨'"' :: token ++ '"' :: after, by simp, Strings.literal?_quoted h after⟩

theorem writesLiteral_decoderCall (decoder : String) {token : Text}
    (hprintable : Strings.Printable token) (hclean : '"' ∉ token ∧ '\\' ∉ token) :
    WritesLiteral (Argument.decoderCall decoder token) (decoder.toList ++ ['(']) token [')'] := by
  have hplain : ∀ c ∈ token, c ≠ '"' ∧ c ≠ '\\' ∧ c ≠ '\n' ∧ c ≠ '\r' := by
    intro c hc
    obtain ⟨-, -, hfeed, hreturn⟩ :=
      Strings.classes_of_printable (hprintable c hc).1 (hprintable c hc).2
    exact ⟨fun h => hclean.1 (h ▸ hc), fun h => hclean.2 (h ▸ hc), hfeed, hreturn⟩
  have hquoted := writesLiteral_quoted hplain (decoder.toList ++ ['(']) [')']
  simpa [Argument.decoderCall] using hquoted

theorem not_breaksPlaceholder_of_valid {config : Config} (h : config.Valid) :
    ∀ c ∈ config.treePlaceholder, Config.breaksPlaceholder c = false := by
  rw [Config.Valid, Config.problem?] at h
  split_ifs at h with _ _ _ hplaceholder _ _
  rw [Bool.or_eq_true, not_or] at hplaceholder
  intro c hc
  by_contra hbreaks
  exact hplaceholder.2 (List.any_eq_true.mpr ⟨c, hc, by simpa using hbreaks⟩)

/-- No quote and no backslash stands in a text of characters that literals are made of. -/
theorem clean_of_isPart {token placeholder : Text}
    (hplaceholder : ∀ c ∈ placeholder, Config.breaksPlaceholder c = false)
    (h : ∀ c ∈ token, Literal.isPart c = true ∨ c ∈ placeholder) :
    '"' ∉ token ∧ '\\' ∉ token := by
  have hnone : ∀ c : Char, Literal.isPart c = false → Config.breaksPlaceholder c = true →
      c ∉ token := by
    intro c hpart hbreaks hmem
    rcases h c hmem with htrue | hc
    · rw [htrue] at hpart
      cases hpart
    · rw [hplaceholder c hc] at hbreaks
      cases hbreaks
  exact ⟨hnone '"' (by decide) (by decide), hnone '\\' (by decide) (by decide)⟩

/-! ## Agreement -/

/-- The guard of the tree decoder up to the literal it compares with. -/
def guardOpening : Text := "            if (index < vals.length && !vals[index].equals(".toList

/-- The guard of the tree decoder after that literal. -/
def guardClosing : Text := ")) \x7b".toList

theorem guardOpening_quote :
    "            if (index < vals.length && !vals[index].equals(\"".toList =
      guardOpening ++ ['"'] := by
  decide +kernel

theorem quote_guardClosing : "\")) \x7b".toList = '"' :: guardClosing := by
  decide +kernel

/-- The placeholder stands in the guard as a string literal and nowhere else. -/
theorem childTest_eq (placeholder : Text) : childTest placeholder =
    guardOpening ++ ['"'] ++ placeholder ++ '"' :: guardClosing := by
  unfold childTest
  rw [guardOpening_quote, quote_guardClosing]

/-- The guard of the tree decoder compares with a string literal that denotes the placeholder. -/
theorem writesLiteral_childTest {config : Config} (hvalid : config.Valid) :
    WritesLiteral (childTest config.treePlaceholder) guardOpening config.treePlaceholder
      guardClosing := by
  rw [childTest_eq]
  apply writesLiteral_quoted
  intro c hc
  have hbreaks := not_breaksPlaceholder_of_valid hvalid c hc
  refine ⟨?_, ?_, ?_, ?_⟩ <;>
  · rintro rfl
    revert hbreaks
    decide

/-- The decoders of a harness agree with the library's on every printable token that the library
decodes, and the source that calls them hands them that very token. -/
theorem decoders_agree (config : Config) (hvalid : config.Valid) (token : Text)
    (hprintable : Strings.Printable token) (position : Nat) :
    (∀ t, LevelTree.parse config.treePlaceholder token = .ok t →
      (∃ b ref heap, t.Spells b ∧
        deserializeTreeNode config.treePlaceholder token = .ok (ref, heap) ∧
        (LevelTree.mk heap ref).Spells b ∧ (ref = none ↔ t.nodes = [])) ∧
      ('"' ∉ token ∧ '\\' ∉ token) ∧
      WritesLiteral (Argument.encodeOne config.treePlaceholder position .tree token).literal
        ("deserializeTreeNode".toList ++ ['(']) token [')']) ∧
    (∀ l, LinkedList.parse token = .ok l →
      (∃ ref heap, deserializeListNode token = .ok (ref, heap) ∧ Holds heap ref l.values) ∧
      ('"' ∉ token ∧ '\\' ∉ token) ∧
      WritesLiteral (Argument.encodeOne config.treePlaceholder position .linkedList token).literal
        ("deserializeListNode".toList ++ ['(']) token [')']) ∧
    WritesLiteral (childTest config.treePlaceholder) guardOpening config.treePlaceholder
      guardClosing := by
  refine ⟨?_, ?_, writesLiteral_childTest hvalid⟩
  · intro t ht
    obtain ⟨b, hb⟩ := LevelTree.exists_spells_of_parse ht
    have hclean := clean_of_isPart (not_breaksPlaceholder_of_valid hvalid)
      (LevelTree.isPart_of_parse ht)
    refine ⟨⟨b, t.root, t.nodes, hb, deserializeTreeNode_eq hprintable ht, hb, ?_⟩, hclean,
      writesLiteral_decoderCall _ hprintable hclean⟩
    obtain ⟨hnil, hnone⟩ | ⟨hfirst, horder⟩ := LevelTree.levelOrder_of_parse ht
    · simp [hnil, hnone]
    · simp [hfirst, List.ne_nil_of_length_pos horder.length_pos]
  · intro l hl
    have hclean := clean_of_isPart (not_breaksPlaceholder_of_valid hvalid)
      fun c hc => .inl (LinkedList.isPart_of_parse hl c hc)
    exact ⟨deserializeListNode_eq hprintable hl, hclean,
      writesLiteral_decoderCall _ hprintable hclean⟩

/-- A root without a left child, and a list with both signs. -/
theorem decoders_agree_signed :
    ({} : Config).Valid ∧
      (Strings.Printable "\x7b1 x -2\x7d".toList ∧
        LevelTree.parse "x".toList "\x7b1 x -2\x7d".toList =
          .ok ⟨[⟨1, none, some 1⟩, ⟨-2, none, none⟩], some 0⟩ ∧
        ∃ b ref heap, deserializeTreeNode "x".toList "\x7b1 x -2\x7d".toList = .ok (ref, heap) ∧
          (LevelTree.mk heap ref).Spells b ∧ ref ≠ none) ∧
      Strings.Printable "[ +1, -2 ]".toList ∧
        LinkedList.parse "[ +1, -2 ]".toList = .ok ⟨[1, -2]⟩ ∧
        ∃ ref heap, deserializeListNode "[ +1, -2 ]".toList = .ok (ref, heap) ∧
          Holds heap ref [1, -2] := by
  have hvalid : ({} : Config).Valid := by
    rw [Config.Valid]
    decide +kernel
  have hwords : Text.words "1 x -2".toList = ["1".toList, "x".toList, "-2".toList] := by
    decide +kernel
  have hgrow : LevelTree.grow "x".toList [1] 1 ["x".toList, "-2".toList] =
      .ok [⟨1, none, some 1⟩, ⟨-2, none, none⟩] :=
    LevelTree.grow_cons_cons (LevelTree.slot_placeholder _)
      (show LevelTree.slot "x".toList "-2".toList = .ok (some (-2)) by decide +kernel) 1
      (LevelTree.grow_nil ..)
  have htree : LevelTree.parse "x".toList "\x7b1 x -2\x7d".toList =
      .ok ⟨[⟨1, none, some 1⟩, ⟨-2, none, none⟩], some 0⟩ := by
    have hbraces : "\x7b1 x -2\x7d".toList = '{' :: "1 x -2".toList ++ ['}'] := by decide +kernel
    rw [LevelTree.parse, hbraces, LevelTree.tree?_braces hwords (by decide +kernel)
      (show Literal.numeral "1".toList = .ok 1 by decide +kernel) hgrow]
  have hlist : LinkedList.parse "[ +1, -2 ]".toList = .ok ⟨[1, -2]⟩ := by decide +kernel
  have hprintable : Strings.Printable "\x7b1 x -2\x7d".toList := by decide +kernel
  have hprintable' : Strings.Printable "[ +1, -2 ]".toList := by decide +kernel
  obtain ⟨⟨b, ref, heap, -, hread, hspells, hnone⟩, -⟩ :=
    (decoders_agree {} hvalid _ hprintable 0).1 _ htree
  refine ⟨hvalid, ⟨hprintable, htree, b, ref, heap, hread, hspells, ?_⟩, hprintable', hlist,
    ((decoders_agree {} hvalid _ hprintable' 0).2.1 _ hlist).1⟩
  rw [Ne, hnone]
  simp

end FailureReplay.Harness
