import FailureReplay.Proofs.Header
import FailureReplay.Proofs.Literal.Quote
import FailureReplay.Proofs.Numeral
import FailureReplay.Proofs.Synthesis.Generation
import Mathlib.Algebra.Order.BigOperators.Group.List
import Mathlib.Algebra.Order.Group.Nat

/-!
# The lines of a harness

Every line of a harness ends in a line feed, and a case takes four lines if its
literals hold no line feed. The literals of strings, lists and trees keep the line
breaks of the payload they are made from, neither more nor fewer of them, so the
line count of a harness tells whether a payload was broken.
-/

namespace FailureReplay

/-! ## Characters that literals keep -/

/-- A character that ends a line of a source text. -/
def IsLineBreak (c : Char) : Prop := c = '\n' ∨ c = '\r'

theorem IsLineBreak.not_escaped {c : Char} (hc : IsLineBreak c) : c ≠ '\\' ∧ c ≠ '"' := by
  rcases hc with rfl | rfl <;> decide

/-- The types whose arguments are written between quotes. -/
def DeclaredType.quoted : List DeclaredType := [.text, .linkedList, .tree]

namespace Argument

theorem count_decoderCall {c : Char} {decoder : String} (hdecoder : c ∉ decoder.toList)
    (hc : IsLineBreak c) (token : Text) : (decoderCall decoder token).count c = token.count c := by
  have hopen : c ∉ "(\"".toList := by rcases hc with rfl | rfl <;> decide
  have hclose : c ∉ "\")".toList := by rcases hc with rfl | rfl <;> decide
  simp only [decoderCall, List.count_append, List.count_eq_zero.mpr hdecoder,
    List.count_eq_zero.mpr hopen, List.count_eq_zero.mpr hclose, Nat.zero_add, Nat.add_zero]

/-- Literals between quotes keep the line breaks of their tokens. -/
theorem count_encodeOne {c : Char} (hc : IsLineBreak c) {type : DeclaredType}
    (htype : type ∈ DeclaredType.quoted) (placeholder : Text) (position : Nat) (token : Text) :
    (encodeOne placeholder position type token).literal.count c = token.count c := by
  simp only [DeclaredType.quoted, List.mem_cons, List.not_mem_nil, or_false] at htype
  rcases htype with rfl | rfl | rfl
  · obtain ⟨hslash, hquote⟩ := hc.not_escaped
    exact (Literal.count_quote hslash hquote _).trans (Literal.count_unquote hquote token)
  · exact count_decoderCall (by rcases hc with rfl | rfl <;> decide) hc token
  · exact count_decoderCall (by rcases hc with rfl | rfl <;> decide) hc token

/-- Each argument literal holds as many line breaks as its token. -/
theorem counts_encodeFrom {c : Char} (hc : IsLineBreak c) {types : List DeclaredType}
    (htypes : ∀ type ∈ types, type ∈ DeclaredType.quoted) (placeholder : Text) (position : Nat)
    (tokens : List Text) :
    (literals (encodeFrom placeholder position types tokens)).map (List.count c) =
      (tokens.take types.length).map (List.count c) := by
  induction types generalizing position tokens with
  | nil => simp [encodeFrom, literals]
  | cons type types ih =>
    cases tokens with
    | nil => simp [encodeFrom, literals]
    | cons token tokens =>
      have hfirst := count_encodeOne hc (htypes type (by simp)) placeholder position token
      have hrest := ih (fun t ht => htypes t (List.mem_cons_of_mem _ ht)) (position + 1) tokens
      rw [literals] at hrest
      simp [encodeFrom, literals, hfirst, hrest]

end Argument

theorem Expectation.count_encode {c : Char} (hc : IsLineBreak c) {type : DeclaredType}
    (htype : type ∈ DeclaredType.quoted) (expected : Text) :
    (Expectation.encode type expected).count c = expected.count c := by
  simp only [DeclaredType.quoted, List.mem_cons, List.not_mem_nil, or_false] at htype
  rcases htype with rfl | rfl | rfl
  · exact Literal.count_quote hc.not_escaped.1 hc.not_escaped.2 expected
  · rfl
  · rfl

/-! ## Line breaks of a case -/

/-- How often a character stands in the literals of a case. -/
def TestCase.occurrences (c : Char) (case : TestCase) : Nat :=
  case.expected.count c + (case.arguments.map (List.count c)).sum

/-- How often a character stands in the parts of a payload that a case is made from. -/
def Report.Cell.occurrences (c : Char) (arity : Nat) (payload : Report.Cell) : Nat :=
  payload.expected.count c +
    (((Payload.tokens payload.actual).take arity).map (List.count c)).sum

theorem sum_counts_eq_zero {c : Char} {ts : List Text} :
    (ts.map (List.count c)).sum = 0 ↔ ∀ t ∈ ts, c ∉ t := by
  rw [List.sum_eq_zero_iff]
  simp [List.count_eq_zero]

-- The fixed texts are generalized before anything is rewritten, so that no step unfolds them.
theorem Comparison.count_render (comparison : Comparison) (actual expected : Text) :
    (comparison.render actual expected).count '\n' = actual.count '\n' + expected.count '\n' := by
  have helements : "Arrays.equals(".toList.count '\n' = 0 := by decide
  have hcomma : ", ".toList.count '\n' = 0 := by decide
  have hcontent : ".equals(".toList.count '\n' = 0 := by decide
  have hvalue : " == ".toList.count '\n' = 0 := by decide
  unfold Comparison.render
  generalize "Arrays.equals(".toList = elements at helements ⊢
  generalize ", ".toList = comma at hcomma ⊢
  generalize ".equals(".toList = content at hcontent ⊢
  generalize " == ".toList = value at hvalue ⊢
  cases comparison <;> simp [helements, hcomma, hcontent, hvalue]

theorem TestCase.count_expression {method : Text} (hmethod : '\n' ∉ method) (case : TestCase) :
    (case.expression method).count '\n' = case.occurrences '\n' := by
  have hname : method.count '\n' = 0 := List.count_eq_zero.mpr hmethod
  have hsep : '\n' ∉ ", ".toList := by decide
  have hjoin := Text.count_join hsep case.arguments
  rw [TestCase.expression, Comparison.count_render, TestCase.occurrences, Nat.add_comm, ← hjoin]
  simp [hname]

/-- A case takes four lines and one more for each line feed in its literals. -/
theorem TestCase.count_block {method : Text} (hmethod : '\n' ∉ method) (case : TestCase) :
    (case.block method).count '\n' = 4 + case.occurrences '\n' := by
  have hrow : (Text.decimal case.sourceRow).count '\n' = 0 := by
    apply List.count_eq_zero.mpr
    intro hmem
    exact absurd (Numeral.isDigit_of_mem_decimal hmem) (by decide)
  have hnote : "        // report row ".toList.count '\n' = 0 := by decide
  have hassign : "        pass = ".toList.count '\n' = 0 := by decide
  have hreport : "        System.out.println(\"Pass: \" + pass);".toList.count '\n' = 0 := by decide
  unfold TestCase.block
  generalize "        // report row ".toList = note at hnote ⊢
  generalize "        pass = ".toList = assignment at hassign ⊢
  generalize "        System.out.println(\"Pass: \" + pass);".toList = report at hreport ⊢
  simp [hrow, hnote, hassign, hreport, TestCase.count_expression hmethod]
  omega

theorem TestCase.occurrences_eq_zero {c : Char} {case : TestCase} :
    case.occurrences c = 0 ↔ c ∉ case.expected ∧ ∀ literal ∈ case.arguments, c ∉ literal := by
  rw [TestCase.occurrences, Nat.add_eq_zero_iff, List.count_eq_zero, sum_counts_eq_zero]

theorem Report.Cell.occurrences_eq_zero {c : Char} {arity : Nat} {payload : Report.Cell} :
    payload.occurrences c arity = 0 ↔
      c ∉ payload.expected ∧ ∀ token ∈ (Payload.tokens payload.actual).take arity, c ∉ token := by
  rw [Report.Cell.occurrences, Nat.add_eq_zero_iff, List.count_eq_zero, sum_counts_eq_zero]

/-! ## Line breaks of a harness -/

/-- Every case takes four lines and the line feeds of its literals. -/
theorem Harness.count_emit (config : Config) {method : Text} (hmethod : '\n' ∉ method)
    (cases : List TestCase) :
    (emit config method cases).text.count '\n' =
      (emit config method []).text.count '\n' + 4 * cases.length +
        (cases.map (TestCase.occurrences '\n')).sum := by
  have hblocks : (cases.flatMap (TestCase.block method)).count '\n' =
      4 * cases.length + (cases.map (TestCase.occurrences '\n')).sum := by
    induction cases with
    | nil => rfl
    | cons case cases ih =>
      rw [List.flatMap_cons, List.count_append, ih, TestCase.count_block hmethod, List.map_cons,
        List.sum_cons, List.length_cons]
      omega
  rw [emit_text, emit_text, List.count_append, List.count_append, hblocks]
  simp only [List.flatMap_nil, List.append_nil, List.count_append]
  omega

theorem not_mem_of_isWord {name : Text} (h : ∀ c ∈ name, Text.isWord c = true) : '\n' ∉ name := by
  intro hmem
  exact absurd (h '\n' hmem) (by decide)

namespace Synthesis

theorem occurrences_caseOf {c : Char} (hc : IsLineBreak c) (config : Config)
    {signature : Signature}
    (htypes : ∀ type ∈ signature.returnType :: signature.paramTypes, type ∈ DeclaredType.quoted)
    {r : Report.FailingRow} {payload : Report.Cell} (hexpected : r.expected = payload.expected)
    (hactual : r.actual = payload.actual) :
    (caseOf config signature r).occurrences c = payload.occurrences c signature.arity := by
  have hreturn := Expectation.count_encode hc (htypes signature.returnType (by simp)) r.expected
  have harguments := Argument.counts_encodeFrom hc
    (fun type htype => htypes type (List.mem_cons_of_mem _ htype)) config.treePlaceholder 0
    (Payload.tokens r.actual)
  rw [TestCase.occurrences, Report.Cell.occurrences, ← hexpected, ← hactual]
  exact congrArg₂ (· + ·) hreturn (congrArg List.sum harguments)

/-- A case is made from the payload of its row and has the line breaks of that payload. -/
theorem occurrences_of_mem_cases {c : Char} (hc : IsLineBreak c) {config : Config}
    {signature : Signature} {table : Report.Table}
    (htypes : ∀ type ∈ signature.returnType :: signature.paramTypes, type ∈ DeclaredType.quoted)
    {case : TestCase} (hcase : case ∈ (generate config signature table).cases) :
    ∃ payload, Recovers config table case.sourceRow payload ∧
      case.occurrences c = payload.occurrences c signature.arity := by
  rw [generate_cases] at hcase
  obtain ⟨r, hr, rfl⟩ := List.mem_map.mp hcase
  obtain ⟨payload, hrecovers, hexpected, hactual⟩ := recovers_of_mem_replayed hr
  exact ⟨payload, hrecovers, occurrences_caseOf hc config htypes hexpected hactual⟩

theorem forall_cases_occurrences {c : Char} (hc : IsLineBreak c) (config : Config)
    {signature : Signature} (table : Report.Table)
    (htypes : ∀ type ∈ signature.returnType :: signature.paramTypes, type ∈ DeclaredType.quoted) :
    (∀ case ∈ (generate config signature table).cases, case.occurrences c = 0) ↔
      ∀ index payload, Recovers config table index payload →
        payload.occurrences c signature.arity = 0 := by
  constructor
  · intro hcases index payload hrecovers
    obtain ⟨case, hcase, rfl⟩ :=
      ((replays_generate config signature table).rows index).mpr ⟨payload, hrecovers⟩
    obtain ⟨payload', hrecovers', hcount⟩ := occurrences_of_mem_cases hc htypes hcase
    rw [hrecovers.unique hrecovers', ← hcount]
    exact hcases case hcase
  · intro hpayloads case hcase
    obtain ⟨payload, hrecovers, hcount⟩ := occurrences_of_mem_cases hc htypes hcase
    rw [hcount]
    exact hpayloads _ payload hrecovers

/-- If the types of a method are strings, lists and trees, the harness has four lines for each case
just when no payload that a case is made from holds a line feed; and the literals of the cases hold
a line break just when one of these payloads does. -/
theorem one_line_cases_iff (config : Config) {signature : Signature} (table : Report.Table)
    (hname : ∀ c ∈ signature.name, Text.isWord c = true)
    (htypes : ∀ type ∈ signature.returnType :: signature.paramTypes,
      type ∈ [DeclaredType.text, .linkedList, .tree]) :
    ((generate config signature table).artifact.text.count '\n' =
        (Harness.emit config signature.name []).text.count '\n' +
          4 * (generate config signature table).cases.length ↔
      ∀ index payload, Recovers config table index payload → '\n' ∉ payload.expected ∧
        ∀ token ∈ (Payload.tokens payload.actual).take signature.arity, '\n' ∉ token) ∧
    ∀ c, c = '\n' ∨ c = '\r' →
      ((∀ case ∈ (generate config signature table).cases,
          c ∉ case.expected ∧ ∀ literal ∈ case.arguments, c ∉ literal) ↔
        ∀ index payload, Recovers config table index payload → c ∉ payload.expected ∧
          ∀ token ∈ (Payload.tokens payload.actual).take signature.arity, c ∉ token) := by
  have hfeed : IsLineBreak '\n' := .inl rfl
  constructor
  · have htext : (generate config signature table).artifact =
        Harness.emit config signature.name (generate config signature table).cases :=
      generate_artifact config signature table
    have hzero : ((generate config signature table).cases.map (TestCase.occurrences '\n')).sum = 0 ↔
        ∀ case ∈ (generate config signature table).cases, case.occurrences '\n' = 0 := by
      rw [List.sum_eq_zero_iff]
      simp
    simp only [← Report.Cell.occurrences_eq_zero]
    rw [← forall_cases_occurrences hfeed config table htypes, ← hzero, htext,
      Harness.count_emit config (not_mem_of_isWord hname)]
    omega
  · intro c hc
    simp only [← Report.Cell.occurrences_eq_zero, ← TestCase.occurrences_eq_zero]
    exact forall_cases_occurrences hc config table htypes

def treeToText : Signature := { name := "f".toList, returnType := .text, paramTypes := [.tree] }

theorem isWord_treeToText : ∀ c ∈ treeToText.name, Text.isWord c = true := by
  have hall : treeToText.name.all Text.isWord = true := by decide
  exact List.all_eq_true.mp hall

/-- A failing row with an expected value `a` and the given actual value. -/
def failingOn (actual : String) : Report.Table where
  rows := [{ cells := [{}, { text := "fail".toList },
    { preBlocks := ["a".toList], trailingText := some actual.toList }] }]

theorem one_line_cases_iff_single_tree :
    (generate {} treeToText (failingOn "\x7b1 2\x7d")).artifact.text.count '\n' =
        (Harness.emit {} treeToText.name []).text.count '\n' + 4 ∧
      ∀ case ∈ (generate {} treeToText (failingOn "\x7b1 2\x7d")).cases,
        '\r' ∉ case.expected ∧ ∀ literal ∈ case.arguments, '\r' ∉ literal := by
  have hexact := one_line_cases_iff {} (failingOn "\x7b1 2\x7d") isWord_treeToText (by decide)
  have hpayload : ∀ index payload, Recovers {} (failingOn "\x7b1 2\x7d") index payload →
      payload = { preBlocks := ["a".toList], trailingText := some "\x7b1 2\x7d".toList } := by
    rintro index payload ⟨row, hrow, hfails, -⟩
    obtain rfl : _ = row := (List.mem_singleton.mp (List.mem_of_getElem? hrow)).symm
    exact (Option.some.inj hfails.payload).symm
  have hcases : (generate {} treeToText (failingOn "\x7b1 2\x7d")).cases.length = 1 := by
    decide +kernel
  rw [hcases, Nat.mul_one] at hexact
  refine ⟨hexact.1.mpr ?_, (hexact.2 '\r' (.inr rfl)).mpr ?_⟩
  · intro index payload hrecovers
    rw [hpayload index payload hrecovers]
    decide +kernel
  · intro index payload hrecovers
    rw [hpayload index payload hrecovers]
    decide +kernel

/-- A line feed in a tree payload goes into the literal as it is and breaks the statement. -/
theorem generate_broken_line :
    ¬ ∀ (config : Config) (signature : Signature) (table : Report.Table), config.Valid →
      (∀ c ∈ signature.name, Text.isWord c = true) →
      (∀ type ∈ signature.returnType :: signature.paramTypes,
        type ∈ [DeclaredType.text, .linkedList, .tree]) →
      (generate config signature table).artifact.text.count '\n' =
        (Harness.emit config signature.name []).text.count '\n' +
          4 * (generate config signature table).cases.length := by
  intro hlines
  have hvalid : ({} : Config).problem? = none := by decide +kernel
  have hcount := hlines {} treeToText (failingOn "\x7b1\n2\x7d") hvalid isWord_treeToText
    (by decide)
  have htext := Harness.count_emit {} (show '\n' ∉ treeToText.name by decide)
    (generate {} treeToText (failingOn "\x7b1\n2\x7d")).cases
  have hbroken : ((generate {} treeToText (failingOn "\x7b1\n2\x7d")).cases.map
      (TestCase.occurrences '\n')).sum = 1 := by decide +kernel
  rw [hbroken] at htext
  have hartifact : (generate {} treeToText (failingOn "\x7b1\n2\x7d")).artifact = Harness.emit {}
      treeToText.name (generate {} treeToText (failingOn "\x7b1\n2\x7d")).cases :=
    generate_artifact {} treeToText _
  rw [hartifact] at hcount
  omega

end Synthesis
end FailureReplay
