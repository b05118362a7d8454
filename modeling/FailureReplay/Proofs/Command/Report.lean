import FailureReplay.Command.Run
import FailureReplay.Proofs.Json.Record
import FailureReplay.Proofs.Json.Writer
import FailureReplay.Proofs.Synthesis.Generation
import FailureReplay.Proofs.Text.Pieces
import Mathlib.Data.List.Forall2

/-!
# What a run reports

A run of `generate` tells its caller how many cases it wrote and which warnings it
raised: in the lines of a summary or in a JSON object that takes their place, and in
its log. Each is described from the outside here. The summary is a list of lines with
one for each warning, the object is read back by a reader of its own, and the log is
searched for the entries that begin with the name of a level.
-/

namespace FailureReplay

/-! ## Warnings in words -/

/-- How a message on a warning begins. -/
def Warning.opening : Warning → Text
  | .missingActualValue .. => "row ".toList
  | .unsupportedParameter .. => "unhandled parameter type `".toList
  | .unsupportedReturn .. => "unhandled return type `".toList
  | .malformedArgument .. => "unexpected format for ".toList

/-- What a message on a warning has to name. -/
def Warning.particulars : Warning → List Text
  | .missingActualValue row => [Text.decimal row]
  | .unsupportedParameter position typeName token => [Text.decimal position, typeName, token]
  | .unsupportedReturn typeName => [typeName]
  | .malformedArgument position typeName token reason =>
    [Text.decimal position, typeName, token, reason]

/-- A message that tells a reader of a warning. -/
structure Warning.ToldBy (w : Warning) (message : Text) : Prop where
  kind : w.opening <+: message
  particulars : ∀ part ∈ w.particulars, part <:+: message

def Warning.pieces : Warning → List Text
  | .missingActualValue row =>
    ["row ".toList, Text.decimal row, ": actual value not found, row skipped".toList]
  | .unsupportedParameter position typeName token =>
    ["unhandled parameter type `".toList, typeName, "` at position ".toList,
      Text.decimal position, ", passing `".toList, token, "` through".toList]
  | .unsupportedReturn typeName =>
    ["unhandled return type `".toList, typeName, "`, passing expected value through".toList]
  | .malformedArgument position typeName token reason =>
    ["unexpected format for ".toList, typeName, " parameter at position ".toList,
      Text.decimal position, ": `".toList, token, "` (".toList, reason, [')']]

theorem Warning.flatten_pieces (w : Warning) : w.pieces.flatten = w.message := by
  unfold pieces message
  cases w <;>
    simp only [List.flatten_cons, List.flatten_nil, List.append_nil, List.append_assoc]

/-- The wording of a warning names all of its particulars, in order. -/
theorem Warning.toldBy_message (w : Warning) : w.ToldBy w.message := by
  rw [← w.flatten_pieces]
  refine ⟨?_, ?_⟩
  · cases w <;> exact List.prefix_append _ _
  · intro part hpart
    have hmem : part ∈ w.pieces := by
      cases w <;> simp only [particulars, pieces, List.mem_cons, List.not_mem_nil] at hpart ⊢ <;>
        tauto
    obtain ⟨before, after, hsplit⟩ := List.append_of_mem hmem
    exact ⟨before.flatten, after.flatten, by simp [hsplit]⟩

/-! ## Warnings in JSON -/

namespace Json

def textAt? (key : String) (j : Json) : Option Text := (j.get? key).bind text?

/-- The natural number that a document denotes, if it is written as an integer. -/
def nat? : Json → Option Nat
  | .number d => if d.exponent = 0 ∧ 0 ≤ d.coefficient then some d.coefficient.toNat else none
  | _ => none

def natAt? (key : String) (j : Json) : Option Nat := (j.get? key).bind nat?

end Json

/-- Decode a warning, its kind first. -/
def Warning.ofJson? (j : Json) : Option Warning := do
  let kind ← j.textAt? "kind"
  if kind = "missing_actual_value".toList then
    return .missingActualValue (← j.natAt? "row")
  else if kind = "unsupported_parameter_type".toList then
    return .unsupportedParameter (← j.natAt? "position") (← j.textAt? "type_name")
      (← j.textAt? "token")
  else if kind = "unsupported_return_type".toList then
    return .unsupportedReturn (← j.textAt? "type_name")
  else if kind = "malformed_argument".toList then
    return .malformedArgument (← j.natAt? "position") (← j.textAt? "type_name")
      (← j.textAt? "token") (← j.textAt? "reason")
  else none

/-- Nothing of a warning is lost in JSON. -/
theorem Warning.ofJson?_toJson (w : Warning) : Warning.ofJson? w.toJson = some w := by
  cases w with
  | missingActualValue row => rfl
  | unsupportedParameter position typeName token => rfl
  | unsupportedReturn typeName => rfl
  | malformedArgument position typeName token reason => rfl

theorem Warning.mapM_ofJson? (ws : List Warning) :
    (ws.map Warning.toJson).mapM Warning.ofJson? = some ws := by
  apply Json.mapM_of_forall₂
  rw [List.forall₂_map_left_iff]
  exact List.forall₂_same.mpr fun w _ => w.ofJson?_toJson

/-! ## Entries of a log -/

namespace Log

/-- The entries of a log that begin with the name of a level. -/
def entriesAt (level : Level) (log : List Text) : List Text :=
  log.filter fun entry => (Text.afterStart? (level.name ++ [' ']) entry).isSome

/-- The level at the front of a log entry is the level of its event. -/
theorem isSome_afterStart?_entry (level : Level) (e : Event) :
    (Text.afterStart? (level.name ++ [' ']) e.entry).isSome = decide (e.level = level) := by
  rw [Event.entry]
  generalize Text.withoutControls (hangingIndent e.message) = shown
  cases e.level <;> cases level <;> rfl

/-- Entries that are logged at all can be told by their level. -/
theorem entriesAt_entries {threshold level : Level} (h : threshold.rank ≤ level.rank)
    (events : List Event) :
    entriesAt level (entries threshold events) =
      (events.filter fun e => e.level = level).map Event.entry := by
  rw [entriesAt, entries, List.filter_map, List.filter_filter]
  congr 1
  apply List.filter_congr
  intro e _
  simp only [Function.comp_apply, isSome_afterStart?_entry]
  by_cases hlevel : e.level = level
  · simp [hlevel, h]
  · simp [hlevel]

/-- The events at the level of warnings are the warnings. -/
theorem filter_level_warn (events : List Event) :
    (events.filter fun e => e.level = .warn) = (events.filterMap Event.warning?).map .warned := by
  induction events with
  | nil => rfl
  | cons e events ih =>
    cases hw : e.warning? with
    | none =>
      have hlevel : e.level ≠ .warn := by cases e <;> simp_all [Event.warning?, Event.level]
      rw [List.filter_cons_of_neg (by simpa using hlevel), List.filterMap_cons_none hw, ih]
    | some w =>
      obtain rfl : e = .warned w := by cases e <;> simp_all [Event.warning?]
      rw [List.filter_cons_of_pos (by simp [Event.level]), List.filterMap_cons_some hw, ih,
        List.map_cons]

/-- The warnings of a log are those of its events, each in words. -/
theorem entriesAt_warn {threshold : Level} (h : threshold.rank ≤ Level.warn.rank)
    (events : List Event) :
    entriesAt .warn (entries threshold events) =
      (events.filterMap Event.warning?).map fun w =>
        "WARN ".toList ++ Text.withoutControls (hangingIndent w.message) := by
  rw [entriesAt_entries h, filter_level_warn, List.map_map]
  rfl

theorem hangingIndent_append (t rest : Text) :
    hangingIndent (t ++ rest) = hangingIndent t ++ hangingIndent rest := List.flatMap_append

theorem hangingIndent_of_plain {t : Text} (h : ∀ c ∈ t, c ≠ '\n') : hangingIndent t = t := by
  induction t with
  | nil => rfl
  | cons c t ih =>
    have hc : c ≠ '\n' := h c List.mem_cons_self
    have ht := ih fun d hd => h d (List.mem_cons_of_mem c hd)
    rw [hangingIndent, List.flatMap_cons, if_neg hc]
    exact congrArg (c :: ·) ht

theorem plain_of_isDigit {c : Char} (h : c.isDigit = true) :
    c ≠ '\n' ∧ Text.isHidden c = false := by
  have hrange : 48 ≤ c.toNat ∧ c.toNat ≤ 57 := by
    simpa [Char.isDigit, UInt32.le_iff_toNat_le] using h
  refine ⟨?_, ?_⟩
  · intro hfeed
    subst hfeed
    revert h
    decide
  · simp [Text.isHidden]
    omega

/-- The entry on the cases that were written gives their number in digits. -/
theorem entry_wroteCases (count : Nat) (path : Text) :
    Event.entry (.wroteCases count path) =
      "INFO Wrote ".toList ++ Text.decimal count ++ " case(s) to ".toList ++
        Text.withoutControls (hangingIndent path) := by
  have hplain : ∀ c ∈ "Wrote ".toList ++ Text.decimal count ++ " case(s) to ".toList,
      c ≠ '\n' ∧ Text.isHidden c = false := by
    intro c hc
    rw [List.mem_append, List.mem_append] at hc
    have hwords : ∀ d ∈ "Wrote ".toList ++ " case(s) to ".toList,
        d ≠ '\n' ∧ Text.isHidden d = false := by
      simp [Text.isHidden]
    rcases hc with (hc | hc) | hc
    · exact hwords c (List.mem_append_left _ hc)
    · exact plain_of_isDigit (Numeral.isDigit_of_mem_decimal hc)
    · exact hwords c (List.mem_append_right _ hc)
  have hmessage : Event.message (.wroteCases count path) =
      "Wrote ".toList ++ Text.decimal count ++ " case(s) to ".toList ++ path := rfl
  rw [Event.entry, hmessage, hangingIndent_append,
    hangingIndent_of_plain fun c hc => (hplain c hc).1,
    Text.withoutControls_append fun c hc => (hplain c hc).2]
  simp [Event.level, Level.name]

end Log

namespace Command

/-! ## The two forms of a summary -/

/-- A summary in lines: the method, the number of cases and where they went, and if there were
warnings their number and a line that tells of each, in order. -/
def Summarizes (printed : Text) (signature : Signature) (output : Text) (cases : Nat)
    (warnings : List Warning) : Prop :=
  ∃ messages, List.Forall₂ Warning.ToldBy warnings messages ∧
    printed = Text.unlines
      (("Method: ".toList ++ signature.render) ::
        ("Generated ".toList ++ Text.decimal cases ++ " test case(s) -> ".toList ++ output) ::
          if warnings = [] then []
          else (Text.decimal warnings.length ++ " warning(s):".toList) ::
            messages.map fun message => "  - ".toList ++ message)

/-- The summary in lines reports the count and the warnings that it is given. -/
theorem summarizes_summary (signature : Signature) (output : Text) (cases : Nat)
    (warnings : List Warning) :
    Summarizes (summary signature output cases warnings ++ ['\n']) signature output cases
      warnings := by
  refine ⟨warnings.map Warning.message, ?_, ?_⟩
  · rw [List.forall₂_map_right_iff]
    exact List.forall₂_same.mpr fun w _ => w.toldBy_message
  · have hcount : "\nGenerated ".toList = '\n' :: "Generated ".toList := rfl
    have hitem : "\n  - ".toList = '\n' :: "  - ".toList := rfl
    unfold summary
    rw [Text.unlines_cons_eq, List.flatMap_cons, hcount, hitem]
    cases warnings with
    | nil =>
      simp only [List.isEmpty_nil, if_true, List.flatMap_nil, List.append_nil, List.append_assoc,
        List.cons_append]
    | cons w ws =>
      simp only [List.isEmpty_cons, Bool.false_eq_true, if_false, reduceCtorEq, List.flatMap_cons,
        List.map_cons, List.map_map, List.flatMap_map, Function.comp_apply, List.append_assoc,
        List.cons_append]

/-- Read a summary in JSON: the output, the number of cases and the warnings. -/
def readSummary? (t : Text) : Option (Text × Nat × List Warning) := do
  let j ← Json.read? t
  let warnings ← (← j.get? "warnings").items?
  return (← j.textAt? "output", ← j.natAt? "cases", ← warnings.mapM Warning.ofJson?)

/-- The summary in JSON can be read back in full. -/
theorem readSummary?_jsonSummary (output : Text) (cases : Nat) (warnings : List Warning) :
    readSummary? ((jsonSummary output cases warnings).pretty ++ ['\n']) =
      some (output, cases, warnings) := by
  have hfeed : Json.IsSpace ['\n'] := by simp [Json.IsSpace, Json.isSpace]
  have hspells := Json.SpellsDocument.padded Json.isSpace_nil
    (Json.spells_indented 0 (jsonSummary output cases warnings)) hfeed
  have hread : Json.read? ((jsonSummary output cases warnings).pretty ++ ['\n']) =
      some (jsonSummary output cases warnings) := Json.read?_of_spells hspells
  have hitems : (jsonSummary output cases warnings).get? "warnings" =
      some (.array (warnings.map Warning.toJson)) := rfl
  have houtput : (jsonSummary output cases warnings).textAt? "output" = some output := rfl
  have hcases : (jsonSummary output cases warnings).natAt? "cases" = some cases := rfl
  have hwarnings := Warning.mapM_ofJson? warnings
  rw [readSummary?, hread]
  simp only [hitems, houtput, hcases, hwarnings, Json.items?, Option.bind_eq_bind,
    Option.bind_some, Option.pure_def]

/-! ## What is reported -/

/-- A run that printed the summary of a synthesis and logged its events. Whichever form the summary
has, and in the log, the number of cases and the warnings are the synthesis's own. -/
structure Reported (outcome : Outcome) (level : Log.Level) (output : Text) (json : Bool)
    (s : Synthesis) : Prop where
  printed : outcome.output =
    (if json then (jsonSummary output s.generation.cases.length s.generation.warnings).pretty
      else summary s.signature output s.generation.cases.length s.generation.warnings) ++ ['\n']
  in_lines : json = false →
    Summarizes outcome.output s.signature output s.generation.cases.length s.generation.warnings
  in_json : json = true →
    readSummary? outcome.output =
      some (output, s.generation.cases.length, s.generation.warnings)
  logged : ∃ opening : List Log.Event, (∀ e ∈ opening, e.warning? = none) ∧
    outcome.log = Log.entries level
      (opening ++ s.generation.events ++ [.wroteCases s.generation.artifact.caseCount output])
  logged_warnings : Log.entriesAt .warn outcome.log =
    s.generation.warnings.map fun w =>
      "WARN ".toList ++ Text.withoutControls (Log.hangingIndent w.message)
  logged_count : level.rank ≤ Log.Level.info.rank →
    outcome.log.getLast? =
      some ("INFO Wrote ".toList ++ Text.decimal s.generation.cases.length ++
        " case(s) to ".toList ++ Text.withoutControls (Log.hangingIndent output))

/-- No option hides warnings from the log. -/
theorem rank_threshold_le (invocation : Invocation) :
    (threshold invocation).rank ≤ Log.Level.warn.rank := by
  unfold threshold
  split
  · decide
  · split <;> decide

/-- What the script of `generate` prints and logs is such a report. -/
theorem reported_generate {outcome : Outcome} {level : Log.Level} {output : Text} {json : Bool}
    {config : Config} {normalized : Text} {signature : Signature} {table : Report.Table}
    {opening : List Log.Event} (hlevel : level.rank ≤ Log.Level.warn.rank)
    (hopening : ∀ e ∈ opening, e.warning? = none)
    (hprinted : outcome.output =
      (if json then
          (jsonSummary output (Synthesis.generate config signature table).cases.length
            (Synthesis.generate config signature table).warnings).pretty
        else summary signature output (Synthesis.generate config signature table).cases.length
          (Synthesis.generate config signature table).warnings) ++ ['\n'])
    (hlogged : outcome.log = Log.entries level
      (opening ++ (Synthesis.generate config signature table).events ++
        [.wroteCases (Synthesis.generate config signature table).artifact.caseCount output])) :
    Reported outcome level output json
      ⟨normalized, signature, Synthesis.generate config signature table⟩ where
  printed := hprinted
  in_lines hjson := by
    rw [hprinted, hjson]
    exact summarizes_summary ..
  in_json hjson := by
    rw [hprinted, hjson]
    exact readSummary?_jsonSummary ..
  logged := ⟨opening, hopening, hlogged⟩
  logged_warnings := by
    have hwrote : ∀ count path, Log.Event.warning? (.wroteCases count path) = none :=
      fun _ _ => rfl
    rw [hlogged, Log.entriesAt_warn hlevel, List.filterMap_append, List.filterMap_append,
      List.filterMap_eq_nil_iff.mpr hopening, List.filterMap_cons_none (hwrote _ _),
      Synthesis.warnings_generate]
    simp
  logged_count hinfo := by
    have hshown : decide (level.rank ≤ (Log.Event.wroteCases
        (Synthesis.generate config signature table).artifact.caseCount output).level.rank) = true :=
      decide_eq_true hinfo
    have hcount : (Synthesis.generate config signature table).artifact.caseCount =
        (Synthesis.generate config signature table).cases.length := by
      rw [Synthesis.generate_artifact]
      rfl
    rw [hlogged, Log.entries, List.filter_append, List.filter_singleton, hshown, cond_true,
      List.map_append, List.map_singleton, List.getLast?_concat, Log.entry_wroteCases, hcount]

end Command
end FailureReplay
