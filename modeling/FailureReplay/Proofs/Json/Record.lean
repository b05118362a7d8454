import FailureReplay.Json.Record
import Mathlib.Data.List.Forall2
import Mathlib.Data.List.Perm.Basic

/-!
# The forms of a record

A record of named fields can be written in many ways: as an object with its members
in any order, some of those with a default value left out and unknown ones mixed in,
or as an array of its leading fields. Decoding sees the same fields in all of them.
-/

namespace FailureReplay.Json

/-- One field of a record: its name, whether it may be left out, and which values stand for it. -/
structure FieldForm where
  name : String
  optional : Prop
  values : Json → Prop

/-- A field with the value `x`, which may be left out if that is its default. -/
def FieldForm.of {α : Type} (name : String) (default x : α) (values : Json → Prop) : FieldForm :=
  ⟨name, x = default, values⟩

/-- A field with a list as its value, the items in forms of their own. -/
def FieldForm.list {α : Type} (name : String) (xs : List α) (form : α → Json → Prop) : FieldForm :=
  .of name [] xs fun v => ∃ items, v = .array items ∧ List.Forall₂ form xs items

/-- Members for the fields in order, some of the optional ones left out. -/
inductive Kept : List FieldForm → List (Option Text × Json) → Prop
  | nil : Kept [] []
  | skip {f : FieldForm} {fields : List FieldForm} {members : List (Option Text × Json)}
      (h : f.optional) (hs : Kept fields members) : Kept (f :: fields) members
  | keep {f : FieldForm} {fields : List FieldForm} {v : Json}
      {members : List (Option Text × Json)} (h : f.values v) (hs : Kept fields members) :
      Kept (f :: fields) ((some f.name.toList, v) :: members)

/-- Values for the leading fields, those after them optional. -/
inductive Leading : List FieldForm → List Json → Prop
  | stop {fields : List FieldForm} (h : ∀ f ∈ fields, f.optional) : Leading fields []
  | more {f : FieldForm} {fields : List FieldForm} {v : Json} {items : List Json}
      (h : f.values v) (hs : Leading fields items) : Leading (f :: fields) (v :: items)

/-- A key that names none of the fields. -/
def IsUnknown (fields : List FieldForm) (key : Option Text) : Prop :=
  ∃ t, key = some t ∧ ∀ f ∈ fields, t ≠ f.name.toList

inductive RecordForm (fields : List FieldForm) : Json → Prop
  | object {known unknown members : List (Option Text × Json)} (hknown : Kept fields known)
      (hunknown : ∀ m ∈ unknown, IsUnknown fields m.1) (hperm : members.Perm (known ++ unknown)) :
      RecordForm fields (.object members)
  | array {items : List Json} (h : Leading fields items) : RecordForm fields (.array items)

/-- What a field looks like to the decoder. -/
def FieldForm.Given (f : FieldForm) : Option Json → Prop
  | none => f.optional
  | some v => f.values v

/-! ## Members by name -/

theorem valuesOf_append (key : Text) (ms ns : List (Option Text × Json)) :
    valuesOf key (ms ++ ns) = valuesOf key ms ++ valuesOf key ns :=
  List.filterMap_append

theorem valuesOf_eq_nil {key : Text} {members : List (Option Text × Json)}
    (h : ∀ m ∈ members, m.1 ≠ some key) : valuesOf key members = [] := by
  rw [valuesOf, List.filterMap_eq_nil_iff]
  intro m hm
  simp [h m hm]

theorem Kept.key_mem {fields : List FieldForm} {members : List (Option Text × Json)}
    (h : Kept fields members) : ∀ m ∈ members, ∃ f ∈ fields, m.1 = some f.name.toList := by
  induction h with
  | nil => simp
  | skip _ _ ih =>
    intro m hm
    obtain ⟨f, hf, hkey⟩ := ih m hm
    exact ⟨f, List.mem_cons_of_mem _ hf, hkey⟩
  | @keep f fields v members _ _ ih =>
    intro m hm
    rcases List.mem_cons.mp hm with rfl | hm
    · exact ⟨f, by simp, rfl⟩
    · obtain ⟨g, hg, hkey⟩ := ih m hm
      exact ⟨g, List.mem_cons_of_mem _ hg, hkey⟩

/-- A key that names no field has no value among the fields. -/
theorem Kept.valuesOf_eq_nil {fields : List FieldForm} {members : List (Option Text × Json)}
    (h : Kept fields members) {name : Text} (hname : name ∉ fields.map fun f => f.name.toList) :
    valuesOf name members = [] := by
  apply Json.valuesOf_eq_nil
  intro m hm hkey
  obtain ⟨f, hf, hmember⟩ := h.key_mem m hm
  rw [hkey] at hmember
  exact hname (List.mem_map.mpr ⟨f, hf, (Option.some.inj hmember).symm⟩)

/-- Each field is found among the members once, or not at all if it was left out. -/
theorem Kept.given_of_mem {fields : List FieldForm} {members : List (Option Text × Json)}
    (h : Kept fields members) (hnames : (fields.map fun f => f.name.toList).Nodup) :
    ∀ f ∈ fields, ∃ o, f.Given o ∧ valuesOf f.name.toList members = o.toList := by
  induction h with
  | nil => simp
  | @skip f fields members hoptional hkept ih =>
    obtain ⟨hfirst, hrest⟩ := List.nodup_cons.mp hnames
    intro g hg
    rcases List.mem_cons.mp hg with rfl | hg
    · exact ⟨none, hoptional, hkept.valuesOf_eq_nil hfirst⟩
    · exact ih hrest g hg
  | @keep f fields v members hvalue hkept ih =>
    obtain ⟨hfirst, hrest⟩ := List.nodup_cons.mp hnames
    intro g hg
    rcases List.mem_cons.mp hg with rfl | hg
    · refine ⟨some v, hvalue, ?_⟩
      rw [valuesOf, List.filterMap_cons_some (b := v) (by simp)]
      exact congrArg _ (hkept.valuesOf_eq_nil hfirst)
    · have hne : some f.name.toList ≠ some g.name.toList := by
        intro heq
        exact hfirst (List.mem_map.mpr ⟨g, hg, (Option.some.inj heq).symm⟩)
      obtain ⟨o, hgiven, hvalues⟩ := ih hrest g hg
      refine ⟨o, hgiven, ?_⟩
      rw [valuesOf, List.filterMap_cons_none (by simp [hne])]
      exact hvalues

/-! ## Decoding -/

theorem mapM_of_forall₂ {α β : Type} {f : α → Option β} {xs : List α} {ys : List β}
    (h : List.Forall₂ (fun x y => f x = some y) xs ys) : xs.mapM f = some ys := by
  induction h with
  | nil => rfl
  | cons hfirst _ ih => simp [hfirst, ih]

theorem forall₂_of_forall_mem {α β : Type} {R : α → β → Prop} {xs : List α}
    (h : ∀ x ∈ xs, ∃ y, R x y) : ∃ ys, List.Forall₂ R xs ys := by
  induction xs with
  | nil => exact ⟨[], .nil⟩
  | cons x xs ih =>
    obtain ⟨y, hy⟩ := h x (by simp)
    obtain ⟨ys, hys⟩ := ih fun z hz => h z (List.mem_cons_of_mem _ hz)
    exact ⟨y :: ys, .cons hy hys⟩

/-- Unknown keys and the order of members have no bearing on a field. -/
theorem field?_of_perm {members known unknown : List (Option Text × Json)}
    (hperm : members.Perm (known ++ unknown)) {name : String} {o : Option Json}
    (hknown : valuesOf name.toList known = o.toList)
    (hunknown : ∀ m ∈ unknown, m.1 ≠ some name.toList) : field? members name = some o := by
  have hvalues : (valuesOf name.toList members).Perm o.toList := by
    have hsplit : (valuesOf name.toList members).Perm (valuesOf name.toList (known ++ unknown)) :=
      hperm.filterMap _
    rwa [valuesOf_append, hknown, valuesOf_eq_nil hunknown, List.append_nil] at hsplit
  cases o with
  | none => rw [field?, List.perm_nil.mp hvalues]
  | some v => rw [field?, List.perm_singleton.mp hvalues]

/-- In array form a field left out at the end counts as not given. -/
theorem Leading.forall₂_given {fields : List FieldForm} {items : List Json}
    (h : Leading fields items) :
    items.length ≤ fields.length ∧ List.Forall₂ FieldForm.Given fields
      (items.map some ++ List.replicate (fields.length - items.length) none) := by
  induction h with
  | @stop fields hoptional =>
    refine ⟨Nat.zero_le _, ?_⟩
    induction fields with
    | nil => exact .nil
    | cons f fields ih =>
      exact .cons (hoptional f (by simp)) (ih fun g hg => hoptional g (List.mem_cons_of_mem _ hg))
  | more hvalue _ ih =>
    obtain ⟨hle, hgiven⟩ := ih
    refine ⟨Nat.succ_le_succ hle, ?_⟩
    rw [List.length_cons, List.length_cons, Nat.add_sub_add_right]
    exact .cons hvalue hgiven

/-- The decoder finds the fields of a record in every form of it. -/
theorem RecordForm.fields?_eq {fields : List FieldForm} {j : Json} (h : RecordForm fields j)
    (hnames : (fields.map fun f => f.name.toList).Nodup) :
    ∃ given, fields? (fields.map FieldForm.name) j = some given ∧
      List.Forall₂ FieldForm.Given fields given := by
  cases h with
  | @object known unknown members hknown hunknown hperm =>
    have hkeys : members.all (fun m => m.1.isSome) = true := by
      rw [List.all_eq_true]
      intro m hm
      rcases List.mem_append.mp (hperm.subset hm) with hm | hm
      · obtain ⟨f, -, hkey⟩ := hknown.key_mem m hm
        rw [hkey]
        rfl
      · obtain ⟨t, hkey, -⟩ := hunknown m hm
        rw [hkey]
        rfl
    have hfield : ∀ f ∈ fields, ∃ o, f.Given o ∧ field? members f.name = some o := by
      intro f hf
      obtain ⟨o, hgiven, hvalues⟩ := hknown.given_of_mem hnames f hf
      refine ⟨o, hgiven, field?_of_perm hperm hvalues ?_⟩
      rintro m hm hkey
      obtain ⟨t, hmember, hne⟩ := hunknown m hm
      rw [hkey] at hmember
      exact hne f hf (Option.some.inj hmember).symm
    obtain ⟨given, hgiven⟩ := forall₂_of_forall_mem hfield
    refine ⟨given, ?_, hgiven.imp fun _ _ h => h.1⟩
    rw [fields?, if_pos hkeys]
    apply mapM_of_forall₂
    rw [List.forall₂_map_left_iff]
    exact hgiven.imp fun _ _ h => h.2
  | array hleading =>
    obtain ⟨hle, hgiven⟩ := hleading.forall₂_given
    refine ⟨_, ?_, hgiven⟩
    rw [fields?, List.length_map, if_pos hle]

theorem decodeOr_of_given {α : Type} {name : String} {default x : α} {values : Json → Prop}
    {decode : Json → Option α} {o : Option Json}
    (hgiven : (FieldForm.of name default x values).Given o)
    (hdecode : ∀ v, values v → decode v = some x) : decodeOr default decode o = some x := by
  cases o with
  | none => exact congrArg some (show x = default from hgiven).symm
  | some v => exact hdecode v hgiven

theorem decodeOr_of_given_list {α : Type} {name : String} {xs : List α} {form : α → Json → Prop}
    {decode : Json → Option α} {o : Option Json} (hgiven : (FieldForm.list name xs form).Given o)
    (hdecode : ∀ x v, form x v → decode v = some x) : decodeOr [] (listOf decode) o = some xs := by
  apply decodeOr_of_given hgiven
  rintro v ⟨items, rfl, hforms⟩
  exact mapM_of_forall₂ (hforms.imp hdecode).flip

/-- A record whose only field is a list. -/
theorem RecordForm.list_field?_eq {α : Type} {name : String} {xs : List α}
    {form : α → Json → Prop} {decode : Json → Option α} {j : Json}
    (h : RecordForm [.list name xs form] j) (hdecode : ∀ x v, form x v → decode v = some x) :
    ∃ given, fields? [name] j = some [given] ∧ decodeOr [] (listOf decode) given = some xs := by
  obtain ⟨given, hfields, hgiven⟩ := h.fields?_eq (by simp)
  match given, hgiven with
  | [o], .cons hlist .nil => exact ⟨o, hfields, decodeOr_of_given_list hlist hdecode⟩

/-! ## Encoding -/

theorem RecordForm.of_kept {fields : List FieldForm} {members : List (Option Text × Json)}
    (h : Kept fields members) : RecordForm fields (.object members) :=
  .object h (List.forall_mem_nil _) (by rw [List.append_nil])

theorem FieldForm.list_values {α : Type} {name : String} {xs : List α} {form : α → Json → Prop}
    {encode : α → Json} (h : ∀ x, form x (encode x)) :
    (FieldForm.list name xs form).values (.array (xs.map encode)) := by
  refine ⟨xs.map encode, rfl, ?_⟩
  rw [List.forall₂_map_right_iff, List.forall₂_same]
  exact fun x _ => h x

end FailureReplay.Json
