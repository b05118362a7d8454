import FailureReplay.Command.Directory

/-!
# Writing into a directory

A path that can be written leads to one place of the working directory, and a
write changes what stands there and nothing else. Since a file never replaces a
folder, a write leaves every walk as it was, and with it the places that other
paths lead to.
-/

namespace FailureReplay

def Entry.ofText (text : Text) : Entry := .file (String.ofList text).toUTF8

namespace Directory

/-- The place in the working directory where a file stands, or can be put, under a path. -/
def place? (d : Directory) (path : Text) : Option (List Text) := do
  let (parents, last) ← (split path).toOption
  let folder ← (d.walk (start path) parents).toOption
  let place ← folder.child? last
  if isNullDevice path || last.isEmpty || isDots last || 255 < Text.byteSize last then none
  else
    match d.entry? place with
    | some .folder => none
    | _ => some place

/-! ## One entry -/

theorem lookup_map_replace (entries : List (List Text × Entry)) (place q : List Text)
    (entry : Entry) :
    (entries.map fun (at_, old) => if at_ = place then (at_, entry) else (at_, old)).lookup q =
      if q = place then (entries.lookup q).map fun _ => entry else entries.lookup q := by
  induction entries with
  | nil => simp
  | cons first entries ih =>
    obtain ⟨at_, old⟩ := first
    by_cases hq : q = at_
    · by_cases hat : at_ = place
      · simp [hq, hat]
      · simp [hq, hat]
    · have hbeq : (q == at_) = false := beq_eq_false_iff_ne.mpr hq
      by_cases hat : at_ = place
      · subst hat
        simp [List.lookup_cons, hbeq, ih]
      · simp [List.lookup_cons, hbeq, hat, ih]

/-- An entry is seen at its place and nowhere else. -/
theorem entry?_set {d : Directory} {place : List Text} (hne : place ≠ []) (entry : Entry)
    (q : List Text) :
    entry? (d.set place entry) q = if q = place then some entry else d.entry? q := by
  have hentry : d.entry? place = d.entries.lookup place := by simp [ entry?, hne]
  by_cases hq : q = []
  · have hplace : q ≠ place := hq ▸ hne.symm
    simp [ entry?, hq, hne.symm]
  · have hafter : ∀ e : Directory, e.entry? q = e.entries.lookup q := by simp [ entry?, hq]
    rw [hafter, hafter, set, hentry]
    cases hold : d.entries.lookup place with
    | some old =>
      simp only [Option.isSome_some, if_true, lookup_map_replace]
      split
      · next heq => rw [heq, hold, Option.map_some]
      · rfl
    | none =>
      simp only [Option.isSome_none, Bool.false_eq_true, if_false, List.lookup_append]
      by_cases heq : q = place
      · simp [heq, hold]
      · have hbeq : (q == place) = false := beq_eq_false_iff_ne.mpr heq
        simp [List.lookup_cons, hbeq, heq]

theorem ne_nil_of_entry?_ne {d : Directory} {place : List Text}
    (h : d.entry? place ≠ some .folder) : place ≠ [] := by
  rintro rfl
  exact h rfl

/-! ## Walks -/

/-- A walk passes folders only, so an entry that replaces none does not turn it. -/
theorem walk_set {d : Directory} {place : List Text} (hplace : d.entry? place ≠ some .folder)
    (entry : Entry) {names : List Text} {folder target : Folder}
    (h : d.walk folder names = .ok target) :
    (d.set place entry).walk folder names = .ok target := by
  have hne := ne_nil_of_entry?_ne hplace
  induction names generalizing folder with
  | nil => exact h
  | cons name names ih =>
    rw [walk] at h ⊢
    split
    · next hempty => exact ih (by simpa [hempty] using h)
    · next hempty =>
      simp only [hempty, Bool.false_eq_true, if_false] at h
      split
      · next hparent => exact ih (by simpa [hparent] using h)
      · next hparent =>
        rw [if_neg hparent] at h
        -- The folder that the walk enters stands elsewhere than the new entry.
        have hstep : d.find folder name = .ok (some .folder) ∧
            ∃ here, folder.child? name = some here ∧ d.walk (.inside here) names = .ok target := by
          split at h
          · cases h
          · cases h
          · next here hfind hchild => exact ⟨hfind, here, hchild, h⟩
          · cases h
        obtain ⟨hfind, here, hchild, hrest⟩ := hstep
        have hfind' : (d.set place entry).find folder name = .ok (some .folder) := by
          rw [find] at hfind ⊢
          split at hfind
          · cases hfind
          · next hlength =>
            rw [hchild, Option.bind_some] at hfind ⊢
            have hhere : d.entry? here = some .folder := Except.ok.inj hfind
            have hother : here ≠ place := by
              rintro rfl
              exact hplace hhere
            rw [entry?_set hne, if_neg hother, hhere, if_neg hlength]
        rw [hfind', hchild]
        exact ih hrest

/-! ## The place of a path -/

theorem eq_ok_of_toOption {ε α : Type} {e : Except ε α} {a : α} (h : e.toOption = some a) :
    e = .ok a := by
  cases e with
  | error fault => cases h
  | ok b => exact congrArg Except.ok (Option.some.inj h)

/-- The ways a path can fail to lead to a file, spelled out. -/
theorem place?_eq_some_iff {d : Directory} {path : Text} {place : List Text} :
    d.place? path = some place ↔
      ∃ parents last folder, split path = .ok (parents, last) ∧
        d.walk (start path) parents = .ok folder ∧ folder.child? last = some place ∧
        (isNullDevice path || last.isEmpty || isDots last || 255 < Text.byteSize last) = false ∧
        d.entry? place ≠ some .folder := by
  constructor
  · intro h
    simp only [place?, Option.bind_eq_bind, Option.bind_eq_some_iff] at h
    obtain ⟨⟨parents, last⟩, hsplit, folder, hwalk, here, hchild, h⟩ := h
    split at h
    · cases h
    · next hgood =>
      have hentry : here = place ∧ d.entry? here ≠ some .folder := by
        split at h
        · cases h
        · next hfile => exact ⟨Option.some.inj h, hfile⟩
      obtain ⟨rfl, hentry⟩ := hentry
      exact ⟨parents, last, folder, eq_ok_of_toOption hsplit, eq_ok_of_toOption hwalk, hchild,
        by simpa using hgood, hentry⟩
  · rintro ⟨parents, last, folder, hsplit, hwalk, hchild, hgood, hentry⟩
    simp only [place?, hsplit, hwalk, hchild, hgood, Except.toOption, Option.bind_eq_bind,
      Option.bind_some, Bool.false_eq_true, if_false]

theorem not_folder_of_place? {d : Directory} {path : Text} {place : List Text}
    (h : d.place? path = some place) : d.entry? place ≠ some .folder := by
  obtain ⟨_, _, _, _, _, _, _, hentry⟩ := place?_eq_some_iff.mp h
  exact hentry

theorem ne_nil_of_place? {d : Directory} {path : Text} {place : List Text}
    (h : d.place? path = some place) : place ≠ [] :=
  ne_nil_of_entry?_ne (not_folder_of_place? h)

/-- A file that has a place can be written there, and nothing else is touched. -/
theorem write_of_place? {d : Directory} {path : Text} {place : List Text}
    (h : d.place? path = some place) (content : ByteArray) :
    d.write path content = .ok (d.set place (.file content)) := by
  obtain ⟨parents, last, folder, hsplit, hwalk, hchild, hgood, hentry⟩ := place?_eq_some_iff.mp h
  simp only [Bool.or_eq_false_iff, decide_eq_false_iff_not] at hgood
  obtain ⟨⟨⟨hdevice, hempty⟩, hdots⟩, hlength⟩ := hgood
  have hfind : d.find folder last = .ok (d.entry? place) := by
    rw [find, if_neg hlength, hchild]
    rfl
  simp only [write, hdevice, hsplit, hempty, hwalk, hdots, hfind, hchild, bind, Except.bind,
    Bool.false_eq_true, if_false]

/-- What stands at the place of a path is what reading it gives. -/
theorem read_of_place? {d : Directory} {path : Text} {place : List Text} {content : ByteArray}
    (h : d.place? path = some place) (hfile : d.entry? place = some (.file content)) :
    d.read path = .ok content := by
  obtain ⟨parents, last, folder, hsplit, hwalk, hchild, hgood, -⟩ := place?_eq_some_iff.mp h
  simp only [Bool.or_eq_false_iff, decide_eq_false_iff_not] at hgood
  obtain ⟨⟨⟨hdevice, hempty⟩, hdots⟩, hlength⟩ := hgood
  have hfind : d.find folder last = .ok (some (.file content)) := by
    rw [find, if_neg hlength, hchild, ← hfile]
    rfl
  simp only [read, hdevice, hsplit, hempty, hwalk, hdots, hfind, bind, Except.bind,
    Bool.or_self, Bool.false_eq_true, if_false]

/-- A file that is written leaves the places of all paths. -/
theorem place?_set {d : Directory} {path : Text} {place q : List Text}
    (hq : d.entry? q ≠ some .folder) (content : ByteArray) (h : d.place? path = some place) :
    (d.set q (.file content)).place? path = some place := by
  obtain ⟨parents, last, folder, hsplit, hwalk, hchild, hgood, hentry⟩ := place?_eq_some_iff.mp h
  refine place?_eq_some_iff.mpr ⟨parents, last, folder, hsplit, walk_set hq _ hwalk, hchild,
    hgood, ?_⟩
  rw [entry?_set (ne_nil_of_entry?_ne hq)]
  split
  · simp
  · exact hentry

end Directory
end FailureReplay
