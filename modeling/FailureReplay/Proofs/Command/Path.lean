import FailureReplay.Proofs.Command.Directory
import FailureReplay.Proofs.Text.Pieces
import Mathlib.Data.List.TakeWhile

/-!
# Files side by side

The directory part of a path drops separators and dots at its end. They lead a
walk nowhere, so a file name joined to the directory part of a path names a file
in the same folder.
-/

namespace FailureReplay

namespace Directory

/-- A name that names nothing at the end of a walk. -/
theorem walk_concat (d : Directory) {name : Text} (hskip : name = [] ∨ name = ['.'])
    (names : List Text) (folder : Folder) :
    d.walk folder (names ++ [name]) = d.walk folder names := by
  have hname : (name.isEmpty || name = ['.']) = true := by
    rcases hskip with rfl | rfl <;> rfl
  induction names generalizing folder with
  | nil => simp only [List.nil_append, walk, hname, if_true]
  | cons first names ih => simp only [List.cons_append, walk, ih]

theorem splitOn_concat_slash (t : Text) : (t ++ ['/']).splitOn '/' = t.splitOn '/' ++ [[]] := by
  rw [List.splitOn_append_cons_self, List.splitOn_nil]

/-- What the directory part drops does not turn a walk. -/
theorem walk_dropTail (d : Directory) (folder : Folder) (t : Text) :
    d.walk folder ((Path.dropTail t).reverse.splitOn '/') =
      d.walk folder (t.reverse.splitOn '/') := by
  fun_induction Path.dropTail t with
  | case1 => rfl
  | case2 c rest hc ih =>
    obtain rfl : c = '/' := by simp at hc; exact hc.1
    rw [ih, List.reverse_cons, splitOn_concat_slash, walk_concat d (.inl rfl)]
  | case3 c rest _ hc ih =>
    simp only [Bool.and_eq_true, decide_eq_true_eq] at hc
    obtain ⟨rfl, hrest⟩ := hc
    obtain ⟨rest, rfl⟩ := List.head?_eq_some_iff.mp hrest
    have hdot : (['.'] : Text).splitOn '/' = [['.']] := by decide
    rw [ih]
    simp only [List.reverse_cons, List.append_assoc, List.singleton_append]
    rw [splitOn_concat_slash, List.splitOn_append_cons_self, hdot, walk_concat d (.inl rfl),
      walk_concat d (.inr rfl)]
  | case4 c rest _ _ => rfl

end Directory

namespace Path

theorem dropTail_isSuffix (t : Text) : dropTail t <:+ t := by
  fun_induction dropTail t with
  | case1 => exact List.suffix_rfl
  | case2 c rest _ ih => exact ih.trans (List.suffix_cons c rest)
  | case3 c rest _ _ ih => exact ih.trans (List.suffix_cons c rest)
  | case4 c rest _ _ => exact List.suffix_rfl

theorem dropTail_ne_nil {t : Text} (h : t ≠ []) : dropTail t ≠ [] := by
  fun_induction dropTail t with
  | case1 => exact h
  | case2 c rest hc ih =>
    simp only [Bool.and_eq_true, Bool.not_eq_true', List.isEmpty_eq_false_iff] at hc
    exact ih hc.2
  | case3 c rest _ hc ih =>
    apply ih
    rintro rfl
    simp at hc
  | case4 c rest _ _ => exact h

theorem stem_subset (name : Text) : stem name ⊆ name := by
  have hsub : (name.reverse.dropWhile (· != '.')).drop 1 ⊆ name.reverse :=
    List.Subset.trans (List.drop_subset _ _) (List.dropWhile_sublist _).subset
  rw [stem]
  split
  · exact List.Subset.refl name
  · intro c hc
    exact List.mem_reverse.mp (hsub (List.mem_reverse.mp hc))

theorem slash_not_mem_stem {path name : Text} (h : fileName? path = some name) :
    '/' ∉ stem name := by
  have hmem : name ∈ path.splitOn '/' := by
    rw [fileName?] at h
    split at h
    · next last hlast =>
      split at h
      · cases h
      · obtain rfl : last = name := Option.some.inj h
        exact (List.mem_filter.mp (List.mem_of_getLast? hlast)).1
    · cases h
  intro hslash
  exact (Text.of_mem_splitOn hmem).1 (stem_subset name hslash)

/-- A name that names something stays at the end of a path. -/
theorem dropTail_reverse_append {last : Text} (hslash : '/' ∉ last) (hne : last ≠ [])
    (hdot : last ≠ ['.']) (before : Text) :
    dropTail (last.reverse ++ before) = last.reverse ++ before := by
  have hmem : ∀ c ∈ last.reverse, c ≠ '/' := by
    intro c hc heq
    exact hslash (heq ▸ List.mem_reverse.mp hc)
  cases hrev : last.reverse with
  | nil => exact absurd (List.reverse_eq_nil_iff.mp hrev) hne
  | cons c rest =>
    rw [hrev] at hmem
    have hc : c ≠ '/' := hmem c (by simp)
    have hdots : ¬ (c = '.' ∧ (rest ++ before).head? = some '/') := by
      rintro ⟨rfl, hhead⟩
      cases rest with
      | nil => exact hdot (by simpa using congrArg List.reverse hrev)
      | cons e rest => exact hmem e (by simp) (Option.some.inj hhead)
    rw [List.cons_append, dropTail, if_neg (by simp [hc]), if_neg (by simpa using hdots)]

theorem dropWhile_eq_nil {t : Text} (h : '/' ∉ t) : t.dropWhile (· != '/') = [] := by
  rw [List.dropWhile_eq_nil_iff]
  intro c hc
  rw [bne_iff_ne]
  rintro rfl
  exact h hc

/-- The directory part of a path with a separator. -/
theorem directory_append {last : Text} (hslash : '/' ∉ last) (hne : last ≠ [])
    (hdot : last ≠ ['.']) (before : Text) :
    directory (before ++ '/' :: last) = (dropTail ('/' :: before.reverse)).reverse := by
  have hreverse : (before ++ '/' :: last).reverse = last.reverse ++ '/' :: before.reverse := by
    simp
  have hdrop : (last.reverse ++ '/' :: before.reverse).dropWhile (· != '/') =
      '/' :: before.reverse := by
    rw [List.dropWhile_append, dropWhile_eq_nil (by simpa using hslash)]
    simp
  rw [directory, hreverse, dropTail_reverse_append hslash hne hdot]
  split
  · next hroot =>
    have hlength := congrArg List.length hroot
    have hpos := List.length_pos_iff.mpr hne
    simp at hlength
    omega
  · rw [hdrop]

theorem directory_eq_nil {path : Text} (h : '/' ∉ path) : directory path = [] := by
  have htail : '/' ∉ dropTail path.reverse := by
    intro hmem
    exact h (List.mem_reverse.mp ((dropTail_isSuffix _).subset hmem))
  rw [directory]
  split
  · rfl
  · rw [dropWhile_eq_nil htail]
    rfl

theorem exists_append_slash {path : Text} (h : '/' ∈ path) :
    ∃ before last, path = before ++ '/' :: last ∧ '/' ∉ last := by
  obtain ⟨last, before, hpath, hlast⟩ := List.eq_append_cons_of_mem (List.mem_reverse.mpr h)
  refine ⟨before.reverse, last.reverse, ?_, by simpa using hlast⟩
  have hreverse := congrArg List.reverse hpath
  simpa using hreverse

/-- A name without separators, joined to a directory: the walk to it is the directory's own. -/
theorem exists_splitOn_join (d : Directory) {dir name : Text} (hdir : dir ≠ [])
    (hname : '/' ∉ name) :
    ∃ names, (join dir name).splitOn '/' = names ++ [name] ∧
      ∀ folder, d.walk folder names = d.walk folder (dir.splitOn '/') := by
  have hlast : name.splitOn '/' = [name] := List.splitOn_eq_singleton hname
  have hempty : dir.isEmpty = false := by simpa using hdir
  rw [join, hempty]
  by_cases hslash : dir.getLast? = some '/'
  · obtain ⟨before, rfl⟩ := List.getLast?_eq_some_iff.mp hslash
    refine ⟨before.splitOn '/', ?_, ?_⟩
    · rw [if_neg Bool.false_ne_true, if_pos hslash, List.append_assoc, List.singleton_append,
        List.splitOn_append_cons_self, hlast]
    · intro folder
      rw [Directory.splitOn_concat_slash, Directory.walk_concat d (.inl rfl)]
  · refine ⟨dir.splitOn '/', ?_, fun _ => rfl⟩
    rw [if_neg Bool.false_ne_true, if_neg hslash, List.splitOn_append_cons_self, hlast]

/-- A file put beside another one is looked up from the same folder. -/
theorem start_join {dir name path : Text} (hdir : dir ≠ []) (hpath : dir <+: path) :
    Directory.start (join dir name) = Directory.start path := by
  obtain ⟨c, dir, rfl⟩ := List.exists_cons_of_ne_nil hdir
  obtain ⟨rest, rfl⟩ := hpath
  have hhead : (join (c :: dir) name).head? = some c := by
    rw [join, if_neg (by simp)]
    split <;> rfl
  rw [Directory.start, Directory.start, hhead]
  rfl

/-- A name without separators, put beside a path: its folder is reached as the path's own. -/
theorem exists_join_directory (d : Directory) {path name last : Text} {parents : List Text}
    (hpath : path.splitOn '/' = parents ++ [last]) (hne : last ≠ []) (hdot : last ≠ ['.'])
    (hname : '/' ∉ name) :
    ∃ names, (join (directory path) name).splitOn '/' = names ++ [name] ∧
      Directory.start (join (directory path) name) = Directory.start path ∧
      ∀ folder, d.walk folder names = d.walk folder parents := by
  by_cases hslash : '/' ∈ path
  · obtain ⟨before, last', rfl, hlast⟩ := exists_append_slash hslash
    rw [List.splitOn_append_cons_self, List.splitOn_eq_singleton hlast] at hpath
    obtain ⟨rfl, heq⟩ := List.append_inj' hpath rfl
    obtain rfl : last' = last := List.singleton_inj.mp heq
    have hdir := directory_append hlast hne hdot before
    have hdir' : directory (before ++ '/' :: last') ≠ [] := by
      rw [hdir, Ne, List.reverse_eq_nil_iff]
      exact dropTail_ne_nil (by simp)
    have hprefix : directory (before ++ '/' :: last') <+: before ++ '/' :: last' := by
      rw [hdir]
      have hsuffix := List.reverse_prefix.mpr (dropTail_isSuffix ('/' :: before.reverse))
      rw [List.reverse_cons, List.reverse_reverse] at hsuffix
      exact hsuffix.trans ⟨last', by simp⟩
    obtain ⟨names, hnames, hwalk⟩ := exists_splitOn_join d hdir' hname
    refine ⟨names, hnames, start_join hdir' hprefix, ?_⟩
    intro folder
    rw [hwalk, hdir, Directory.walk_dropTail, List.reverse_cons, List.reverse_reverse,
      Directory.splitOn_concat_slash, Directory.walk_concat d (.inl rfl)]
  -- Without a separator, both files stand in the working directory itself.
  · rw [List.splitOn_eq_singleton hslash] at hpath
    obtain ⟨rfl, -⟩ := List.append_inj' (show [] ++ [path] = parents ++ [last] from hpath) rfl
    have hstart : ∀ t : Text, '/' ∉ t → Directory.start t = .inside [] := by
      intro t ht
      rw [Directory.start, if_neg]
      intro hhead
      exact ht (List.mem_of_mem_head? hhead)
    rw [directory_eq_nil hslash, show join [] name = name from rfl, hstart name hname,
      hstart path hslash]
    exact ⟨[], List.splitOn_eq_singleton hname, rfl, fun _ => rfl⟩

end Path

namespace Directory

theorem splitOn_of_split {path last : Text} {parents : List Text}
    (h : split path = .ok (parents, last)) : path.splitOn '/' = parents ++ [last] := by
  unfold split at h
  split at h
  · cases h
  · split at h
    · cases h
    · split at h
      · cases h
      · cases h
      · next hlast =>
        obtain ⟨rfl, rfl⟩ := Prod.mk.inj (Except.ok.inj h)
        obtain ⟨init, hinit⟩ := List.getLast?_eq_some_iff.mp hlast
        rw [hinit, List.dropLast_concat]

/-- A file beside another: the same folder, under the given name. -/
theorem place?_beside {d : Directory} {path name : Text} {place beside : List Text}
    (hname : '/' ∉ name) (h : d.place? path = some place)
    (hbeside : d.place? (Path.join (Path.directory path) name) = some beside) :
    beside = place.dropLast ++ [name] := by
  obtain ⟨parents, last, folder, hsplit, hwalk, hchild, hgood, -⟩ := place?_eq_some_iff.mp h
  obtain ⟨parents', last', folder', hsplit', hwalk', hchild', -, -⟩ :=
    place?_eq_some_iff.mp hbeside
  simp only [Bool.or_eq_false_iff] at hgood
  obtain ⟨⟨⟨-, hempty⟩, hdots⟩, -⟩ := hgood
  have hne : last ≠ [] := by simpa using hempty
  have hdot : last ≠ ['.'] := by
    rintro rfl
    cases hdots
  obtain ⟨names, hnames, hstart, hwalks⟩ :=
    Path.exists_join_directory d (splitOn_of_split hsplit) hne hdot hname
  rw [splitOn_of_split hsplit'] at hnames
  obtain ⟨rfl, heq⟩ := List.append_inj' hnames rfl
  obtain rfl : last' = name := List.singleton_inj.mp heq
  rw [hstart, hwalks, hwalk] at hwalk'
  obtain rfl : folder = folder' := Except.ok.inj hwalk'
  cases folder with
  | outside => cases hchild
  | inside here =>
    obtain rfl : here ++ [last] = place := Option.some.inj hchild
    obtain rfl : here ++ [last'] = beside := Option.some.inj hchild'
    rw [List.dropLast_concat]

end Directory
end FailureReplay
