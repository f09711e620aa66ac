import Dialogue.Proofs.FileTreeFrame
import Dialogue.Proofs.PathComponents

/-!
What exactly a change of a file tree changes. A file that is written and a directory that is made
are all that is different, so what is not there stays away, too; and what is found at a path depends
on nothing but what is at its end.
-/
namespace Dialogue.FileTree

variable {tree later node : FileTree} {names base : List String} {path : Path} {name : String}

/-! ### One place -/

theorem kindAt_append_of_find {rest : List String} (h : tree.find names = .ok node) :
    tree.kindAt (names ++ rest) = node.kindAt rest := by
  induction names generalizing tree with
  | nil =>
    cases h
    rfl
  | cons name names ih =>
    cases tree with
    | file text => cases h
    | directory entries =>
      rw [find] at h
      rw [List.cons_append, kindAt_cons]
      cases hinner : entries.lookup name with
      | none =>
        rw [hinner] at h
        cases h
      | some inner =>
        rw [hinner] at h
        exact ih h

/-- The same is everywhere but at one place. -/
def SameBut (tree later : FileTree) (place : List String) : Prop :=
  ∀ other, other ≠ place → later.kindAt other = tree.kindAt other

theorem sameBut_put (hplace : tree.Place names) (hfree : tree.kindAt names ≠ some none)
    (hleaf : ∀ rest, rest ≠ [] → node.kindAt rest = none) :
    tree.SameBut (tree.put names node) names := by
  intro other hother
  by_cases hbelow : names <+: other
  -- Below the place nothing was before, and the new node has nothing there.
  · obtain ⟨rest, rfl⟩ := hbelow
    have hrest : rest ≠ [] := by
      rintro rfl
      exact hother (List.append_nil names)
    rw [kindAt_append_of_find (find_put hplace), hleaf rest hrest]
    cases hkind : tree.kindAt (names ++ rest) with
    | none => rfl
    | some kind => exact absurd (kindAt_of_append hrest hkind) hfree
  · rcases List.eq_nil_or_concat names with rfl | ⟨parent, name, rfl⟩
    · exact absurd List.nil_prefix hbelow
    · rw [List.concat_eq_append] at hplace hbelow ⊢
      exact kindAt_put_of_not_below (hplace parent name rfl) hbelow

theorem SameBut.grows {place : List String} (h : tree.SameBut later place)
    (hfree : tree.kindAt place ≠ some none) : tree.Grows later := by
  intro other hdirectory
  rw [h other, hdirectory]
  rintro rfl
  exact hfree hdirectory

theorem kindAt_file_below (text : String) {rest : List String} (h : rest ≠ []) :
    (file text).kindAt rest = none := by
  cases rest with
  | nil => exact absurd rfl h
  | cons name rest => rfl

theorem kindAt_empty_below {rest : List String} (h : rest ≠ []) : empty.kindAt rest = none := by
  cases rest with
  | nil => exact absurd rfl h
  | cons name rest => rfl

theorem sameBut_write {text : String} (h : tree.write path text = .ok later) :
    ∃ names, tree.locate path = .ok names ∧ tree.SameBut later names ∧
      later.kindAt names = some (some text) ∧ tree.kindAt names ≠ some none := by
  obtain ⟨-, names, hpath, hwritten, hfree, -⟩ := write_spec h
  refine ⟨names, hpath, ?_, hwritten, hfree⟩
  have hplace := place_walk (place_nil tree) (locate_eq_ok_iff.1 hpath).2
  unfold write at h
  obtain ⟨names', hpath', h⟩ := bind_eq_ok_iff.1 h
  cases hpath.symm.trans hpath'
  split at h
  · cases h
  · split at h
    · cases h
    · cases h
      exact sameBut_put hplace hfree fun rest => kindAt_file_below text

/-! ### Paths -/

structure Leads (tree : FileTree) (path : Path) (base : List String) : Prop where
  locate_eq : tree.locate path = .ok base
  directory : tree.kindAt base = some none

theorem Leads.of_grows (h : tree.Leads path base) (hgrows : tree.Grows later) :
    later.Leads path base :=
  ⟨hgrows.locate h.locate_eq, hgrows base h.directory⟩

def kindOf (tree : FileTree) (path : Path) : Option (Option String) :=
  match tree.lookUp path with
  | .ok (.file text) => some (some text)
  | .ok (.directory _) => some none
  | .error _ => none

theorem lookUp_eq (h : path.endsOpen = false) :
    tree.lookUp path = tree.locate path >>= tree.find := by
  unfold lookUp
  cases tree.locate path with
  | error failure => rfl
  | ok names =>
    show tree.find names >>= _ = tree.find names
    rw [h]
    cases tree.find names with
    | error failure => rfl
    | ok found => cases found <;> rfl

theorem kindOf_eq (h : path.endsOpen = false) : tree.kindOf path =
    match tree.locate path with
    | .ok names => tree.kindAt names
    | .error _ => none := by
  unfold kindOf kindAt
  rw [lookUp_eq h]
  cases tree.locate path with
  | error failure => rfl
  | ok names => rfl

theorem read_eq_ok_iff {text : String} :
    tree.read path = .ok text ↔ tree.kindOf path = some (some text) := by
  unfold read kindOf
  rw [bind_eq_ok_iff]
  cases tree.lookUp path with
  | error failure => simp
  | ok found => cases found <;> simp [pure, Except.pure]

theorem read_of_directory (h : tree.kindOf path = some none) :
    tree.read path = .error .isDirectory := by
  unfold kindOf at h
  unfold read
  split at h
  · cases h
  · rename_i hfound
    rw [hfound]
    rfl
  · cases h

theorem contains_eq (tree : FileTree) (path : Path) :
    tree.contains path = (tree.kindOf path).isSome := by
  unfold contains kindOf
  cases tree.lookUp path with
  | error failure => rfl
  | ok found => cases found <;> rfl

/-! ### Inside a directory -/

theorem kindAt_eq_directory_iff :
    tree.kindAt names = some none ↔ ∃ entries, tree.find names = .ok (.directory entries) := by
  unfold kindAt
  cases tree.find names with
  | error failure => simp
  | ok found => cases found <;> simp

theorem makeDirectory_eq {segments : List String} (h : tree.walk [] segments = .ok names) :
    tree.makeDirectory segments = match tree.kindAt names with
      | some none => .ok tree
      | some (some _) => .error Failure.occupied
      | none => .ok (tree.put names empty) := by
  unfold makeDirectory kindAt
  rw [h]
  dsimp only [bind, Except.bind]
  cases tree.find names with
  | error failure => rfl
  | ok found => cases found <;> rfl

theorem makeDirectories_of_walk {segments : List String}
    (hvalid : segments.any Path.isInvalidSegment = false) (hwalk : tree.walk [] segments = .ok names)
    (hdirectory : tree.kindAt names = some none) :
    tree.makeDirectories segments = (tree, .ok ()) := by
  have hmade : tree.makeDirectory segments = .ok tree := by
    rw [makeDirectory_eq hwalk, hdirectory]
  unfold makeDirectories
  rw [hvalid, if_neg Bool.false_ne_true, makeDirectoriesAt, hmade]

/-- A directory that is there is not made again, and neither are those on the way to it. -/
theorem makeDirectories_of_leads {made : List String} (h : tree.Leads path base)
    (hmade : made <+: path.segments) : tree.makeDirectories made = (tree, .ok ()) := by
  obtain ⟨rest, hsplit⟩ := hmade
  obtain ⟨hvalid, hwalk⟩ := locate_eq_ok_iff.1 h.locate_eq
  rw [← hsplit, List.any_append, Bool.or_eq_false_iff] at hvalid
  rw [← hsplit, walk_append] at hwalk
  obtain ⟨middle, hmiddle, hrest⟩ := hwalk
  refine makeDirectories_of_walk hvalid.1 hmiddle ?_
  cases rest with
  | nil =>
    cases hrest
    exact h.directory
  | cons segment rest => exact (walk_cons_eq_ok_iff.1 hrest).1

theorem walk_append_of_ok {front back start stop : List String}
    (h : tree.walk start front = .ok stop) :
    tree.walk start (front ++ back) = tree.walk stop back := by
  rw [walk_append_eq_bind, h]
  rfl

theorem walk_name (h : tree.kindAt base = some none) (hname : Path.IsName name) :
    tree.walk base [name] =
      if name.utf8ByteSize ≤ maxNameSize then .ok (base ++ [name]) else .error .nameTooLong := by
  obtain ⟨entries, hfind⟩ := kindAt_eq_directory_iff.1 h
  rw [walk, hfind]
  dsimp only
  rw [if_neg hname.ne_dot, if_neg hname.ne_dots]
  split
  · rw [if_neg (by omega)]
  · rw [if_pos (by omega)]
    rfl

theorem makeDirectories_join {outcome : Except Failure Unit} (h : tree.Leads path base)
    (hname : Path.IsName name)
    (hmade : tree.makeDirectories (path.join name).segments = (later, outcome)) :
    later = tree ∨ tree.kindAt (base ++ [name]) = none ∧ tree.SameBut later (base ++ [name]) := by
  obtain ⟨hvalid, hwalk⟩ := locate_eq_ok_iff.1 h.locate_eq
  rw [Path.segments_join path hname] at hmade
  have hlast : tree.walk [] (path.segments ++ [name]) =
      if name.utf8ByteSize ≤ maxNameSize then .ok (base ++ [name]) else .error .nameTooLong := by
    rw [walk_append_of_ok hwalk, walk_name h.directory hname]
  unfold makeDirectories at hmade
  split at hmade
  · cases hmade
    exact Or.inl rfl
  · rw [makeDirectoriesAt] at hmade
    by_cases hsize : name.utf8ByteSize ≤ maxNameSize
    · rw [if_pos hsize] at hlast
      rw [makeDirectory_eq hlast] at hmade
      cases hkind : tree.kindAt (base ++ [name]) with
      | none =>
        rw [hkind] at hmade
        cases hmade
        refine Or.inr ⟨rfl, sameBut_put ?_ ?_ fun rest => kindAt_empty_below⟩
        · exact place_walk (place_nil tree) hlast
        · rw [hkind]
          exact fun h => nomatch h
      | some kind =>
        rw [hkind] at hmade
        cases kind <;> cases hmade <;> exact Or.inl rfl
    · rw [if_neg hsize] at hlast
      have hfails : tree.makeDirectory (path.segments ++ [name]) = .error .nameTooLong := by
        unfold makeDirectory
        rw [hlast]
        rfl
      rw [hfails] at hmade
      cases hmade
      exact Or.inl rfl

/-! ### Files of a directory inside -/

def Nameable (name : String) : Prop :=
  Path.isInvalidSegment name = false ∧ name.utf8ByteSize ≤ maxNameSize

theorem kindOf_eq_some_iff {kind : Option String} (h : path.endsOpen = false) :
    tree.kindOf path = some kind ↔
      ∃ names, tree.locate path = .ok names ∧ tree.kindAt names = some kind := by
  rw [kindOf_eq h]
  cases tree.locate path <;> simp

theorem kindOf_join (h : tree.Leads path base) (hname : Path.IsName name) (hfits : Nameable name) :
    tree.kindOf (path.join name) = tree.kindAt (base ++ [name]) := by
  obtain ⟨hvalid, hwalk⟩ := locate_eq_ok_iff.1 h.locate_eq
  have hlocate : tree.locate (path.join name) = .ok (base ++ [name]) := by
    rw [locate_eq_ok_iff, Path.segments_join path hname, walk_append_of_ok hwalk,
      walk_name h.directory hname, if_pos hfits.2]
    simp [hvalid, hfits.1]
  rw [kindOf_eq (Path.endsOpen_join path hname), hlocate]

/-- Dots before another step change nothing: that step has to start in a directory, too. -/
theorem walk_dots {dots start rest : List String} {segment : String}
    (h : ∀ dot ∈ dots, dot = ".") :
    tree.walk start (dots ++ segment :: rest) = tree.walk start (segment :: rest) := by
  induction dots with
  | nil => rfl
  | cons dot dots ih =>
    rw [List.forall_mem_cons] at h
    rw [List.cons_append, walk, ih h.2, if_pos h.1, walk]
    cases tree.find start with
    | error failure => rfl
    | ok found => cases found <;> rfl

theorem eq_of_walk_dots {dots start stop : List String} (h : ∀ dot ∈ dots, dot = ".")
    (hwalk : tree.walk start dots = .ok stop) : stop = start := by
  induction dots with
  | nil =>
    cases hwalk
    rfl
  | cons dot dots ih =>
    rw [List.forall_mem_cons] at h
    obtain ⟨-, -, hrest⟩ := walk_cons_eq_ok_iff.1 hwalk
    rw [stepFrom, if_pos h.1] at hrest
    exact ih h.2 hrest

theorem locate_single {model : Path} {directory : String}
    (h : (Path.mk directory).isSingleName = true)
    (hlocate : tree.locate (model.join directory) = .ok names) :
    ∃ base, tree.locate model = .ok base ∧ names = base ++ [(Path.mk directory).folder] := by
  obtain ⟨dots, hsegments, hdots, hdot, hdotdot⟩ := Path.segments_of_isSingleName h
  rw [locate_eq_ok_iff, Path.segments_join_of_relative _ (Path.relative_of_isSingleName h),
    List.any_append, Bool.or_eq_false_iff, hsegments, walk_append] at hlocate
  obtain ⟨⟨hvalid, -⟩, base, hbase, hlast⟩ := hlocate
  obtain ⟨-, -, hstay⟩ := walk_cons_eq_ok_iff.1 hlast
  rw [stepFrom, if_neg hdot, if_neg hdotdot] at hstay
  exact ⟨base, locate_eq_ok_iff.2 ⟨hvalid, hbase⟩, eq_of_walk_dots hdots hstay⟩

theorem locate_folder {model : Path} {directory : String}
    (h : (Path.mk directory).isSingleName = true) (hname : Path.IsName name) :
    tree.locate ((model.join directory).join name) =
      tree.locate ((model.join (Path.mk directory).folder).join name) := by
  obtain ⟨dots, hsegments, hdots, -⟩ := Path.segments_of_isSingleName h
  have hvalid : dots.any Path.isInvalidSegment = false := by
    rw [List.any_eq_false]
    intro dot hmem
    rw [hdots dot hmem]
    decide
  have hsplit : model.segments ++ (Path.mk directory).folder :: dots ++ [name] =
      model.segments ++ [(Path.mk directory).folder] ++ (dots ++ [name]) := by
    simp
  have hwalk : tree.walk [] (model.segments ++ (Path.mk directory).folder :: dots ++ [name]) =
      tree.walk [] (model.segments ++ [(Path.mk directory).folder] ++ [name]) := by
    rw [hsplit, walk_append_eq_bind, @walk_append_eq_bind _ _ [name]]
    simp only [walk_dots hdots]
  unfold locate
  rw [Path.segments_join _ hname, Path.segments_join _ hname,
    Path.segments_join _ (Path.isName_folder h),
    Path.segments_join_of_relative _ (Path.relative_of_isSingleName h), hsegments, hwalk]
  simp only [List.any_append, List.any_cons, List.any_nil, hvalid, Bool.or_false]

theorem lookUp_folder {model : Path} {directory : String}
    (h : (Path.mk directory).isSingleName = true) (hname : Path.IsName name) :
    tree.lookUp ((model.join directory).join name) =
      tree.lookUp ((model.join (Path.mk directory).folder).join name) := by
  unfold lookUp
  rw [locate_folder h hname, Path.endsOpen_join _ hname, Path.endsOpen_join _ hname]

theorem locate_inside {model : Path} {directory : String} (h : tree.Leads model base)
    (hsingle : (Path.mk directory).isSingleName = true) (hname : Path.IsName name)
    (hfits : Nameable name) : tree.locate ((model.join directory).join name) = .ok names ↔
      Nameable (Path.mk directory).folder ∧
        tree.kindAt (base ++ [(Path.mk directory).folder]) = some none ∧
        names = base ++ [(Path.mk directory).folder, name] := by
  obtain ⟨hvalid, hwalk⟩ := locate_eq_ok_iff.1 h.locate_eq
  have hfolder := Path.isName_folder hsingle
  rw [locate_folder hsingle hname, locate_eq_ok_iff, Path.segments_join _ hname,
    Path.segments_join _ hfolder, List.append_assoc, walk_append_of_ok hwalk, List.singleton_append,
    walk_cons_eq_ok_iff, walk_cons_eq_ok_iff]
  simp only [List.any_append, List.any_cons, List.any_nil, hvalid, hfits.1, hfits.2, h.directory,
    hfolder.ne_dot, hfolder.ne_dots, hname.ne_dot, hname.ne_dots, Nameable, stepFrom, walk]
  simp [and_assoc, @eq_comm _ names]

/-- What is found in a file of a directory inside another one depends on the name of that directory
only, however its path is put. -/
theorem kindOf_inside {model : Path} {directory : String} {kind : Option String}
    (h : tree.Leads model base) (hsingle : (Path.mk directory).isSingleName = true)
    (hname : Path.IsName name) (hfits : Nameable name) :
    tree.kindOf ((model.join directory).join name) = some kind ↔
      Nameable (Path.mk directory).folder ∧
        tree.kindAt (base ++ [(Path.mk directory).folder, name]) = some kind := by
  rw [kindOf_eq_some_iff (Path.endsOpen_join _ hname)]
  simp only [locate_inside h hsingle hname hfits]
  constructor
  · rintro ⟨names, ⟨hfolder, -, rfl⟩, hkind⟩
    exact ⟨hfolder, hkind⟩
  · rintro ⟨hfolder, hkind⟩
    have habove : tree.kindAt (base ++ [(Path.mk directory).folder]) = some none := by
      apply kindAt_of_append (List.cons_ne_nil name [])
      simpa using hkind
    exact ⟨_, ⟨hfolder, habove, rfl⟩, hkind⟩

end Dialogue.FileTree
