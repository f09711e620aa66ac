import Dialogue.FileTree
import Dialogue.Proofs.Outcome

/-!
What a change of a file tree leaves as it was. Directories stay directories, and a file changes only
if it is written itself; so a path that leads somewhere still leads there after other changes.
-/
namespace Dialogue.FileTree

/-- What is at the end of some names, if anything is: a file with its text, or a directory. -/
def kindAt (tree : FileTree) (names : List String) : Option (Option String) :=
  match tree.find names with
  | .ok (.file text) => some (some text)
  | .ok (.directory _) => some none
  | .error _ => none

theorem kindAt_cons (entries : List (String × FileTree)) (name : String) (rest : List String) :
    (directory entries).kindAt (name :: rest) =
      (entries.lookup name).bind fun tree => tree.kindAt rest := by
  unfold kindAt
  rw [find]
  cases entries.lookup name with
  | none => rfl
  | some tree => rfl

theorem kindAt_of_append {tree : FileTree} {names rest : List String} {kind : Option String}
    (hrest : rest ≠ []) (h : tree.kindAt (names ++ rest) = some kind) :
    tree.kindAt names = some none := by
  induction names generalizing tree with
  | nil =>
    cases tree with
    | file text =>
      cases rest with
      | nil => exact absurd rfl hrest
      | cons name rest => cases h
    | directory entries => rfl
  | cons name names ih =>
    cases tree with
    | file text => cases h
    | directory entries =>
      rw [List.cons_append, kindAt_cons] at h
      obtain ⟨inner, hinner, hkind⟩ := Option.bind_eq_some_iff.1 h
      rw [kindAt_cons, hinner]
      exact ih hkind

/-! ### Putting -/

/-- The directory that has the end of some names in it is there. -/
def Place (tree : FileTree) (names : List String) : Prop :=
  ∀ parent name, names = parent ++ [name] → tree.kindAt parent = some none

theorem kindAt_put_of_not_below {tree node : FileTree} {parent other : List String} {name : String}
    (hparent : tree.kindAt parent = some none) (h : ¬ parent ++ [name] <+: other) :
    (tree.put (parent ++ [name]) node).kindAt other = tree.kindAt other := by
  induction parent generalizing tree other with
  | nil =>
    cases tree with
    | file text => cases hparent
    | directory entries =>
      rw [List.nil_append, put]
      cases other with
      | nil => rfl
      | cons first rest =>
        have hne : first ≠ name := by
          rintro rfl
          exact h ⟨rest, rfl⟩
        rw [kindAt_cons, kindAt_cons, SortedMap.lookup_insertEntry, if_neg hne]
  | cons step parent ih =>
    cases tree with
    | file text => cases hparent
    | directory entries =>
      rw [kindAt_cons] at hparent
      obtain ⟨inner, hinner, hkind⟩ := Option.bind_eq_some_iff.1 hparent
      rw [List.cons_append, put, hinner]
      cases other with
      | nil => rfl
      | cons first rest =>
        rw [kindAt_cons, kindAt_cons, SortedMap.lookup_insertEntry]
        by_cases hfirst : first = step
        · rw [if_pos hfirst, hfirst, hinner]
          refine ih hkind fun hbelow => h ?_
          rw [hfirst]
          exact (List.prefix_cons_inj step).2 hbelow
        · rw [if_neg hfirst]

theorem find_put_concat {tree node : FileTree} {parent : List String} {name : String}
    (hparent : tree.kindAt parent = some none) :
    (tree.put (parent ++ [name]) node).find (parent ++ [name]) = .ok node := by
  induction parent generalizing tree with
  | nil =>
    cases tree with
    | file text => cases hparent
    | directory entries =>
      rw [List.nil_append, put, find, SortedMap.lookup_insertEntry, if_pos rfl]
      rfl
  | cons step parent ih =>
    cases tree with
    | file text => cases hparent
    | directory entries =>
      rw [kindAt_cons] at hparent
      obtain ⟨inner, hinner, hkind⟩ := Option.bind_eq_some_iff.1 hparent
      rw [List.cons_append, put, hinner, find, SortedMap.lookup_insertEntry, if_pos rfl]
      exact ih hkind

theorem find_put {tree node : FileTree} {names : List String} (hplace : tree.Place names) :
    (tree.put names node).find names = .ok node := by
  rcases List.eq_nil_or_concat names with rfl | ⟨parent, name, rfl⟩
  · cases tree <;> rfl
  · rw [List.concat_eq_append] at hplace ⊢
    exact find_put_concat (hplace parent name rfl)

theorem kindAt_put {tree node : FileTree} {names other : List String} {kind : Option String}
    (hplace : tree.Place names) (hfree : tree.kindAt names ≠ some none) (hother : other ≠ names)
    (h : tree.kindAt other = some kind) : (tree.put names node).kindAt other = some kind := by
  have hbelow : ¬ names <+: other := by
    rintro ⟨rest, rfl⟩
    have hrest : rest ≠ [] := by
      rintro rfl
      exact hother (List.append_nil names)
    exact hfree (kindAt_of_append hrest h)
  rcases List.eq_nil_or_concat names with rfl | ⟨parent, name, rfl⟩
  · exact absurd List.nil_prefix hbelow
  · rw [List.concat_eq_append] at hplace hbelow ⊢
    rw [kindAt_put_of_not_below (hplace parent name rfl) hbelow, h]

/-! ### Walking -/

def stepFrom (names : List String) (segment : String) : List String :=
  if segment = "." then names else if segment = ".." then names.dropLast else names ++ [segment]

theorem walk_cons_eq_ok_iff {tree : FileTree} {names rest stop : List String} {segment : String} :
    tree.walk names (segment :: rest) = .ok stop ↔
      tree.kindAt names = some none ∧
      (segment = "." ∨ segment = ".." ∨ segment.utf8ByteSize ≤ maxNameSize) ∧
      tree.walk (stepFrom names segment) rest = .ok stop := by
  unfold kindAt stepFrom
  rw [walk]
  cases tree.find names with
  | error failure => simp
  | ok found =>
    cases found with
    | file text => simp
    | directory entries =>
      dsimp only
      by_cases hdot : segment = "."
      · simp [hdot]
      · rw [if_neg hdot, if_neg hdot]
        by_cases hdots : segment = ".."
        · simp [hdots]
        · rw [if_neg hdots, if_neg hdots]
          by_cases hsize : maxNameSize < segment.utf8ByteSize
          · rw [if_pos hsize]
            constructor
            · intro h
              cases h
            · rintro ⟨_, h | h | h, _⟩
              · exact absurd h hdot
              · exact absurd h hdots
              · omega
          · rw [if_neg hsize]
            exact ⟨fun h => ⟨rfl, Or.inr (Or.inr (by omega)), h⟩, fun h => h.2.2⟩

theorem place_of_above {tree : FileTree} {names front : List String}
    (h : tree.kindAt names = some none) (hbelow : front <+: names) : tree.Place front := by
  rintro parent name rfl
  obtain ⟨rest, rfl⟩ := hbelow
  rw [List.append_assoc] at h
  exact kindAt_of_append (List.cons_ne_nil _ _) h

theorem place_stepFrom {tree : FileTree} {names : List String} (h : tree.kindAt names = some none)
    (segment : String) : tree.Place (stepFrom names segment) := by
  unfold stepFrom
  split
  · exact place_of_above h (List.prefix_refl _)
  · split
    · exact place_of_above h (List.dropLast_prefix _)
    · intro parent name heq
      rwa [← (List.append_inj' heq rfl).1]

theorem place_walk {tree : FileTree} {segments names stop : List String} (h : tree.Place names)
    (hwalk : tree.walk names segments = .ok stop) : tree.Place stop := by
  induction segments generalizing names with
  | nil =>
    cases hwalk
    exact h
  | cons segment rest ih =>
    obtain ⟨hkind, _, hrest⟩ := walk_cons_eq_ok_iff.1 hwalk
    exact ih (place_stepFrom hkind segment) hrest

theorem walk_append_eq_bind {tree : FileTree} {front back names : List String} :
    tree.walk names (front ++ back) = tree.walk names front >>= (tree.walk · back) := by
  induction front generalizing names with
  | nil => rfl
  | cons segment rest ih =>
    rw [List.cons_append, walk, walk]
    split
    · rfl
    · rfl
    · split
      · exact ih
      · split
        · exact ih
        · split
          · rfl
          · exact ih

theorem walk_append {tree : FileTree} {front back names stop : List String} :
    tree.walk names (front ++ back) = .ok stop ↔
      ∃ middle, tree.walk names front = .ok middle ∧ tree.walk middle back = .ok stop := by
  rw [walk_append_eq_bind, bind_eq_ok_iff]

theorem walk_names {tree : FileTree} {segments names stop : List String}
    (h : ∀ segment ∈ segments, segment ≠ "." ∧ segment ≠ "..")
    (hwalk : tree.walk names segments = .ok stop) : stop = names ++ segments := by
  induction segments generalizing names with
  | nil =>
    cases hwalk
    exact (List.append_nil _).symm
  | cons segment rest ih =>
    rw [List.forall_mem_cons] at h
    obtain ⟨_, _, hrest⟩ := walk_cons_eq_ok_iff.1 hwalk
    unfold stepFrom at hrest
    rw [if_neg h.1.1, if_neg h.1.2] at hrest
    rw [ih h.2 hrest, List.append_assoc]
    rfl

/-! ### Changes -/

def Grows (tree later : FileTree) : Prop :=
  ∀ names, tree.kindAt names = some none → later.kindAt names = some none

theorem Grows.trans {tree middle later : FileTree} (h : tree.Grows middle)
    (h' : middle.Grows later) : tree.Grows later :=
  fun names hnames => h' names (h names hnames)

theorem Grows.walk {tree later : FileTree} {segments names stop : List String}
    (h : tree.Grows later) (hwalk : tree.walk names segments = .ok stop) :
    later.walk names segments = .ok stop := by
  induction segments generalizing names with
  | nil => exact hwalk
  | cons segment rest ih =>
    obtain ⟨hkind, hsize, hrest⟩ := walk_cons_eq_ok_iff.1 hwalk
    exact walk_cons_eq_ok_iff.2 ⟨h names hkind, hsize, ih hrest⟩

theorem locate_eq_ok_iff {tree : FileTree} {path : Path} {names : List String} :
    tree.locate path = .ok names ↔
      path.segments.any Path.isInvalidSegment = false ∧ tree.walk [] path.segments = .ok names := by
  unfold locate
  cases path.segments.any Path.isInvalidSegment with
  | true => simp
  | false => simp

theorem Grows.locate {tree later : FileTree} {path : Path} {names : List String}
    (h : tree.Grows later) (hpath : tree.locate path = .ok names) :
    later.locate path = .ok names := by
  rw [locate_eq_ok_iff] at hpath ⊢
  exact ⟨hpath.1, h.walk hpath.2⟩

/-- Everything that is there stays. -/
def Keeps (tree later : FileTree) : Prop :=
  ∀ names kind, tree.kindAt names = some kind → later.kindAt names = some kind

theorem Keeps.grows {tree later : FileTree} (h : tree.Keeps later) : tree.Grows later :=
  fun names => h names none

theorem place_nil (tree : FileTree) : tree.Place [] := by
  intro parent name h
  cases parent <;> cases h

theorem keeps_makeDirectory {tree later : FileTree} {segments : List String}
    (h : tree.makeDirectory segments = .ok later) : tree.Keeps later := by
  unfold makeDirectory at h
  obtain ⟨names, hwalk, h⟩ := bind_eq_ok_iff.1 h
  split at h
  · cases h
    exact fun _ _ hkind => hkind
  · cases h
  · rename_i failure hfind
    cases h
    have hnone : tree.kindAt names = none := by
      unfold kindAt
      rw [hfind]
    intro other kind hkind
    refine kindAt_put (place_walk (place_nil tree) hwalk) ?_ ?_ hkind
    · rw [hnone]
      exact fun h => nomatch h
    · rintro rfl
      rw [hnone] at hkind
      cases hkind

theorem Keeps.trans {tree middle later : FileTree} (h : tree.Keeps middle)
    (h' : middle.Keeps later) : tree.Keeps later :=
  fun names kind hkind => h' names kind (h names kind hkind)

theorem keeps_makeDirectoriesAt {tree later : FileTree} {segments : List String}
    (h : tree.makeDirectoriesAt segments = (later, .ok ())) : tree.Keeps later := by
  fun_induction makeDirectoriesAt tree segments generalizing later with
  | case1 _ made hmade =>
    cases h
    exact keeps_makeDirectory hmade
  | case4 _ _ _ parent _ _ made hmade ihparent =>
    -- The directories on the way were made first.
    cases h
    exact (ihparent ‹_›).trans (keeps_makeDirectory hmade)
  | case2 | case3 | case5 | case6 => cases h

theorem keeps_makeDirectories {tree later : FileTree} {segments : List String}
    (h : tree.makeDirectories segments = (later, .ok ())) : tree.Keeps later := by
  unfold makeDirectories at h
  split at h
  · cases h
  · exact keeps_makeDirectoriesAt h

/-- A file that was written is there, and everything else stays. -/
theorem write_spec {tree later : FileTree} {path : Path} {text : String}
    (h : tree.write path text = .ok later) : path.endsOpen = false ∧
      ∃ names, tree.locate path = .ok names ∧ later.kindAt names = some (some text) ∧
        tree.kindAt names ≠ some none ∧
        ∀ other, other ≠ names → ∀ kind, tree.kindAt other = some kind →
          later.kindAt other = some kind := by
  unfold write at h
  obtain ⟨names, hpath, h⟩ := bind_eq_ok_iff.1 h
  split at h
  · cases h
  · rename_i hfree
    split at h
    · cases h
    · rename_i hopen
      cases h
      have hplace := place_walk (place_nil tree) (locate_eq_ok_iff.1 hpath).2
      have hkind : tree.kindAt names ≠ some none := by
        intro hdirectory
        unfold kindAt at hdirectory
        split at hdirectory
        · cases hdirectory
        · rename_i hfind
          exact hfree _ hfind
        · cases hdirectory
      refine ⟨Bool.eq_false_iff.2 hopen, names, hpath, ?_, hkind, ?_⟩
      · unfold kindAt
        rw [find_put hplace]
      · exact fun other hother kind h => kindAt_put hplace hkind hother h

theorem read_of_kindAt {tree : FileTree} {path : Path} {names : List String} {text : String}
    (hopen : path.endsOpen = false) (hpath : tree.locate path = .ok names)
    (h : tree.kindAt names = some (some text)) : tree.read path = .ok text := by
  have hfind : tree.find names = .ok (.file text) := by
    unfold kindAt at h
    split at h
    · cases h
      assumption
    · cases h
    · cases h
  have hlook : tree.lookUp path = .ok (.file text) := by
    unfold lookUp
    rw [hpath]
    show tree.find names >>= _ = _
    rw [hfind]
    show (if path.endsOpen = true then _ else _) = _
    rw [if_neg (Bool.eq_false_iff.1 hopen)]
    rfl
  unfold read
  rw [hlook]
  rfl

theorem contains_of_read {tree : FileTree} {path : Path} {text : String}
    (h : tree.read path = .ok text) : tree.contains path = true := by
  unfold read at h
  obtain ⟨found, hlook, _⟩ := bind_eq_ok_iff.1 h
  unfold contains
  rw [hlook]

end Dialogue.FileTree
