import Dialogue.Proofs.CanonicalJson

/-!
Values whose integers have 64 bits. All that texts are read as are such values, whatever else is
wrong with them: a longer integer is read as a float.
-/
namespace Dialogue.Json

/-- Every integer in the value is one of 64 bits, as those of a text are. -/
inductive Words : Json → Prop where
  | null : Words .null
  | bool (b : Bool) : Words (.bool b)
  | int {n : Int} (h : IsWord n) : Words (.int n)
  | float (x : Float) : Words (.float x)
  | str (s : String) : Words (.str s)
  | arr {items : List Json} (h : ∀ item ∈ items, Words item) : Words (.arr items)
  | obj {members : List (String × Json)} (h : ∀ member ∈ members, Words member.2) :
    Words (.obj members)

theorem Words.item {items : List Json} {item : Json} (h : Words (.arr items))
    (hitem : item ∈ items) : Words item := by
  cases h with
  | arr h => exact h item hitem

theorem Words.member {members : List (String × Json)} {member : String × Json}
    (h : Words (.obj members)) (hmember : member ∈ members) : Words member.2 := by
  cases h with
  | obj h => exact h member hmember

theorem Words.record? {value : Json} {names : List String} {required : Nat}
    {fields : List (Option Json)} (h : Words value)
    (hfields : value.record? names required = some fields) :
    ∀ field ∈ fields, ∀ part, field = some part → Words part := by
  rintro field hfield part rfl
  cases value with
  | obj members =>
    obtain ⟨name, -, hname⟩ := exists_of_mem_mapM hfields _ hfield
    split at hname
    · cases hname
    · rename_i other _ hfilter
      cases hname
      have hmem : (other, part) ∈ members.filter (·.1 == name) := by
        rw [hfilter]
        exact List.mem_singleton_self _
      exact h.member (List.mem_filter.1 hmem).1
    · cases hname
  | arr items =>
    obtain ⟨-, ⟨⟩⟩ := Option.ite_none_right_eq_some.1 hfields
    obtain ⟨i, -, hi⟩ := List.mem_map.1 hfield
    exact h.item (List.mem_of_getElem? hi)
  | null | bool | int | float | str => cases hfields

/-! ### Texts -/

theorem keepWhole_lt {kept : Nat} (h : kept < UInt64.size) (digits : List Char) :
    (keepWhole kept digits).coefficient < UInt64.size := by
  induction digits generalizing kept with
  | nil => exact h
  | cons c rest ih =>
    rw [keepWhole]
    split
    · rename_i hnext
      exact ih hnext
    · exact h

theorem words_ofInteger (negative : Bool) (digits : List Char) :
    Words (ofInteger negative digits) := by
  have hlt : (keepWhole 0 digits).coefficient < UInt64.size := keepWhole_lt (by decide) digits
  have hmin : Int64.minValue.toInt = -2 ^ 63 := rfl
  unfold ofInteger
  dsimp only
  split
  · split
    · exact .int ⟨by omega, Int.ofNat_lt.2 hlt⟩
    · split
      · rename_i hrange
        refine .int ⟨hrange.2, ?_⟩
        omega
      · exact .float _
  · exact .float _

theorem words_of_readNumber? {cs rest : List Char} {value : Json}
    (h : readNumber? cs = some (value, rest)) : Words value := by
  have hmagnitude (negative : Bool) (cs : List Char)
      (h : readMagnitude? negative cs = some (value, rest)) : Words value := by
    unfold readMagnitude? at h
    dsimp only at h
    split at h
    · cases h
    · simp only [Option.bind_eq_bind, Option.bind_eq_some_iff] at h
      obtain ⟨⟨fraction, _⟩, -, ⟨exponent, _⟩, -, h⟩ := h
      dsimp only at h
      split at h
      · cases h
        exact words_ofInteger _ _
      · cases h
        exact .float _
  unfold readNumber? at h
  split at h
  · exact hmagnitude true _ h
  · exact hmagnitude false _ h

theorem words_within (depth : Nat) {value : Json} (h : Words value) :
    Words (within depth value) := by
  unfold within
  split
  · exact .float _
  · exact h

theorem words_ofEntries {entries : List (Option String × Json)}
    (h : ∀ entry ∈ entries, Words entry.2) : Words (ofEntries entries) := by
  unfold ofEntries
  split
  · rename_i members hmembers
    refine .obj fun member hmember => ?_
    obtain ⟨entry, hentry, hname⟩ := exists_of_mem_mapM hmembers member hmember
    obtain ⟨name, -, rfl⟩ := Option.map_eq_some_iff.1 hname
    exact h entry hentry
  · exact .float _

structure ReadsWords (fuel : Nat) : Prop where
  value : ∀ depth cs value rest, readValue fuel depth cs = some (value, rest) → Words value
  items : ∀ depth cs items rest, readItems fuel depth cs = some (items, rest) →
    ∀ item ∈ items, Words item
  members : ∀ depth cs members rest, readMembers fuel depth cs = some (members, rest) →
    ∀ member ∈ members, Words member.2

theorem readsWords (fuel : Nat) : ReadsWords fuel := by
  induction fuel with
  | zero =>
    exact ⟨fun _ _ _ _ h => (nomatch h), fun _ _ _ _ h => (nomatch h), fun _ _ _ _ h => (nomatch h)⟩
  | succ fuel ih =>
    refine ⟨fun depth cs value rest h => ?_, fun depth cs items rest h => ?_,
      fun depth cs members rest h => ?_⟩
    · rw [readValue] at h
      split at h
      · cases h
        exact .null
      · cases h
        exact .bool _
      · cases h
        exact .bool _
      · obtain ⟨⟨text, _⟩, -, ⟨⟩⟩ := Option.map_eq_some_iff.1 h
        cases text with
        | none => exact .float _
        | some text => exact .str text
      · split at h
        · cases h
          exact words_within depth (.arr (List.forall_mem_nil _))
        · obtain ⟨⟨items, _⟩, hitems, ⟨⟩⟩ := Option.map_eq_some_iff.1 h
          exact words_within depth (.arr (ih.items _ _ _ _ hitems))
      · split at h
        · cases h
          exact words_within depth (.obj (List.forall_mem_nil _))
        · obtain ⟨⟨members, _⟩, hmembers, ⟨⟩⟩ := Option.map_eq_some_iff.1 h
          exact words_within depth (words_ofEntries (ih.members _ _ _ _ hmembers))
      · exact words_of_readNumber? h
    · rw [readItems] at h
      simp only [Option.bind_eq_bind, Option.bind_eq_some_iff] at h
      obtain ⟨⟨item, _⟩, hitem, h⟩ := h
      have hfirst := ih.value _ _ _ _ hitem
      dsimp only at h
      split at h
      · cases h
        exact List.forall_mem_singleton.2 hfirst
      · simp only [Option.bind_eq_some_iff] at h
        obtain ⟨⟨more, _⟩, hmore, ⟨⟩⟩ := h
        exact List.forall_mem_cons.2 ⟨hfirst, ih.items _ _ _ _ hmore⟩
      · cases h
    · rw [readMembers] at h
      split at h
      · simp only [Option.bind_eq_bind, Option.bind_eq_some_iff] at h
        obtain ⟨⟨name, _⟩, -, h⟩ := h
        dsimp only at h
        split at h
        · simp only [Option.bind_eq_some_iff] at h
          obtain ⟨⟨value, _⟩, hvalue, h⟩ := h
          have hfirst := ih.value _ _ _ _ hvalue
          dsimp only at h
          split at h
          · cases h
            exact List.forall_mem_singleton.2 hfirst
          · simp only [Option.bind_eq_some_iff] at h
            obtain ⟨⟨more, _⟩, hmore, ⟨⟩⟩ := h
            exact List.forall_mem_cons.2 ⟨hfirst, ih.members _ _ _ _ hmore⟩
          · cases h
        · cases h
      · cases h

theorem words_of_read? {text : String} {value : Json} (h : read? text = some value) :
    Words value := by
  unfold read? at h
  dsimp only at h
  split at h
  · rename_i hread
    obtain ⟨-, ⟨⟩⟩ := Option.ite_none_right_eq_some.1 h
    exact (readsWords _).value _ _ _ _ hread
  · cases h

end Dialogue.Json
